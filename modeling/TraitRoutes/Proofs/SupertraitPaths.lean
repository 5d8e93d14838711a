import Mathlib.Data.List.Induction
import Mathlib.Logic.Relation
import TraitRoutes.Proofs.Capabilities

/-!
# Supertraits as paths

A supertrait is written as a path, of which a declaration keeps the last name.
This module puts the paths back: it reads the traits of a file together with
the paths of their supertraits, and says which declaration such a path
designates. Along the paths a trait extends the marker or it does not; along
the names it may also get there through a trait of the same name in another
module.

The two agree as long as the names on the way have one meaning each. A chain
of names from a trait to the marker is then a chain of paths, by induction on
the chain from its far end: the last name of a path is the marker, or it is
the name of the designated trait alone.
-/

namespace TraitRoutes

/-! ## Paths -/

/-- The names in a path. -/
def Path.names (p : Path) : List String := p.segments.map (·.ident.text)

/-- A path that is the name of the marker and no more. -/
def Path.IsBare (p : Path) (marker : String) : Prop :=
  p.leading = false ∧ p.names = [marker]

/-- A path from `crate` on to the module of a declaration, and then its name. -/
def Path.Designates (p : Path) (d : Declaration) : Prop :=
  p.leading = false ∧ p.names.head? = some "crate" ∧
    String.intercalate "::" p.names.dropLast = d.space ∧ p.names.getLast? = some d.ident.text

instance (p : Path) (marker : String) : Decidable (p.IsBare marker) :=
  inferInstanceAs (Decidable (_ ∧ _))

instance (p : Path) (d : Declaration) : Decidable (p.Designates d) :=
  inferInstanceAs (Decidable (_ ∧ _ ∧ _ ∧ _))

/-! ## Traits with the paths of their supertraits -/

/-- A trait as written: its declaration, and the paths that its supertraits are
named by. -/
structure WrittenTrait where
  decl : Declaration
  paths : List Path

/-- A file of a corpus: its path, its module, and what stands in it. -/
structure SourceFile where
  path : String
  space : String
  items : List Item

namespace Collection

/-- A trait with the paths of its supertraits. -/
def writtenTrait (file space : String) (t : TraitDecl) : WrittenTrait :=
  ⟨declarationOf file space t, (supertraitsOf t).map (·.1)⟩

mutual

/-- The traits that an item holds. -/
def traitsOfItem (file space : String) : Item → List WrittenTrait
  | .interface t => [writtenTrait file space t]
  | .module name items => traitsOfItems file (Namespace.nested space name.text) items
  | .imports _ => []
  | .other => []

/-- The traits that the items of a module hold. -/
def traitsOfItems (file space : String) : List Item → List WrittenTrait
  | [] => []
  | item :: rest => traitsOfItem file space item ++ traitsOfItems file space rest

end

end Collection

/-- The traits of some files. -/
def SourceFile.traits (files : List SourceFile) : List WrittenTrait :=
  files.flatMap fun f => Collection.traitsOfItems f.path f.space f.items

/-- The corpus of some files before it is finished. -/
def Draft.ofFiles (files : List SourceFile) : Draft :=
  files.foldl (fun draft f => draft.addItems f.path f.space f.items) {}

namespace WrittenTrait

/-- The declaration in the corpus is that of the trait. -/
def DeclaredAs (w : WrittenTrait) (d : Declaration) : Prop :=
  d = { w.decl with capabilities := d.capabilities }

/-- A trait extends the marker: a supertrait is the marker by its bare name, or
designates a trait that extends it. -/
inductive Extends (all : List WrittenTrait) (marker : String) : WrittenTrait → Prop
  | bare {w : WrittenTrait} {p : Path} (hp : p ∈ w.paths) (h : p.IsBare marker) :
      Extends all marker w
  | along {w v : WrittenTrait} {p : Path} (hp : p ∈ w.paths) (hv : v ∈ all)
      (h : p.Designates v.decl) (hext : Extends all marker v) : Extends all marker w

/-- The last name of a path has one meaning: that of the marker, if the path is its
bare name, and otherwise the designated declaration and no other. -/
def Unshared (all : List WrittenTrait) (marker : String) (p : Path) : Prop :=
  p.IsBare marker ∨ p.names.getLast? ≠ some marker ∧
    ∀ v ∈ all, p.names.getLast? = some v.decl.name → p.Designates v.decl

end WrittenTrait

instance (all : List WrittenTrait) (marker : String) (p : Path) :
    Decidable (WrittenTrait.Unshared all marker p) :=
  inferInstanceAs (Decidable (_ ∨ _ ∧ _))

/-! ## Declarations keep the last names of the paths -/

theorem mem_supertraitsOf {t : TraitDecl} {p : Path} {name : String}
    (h : (p, name) ∈ Collection.supertraitsOf t) : p.names.getLast? = some name := by
  obtain ⟨q, -, hq⟩ := List.mem_filterMap.mp h
  cases hlast : q.last? with
  | none => rw [hlast] at hq; cases hq
  | some segment =>
      rw [hlast] at hq
      obtain ⟨rfl, rfl⟩ := Prod.mk.inj (Option.some.inj hq)
      rw [Path.names, List.getLast?_map, ← Path.last?, hlast]
      rfl

/-- The supertraits of a declaration are the last names of the paths. -/
def WrittenTrait.Faithful (w : WrittenTrait) : Prop :=
  ∀ name, name ∈ w.decl.supertraits ↔ ∃ p ∈ w.paths, p.names.getLast? = some name

theorem writtenTrait_faithful (file space : String) (t : TraitDecl) :
    (Collection.writtenTrait file space t).Faithful := by
  intro name
  constructor
  · intro h
    obtain ⟨⟨p, n⟩, hmem, rfl⟩ := List.mem_map.mp h
    exact ⟨p, List.mem_map.mpr ⟨_, hmem, rfl⟩, mem_supertraitsOf hmem⟩
  · rintro ⟨p, hp, hlast⟩
    obtain ⟨⟨q, n⟩, hmem, rfl⟩ := List.mem_map.mp hp
    rw [mem_supertraitsOf hmem] at hlast
    exact List.mem_map.mpr ⟨_, hmem, Option.some.inj hlast⟩

mutual

theorem traitsOfItem_faithful {file space : String} {item : Item} {w : WrittenTrait}
    (hw : w ∈ Collection.traitsOfItem file space item) : w.Faithful := by
  match item with
  | .interface t =>
      rw [Collection.traitsOfItem] at hw
      obtain rfl := List.mem_singleton.mp hw
      exact writtenTrait_faithful file space t
  | .module name items =>
      rw [Collection.traitsOfItem] at hw
      exact traitsOfItems_faithful hw
  | .imports _ => rw [Collection.traitsOfItem] at hw; cases hw
  | .other => rw [Collection.traitsOfItem] at hw; cases hw

theorem traitsOfItems_faithful {file space : String} {items : List Item} {w : WrittenTrait}
    (hw : w ∈ Collection.traitsOfItems file space items) : w.Faithful := by
  match items with
  | [] => rw [Collection.traitsOfItems] at hw; cases hw
  | item :: rest =>
      rw [Collection.traitsOfItems] at hw
      rcases List.mem_append.mp hw with hw | hw
      · exact traitsOfItem_faithful hw
      · exact traitsOfItems_faithful hw

end

mutual

theorem declarations_ofUse (tree : UseTree) : (Collection.ofUse tree).declarations = [] := by
  match tree with
  | .path _ tree => rw [Collection.ofUse]; exact declarations_ofUse tree
  | .name _ => rw [Collection.ofUse]
  | .rename _ _ => rw [Collection.ofUse]
  | .glob => rw [Collection.ofUse]
  | .group trees => rw [Collection.ofUse]; exact declarations_ofUses trees

theorem declarations_ofUses (trees : List UseTree) :
    (Collection.ofUses trees).declarations = [] := by
  match trees with
  | [] => rw [Collection.ofUses]
  | tree :: rest =>
      rw [Collection.ofUses, Collection.append, declarations_ofUse tree,
        declarations_ofUses rest]
      rfl

end

mutual

theorem declarations_ofItem (file space : String) (item : Item) :
    (Collection.ofItem file space item).declarations
      = (Collection.traitsOfItem file space item).map (·.decl) := by
  match item with
  | .interface t => rw [Collection.ofItem, Collection.traitsOfItem]; rfl
  | .module name items =>
      rw [Collection.ofItem, Collection.traitsOfItem]
      exact declarations_ofItems file _ items
  | .imports tree =>
      rw [Collection.ofItem, Collection.traitsOfItem]
      exact declarations_ofUse tree
  | .other => rw [Collection.ofItem, Collection.traitsOfItem]; rfl

theorem declarations_ofItems (file space : String) (items : List Item) :
    (Collection.ofItems file space items).declarations
      = (Collection.traitsOfItems file space items).map (·.decl) := by
  match items with
  | [] => rw [Collection.ofItems, Collection.traitsOfItems]; rfl
  | item :: rest =>
      rw [Collection.ofItems, Collection.traitsOfItems, List.map_append,
        ← declarations_ofItem file space item, ← declarations_ofItems file space rest]
      rfl

end

theorem declarations_ofFiles (files : List SourceFile) :
    (Draft.ofFiles files).declarations = (SourceFile.traits files).map (·.decl) := by
  unfold Draft.ofFiles SourceFile.traits
  induction files using List.reverseRecOn with
  | nil => rfl
  | append_singleton files f ih =>
      rw [List.foldl_append, List.flatMap_append, List.map_append, ← ih,
        List.flatMap_singleton, ← declarations_ofItems]
      rfl

theorem traits_faithful {files : List SourceFile} {w : WrittenTrait}
    (hw : w ∈ SourceFile.traits files) : w.Faithful := by
  obtain ⟨f, -, hw⟩ := List.mem_flatMap.mp hw
  exact traitsOfItems_faithful hw

/-! ## From names to paths -/

namespace WrittenTrait

/-- The traits that a trait reaches by names, with itself. -/
def OnTheWay (all : List WrittenTrait) (w v : WrittenTrait) : Prop :=
  v = w ∨ w.decl.Reaches (all.map (·.decl)) v.decl.name

theorem OnTheWay.step {all : List WrittenTrait} {w v : WrittenTrait} (hv : v ∈ all)
    (hway : OnTheWay all w v) {name : String} (hname : name ∈ v.decl.supertraits) :
    w.decl.Reaches (all.map (·.decl)) name := by
  rcases hway with rfl | ⟨first, hfirst, hpath⟩
  · exact ⟨name, hname, .refl⟩
  · exact ⟨first, hfirst,
      hpath.tail ⟨v.decl, List.mem_map.mpr ⟨v, hv, rfl⟩, rfl, hname⟩⟩

/-- A chain of names to the marker is a chain of paths if each path on the way ends
in a name of one meaning. -/
theorem extends_of_chain {all : List WrittenTrait} {marker : String} {w : WrittenTrait}
    (faithful : ∀ v ∈ all, v.Faithful)
    (unshared : ∀ v ∈ all, OnTheWay all w v → ∀ p ∈ v.paths, Unshared all marker p)
    {first : String} (chain : Relation.ReflTransGen (LeadsTo (all.map (·.decl))) first marker) :
    ∀ v ∈ all, OnTheWay all w v → ∀ p ∈ v.paths, p.names.getLast? = some first →
      Extends all marker v := by
  induction chain using Relation.ReflTransGen.head_induction_on with
  | refl =>
      intro v hv hway p hp hlast
      rcases unshared v hv hway p hp with hbare | ⟨hother, -⟩
      · exact .bare hp hbare
      · exact absurd hlast hother
  | head hstep _ ih =>
      intro v hv hway p hp hlast
      rcases unshared v hv hway p hp with hbare | ⟨-, hdesignates⟩
      · exact .bare hp hbare
      · obtain ⟨d, hd, hname, hnext⟩ := hstep
        obtain ⟨u, hu, rfl⟩ := List.mem_map.mp hd
        have hreach : w.decl.Reaches (all.map (·.decl)) u.decl.name := by
          rw [hname]
          exact hway.step hv ((faithful v hv _).mpr ⟨p, hp, hlast⟩)
        obtain ⟨q, hq, hqlast⟩ := (faithful u hu _).mp hnext
        exact .along hp hu (hdesignates u hu (by rw [hname, hlast]))
          (ih u hu (.inr hreach) q hq hqlast)

theorem extends_of_reaches {all : List WrittenTrait} {marker : String} {w : WrittenTrait}
    (faithful : ∀ v ∈ all, v.Faithful) (hw : w ∈ all)
    (unshared : ∀ v ∈ all, OnTheWay all w v → ∀ p ∈ v.paths, Unshared all marker p)
    (h : w.decl.Reaches (all.map (·.decl)) marker) : Extends all marker w := by
  obtain ⟨first, hfirst, chain⟩ := h
  obtain ⟨p, hp, hlast⟩ := (faithful w hw first).mp hfirst
  exact extends_of_chain faithful unshared chain w hw (.inl rfl) p hp hlast

end WrittenTrait

/-! ## What the candidates extend -/

theorem reaches_of_mem_candidates {files : List SourceFile} {marker : String}
    {d : Declaration} (hd : d ∈ (Draft.ofFiles files).build.candidates marker)
    {w : WrittenTrait} (hdecl : w.DeclaredAs d) :
    w.decl.Reaches ((SourceFile.traits files).map (·.decl)) marker := by
  rw [Corpus.candidates] at hd
  split at hd
  · obtain ⟨hmem, hmarker⟩ := List.mem_filter.mp hd
    have hcap := List.contains_iff_mem.mp (Bool.and_eq_true_iff.mp hmarker).2
    obtain ⟨first, hfirst, chain⟩ := (mem_capabilities_iff hmem).mp hcap
    rw [leadsTo_build, declarations_ofFiles] at chain
    rw [hdecl] at hfirst
    exact ⟨first, hfirst, chain⟩
  · cases hd

/-- Each candidate was written somewhere, and reaches the marker by the last names
of paths. It extends the marker along the paths themselves if, on its way by
names, no path ends in a name with a second meaning. -/
theorem candidate_extends (files : List SourceFile) (marker : String) (d : Declaration)
    (hd : d ∈ (Draft.ofFiles files).build.candidates marker) :
    (∃ w ∈ SourceFile.traits files, w.DeclaredAs d) ∧
    ∀ w ∈ SourceFile.traits files, w.DeclaredAs d →
      w.decl.Reaches ((SourceFile.traits files).map (·.decl)) marker ∧
      ((∀ v ∈ SourceFile.traits files, WrittenTrait.OnTheWay (SourceFile.traits files) w v →
          ∀ p ∈ v.paths, WrittenTrait.Unshared (SourceFile.traits files) marker p) →
        WrittenTrait.Extends (SourceFile.traits files) marker w) := by
  refine ⟨?_, fun w hw hdecl => ?_⟩
  · rw [Corpus.candidates] at hd
    split at hd
    · obtain ⟨e, he, rfl⟩ := mem_build.mp (List.mem_filter.mp hd).1
      rw [declarations_ofFiles] at he
      obtain ⟨w, hw, rfl⟩ := List.mem_map.mp he
      exact ⟨w, hw, rfl⟩
    · cases hd
  · have hreach := reaches_of_mem_candidates hd hdecl
    exact ⟨hreach, fun unshared =>
      WrittenTrait.extends_of_reaches (fun v hv => traits_faithful hv) hw unshared hreach⟩

/-! ## Namesakes -/

/-- The declaration that a corpus of some files holds of a trait. -/
def WrittenTrait.built (files : List SourceFile) (w : WrittenTrait) : Declaration :=
  { w.decl with
    capabilities := sortedSet (reachable (Draft.ofFiles files).declarations w.decl.supertraits) }

theorem built_mem_candidates {files : List SourceFile} {w : WrittenTrait} (marker : String)
    (hw : w ∈ SourceFile.traits files)
    (known : (Draft.ofFiles files).build.isKnown marker = true)
    (hfound : (w.decl.ident.text != marker && (w.built files).capabilities.contains marker)
      = true) :
    w.built files ∈ (Draft.ofFiles files).build.candidates marker := by
  rw [Corpus.candidates, if_pos known, List.mem_filter]
  refine ⟨mem_build.mpr ⟨w.decl, ?_, rfl⟩, hfound⟩
  rw [declarations_ofFiles]
  exact List.mem_map.mpr ⟨w, hw, rfl⟩

/-- A trait with supertraits and nothing else. -/
def traitOver (ident : Ident) (supertraits : List (List Ident)) : TraitDecl where
  attrs := []
  ident := ident
  place := .start
  generics := .empty
  supertraits := supertraits.map fun names =>
    .interface false false none (.mk false (names.map (.mk · .none)))
  methods := []

/-- A file whose only trait extends the imported marker. -/
def markedFile : SourceFile where
  path := "src/a.rs"
  space := "crate::a"
  items :=
    [.imports (.path (.plain "dynamic_api") (.name (.plain "DynamicController"))),
      .interface (traitOver (.plain "Base") [[.plain "DynamicController"]])]

/-- A trait that extends the one in the marked file. -/
def heir : TraitDecl :=
  traitOver (.plain "IOrders") [[.plain "crate", .plain "a", .plain "Base"]]

/-- An heir of the marked trait, and a namesake of the heir that extends nothing. -/
def heirs : List SourceFile :=
  [markedFile, ⟨"src/b.rs", "crate::b", [.interface heir]⟩,
    ⟨"src/c.rs", "crate::c", [.interface (traitOver (.plain "IOrders") [])]⟩]

theorem candidate_extends_heir :
    (Collection.writtenTrait "src/b.rs" "crate::b" heir).built heirs
        ∈ (Draft.ofFiles heirs).build.candidates "DynamicController" ∧
      WrittenTrait.Extends (SourceFile.traits heirs) "DynamicController"
        (Collection.writtenTrait "src/b.rs" "crate::b" heir) := by
  have hmem : Collection.writtenTrait "src/b.rs" "crate::b" heir ∈ SourceFile.traits heirs :=
    .tail _ (.head _)
  have hd := built_mem_candidates "DynamicController" hmem
    (by decide +kernel) (by decide +kernel)
  have unshared : ∀ v ∈ SourceFile.traits heirs, ∀ p ∈ v.paths,
      WrittenTrait.Unshared (SourceFile.traits heirs) "DynamicController" p := by
    decide +kernel
  exact ⟨hd, ((candidate_extends heirs "DynamicController" _ hd).2 _ hmem rfl).2
    fun v hv _ => unshared v hv⟩

/-- A trait that extends the one in its own file. -/
def pretender : TraitDecl :=
  traitOver (.plain "IOrders") [[.plain "crate", .plain "b", .plain "Base"]]

/-- A namesake of the marked trait that extends nothing, with a trait that extends
it. -/
def pretenders : List SourceFile :=
  [markedFile, ⟨"src/b.rs", "crate::b",
    [.interface (traitOver (.plain "Base") []), .interface pretender]⟩]

/-- A trait can be found for a namesake of its supertrait. -/
theorem not_forall_candidate_extends :
    ¬ ∀ (files : List SourceFile) (marker : String),
      (∀ w ∈ SourceFile.traits files, ∀ p ∈ w.paths,
        p.IsBare marker ∨ ∃ v ∈ SourceFile.traits files, p.Designates v.decl) →
      ∀ d ∈ (Draft.ofFiles files).build.candidates marker,
        ∀ w ∈ SourceFile.traits files, w.DeclaredAs d →
          WrittenTrait.Extends (SourceFile.traits files) marker w := by
  intro h
  have hmem : Collection.writtenTrait "src/b.rs" "crate::b" pretender
      ∈ SourceFile.traits pretenders := .tail _ (.tail _ (.head _))
  have hd := built_mem_candidates "DynamicController" hmem
    (by decide +kernel) (by decide +kernel)
  have hext := h pretenders "DynamicController" (by decide +kernel) _ hd _ hmem rfl
  cases hext with
  | bare hp hbare =>
      obtain rfl := List.mem_singleton.mp hp
      exact absurd hbare (by decide +kernel)
  | along hp hv hdesignates hext =>
      obtain rfl := List.mem_singleton.mp hp
      rcases List.mem_cons.mp hv with rfl | hv
      · exact absurd hdesignates (by decide +kernel)
      · rcases List.mem_cons.mp hv with rfl | hv
        · cases hext with
          | bare hp _ => cases hp
          | along hp _ _ _ => cases hp
        · obtain rfl := List.mem_singleton.mp hv
          exact absurd hdesignates (by decide +kernel)

end TraitRoutes
