import TraitRoutes.Proofs.Namespaces
import TraitRoutes.Proofs.SupertraitPaths

/-!
# The names that a file makes known

A `use` is a tree, and it stands for one import at each of its leaves: of a name, under that
name or a new one, or of everything. Which name an import binds is decided at the leaf,
apart from `self` in braces, which binds the segment in front of the braces. A file makes
these names known, and with them the supertraits that it writes as paths; an import of
everything makes known all supertraits in the file.

What is collected from a file is exactly that, except that `self` in braces is taken for a
name like any other. So the name that it binds is missed and `self` itself is known in its
place, which makes a difference unless both would have been known without it.

The declarations are the traits of the file in the order in which they are written, each in
the module made of the names around it. Both walks follow the items into inline modules, and
from there on they are inductions over the same trees.
-/

namespace TraitRoutes

/-! ## Imports -/

/-- One of the imports that a `use` stands for. -/
inductive Import where
  /-- A name, with the segment in front of the braces if the name is the first thing in some. -/
  | name (enclosing : Option Ident) (name : Ident)
  | renamed (new : Ident)
  | everything

/-- Whether an identifier is the word for what surrounds it. -/
def Ident.isSelf (i : Ident) : Bool := i.text == "self"

namespace Import

/-- The name that an import binds. -/
def bound? : Import → Option String
  | name (some around) i => some (if i.isSelf then around.text else i.text)
  | name none i => some i.text
  | renamed new => some new.text
  | everything => none

/-- The last word of an import, which is a new name if it has one. -/
def written? : Import → Option String
  | name _ i => some i.text
  | renamed new => some new.text
  | everything => none

/-- Whether everything is imported. -/
def isGlob : Import → Bool
  | everything => true
  | _ => false

/-- The segment that `self` in braces stands for. -/
def meant? : Import → Option Ident
  | name (some around) i => if i.isSelf then some around else none
  | _ => none

end Import

mutual

/-- The imports that a tree stands for, behind a segment and in braces or not. -/
def UseTree.imports (last enclosing : Option Ident) : UseTree → List Import
  | .path i tree => tree.imports (some i) none
  | .name i => [.name enclosing i]
  | .rename _ new => [.renamed new]
  | .glob => [.everything]
  | .group trees => UseTree.importsOf last trees

/-- The imports that the trees in braces stand for. -/
def UseTree.importsOf (last : Option Ident) : List UseTree → List Import
  | [] => []
  | tree :: rest => tree.imports last last ++ UseTree.importsOf last rest

end

/-! ## Items of a file -/

namespace Item

mutual

/-- The imports of an item. An import that has a path from the root inside braces, such as
`use {::a::B};`, is read as any other item, and counts as none. -/
def importsIn : Item → List Import
  | .interface _ => []
  | .module _ items => importsOf items
  | .imports tree => tree.imports none none
  | .other => []

/-- The imports of the items of a module, those of its inline modules included. -/
def importsOf : List Item → List Import
  | [] => []
  | item :: rest => item.importsIn ++ importsOf rest

end

mutual

/-- The traits of an item, each with the modules around it from the outside in. -/
def traitsIn : Item → List (List Ident × TraitDecl)
  | .interface t => [([], t)]
  | .module name items => (traitsOf items).map fun t => (name :: t.1, t.2)
  | .imports _ => []
  | .other => []

/-- The traits of the items of a module as they follow one another. -/
def traitsOf : List Item → List (List Ident × TraitDecl)
  | [] => []
  | item :: rest => item.traitsIn ++ traitsOf rest

end

end Item

namespace TraitDecl

/-- The paths among the bounds of a trait. -/
def supertraitPaths (t : TraitDecl) : List Path := t.supertraits.filterMap Collection.supertraitPath?

/-- A supertrait ends in the name. -/
def Mentions (t : TraitDecl) (name : String) : Prop :=
  ∃ p ∈ t.supertraitPaths, p.names.getLast? = some name

/-- A supertrait of several segments ends in the name. -/
def Qualifies (t : TraitDecl) (name : String) : Prop :=
  ∃ p ∈ t.supertraitPaths, 1 < p.names.length ∧ p.names.getLast? = some name

/-- The module that a trait stands in. -/
def spaceOf (space : String) (modules : List Ident) : String :=
  "::".intercalate (space :: modules.map Ident.text)

/-- The declaration of a trait among the modules of a file. -/
def declared (file space : String) (modules : List Ident) (t : TraitDecl) : Declaration where
  ident := t.ident
  space := spaceOf space modules
  attrs := t.attrs
  generics := t.generics
  supertraits := t.supertraitPaths.filterMap fun p => p.names.getLast?
  methods := t.methods
  location := ⟨file, t.place.line, t.place.column⟩

end TraitDecl

/-- A file makes a name known: an import gives it, a supertrait of several segments ends in
it, or a supertrait does and everything is imported somewhere. -/
def Item.MakesKnown (given? : Import → Option String) (items : List Item) (name : String) : Prop :=
  name ∈ (importsOf items).filterMap given? ∨
    (∃ t ∈ traitsOf items, t.2.Qualifies name) ∨
      (importsOf items).any Import.isGlob = true ∧ ∃ t ∈ traitsOf items, t.2.Mentions name

/-! ## Imports are collected by their last words -/

mutual

theorem ofUse_eq (last enclosing : Option Ident) (tree : UseTree) :
    Collection.ofUse tree = ⟨[], (tree.imports last enclosing).filterMap Import.written?, [],
      (tree.imports last enclosing).any Import.isGlob⟩ := by
  match tree with
  | .path i tree =>
      rw [Collection.ofUse, UseTree.imports]
      exact ofUse_eq (some i) none tree
  | .name _ => rw [Collection.ofUse, UseTree.imports]; rfl
  | .rename _ _ => rw [Collection.ofUse, UseTree.imports]; rfl
  | .glob => rw [Collection.ofUse, UseTree.imports]; rfl
  | .group trees =>
      rw [Collection.ofUse, UseTree.imports]
      exact ofUses_eq last trees

theorem ofUses_eq (last : Option Ident) (trees : List UseTree) :
    Collection.ofUses trees = ⟨[], (UseTree.importsOf last trees).filterMap Import.written?, [],
      (UseTree.importsOf last trees).any Import.isGlob⟩ := by
  match trees with
  | [] => rw [Collection.ofUses, UseTree.importsOf]; rfl
  | tree :: rest =>
      rw [Collection.ofUses, UseTree.importsOf, ofUse_eq last last tree, ofUses_eq last rest,
        Collection.append, List.filterMap_append, List.any_append]
      rfl

end

/-! ## Supertraits are collected by their last names -/

theorem getLast?_names (p : Path) : p.names.getLast? = p.last?.map (·.ident.text) := by
  rw [Path.names, List.getLast?_map, Path.last?]

theorem mem_supertraitsOf_iff {t : TraitDecl} {p : Path} {name : String} :
    (p, name) ∈ Collection.supertraitsOf t ↔
      p ∈ t.supertraitPaths ∧ p.names.getLast? = some name := by
  rw [getLast?_names]
  constructor
  · intro h
    obtain ⟨q, hq, hlast⟩ := List.mem_filterMap.mp h
    obtain ⟨segment, hsegment, heq⟩ := Option.map_eq_some_iff.mp hlast
    obtain ⟨rfl, rfl⟩ := Prod.mk.inj heq
    exact ⟨hq, Option.map_eq_some_iff.mpr ⟨segment, hsegment, rfl⟩⟩
  · intro ⟨hp, hlast⟩
    obtain ⟨segment, hsegment, rfl⟩ := Option.map_eq_some_iff.mp hlast
    exact List.mem_filterMap.mpr ⟨p, hp, Option.map_eq_some_iff.mpr ⟨segment, hsegment, rfl⟩⟩

theorem map_supertraitsOf (t : TraitDecl) :
    (Collection.supertraitsOf t).map (·.2)
      = t.supertraitPaths.filterMap fun p => p.names.getLast? := by
  rw [Collection.supertraitsOf, TraitDecl.supertraitPaths, List.map_filterMap]
  congr 1
  funext p
  rw [getLast?_names, Option.map_map]
  rfl

theorem declarationOf_eq (file space : String) (t : TraitDecl) :
    Collection.declarationOf file space t = t.declared file space [] := by
  rw [Collection.declarationOf, TraitDecl.declared, map_supertraitsOf, TraitDecl.spaceOf,
    List.map_nil, String.intercalate_singleton]

/-- A module adds its name to the module that it stands in. -/
theorem spaceOf_cons (space : String) (name : Ident) (modules : List Ident) :
    TraitDecl.spaceOf space (name :: modules)
      = TraitDecl.spaceOf (Namespace.nested space name.text) modules := by
  rw [TraitDecl.spaceOf, TraitDecl.spaceOf, List.map_cons, Namespace.intercalate_nested]

/-! ## What is collected from items -/

/-- A collection of imports and traits. -/
structure Collection.Gathers (file space : String) (imports : List Import)
    (traits : List (List Ident × TraitDecl)) (c : Collection) : Prop where
  declarations : c.declarations = traits.map fun t => t.2.declared file space t.1
  known : ∀ name, name ∈ c.known ↔
    name ∈ imports.filterMap Import.written? ∨ ∃ t ∈ traits, t.2.Qualifies name
  mentioned : ∀ name, name ∈ c.mentioned ↔ ∃ t ∈ traits, t.2.Mentions name
  glob : c.glob = imports.any Import.isGlob

namespace Collection.Gathers

variable {file space : String}

theorem nothing : Gathers file space [] [] {} where
  declarations := rfl
  known name := by simp
  mentioned name := by simp
  glob := rfl

theorem append {imports imports' : List Import} {traits traits' : List (List Ident × TraitDecl)}
    {c c' : Collection} (h : Gathers file space imports traits c)
    (h' : Gathers file space imports' traits' c') :
    Gathers file space (imports ++ imports') (traits ++ traits') (c.append c') where
  declarations := by rw [Collection.append, List.map_append, ← h.declarations, ← h'.declarations]
  known name := by
    rw [Collection.append, List.mem_append, h.known, h'.known, List.filterMap_append,
      List.mem_append]
    simp only [List.mem_append, or_and_right, exists_or]
    exact or_or_or_comm
  mentioned name := by
    rw [Collection.append, List.mem_append, h.mentioned, h'.mentioned]
    simp only [List.mem_append, or_and_right, exists_or]
  glob := by rw [Collection.append, List.any_append, h.glob, h'.glob]

theorem ofTrait (t : TraitDecl) : Gathers file space [] [([], t)] (Collection.ofTrait file space t) where
  declarations := by
    rw [Collection.ofTrait, declarationOf_eq]
    rfl
  known name := by
    have hqualifies : name ∈ (Collection.ofTrait file space t).known ↔ t.Qualifies name := by
      rw [Collection.ofTrait, TraitDecl.Qualifies]
      dsimp only
      rw [List.mem_map]
      constructor
      · rintro ⟨⟨p, last⟩, hmem, heq⟩
        obtain ⟨hmem, hlong⟩ := List.mem_filter.mp hmem
        obtain ⟨hp, hlast⟩ := mem_supertraitsOf_iff.mp hmem
        refine ⟨p, hp, ?_, hlast.trans (congrArg some heq)⟩
        rw [Path.names, List.length_map]
        exact of_decide_eq_true hlong
      · rintro ⟨p, hp, hlong, hlast⟩
        rw [Path.names, List.length_map] at hlong
        exact ⟨(p, name), List.mem_filter.mpr
          ⟨mem_supertraitsOf_iff.mpr ⟨hp, hlast⟩, decide_eq_true hlong⟩, rfl⟩
    simp [hqualifies]
  mentioned name := by
    rw [Collection.ofTrait]
    dsimp only
    rw [map_supertraitsOf, List.mem_filterMap]
    simp [TraitDecl.Mentions]
  glob := rfl

theorem ofUse (tree : UseTree) :
    Gathers file space (tree.imports none none) [] (Collection.ofUse tree) := by
  rw [ofUse_eq none none tree]
  exact ⟨rfl, fun name => by simp, fun name => by simp, rfl⟩

/-- The modules around a trait say nothing about its supertraits. -/
theorem exists_further_in (name : Ident) (traits : List (List Ident × TraitDecl))
    (P : TraitDecl → Prop) :
    (∃ t ∈ traits.map fun t => (name :: t.1, t.2), P t.2) ↔ ∃ t ∈ traits, P t.2 := by
  constructor
  · intro ⟨_, hmem, hP⟩
    obtain ⟨t, ht, rfl⟩ := List.mem_map.mp hmem
    exact ⟨t, ht, hP⟩
  · intro ⟨t, ht, hP⟩
    exact ⟨_, List.mem_map_of_mem ht, hP⟩

/-- What is gathered in a module is gathered in the one around it, further in. -/
theorem inside {name : Ident} {imports : List Import} {traits : List (List Ident × TraitDecl)}
    {c : Collection} (h : Gathers file (Namespace.nested space name.text) imports traits c) :
    Gathers file space imports (traits.map fun t => (name :: t.1, t.2)) c where
  declarations := by
    rw [h.declarations, List.map_map]
    refine List.map_congr_left fun t _ => ?_
    rw [Function.comp_apply, TraitDecl.declared, TraitDecl.declared, spaceOf_cons]
  known n := by rw [h.known, exists_further_in name traits (·.Qualifies n)]
  mentioned n := by rw [h.mentioned, exists_further_in name traits (·.Mentions n)]
  glob := h.glob

end Collection.Gathers

mutual

theorem gathers_ofItem (file space : String) (item : Item) :
    Collection.Gathers file space item.importsIn item.traitsIn
      (Collection.ofItem file space item) := by
  match item with
  | .interface t =>
      rw [Collection.ofItem, Item.importsIn, Item.traitsIn]
      exact .ofTrait t
  | .module name items =>
      rw [Collection.ofItem, Item.importsIn, Item.traitsIn]
      exact (gathers_ofItems file (Namespace.nested space name.text) items).inside
  | .imports tree =>
      rw [Collection.ofItem, Item.importsIn, Item.traitsIn]
      exact .ofUse tree
  | .other =>
      rw [Collection.ofItem, Item.importsIn, Item.traitsIn]
      exact .nothing

theorem gathers_ofItems (file space : String) (items : List Item) :
    Collection.Gathers file space (Item.importsOf items) (Item.traitsOf items)
      (Collection.ofItems file space items) := by
  match items with
  | [] =>
      rw [Collection.ofItems, Item.importsOf, Item.traitsOf]
      exact .nothing
  | item :: rest =>
      rw [Collection.ofItems, Item.importsOf, Item.traitsOf]
      exact (gathers_ofItem file space item).append (gathers_ofItems file space rest)

end

theorem mem_knownNames_iff (file space : String) (items : List Item) (name : String) :
    name ∈ (Collection.ofItems file space items).knownNames ↔
      Item.MakesKnown Import.written? items name := by
  have hgathers := gathers_ofItems file space items
  rw [Collection.knownNames, Item.MakesKnown, List.mem_append, hgathers.known, or_assoc,
    hgathers.glob]
  split
  · next hglob => rw [hgathers.mentioned, hglob]; simp
  · next hglob => simp [hglob]

/-! ## What is bound and what is written -/

namespace Import

/-- Only `self` in braces is written otherwise than the name that it binds. -/
theorem bound?_of_meant {i : Import} {around : Ident} (h : i.meant? = some around) :
    i.bound? = some around.text ∧ i.written? = some "self" := by
  unfold meant? at h
  split at h
  · next around' name =>
      split at h
      · next hself =>
          obtain rfl := Option.some.inj h
          rw [bound?, written?, if_pos hself, beq_iff_eq.mp hself]
          exact ⟨rfl, rfl⟩
      · cases h
  · cases h

theorem bound?_of_meant_none {i : Import} (h : i.meant? = none) : i.bound? = i.written? := by
  match i with
  | name (some around) n =>
      rw [meant?] at h
      split at h
      · cases h
      · next hself => rw [bound?, written?, if_neg hself]
  | name none _ | renamed _ | everything => rfl

end Import

namespace Item

/-- What is known by one choice of names is known by another if each import sees to its own. -/
theorem makesKnown_le_iff {items : List Item} {given? given'? : Import → Option String} :
    (∀ name, MakesKnown given? items name → MakesKnown given'? items name) ↔
      ∀ i ∈ importsOf items, ∀ name, given? i = some name → MakesKnown given'? items name := by
  constructor
  · intro h i hi name hname
    exact h name (.inl (List.mem_filterMap.mpr ⟨i, hi, hname⟩))
  · intro h name hknown
    rcases hknown with hname | hother
    · obtain ⟨i, hi, hname⟩ := List.mem_filterMap.mp hname
      exact h i hi name hname
    · exact .inr hother

/-- A file makes known what it should if, wherever `self` stands in braces, the name that it
binds is known otherwise and `self` is a name that should be known. -/
theorem makesKnown_iff (items : List Item) :
    (∀ name, MakesKnown Import.written? items name ↔ MakesKnown Import.bound? items name) ↔
      ∀ i ∈ importsOf items, ∀ around, i.meant? = some around →
        MakesKnown Import.written? items around.text ∧ MakesKnown Import.bound? items "self" := by
  constructor
  · intro hsame i hi around hmeant
    obtain ⟨hbound, hwritten⟩ := Import.bound?_of_meant hmeant
    exact ⟨makesKnown_le_iff.mp (fun name => (hsame name).mpr) i hi _ hbound,
      makesKnown_le_iff.mp (fun name => (hsame name).mp) i hi _ hwritten⟩
  · intro hmeant name
    refine ⟨makesKnown_le_iff.mpr (fun i hi name hwritten => ?_) name,
      makesKnown_le_iff.mpr (fun i hi name hbound => ?_) name⟩
    · cases h : i.meant? with
      | none =>
          exact .inl (List.mem_filterMap.mpr ⟨i, hi, (Import.bound?_of_meant_none h).trans hwritten⟩)
      | some around =>
          rw [(Import.bound?_of_meant h).2] at hwritten
          exact Option.some.inj hwritten ▸ (hmeant i hi around h).2
    · cases h : i.meant? with
      | none =>
          exact .inl (List.mem_filterMap.mpr
            ⟨i, hi, (Import.bound?_of_meant_none h).symm.trans hbound⟩)
      | some around =>
          rw [(Import.bound?_of_meant h).1] at hbound
          exact Option.some.inj hbound ▸ (hmeant i hi around h).1

end Item

/-! ## Adding a file -/

namespace Draft

/-- What a file adds to a corpus. -/
structure Takes (draft : Draft) (path space : String) (items : List Item) (draft' : Draft) :
    Prop where
  /-- Its traits in the order in which they stand, each in the module that is around it. -/
  declarations : draft'.declarations
    = draft.declarations ++ (Item.traitsOf items).map fun t => t.2.declared path space t.1
  /-- The last words of its imports among the names, which are the names that are bound unless
  `self` in braces makes a difference. -/
  known : ∃ names, draft'.known = draft.known ++ names ∧
    (∀ name, name ∈ names ↔ Item.MakesKnown Import.written? items name) ∧
    ((∀ name, name ∈ names ↔ Item.MakesKnown Import.bound? items name) ↔
      ∀ i ∈ Item.importsOf items, ∀ around, i.meant? = some around →
        Item.MakesKnown Import.written? items around.text ∧
          Item.MakesKnown Import.bound? items "self")
  files : draft'.files = draft.files ++ [path]

/-- Adding a source that parses. -/
theorem addSource_takes (draft : Draft) (path space text : String) (items : List Item)
    (hread : readFile text = .ok items) :
    ∃ draft', draft.addSource path space text = .ok draft' ∧ draft.Takes path space items draft' := by
  refine ⟨draft.addItems path space items, by rw [addSource, hread], ?_, ?_, rfl⟩
  · rw [addItems, (gathers_ofItems path space items).declarations]
  · refine ⟨_, rfl, mem_knownNames_iff path space items, ?_⟩
    rw [← Item.makesKnown_iff]
    exact forall_congr' fun name => iff_congr (mem_knownNames_iff path space items name) Iff.rfl

/-- The file `use api::{self, roles::{Role as R, *}};` with a trait two modules down and one beside
the import. -/
def rolesText : String :=
  "use api::\x7bself, roles::\x7bRole as R, *\x7d\x7d;
mod users \x7b mod admins \x7b trait IAdmins: up::Base \x7b fn find(&self); \x7d \x7d \x7d
trait IHome: R \x7b\x7d"

/-- The import of the crate itself is missed, and the traits follow in their modules. -/
theorem addSource_takes_roles :
    ∃ items, readFile rolesText = .ok items ∧
      (Item.importsOf items).filterMap Import.bound? = ["api", "R"] ∧
      ∃ draft', addSource {} "src/lib.rs" "crate" rolesText = .ok draft' ∧
        Takes {} "src/lib.rs" "crate" items draft' ∧
        draft'.known = ["self", "R", "Base", "Base", "R"] ∧
        draft'.declarations.map (fun d => (d.qualifiedName, d.methods.length))
          = [("crate::users::admins::IAdmins", 1), ("crate::IHome", 0)] := by
  have hrun : (readFile rolesText).toOption.map (fun items =>
      ((Item.importsOf items).filterMap Import.bound?,
        (addItems {} "src/lib.rs" "crate" items).known,
        (addItems {} "src/lib.rs" "crate" items).declarations.map fun d =>
          (d.qualifiedName, d.methods.length)))
        = some (["api", "R"], ["self", "R", "Base", "Base", "R"],
          [("crate::users::admins::IAdmins", 1), ("crate::IHome", 0)]) := by
    decide +kernel
  cases hread : readFile rolesText with
  | error e =>
      rw [hread] at hrun
      cases hrun
  | ok items =>
      rw [hread] at hrun
      obtain ⟨hbound, hadded⟩ := Prod.mk.inj (Option.some.inj hrun)
      obtain ⟨hknown, hdeclarations⟩ := Prod.mk.inj hadded
      obtain ⟨draft', hadd, htakes⟩ := addSource_takes {} "src/lib.rs" "crate" rolesText items hread
      obtain rfl : addItems {} "src/lib.rs" "crate" items = draft' := by
        rw [addSource, hread] at hadd
        exact Except.ok.inj hadd
      exact ⟨items, rfl, hbound, _, hadd, htakes, hknown, hdeclarations⟩

/-- The file `use dynamic_api::DynamicController::{self};`. -/
def bracedText : String := "use dynamic_api::DynamicController::\x7bself\x7d;"

/-- What a file makes known need not be what its imports bind. -/
theorem not_forall_known_bound :
    ¬ ∀ (text : String) (items : List Item) (draft' : Draft), readFile text = .ok items →
      addSource {} "src/lib.rs" "crate" text = .ok draft' →
      ∀ name, name ∈ draft'.known ↔ Item.MakesKnown Import.bound? items name := by
  intro h
  have hrun : (readFile bracedText).toOption.map (fun items =>
      ((Item.importsOf items).filterMap Import.bound?, (addItems {} "src/lib.rs" "crate" items).known))
        = some (["DynamicController"], ["self"]) := by
    decide +kernel
  cases hread : readFile bracedText with
  | error e =>
      rw [hread] at hrun
      cases hrun
  | ok items =>
      rw [hread] at hrun
      obtain ⟨hbound, hknown⟩ := Prod.mk.inj (Option.some.inj hrun)
      have hadd : addSource {} "src/lib.rs" "crate" bracedText
          = .ok (addItems {} "src/lib.rs" "crate" items) := by
        rw [addSource, hread]
      have hmarker := (h bracedText items _ hread hadd "DynamicController").mpr
        (.inl (hbound ▸ List.mem_singleton_self _))
      rw [hknown] at hmarker
      exact absurd hmarker (by decide)

end Draft

end TraitRoutes
