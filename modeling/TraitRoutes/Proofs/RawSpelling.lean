import TraitRoutes.Proofs.HelperAttributes
import TraitRoutes.Proofs.SourceOrder

/-!
# Raw spelling

An identifier may be written raw, `r#Name` for `Name`, and is the same identifier. Names
of declarations are compared without the mark, but supertraits, imports and lookups are
compared as they are written. No name has the mark in it. So a supertrait that is written
raw leads nowhere, not even to the marker, an import that is written raw makes no marker
known, and a declaration that is written raw is neither looked up nor taken for the
marker.

Writing further names raw therefore only ever breaks chains of supertraits, with one
exception: a declaration of the marker itself that is no longer taken for it. Which
traits are found stays the same exactly if neither comes to bear.
-/

namespace TraitRoutes

/-! ## Lists that are related element by element -/

theorem forall₂_iff_of_forall₂ {α β : Type} {r p q : α → β → Prop} {xs : List α} {ys : List β}
    (h : List.Forall₂ r xs ys) (hpq : ∀ x ∈ xs, ∀ y, r x y → (p x y ↔ q x y)) :
    List.Forall₂ p xs ys ↔ List.Forall₂ q xs ys := by
  induction h with
  | nil => exact iff_of_true .nil .nil
  | @cons x y xs ys hxy _ ih =>
      rw [List.forall₂_cons, List.forall₂_cons, hpq x List.mem_cons_self y hxy,
        ih fun x hx => hpq x (List.mem_cons_of_mem _ hx)]

theorem length_filter_le_of_forall₂ {α β : Type} {p : α → Bool} {q : β → Bool} {xs : List α}
    {ys : List β} (h : List.Forall₂ (fun x y => q y = true → p x = true) xs ys) :
    (ys.filter q).length ≤ (xs.filter p).length := by
  induction h with
  | nil => exact le_rfl
  | @cons x y xs ys hxy _ ih =>
      cases hy : q y with
      | false =>
          rw [List.filter_cons_of_neg (by rw [hy]; decide)]
          exact ih.trans ((List.sublist_cons_self x xs).filter p).length_le
      | true =>
          rw [List.filter_cons_of_pos hy, List.filter_cons_of_pos (hxy hy)]
          exact Nat.succ_le_succ ih

/-- Where only fewer elements pass the second filter than the first one, the same names
are left if the same elements are. -/
theorem map_filter_eq_iff {α β γ : Type} {f : α → γ} {g : β → γ} {p : α → Bool} {q : β → Bool}
    {xs : List α} {ys : List β}
    (h : List.Forall₂ (fun x y => g y = f x ∧ (q y = true → p x = true)) xs ys) :
    (ys.filter q).map g = (xs.filter p).map f ↔
      List.Forall₂ (fun x y => p x = true ↔ q y = true) xs ys := by
  induction h with
  | nil => exact iff_of_true rfl .nil
  | @cons x y xs ys hxy hrest ih =>
      have hle := length_filter_le_of_forall₂ (hrest.imp fun _ _ => And.right)
      rw [List.forall₂_cons, ← ih]
      cases hy : q y with
      | true =>
          have hx := hxy.2 hy
          rw [List.filter_cons_of_pos hy, List.filter_cons_of_pos hx, List.map_cons, List.map_cons,
            List.cons.injEq]
          exact and_congr_left fun _ => iff_of_true hxy.1 (iff_of_true hx rfl)
      | false =>
          rw [List.filter_cons_of_neg (by rw [hy]; decide)]
          cases hx : p x with
          | false =>
              rw [List.filter_cons_of_neg (by rw [hx]; decide)]
              exact (and_iff_right Iff.rfl).symm
          | true =>
              rw [List.filter_cons_of_pos hx]
              refine iff_of_false (fun heq => ?_) fun hall => absurd (hall.1.mp rfl) (by decide)
              have hlength := congrArg List.length heq
              rw [List.length_map, List.length_map, List.length_cons] at hlength
              omega

/-! ## Two spellings of one source -/

/-- The identifier is written as it was, or raw. A reserved word has no raw spelling. -/
inductive Ident.Respelled : Ident → Ident → Prop
  | same (i : Ident) : Respelled i i
  | raw {i j : Ident} (free : i.isReserved = false) (raw : j.raw = true) (name : j.name = i.name) :
      Respelled i j

/-- A segment of a path, its name perhaps respelled. -/
inductive Segment.Respelled : Segment → Segment → Prop
  | mk {i j : Ident} (h : i.Respelled j) (args : GenericArgs) : Respelled (.mk i args) (.mk j args)

/-- A path, its names perhaps respelled. -/
inductive Path.Respelled : Path → Path → Prop
  | mk (leading : Bool) {segments segments' : List Segment}
      (h : List.Forall₂ Segment.Respelled segments segments') :
      Respelled (.mk leading segments) (.mk leading segments')

/-- A bound, the names of a trait in it perhaps respelled. -/
inductive Bound.Respelled : Bound → Bound → Prop
  | interface (paren relaxed : Bool) (binder : Option Fragment) {p q : Path} (h : p.Respelled q) :
      Respelled (.interface paren relaxed binder p) (.interface paren relaxed binder q)
  | lifetime (name : Ident) : Respelled (.lifetime name) (.lifetime name)
  | other (fragment : Fragment) : Respelled (.other fragment) (.other fragment)

/-- A trait, its name and those of its supertraits perhaps respelled. -/
structure TraitDecl.Respelled (t u : TraitDecl) : Prop where
  same : u = { t with ident := u.ident, supertraits := u.supertraits }
  ident : t.ident.Respelled u.ident
  supertraits : List.Forall₂ Bound.Respelled t.supertraits u.supertraits

mutual

/-- An import, its names perhaps respelled. -/
inductive UseTree.Respelled : UseTree → UseTree → Prop
  | path {i j : Ident} {t u : UseTree} (name : i.Respelled j) (tree : t.Respelled u) :
      Respelled (.path i t) (.path j u)
  | name {i j : Ident} (name : i.Respelled j) : Respelled (.name i) (.name j)
  | rename {i j k l : Ident} (name : i.Respelled j) (new : k.Respelled l) :
      Respelled (.rename i k) (.rename j l)
  | glob : Respelled .glob .glob
  | group {ts us : List UseTree} (trees : UseTree.AllRespelled ts us) :
      Respelled (.group ts) (.group us)

/-- Imports, their names perhaps respelled. -/
inductive UseTree.AllRespelled : List UseTree → List UseTree → Prop
  | nil : AllRespelled [] []
  | cons {t u : UseTree} {ts us : List UseTree} (tree : t.Respelled u)
      (trees : UseTree.AllRespelled ts us) : AllRespelled (t :: ts) (u :: us)

end

mutual

/-- An item, the names of traits in it perhaps respelled. -/
inductive Item.Respelled : Item → Item → Prop
  | interface {t u : TraitDecl} (h : t.Respelled u) : Respelled (.interface t) (.interface u)
  | module (name : Ident) {items items' : List Item} (h : Item.AllRespelled items items') :
      Respelled (.module name items) (.module name items')
  | imports {t u : UseTree} (h : t.Respelled u) : Respelled (.imports t) (.imports u)
  | other : Respelled .other .other

/-- Items, the names of traits in them perhaps respelled. -/
inductive Item.AllRespelled : List Item → List Item → Prop
  | nil : AllRespelled [] []
  | cons {item item' : Item} {items items' : List Item} (first : item.Respelled item')
      (rest : Item.AllRespelled items items') : AllRespelled (item :: items) (item' :: items')

end

/-- A file, the names of traits in it perhaps respelled. -/
structure SourceFile.Respelled (f f' : SourceFile) : Prop where
  path : f'.path = f.path
  space : f'.space = f.space
  items : Item.AllRespelled f.items f'.items

/-! ## What is collected of them -/

/-- The text of an identifier, which is perhaps respelled. -/
inductive TextRespelled : String → String → Prop
  | mk {i j : Ident} (h : i.Respelled j) : TextRespelled i.text j.text

/-- A declaration, its name and those of its supertraits perhaps respelled. -/
structure Declaration.Respelled (d e : Declaration) : Prop where
  same : e = { d with ident := e.ident, supertraits := e.supertraits }
  ident : d.ident.Respelled e.ident
  supertraits : List.Forall₂ TextRespelled d.supertraits e.supertraits

/-- What was collected, the names of traits in it perhaps respelled. -/
structure Collection.Respelled (c c' : Collection) : Prop where
  declarations : List.Forall₂ Declaration.Respelled c.declarations c'.declarations
  known : List.Forall₂ TextRespelled c.known c'.known
  mentioned : List.Forall₂ TextRespelled c.mentioned c'.mentioned
  glob : c'.glob = c.glob

theorem getLast?_respelled {α β : Type} {r : α → β → Prop} {xs : List α} {ys : List β}
    (h : List.Forall₂ r xs ys) : Option.Rel r xs.getLast? ys.getLast? := by
  have hrev := List.rel_reverse h
  rw [← List.head?_reverse, ← List.head?_reverse]
  generalize xs.reverse = front, ys.reverse = front' at hrev
  cases hrev with
  | nil => exact .none
  | cons hr _ => exact .some hr

namespace Collection

theorem Respelled.append {a b a' b' : Collection} (h : a.Respelled a') (h' : b.Respelled b') :
    (a.append b).Respelled (a'.append b') where
  declarations := List.rel_append h.declarations h'.declarations
  known := List.rel_append h.known h'.known
  mentioned := List.rel_append h.mentioned h'.mentioned
  glob := by rw [Collection.append, Collection.append, h.glob, h'.glob]

theorem respelled_empty : Respelled {} {} := ⟨.nil, .nil, .nil, rfl⟩

theorem Respelled.knownNames {c c' : Collection} (h : c.Respelled c') :
    List.Forall₂ TextRespelled c.knownNames c'.knownNames := by
  unfold Collection.knownNames
  rw [h.glob]
  refine List.rel_append h.known ?_
  split
  · exact h.mentioned
  · exact .nil

theorem respelled_supertraitPath? {b b' : Bound} (h : b.Respelled b') :
    Option.Rel Path.Respelled (supertraitPath? b) (supertraitPath? b') := by
  cases h with
  | interface _ _ _ h => exact .some h
  | lifetime => exact .none
  | other => exact .none

/-- Paths of one length, each with its last name. -/
def LastRespelled (s s' : Path × String) : Prop :=
  s'.1.segments.length = s.1.segments.length ∧ TextRespelled s.2 s'.2

theorem respelled_last {p q : Path} (h : p.Respelled q) :
    Option.Rel LastRespelled (p.last?.map fun segment => (p, segment.ident.text))
      (q.last?.map fun segment => (q, segment.ident.text)) := by
  obtain @⟨leading, segments, segments', h⟩ := h
  have hlength := h.length_eq.symm
  have hlast := getLast?_respelled h
  unfold Path.last? Path.segments
  generalize segments.getLast? = last, segments'.getLast? = last' at hlast
  cases hlast with
  | none => exact .none
  | some hsegment =>
      obtain ⟨hident, args⟩ := hsegment
      exact .some ⟨hlength, .mk hident⟩

theorem respelled_supertraitsOf {t u : TraitDecl} (h : t.Respelled u) :
    List.Forall₂ LastRespelled (supertraitsOf t) (supertraitsOf u) :=
  List.rel_filterMap (fun _ _ hpath => respelled_last hpath)
    (List.rel_filterMap (fun _ _ hbound => respelled_supertraitPath? hbound) h.supertraits)

theorem respelled_ofTrait (file space : String) {t u : TraitDecl} (h : t.Respelled u) :
    (ofTrait file space t).Respelled (ofTrait file space u) := by
  have hsupers := respelled_supertraitsOf h
  have hnames : List.Forall₂ TextRespelled ((supertraitsOf t).map (·.2))
      ((supertraitsOf u).map (·.2)) :=
    List.rel_map (fun _ _ hlast => hlast.2) hsupers
  refine ⟨.cons ⟨?_, h.ident, hnames⟩ .nil, ?_, hnames, rfl⟩
  · rw [h.same]
    rfl
  · refine List.rel_map (fun _ _ hlast => hlast.2) (List.rel_filter (fun s s' hlast => ?_) hsupers)
    show decide _ = true ↔ decide _ = true
    rw [hlast.1]

mutual

theorem respelled_ofUse {t u : UseTree} (h : t.Respelled u) : (ofUse t).Respelled (ofUse u) := by
  match h with
  | .path _ h =>
      rw [ofUse, ofUse]
      exact respelled_ofUse h
  | .name h =>
      rw [ofUse, ofUse]
      exact ⟨.nil, .cons (.mk h) .nil, .nil, rfl⟩
  | .rename _ h =>
      rw [ofUse, ofUse]
      exact ⟨.nil, .cons (.mk h) .nil, .nil, rfl⟩
  | .glob =>
      rw [ofUse]
      exact ⟨.nil, .nil, .nil, rfl⟩
  | .group h =>
      rw [ofUse, ofUse]
      exact respelled_ofUses h

theorem respelled_ofUses {ts us : List UseTree} (h : UseTree.AllRespelled ts us) :
    (ofUses ts).Respelled (ofUses us) := by
  match h with
  | .nil =>
      rw [ofUses]
      exact respelled_empty
  | .cons first rest =>
      rw [ofUses, ofUses]
      exact (respelled_ofUse first).append (respelled_ofUses rest)

end

mutual

theorem respelled_ofItem (file space : String) {item item' : Item} (h : item.Respelled item') :
    (ofItem file space item).Respelled (ofItem file space item') := by
  match h with
  | .interface h =>
      rw [ofItem, ofItem]
      exact respelled_ofTrait file space h
  | .module name h =>
      rw [ofItem, ofItem]
      exact respelled_ofItems file _ h
  | .imports h =>
      rw [ofItem, ofItem]
      exact respelled_ofUse h
  | .other =>
      rw [ofItem]
      exact respelled_empty

theorem respelled_ofItems (file space : String) {items items' : List Item}
    (h : Item.AllRespelled items items') :
    (ofItems file space items).Respelled (ofItems file space items') := by
  match h with
  | .nil =>
      rw [ofItems]
      exact respelled_empty
  | .cons first rest =>
      rw [ofItems, ofItems]
      exact (respelled_ofItem file space first).append (respelled_ofItems file space rest)

end

end Collection

/-! ## What is found of them -/

namespace Draft

/-- A corpus before it is finished, the names of traits in it perhaps respelled. -/
structure Respelled (draft draft' : Draft) : Prop where
  declarations : List.Forall₂ Declaration.Respelled draft.declarations draft'.declarations
  known : List.Forall₂ TextRespelled draft.known draft'.known

theorem respelled_ofFiles {files files' : List SourceFile}
    (h : List.Forall₂ SourceFile.Respelled files files') :
    (ofFiles files).Respelled (ofFiles files') := by
  have hfile : ∀ f f' : SourceFile, f.Respelled f' →
      (Collection.ofItems f.path f.space f.items).Respelled
        (Collection.ofItems f'.path f'.space f'.items) := by
    intro f f' hf
    rw [hf.path, hf.space]
    exact Collection.respelled_ofItems _ _ hf.items
  rw [ofFiles_eq, ofFiles_eq]
  exact ⟨List.rel_flatMap h fun f f' hf => (hfile f f' hf).declarations,
    List.rel_flatMap h fun f f' hf => (hfile f f' hf).knownNames⟩

end Draft

/-! ### Plain names -/

theorem Ident.raw_of_isLegal {i : Ident} (h : Ident.isLegal i.text.toList = true) :
    i.raw = false := by
  cases hraw : i.raw with
  | false => rfl
  | true =>
      rw [Ident.text, hraw] at h
      exact absurd rfl (Ident.name_ne_raw ⟨false, _, h⟩ i.name)

theorem Ident.text_of_raw {i : Ident} (h : i.raw = false) : i.text = i.name := by
  rw [Ident.text, h]
  rfl

/-- A name that is written plainly was so before. -/
theorem TextRespelled.eq_of_isLegal {a b : String} (h : TextRespelled a b)
    (legal : Ident.isLegal b.toList = true) : a = b := by
  obtain ⟨h⟩ := h
  cases h with
  | same => rfl
  | raw _ hraw _ => rw [Ident.raw_of_isLegal legal] at hraw; cases hraw

theorem Ident.Respelled.eq_or_raw {i j : Ident} (h : i.Respelled j) : j = i ∨ j.raw = true := by
  cases h with
  | same => exact .inl rfl
  | raw _ hraw _ => exact .inr hraw

theorem Ident.Respelled.name_eq {i j : Ident} (h : i.Respelled j) : j.name = i.name := by
  cases h with
  | same => rfl
  | raw _ _ name => exact name

namespace Declaration

theorem Respelled.name_eq {d e : Declaration} (h : d.Respelled e) : e.name = d.name :=
  h.ident.name_eq

theorem isLegal_name (d : Declaration) : Ident.isLegal d.name.toList = true := d.ident.legal

end Declaration

namespace Draft.Respelled

variable {draft draft' : Draft} {marker : String} (h : draft.Respelled draft')
include h

theorem mem_known (legal : Ident.isLegal marker.toList = true) (hmem : marker ∈ draft'.known) :
    marker ∈ draft.known := by
  obtain ⟨name, hname, htext⟩ := exists_of_forall₂_right h.known hmem
  exact htext.eq_of_isLegal legal ▸ hname

theorem isKnown (legal : Ident.isLegal marker.toList = true)
    (known : draft'.build.isKnown marker = true) : draft.build.isKnown marker = true := by
  rw [isKnown_build] at known ⊢
  rcases known with hmem | ⟨e, he, rfl⟩
  · exact .inl (h.mem_known legal hmem)
  · obtain ⟨d, hd, hde⟩ := exists_of_forall₂_right h.declarations he
    exact .inr ⟨d, hd, hde.name_eq.symm⟩

theorem isKnown_of_declared {d : Declaration} (hd : d ∈ draft.declarations) :
    draft'.build.isKnown d.name = true := by
  obtain ⟨e, he, hde⟩ := exists_of_forall₂_left h.declarations hd
  exact isKnown_build.mpr (.inr ⟨e, he, hde.name_eq⟩)

theorem leadsTo {a b : String} (legal : Ident.isLegal b.toList = true)
    (step : LeadsTo draft'.declarations a b) : LeadsTo draft.declarations a b := by
  obtain ⟨e, he, rfl, hb⟩ := step
  obtain ⟨d, hd, hde⟩ := exists_of_forall₂_right h.declarations he
  obtain ⟨text, htext, hsuper⟩ := exists_of_forall₂_right hde.supertraits hb
  exact ⟨d, hd, hde.name_eq.symm, hsuper.eq_of_isLegal legal ▸ htext⟩

/-- Every name on a chain to the marker is the name of a declaration or the marker, so
none is written raw. -/
theorem chain (legal : Ident.isLegal marker.toList = true) {first : String}
    (chain : Relation.ReflTransGen (LeadsTo draft'.declarations) first marker) :
    Ident.isLegal first.toList = true ∧
      Relation.ReflTransGen (LeadsTo draft.declarations) first marker := by
  induction chain using Relation.ReflTransGen.head_induction_on with
  | refl => exact ⟨legal, .refl⟩
  | head step _ ih =>
      refine ⟨?_, .head (h.leadsTo ih.1 step) ih.2⟩
      obtain ⟨e, -, rfl, -⟩ := step
      exact e.isLegal_name

theorem reaches (legal : Ident.isLegal marker.toList = true) {d e : Declaration}
    (hde : d.Respelled e) (reach : e.Reaches draft'.declarations marker) :
    d.Reaches draft.declarations marker := by
  obtain ⟨first, hfirst, chain⟩ := reach
  obtain ⟨hlegal, chain⟩ := h.chain legal chain
  obtain ⟨text, htext, hsuper⟩ := exists_of_forall₂_right hde.supertraits hfirst
  exact ⟨first, hsuper.eq_of_isLegal hlegal ▸ htext, chain⟩

end Draft.Respelled

/-! ### Candidates -/

/-- What must be so of a declaration for it to be found, or not, in both spellings: a
candidate still reaches a marker that is known, by supertraits that are written plainly,
and a declaration of the marker, if it is no longer taken for it, does not reach it. -/
structure Draft.Keeps (draft draft' : Draft) (marker : String) (d e : Declaration) : Prop where
  known : draft.Finds marker d → draft'.build.isKnown marker = true
  reaches : draft.Finds marker d → e.Reaches draft'.declarations marker
  marker : d.ident.text = marker → e.ident.raw = true → ¬ e.Reaches draft'.declarations marker

namespace Draft.Respelled

variable {draft draft' : Draft} {marker : String} (h : draft.Respelled draft')
  (legal : Ident.isLegal marker.toList = true)
include h legal

/-- A declaration that is newly found was found before, or it is one of the marker. -/
theorem finds_or {d e : Declaration} (hde : d.Respelled e) (found : draft'.Finds marker e) :
    draft.Finds marker d ∨ d.name = marker := by
  obtain ⟨known, -, reach⟩ := found
  by_cases htext : d.ident.text = marker
  · subst htext
    exact .inr (Ident.text_of_raw (Ident.raw_of_isLegal legal)).symm
  · exact .inl ⟨h.isKnown legal known, htext, h.reaches legal hde reach⟩

theorem finds_iff_keeps {d e : Declaration} (hd : d ∈ draft.declarations) (hde : d.Respelled e) :
    (draft.Finds marker d ↔ draft'.Finds marker e) ↔ draft.Keeps draft' marker d e := by
  constructor
  · intro same
    refine ⟨fun found => (same.mp found).1, fun found => (same.mp found).2.2, ?_⟩
    rintro rfl hraw reach
    have hname : d.name = d.ident.text := (Ident.text_of_raw (Ident.raw_of_isLegal legal)).symm
    refine (same.mpr ⟨hname ▸ h.isKnown_of_declared hd, fun htext => ?_, reach⟩).2.1 rfl
    rw [Ident.raw_of_isLegal (htext ▸ legal)] at hraw
    cases hraw
  · intro keeps
    constructor
    · intro found
      refine ⟨keeps.known found, fun htext => found.2.1 ?_, keeps.reaches found⟩
      exact (TextRespelled.mk hde.ident).eq_of_isLegal (htext ▸ legal) |>.trans htext
    · rintro ⟨known, hother, reach⟩
      refine ⟨h.isKnown legal known, fun htext => ?_, h.reaches legal hde reach⟩
      -- A declaration that is no longer taken for the marker is one that is now raw.
      rcases hde.ident.eq_or_raw with hsame | hraw
      · exact hother (hsame ▸ htext)
      · exact keeps.marker htext hraw reach

end Draft.Respelled

/-! ## Which traits are found -/

namespace Draft.Respelled

variable {draft draft' : Draft} {marker : String} (h : draft.Respelled draft')
  (legal : Ident.isLegal marker.toList = true)
include h legal

theorem forall₂_finds_iff_keeps :
    List.Forall₂ (fun d e => draft.Finds marker d ↔ draft'.Finds marker e) draft.declarations
        draft'.declarations ↔
      List.Forall₂ (draft.Keeps draft' marker) draft.declarations draft'.declarations :=
  forall₂_iff_of_forall₂ h.declarations fun _ hd _ hde => h.finds_iff_keeps legal hd hde

open Classical in
/-- The names of the candidates are the same if the same declarations are candidates, and
only if where the marker is not declared raw to begin with. -/
theorem candidates_iff_keeps :
    (List.Forall₂ (draft.Keeps draft' marker) draft.declarations draft'.declarations →
      (draft'.build.candidates marker).map Declaration.name
        = (draft.build.candidates marker).map Declaration.name) ∧
    ((∀ d ∈ draft.declarations, d.name = marker → d.ident.raw = false) →
      (draft'.build.candidates marker).map Declaration.name
        = (draft.build.candidates marker).map Declaration.name →
      List.Forall₂ (draft.Keeps draft' marker) draft.declarations draft'.declarations) := by
  have hnames : ∀ c : Draft, (c.build.candidates marker).map Declaration.name =
      (c.declarations.filter fun d => c.Finds marker d).map Declaration.name := by
    intro c
    rw [candidates_build, List.map_map]
    rfl
  obtain ⟨hlength, hpairs⟩ := List.forall₂_iff_zip.mp h.declarations
  rw [hnames draft, hnames draft', ← h.forall₂_finds_iff_keeps legal]
  constructor
  · intro same
    refine (map_filter_eq_iff (List.forall₂_iff_zip.mpr ⟨hlength, fun {d e} hmem => ?_⟩)).mpr
      (same.imp fun d e hfinds => by rw [decide_eq_true_iff, decide_eq_true_iff, hfinds])
    have hfinds := (List.forall₂_iff_zip.mp same).2 hmem
    exact ⟨(hpairs hmem).name_eq,
      fun found => decide_eq_true (hfinds.mpr (of_decide_eq_true found))⟩
  · intro hplain heq
    have hother : ∀ d ∈ draft.declarations, draft.Finds marker d → d.name ≠ marker :=
      fun d hd found hname => found.2.1 ((Ident.text_of_raw (hplain d hd hname)).trans hname)
    -- So the marker is no name of a candidate, and nothing is newly found.
    have hnew : ∀ {d e}, (d, e) ∈ draft.declarations.zip draft'.declarations →
        draft'.Finds marker e → draft.Finds marker d := by
      intro d e hmem found
      refine (h.finds_or legal (hpairs hmem) found).resolve_right fun hname => ?_
      have hmarker : marker ∈ (draft'.declarations.filter fun d => draft'.Finds marker d).map
          Declaration.name :=
        List.mem_map.mpr ⟨e, List.mem_filter.mpr ⟨(List.of_mem_zip hmem).2, decide_eq_true found⟩,
          (hpairs hmem).name_eq.trans hname⟩
      rw [heq] at hmarker
      obtain ⟨f, hf, hfname⟩ := List.mem_map.mp hmarker
      obtain ⟨hfmem, hfound⟩ := List.mem_filter.mp hf
      exact hother f hfmem (of_decide_eq_true hfound) hfname
    refine ((map_filter_eq_iff (List.forall₂_iff_zip.mpr ⟨hlength, fun {d e} hmem => ?_⟩)).mp
      heq).imp fun d e hfinds => by rwa [decide_eq_true_iff, decide_eq_true_iff] at hfinds
    exact ⟨(hpairs hmem).name_eq, fun found => decide_eq_true (hnew hmem (of_decide_eq_true found))⟩

end Draft.Respelled

/-! ### Where only declarations are respelled -/

/-- The two declarations are one by name and by what they extend, and if it is the one of
the marker it is still taken for it. -/
structure Declaration.SameBut (marker : String) (d e : Declaration) : Prop where
  name : e.name = d.name
  supertraits : e.supertraits = d.supertraits
  marker : d.ident.text = marker → e.ident.raw = false

theorem Draft.keeps_of_sameBut {draft draft' : Draft} {marker : String}
    (known : draft'.known = draft.known)
    (same : List.Forall₂ (Declaration.SameBut marker) draft.declarations draft'.declarations) :
    List.Forall₂ (draft.Keeps draft' marker) draft.declarations draft'.declarations := by
  have hstep : ∀ a b, LeadsTo draft.declarations a b → LeadsTo draft'.declarations a b := by
    rintro a b ⟨d, hd, rfl, hb⟩
    obtain ⟨e, he, hde⟩ := exists_of_forall₂_left same hd
    exact ⟨e, he, hde.name, hde.supertraits ▸ hb⟩
  have hknown : draft.build.isKnown marker = true → draft'.build.isKnown marker = true := by
    rw [isKnown_build, isKnown_build, known]
    rintro (hmem | ⟨d, hd, rfl⟩)
    · exact .inl hmem
    · obtain ⟨e, he, hde⟩ := exists_of_forall₂_left same hd
      exact .inr ⟨e, he, hde.name⟩
  refine same.imp fun d e hde => ⟨fun found => hknown found.1, ?_, ?_⟩
  · rintro ⟨-, -, first, hfirst, chain⟩
    exact ⟨first, hde.supertraits ▸ hfirst, chain.lift id hstep⟩
  · intro htext hraw
    rw [hde.marker htext] at hraw
    cases hraw

/-! ## Lookups -/

theorem find?_eq_find?_iff {α : Type} {p q : α → Bool} (hpq : ∀ x, p x = true → q x = true)
    (xs : List α) :
    xs.find? p = xs.find? q ↔ ∀ x, xs.find? q = some x → p x = true := by
  induction xs with
  | nil => exact iff_of_true rfl nofun
  | cons x xs ih =>
      cases hq : q x with
      | false =>
          have hp : p x = false := Bool.eq_false_iff.mpr fun hp => by rw [hpq x hp] at hq; cases hq
          simpa only [List.find?_cons, hp, hq] using ih
      | true =>
          rw [List.find?_cons_of_pos hq]
          constructor
          · intro heq y hy
            exact List.find?_some (heq.trans hy)
          · intro h
            exact List.find?_cons_of_pos (h x rfl)

/-- The lookup of a name finds the first declaration of that name only if it is written
plainly. -/
theorem Corpus.get?_eq_find?_iff (c : Corpus) {name : String}
    (legal : Ident.isLegal name.toList = true) :
    c.get? name = c.declarations.find? (·.name == name) ↔
      ∀ e, c.declarations.find? (·.name == name) = some e → e.ident.raw = false := by
  have htext : ∀ e : Declaration, (e.ident.text == name) = true → (e.name == name) = true := by
    intro e he
    obtain rfl := beq_iff_eq.mp he
    exact beq_iff_eq.mpr (Ident.text_of_raw (Ident.raw_of_isLegal legal)).symm
  refine (find?_eq_find?_iff htext _).trans (forall_congr' fun e => imp_congr_right fun he => ?_)
  have hname := List.find?_some he
  constructor
  · intro hplain
    exact Ident.raw_of_isLegal (beq_iff_eq.mp hplain ▸ legal)
  · intro hraw
    rw [Ident.text_of_raw hraw]
    exact hname

/-! ## Both spellings -/

/-- What raw names do to discovery and to lookups. The same names are found if the same
declarations are, that is, if every candidate still reaches the marker by names that are
written plainly and no declaration of the marker is newly taken for another trait. The
converse holds unless the marker was declared raw before. A lookup gives the first
declaration of a name exactly if it is written plainly. -/
theorem respelled_candidates_iff {files files' : List SourceFile} {marker : String}
    (legal : Ident.isLegal marker.toList = true)
    (respelled : List.Forall₂ SourceFile.Respelled files files') :
    (List.Forall₂ ((Draft.ofFiles files).Keeps (Draft.ofFiles files') marker)
        (Draft.ofFiles files).declarations (Draft.ofFiles files').declarations →
      ((Draft.ofFiles files').build.candidates marker).map Declaration.name
        = ((Draft.ofFiles files).build.candidates marker).map Declaration.name) ∧
    ((∀ d ∈ (Draft.ofFiles files).declarations, d.name = marker → d.ident.raw = false) →
      ((Draft.ofFiles files').build.candidates marker).map Declaration.name
        = ((Draft.ofFiles files).build.candidates marker).map Declaration.name →
      List.Forall₂ ((Draft.ofFiles files).Keeps (Draft.ofFiles files') marker)
        (Draft.ofFiles files).declarations (Draft.ofFiles files').declarations) ∧
    ∀ d ∈ (Draft.ofFiles files').build.declarations,
      ((Draft.ofFiles files').build.get? d.name
          = (Draft.ofFiles files').build.declarations.find? (·.name == d.name) ↔
        ∀ e, (Draft.ofFiles files').build.declarations.find? (·.name == d.name) = some e →
          e.ident.raw = false) := by
  obtain ⟨sufficient, necessary⟩ := (Draft.respelled_ofFiles respelled).candidates_iff_keeps legal
  exact ⟨sufficient, necessary, fun d _ => Corpus.get?_eq_find?_iff _ d.isLegal_name⟩

/-- A file with a marked trait, and one with a trait that extends it. -/
def markedFiles (marker base super heir : Ident) : List SourceFile :=
  [⟨"src/a.rs", "crate::a", [.imports (.name marker), .interface (traitOver base [[marker]])]⟩,
    ⟨"src/b.rs", "crate::b", [.interface (traitOver heir [[super]])]⟩]

/-- The raw spelling of an identifier. -/
def Ident.toRaw (i : Ident) : Ident := { i with raw := true }

theorem Ident.respelled_toRaw : (Ident.plain "Base").Respelled (Ident.plain "Base").toRaw :=
  .raw rfl rfl rfl

theorem markedFiles_respelled {base base' super super' : Ident} (hbase : base.Respelled base')
    (hsuper : super.Respelled super') (marker heir : Ident) :
    List.Forall₂ SourceFile.Respelled (markedFiles marker base super heir)
      (markedFiles marker base' super' heir) := by
  have hpath : ∀ {i j : Ident}, i.Respelled j → Bound.Respelled
      (.interface false false none (.mk false [.mk i .none])) _ :=
    fun h => .interface _ _ _ (.mk _ (.cons (.mk h _) .nil))
  refine .cons ⟨rfl, rfl, .cons (.imports (.name (.same _)))
      (.cons (.interface ⟨rfl, hbase, ?_⟩) .nil)⟩
    (.cons ⟨rfl, rfl, .cons (.interface ⟨rfl, .same _, ?_⟩) .nil⟩ .nil)
  · exact .cons (hpath (.same _)) .nil
  · exact .cons (hpath hsuper) .nil

/-- The file's trait may be declared raw, but is then not looked up. -/
theorem respelled_candidates_iff_base :
    let files := markedFiles (.plain "DynamicController") (.plain "Base") (.plain "Base")
      (.plain "IOrders")
    let files' := markedFiles (.plain "DynamicController") (Ident.plain "Base").toRaw
      (.plain "Base") (.plain "IOrders")
    Ident.isLegal "DynamicController".toList = true ∧
      List.Forall₂ SourceFile.Respelled files files' ∧
      ((Draft.ofFiles files').build.candidates "DynamicController").map Declaration.name
        = ((Draft.ofFiles files).build.candidates "DynamicController").map Declaration.name ∧
      ((Draft.ofFiles files).build.candidates "DynamicController").map Declaration.name
        = ["Base", "IOrders"] ∧
      ∃ d ∈ (Draft.ofFiles files').build.declarations,
        (Draft.ofFiles files').build.get? d.name
          ≠ (Draft.ofFiles files').build.declarations.find? (·.name == d.name) := by
  intro files files'
  have legal : Ident.isLegal "DynamicController".toList = true := by decide
  have respelled : List.Forall₂ SourceFile.Respelled files files' :=
    markedFiles_respelled Ident.respelled_toRaw (.same _) _ _
  obtain ⟨sufficient, -, lookup⟩ := respelled_candidates_iff legal respelled
  have same : List.Forall₂ (Declaration.SameBut "DynamicController")
      (Draft.ofFiles files).declarations (Draft.ofFiles files').declarations :=
    .cons ⟨rfl, rfl, by decide⟩ (.cons ⟨rfl, rfl, by decide⟩ .nil)
  refine ⟨legal, respelled, sufficient (Draft.keeps_of_sameBut rfl same), by decide +kernel, ?_⟩
  refine ⟨_, .head _, fun heq => ?_⟩
  have hplain := (lookup _ (.head _)).mp heq _ rfl
  cases hplain

/-- A trait whose supertrait is written raw is lost, and so is one that is declared raw to
the lookup of its name. -/
theorem not_forall_respelled :
    (¬ ∀ (files files' : List SourceFile) (marker : String),
      Ident.isLegal marker.toList = true → List.Forall₂ SourceFile.Respelled files files' →
        ((Draft.ofFiles files').build.candidates marker).map Declaration.name
          = ((Draft.ofFiles files).build.candidates marker).map Declaration.name) ∧
    ¬ ∀ (files : List SourceFile), ∀ d ∈ (Draft.ofFiles files).build.declarations,
      (Draft.ofFiles files).build.get? d.name
        = (Draft.ofFiles files).build.declarations.find? (·.name == d.name) := by
  constructor
  · intro h
    have hnames := h _ _ "DynamicController" (by decide)
      (markedFiles_respelled (.same (.plain "Base")) Ident.respelled_toRaw
        (.plain "DynamicController") (.plain "IOrders"))
    exact absurd hnames (by decide +kernel)
  · intro h
    have hlookup := h (markedFiles (.plain "DynamicController") (Ident.plain "Base").toRaw
      (.plain "Base") (.plain "IOrders")) _ (.head _)
    have hfound := congrArg Option.isSome hlookup
    exact absurd hfound (by decide +kernel)

end TraitRoutes
