import Mathlib.Data.List.Flatten
import Mathlib.Data.List.Forall2
import Mathlib.Data.List.Sort
import Mathlib.Data.String.Basic
import TraitRoutes.Proofs.SupertraitPaths

/-!
# The order of the sources

A corpus is collected source by source, but nothing in it depends on when a source came
in. Known names only ever gather. What a trait leads to is computed from the
declarations of all sources together, and depends on which declarations there are, not
on their order: supertrait steps ask for some declaration of a name, so further
declarations add steps and take none away. The capabilities themselves come sorted, so
that equal sets of names are equal lists.

Hence every declaration of a source comes with capabilities that the set of sources
decides, and the declarations, like the candidates among them, stand in the order of the
sources.
-/

namespace TraitRoutes

/-! ## Capabilities among declarations -/

theorem pairwise_insertSorted (text : String) {l : List String} (h : l.Pairwise (· < ·)) :
    (insertSorted text l).Pairwise (· < ·) := by
  induction l with
  | nil => exact List.pairwise_singleton _ _
  | cons first rest ih =>
      obtain ⟨hfirst, hrest⟩ := List.pairwise_cons.mp h
      rw [insertSorted]
      split
      · next hlt =>
          refine List.pairwise_cons.mpr ⟨fun name hname => ?_, h⟩
          rcases List.mem_cons.mp hname with rfl | hname
          · exact hlt
          · exact hlt.trans (hfirst name hname)
      · next hge =>
          split
          · exact h
          · next hne =>
              refine List.pairwise_cons.mpr ⟨fun name hname => ?_, ih hrest⟩
              rcases mem_insertSorted.mp hname with rfl | hname
              · exact lt_of_le_of_ne (not_lt.mp hge) (Ne.symm hne)
              · exact hfirst name hname

theorem pairwise_sortedSet (l : List String) : (sortedSet l).Pairwise (· < ·) := by
  unfold sortedSet
  induction l with
  | nil => exact .nil
  | cons text l ih => exact pairwise_insertSorted text ih

theorem sortedSet_congr {l m : List String} (h : ∀ name, name ∈ l ↔ name ∈ m) :
    sortedSet l = sortedSet m := by
  refine (pairwise_sortedSet l).eq_of_mem_iff (pairwise_sortedSet m) fun name => ?_
  rw [mem_sortedSet, mem_sortedSet, h]

theorem LeadsTo.mono {all more : List Declaration} (hmore : all ⊆ more) {a b : String}
    (h : LeadsTo all a b) : LeadsTo more a b := by
  obtain ⟨d, hd, hname, hb⟩ := h
  exact ⟨d, hmore hd, hname, hb⟩

namespace Declaration

variable {all more : List Declaration} {d : Declaration} {name : String}

/-- Further declarations take nothing away from what a trait reaches. -/
theorem Reaches.mono (hmore : all ⊆ more) (h : d.Reaches all name) : d.Reaches more name := by
  obtain ⟨first, hfirst, chain⟩ := h
  exact ⟨first, hfirst, chain.lift id fun _ _ => LeadsTo.mono hmore⟩

theorem reaches_congr (h : ∀ e, e ∈ all ↔ e ∈ more) : d.Reaches all name ↔ d.Reaches more name :=
  ⟨Reaches.mono fun e => (h e).mp, Reaches.mono fun e => (h e).mpr⟩

/-- The declaration with the capabilities that it has among others. -/
def among (all : List Declaration) (d : Declaration) : Declaration :=
  { d with capabilities := sortedSet (reachable all d.supertraits) }

theorem mem_capabilities_among : name ∈ (d.among all).capabilities ↔ d.Reaches all name := by
  rw [among, mem_sortedSet, mem_reachable_iff]
  rfl

theorem among_congr (h : ∀ e, e ∈ all ↔ e ∈ more) : d.among all = d.among more := by
  have hset : sortedSet (reachable all d.supertraits) = sortedSet (reachable more d.supertraits) :=
    sortedSet_congr fun name => by
      rw [mem_reachable_iff, mem_reachable_iff]
      exact reaches_congr h
  rw [among, among, hset]

/-- The same declaration, with no fewer capabilities. -/
structure Grows (d e : Declaration) : Prop where
  same : e = { d with capabilities := e.capabilities }
  capabilities : d.capabilities ⊆ e.capabilities

theorem grows_among (hmore : all ⊆ more) (d : Declaration) :
    (d.among all).Grows (d.among more) where
  same := rfl
  capabilities _ h := mem_capabilities_among.mpr ((mem_capabilities_among.mp h).mono hmore)

end Declaration

/-! ## Candidates -/

namespace Draft

/-- The declaration is found once the corpus is finished. -/
def Finds (draft : Draft) (marker : String) (d : Declaration) : Prop :=
  draft.build.isKnown marker = true ∧ d.ident.text ≠ marker ∧
    d.Reaches draft.declarations marker

theorem isKnown_build {draft : Draft} {name : String} :
    draft.build.isKnown name = true ↔
      name ∈ draft.known ∨ ∃ d ∈ draft.declarations, d.name = name := by
  rw [Corpus.isKnown, List.contains_iff_mem, build, List.mem_append, List.mem_map]

open Classical in
theorem candidates_build (draft : Draft) (marker : String) :
    draft.build.candidates marker =
      (draft.declarations.filter fun d => draft.Finds marker d).map
        (Declaration.among draft.declarations) := by
  rw [Corpus.candidates]
  split
  · next known =>
      show (draft.declarations.map (Declaration.among draft.declarations)).filter _ = _
      rw [List.filter_map]
      refine congrArg _ (List.filter_congr fun d _ => ?_)
      rw [Bool.eq_iff_iff, Function.comp_apply, Bool.and_eq_true, bne_iff_ne,
        List.contains_iff_mem, Declaration.mem_capabilities_among, decide_eq_true_iff]
      exact ⟨fun h => ⟨known, h⟩, fun h => h.2⟩
  · next unknown =>
      rw [List.filter_eq_nil_iff.mpr fun d _ h => unknown (of_decide_eq_true h).1]
      rfl

end Draft

/-! ## What the files of a corpus contribute -/

namespace SourceFile

/-- The declarations of a file. -/
def declared (f : SourceFile) : List Declaration :=
  (Collection.ofItems f.path f.space f.items).declarations

/-- The names that a file makes known. -/
def known (f : SourceFile) : List String :=
  (Collection.ofItems f.path f.space f.items).knownNames

end SourceFile

theorem Draft.ofFiles_eq (files : List SourceFile) :
    Draft.ofFiles files =
      ⟨files.flatMap SourceFile.declared, files.flatMap SourceFile.known,
        files.map SourceFile.path⟩ := by
  unfold Draft.ofFiles
  induction files using List.reverseRecOn with
  | nil => rfl
  | append_singleton files f ih =>
      rw [List.foldl_append, ih, List.flatMap_append, List.flatMap_append, List.map_append,
        List.flatMap_singleton, List.flatMap_singleton]
      rfl

section

variable {files more : List SourceFile} {marker : String}

theorem isKnown_ofFiles {name : String} :
    (Draft.ofFiles files).build.isKnown name = true ↔
      ∃ f ∈ files, name ∈ f.known ∨ ∃ d ∈ f.declared, d.name = name := by
  rw [Draft.isKnown_build, Draft.ofFiles_eq]
  simp only [List.mem_flatMap]
  constructor
  · rintro (⟨f, hf, hname⟩ | ⟨d, ⟨f, hf, hd⟩, hname⟩)
    · exact ⟨f, hf, .inl hname⟩
    · exact ⟨f, hf, .inr ⟨d, hd, hname⟩⟩
  · rintro ⟨f, hf, hname | ⟨d, hd, hname⟩⟩
    · exact .inl ⟨f, hf, hname⟩
    · exact .inr ⟨d, ⟨f, hf, hd⟩, hname⟩

theorem isKnown_mono (hmore : files ⊆ more) {name : String}
    (h : (Draft.ofFiles files).build.isKnown name = true) :
    (Draft.ofFiles more).build.isKnown name = true := by
  obtain ⟨f, hf, hname⟩ := isKnown_ofFiles.mp h
  exact isKnown_ofFiles.mpr ⟨f, hmore hf, hname⟩

theorem declarations_sublist (hmore : files.Sublist more) :
    (Draft.ofFiles files).declarations.Sublist (Draft.ofFiles more).declarations := by
  rw [Draft.ofFiles_eq, Draft.ofFiles_eq]
  exact hmore.flatMap _

theorem finds_mono (hmore : files.Sublist more) {d : Declaration}
    (h : (Draft.ofFiles files).Finds marker d) : (Draft.ofFiles more).Finds marker d :=
  ⟨isKnown_mono hmore.subset h.1, h.2.1, h.2.2.mono (declarations_sublist hmore).subset⟩

theorem declarations_grow (hmore : files.Sublist more) :
    List.SublistForall₂ Declaration.Grows (Draft.ofFiles files).build.declarations
      (Draft.ofFiles more).build.declarations := by
  have hsub := declarations_sublist hmore
  refine List.sublistForall₂_iff.mpr ⟨(Draft.ofFiles files).declarations.map
    (Declaration.among (Draft.ofFiles more).declarations), ?_, hsub.map _⟩
  refine List.forall₂_map_left_iff.mpr (List.forall₂_map_right_iff.mpr ?_)
  exact List.forall₂_same.mpr fun d _ => Declaration.grows_among hsub.subset d

open Classical in
theorem candidates_grow (hmore : files.Sublist more) :
    List.SublistForall₂ Declaration.Grows ((Draft.ofFiles files).build.candidates marker)
      ((Draft.ofFiles more).build.candidates marker) := by
  have hsub := declarations_sublist hmore
  rw [Draft.candidates_build, Draft.candidates_build]
  refine List.sublistForall₂_iff.mpr ⟨((Draft.ofFiles files).declarations.filter fun d =>
    (Draft.ofFiles files).Finds marker d).map
      (Declaration.among (Draft.ofFiles more).declarations), ?_, List.Sublist.map _ ?_⟩
  · refine List.forall₂_map_left_iff.mpr (List.forall₂_map_right_iff.mpr ?_)
    exact List.forall₂_same.mpr fun d _ => Declaration.grows_among hsub.subset d
  · -- What was found before is found again, and among more declarations.
    calc (Draft.ofFiles files).declarations.filter (fun d => (Draft.ofFiles files).Finds marker d)
        _ |>.Sublist ((Draft.ofFiles files).declarations.filter
            fun d => (Draft.ofFiles more).Finds marker d) :=
          List.monotone_filter_right _ fun d h =>
            decide_eq_true (finds_mono hmore (of_decide_eq_true h))
        _ |>.Sublist ((Draft.ofFiles more).declarations.filter
            fun d => (Draft.ofFiles more).Finds marker d) := hsub.filter _

end

/-! ## Sources as texts -/

/-- A source as it is handed in. -/
structure SourceText where
  path : String
  space : String
  text : String

/-- The file that a source is, if it parses. -/
def SourceText.file? (s : SourceText) : Option SourceFile :=
  match readFile s.text with
  | .ok items => some ⟨s.path, s.space, items⟩
  | .error _ => none

/-- Adds a source, and goes on without it if that fails. -/
def Draft.tryAdd (draft : Draft) (s : SourceText) : Draft :=
  match draft.addSource s.path s.space s.text with
  | .ok added => added
  | .error _ => draft

/-- The corpus of some sources before it is finished. -/
def Draft.ofTexts (sources : List SourceText) : Draft := sources.foldl Draft.tryAdd {}

theorem tryAdd_eq (draft : Draft) (s : SourceText) :
    draft.tryAdd s = s.file?.elim draft fun f => draft.addItems f.path f.space f.items := by
  unfold Draft.tryAdd Draft.addSource SourceText.file?
  cases readFile s.text <;> rfl

theorem ofTexts_eq (sources : List SourceText) :
    Draft.ofTexts sources = Draft.ofFiles (sources.filterMap SourceText.file?) := by
  unfold Draft.ofTexts
  induction sources using List.reverseRecOn with
  | nil => rfl
  | append_singleton sources s ih =>
      rw [List.foldl_append, ih, List.foldl_cons, List.foldl_nil, tryAdd_eq, List.filterMap_append]
      cases hs : s.file? with
      | none =>
          rw [List.filterMap_cons_none hs, List.filterMap_nil, List.append_nil]
          rfl
      | some f =>
          rw [List.filterMap_cons_some hs, List.filterMap_nil]
          unfold Draft.ofFiles
          rw [List.foldl_append]
          rfl

theorem ofTexts_unparsable {s : SourceText} {e : SyntaxError} (h : readFile s.text = .error e)
    (before after : List SourceText) :
    Draft.ofTexts (before ++ s :: after) = Draft.ofTexts (before ++ after) := by
  have hnone : s.file? = none := by
    unfold SourceText.file?
    rw [h]
  rw [ofTexts_eq, ofTexts_eq, List.filterMap_append, List.filterMap_append,
    List.filterMap_cons_none hnone]

/-! ## Another order -/

/-- The declarations of a source. -/
def SourceText.declared (s : SourceText) : List Declaration :=
  s.file?.toList.flatMap SourceFile.declared

theorem declarations_ofTexts (sources : List SourceText) :
    (Draft.ofTexts sources).declarations = sources.flatMap SourceText.declared := by
  rw [ofTexts_eq, Draft.ofFiles_eq, List.filterMap_eq_flatMap_toList, List.flatMap_assoc]
  rfl

section

variable {sources order : List SourceText} (h : order.Perm sources)
include h

theorem mem_declarations_perm (d : Declaration) :
    d ∈ (Draft.ofTexts order).declarations ↔ d ∈ (Draft.ofTexts sources).declarations := by
  rw [declarations_ofTexts, declarations_ofTexts]
  exact (h.flatMap_right _).mem_iff

theorem isKnown_perm (name : String) :
    (Draft.ofTexts order).build.isKnown name = (Draft.ofTexts sources).build.isKnown name := by
  rw [Bool.eq_iff_iff, ofTexts_eq, ofTexts_eq, isKnown_ofFiles, isKnown_ofFiles]
  exact exists_congr fun f => and_congr_left fun _ => (h.filterMap SourceText.file?).mem_iff

theorem finds_perm (marker : String) (d : Declaration) :
    (Draft.ofTexts order).Finds marker d ↔ (Draft.ofTexts sources).Finds marker d := by
  unfold Draft.Finds
  rw [isKnown_perm h, Declaration.reaches_congr (mem_declarations_perm h)]

theorem among_perm :
    Declaration.among (Draft.ofTexts order).declarations =
      Declaration.among (Draft.ofTexts sources).declarations :=
  funext fun _ => Declaration.among_congr (mem_declarations_perm h)

theorem declarations_perm :
    (Draft.ofTexts order).build.declarations = order.flatMap fun s =>
      s.declared.map (Declaration.among (Draft.ofTexts sources).declarations) := by
  show (Draft.ofTexts order).declarations.map
    (Declaration.among (Draft.ofTexts order).declarations) = _
  rw [among_perm h, declarations_ofTexts order, List.map_flatMap]

open Classical in
theorem candidates_perm (marker : String) :
    (Draft.ofTexts order).build.candidates marker = order.flatMap fun s =>
      (s.declared.filter fun d => (Draft.ofTexts sources).Finds marker d).map
        (Declaration.among (Draft.ofTexts sources).declarations) := by
  rw [Draft.candidates_build, among_perm h, declarations_ofTexts order, List.filter_flatMap,
    List.map_flatMap]
  simp only [finds_perm h]

end

/-- What further sources do to a corpus, and what the order of its sources does. Names
become known and capabilities are added, every declaration and every candidate is still
there, and they stand in the order that they had. In another order each source
contributes the same declarations with the same capabilities, and the same ones among
them are found. A source that does not parse is of no consequence. -/
theorem discovery_mono_perm (sources : List SourceText) (marker : String) :
    (∀ more, sources.Sublist more →
      (∀ name, (Draft.ofTexts sources).build.isKnown name = true →
        (Draft.ofTexts more).build.isKnown name = true) ∧
      List.SublistForall₂ Declaration.Grows (Draft.ofTexts sources).build.declarations
        (Draft.ofTexts more).build.declarations ∧
      List.SublistForall₂ Declaration.Grows ((Draft.ofTexts sources).build.candidates marker)
        ((Draft.ofTexts more).build.candidates marker)) ∧
    (∃ declared found : SourceText → List Declaration, (∀ s, (found s).Sublist (declared s)) ∧
      ∀ order, order.Perm sources →
        (Draft.ofTexts order).build.declarations = order.flatMap declared ∧
        (Draft.ofTexts order).build.candidates marker = order.flatMap found ∧
        ∀ name, (Draft.ofTexts order).build.isKnown name
          = (Draft.ofTexts sources).build.isKnown name) ∧
    ∀ before s after e, sources = before ++ s :: after → readFile s.text = .error e →
      Draft.ofTexts sources = Draft.ofTexts (before ++ after) := by
  refine ⟨fun more hmore => ?_, ?_, ?_⟩
  · have hfiles := hmore.filterMap SourceText.file?
    simp only [ofTexts_eq]
    exact ⟨fun _ => isKnown_mono hfiles.subset, declarations_grow hfiles, candidates_grow hfiles⟩
  · exact ⟨_, _, fun s => List.filter_sublist.map _, fun order h =>
      ⟨declarations_perm h, candidates_perm h marker, isKnown_perm h⟩⟩
  · rintro before s after e rfl h
    exact ofTexts_unparsable h before after

/-- A source that is cut off. -/
def tornSource : SourceText := ⟨"src/torn.rs", "crate::torn", "pub trait ITorn: DynamicController"⟩

/-- A trait in front of the one it extends, and a source that does not parse in
between. -/
def signupSources : List SourceText :=
  [⟨"src/users.rs", "crate::users", "pub trait IUsers: crate::base::IBase {}"⟩, tornSource,
    ⟨"src/base.rs", "crate::base",
      "use dynamic_api::DynamicController;\npub trait IBase: DynamicController {}"⟩]

/-- A namesake, with a supertrait that the others gain by it. -/
def auditSource : SourceText :=
  ⟨"src/audit.rs", "crate::audit", "pub trait IBase: Audit {}"⟩

theorem discovery_mono_perm_signup :
    signupSources.Sublist (auditSource :: signupSources) ∧
      signupSources.reverse.Perm signupSources ∧
      ((Draft.ofTexts signupSources).build.candidates "DynamicController").map
          (fun d => (d.qualifiedName, d.capabilities)) =
        [("crate::users::IUsers", ["DynamicController", "IBase"]),
          ("crate::base::IBase", ["DynamicController"])] ∧
      List.SublistForall₂ Declaration.Grows
        ((Draft.ofTexts signupSources).build.candidates "DynamicController")
        ((Draft.ofTexts (auditSource :: signupSources)).build.candidates "DynamicController") ∧
      (∃ found : SourceText → List Declaration,
        (Draft.ofTexts signupSources).build.candidates "DynamicController"
            = signupSources.flatMap found ∧
          (Draft.ofTexts signupSources.reverse).build.candidates "DynamicController"
            = signupSources.reverse.flatMap found) ∧
      ∃ e, readFile tornSource.text = .error e ∧
        Draft.ofTexts signupSources = Draft.ofTexts (signupSources.eraseIdx 1) := by
  obtain ⟨grows, ⟨declared, found, -, orders⟩, skips⟩ :=
    discovery_mono_perm signupSources "DynamicController"
  have hsub : signupSources.Sublist (auditSource :: signupSources) := List.sublist_cons_self _ _
  have hperm := signupSources.reverse_perm
  refine ⟨hsub, hperm, by decide +kernel, (grows _ hsub).2.2,
    ⟨found, (orders _ (.refl _)).2.1, (orders _ hperm).2.1⟩, ?_⟩
  cases htorn : readFile tornSource.text with
  | error e => exact ⟨e, rfl, skips [_] tornSource [_] e rfl htorn⟩
  | ok items =>
      have hnone : (readFile tornSource.text).toOption.isNone = true := by decide +kernel
      rw [htorn] at hnone
      cases hnone

end TraitRoutes
