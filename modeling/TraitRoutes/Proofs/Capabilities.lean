import Mathlib.Logic.Relation
import TraitRoutes.Source.Corpus

/-!
# What a trait extends

The names of a corpus form a graph: a name leads to the supertraits of every
trait declared under it. Nothing keeps this graph from having cycles, and one
name may stand for several traits. The capabilities of a trait are the names
that its supertraits lead to, in any number of steps.

They are collected by a work list. It ends because a name is expanded once: the
names waiting, together with the supertraits of everything that is not yet
expanded, lose exactly one in each round. It is complete because at any time
each name seen has its steps among the names seen or waiting, so nothing is
left to be found when nothing waits.
-/

namespace TraitRoutes

/-- A supertrait step, from a name to a supertrait of any declaration of it. -/
def LeadsTo (all : List Declaration) (a b : String) : Prop :=
  ∃ d ∈ all, d.name = a ∧ b ∈ d.supertraits

/-- A declaration reaches a name: by a supertrait of its own, and supertrait steps
from there on. -/
def Declaration.Reaches (all : List Declaration) (d : Declaration) (name : String) : Prop :=
  ∃ first ∈ d.supertraits, Relation.ReflTransGen (LeadsTo all) first name

theorem mem_stepsFrom {all : List Declaration} {a b : String} :
    b ∈ stepsFrom all a ↔ LeadsTo all a b := by
  unfold stepsFrom LeadsTo
  simp only [List.mem_flatMap, List.mem_filter, beq_iff_eq, and_assoc]

/-! ## The work list -/

/-- A work list: the names that wait, and those that were taken from it. -/
structure Worklist where
  queue : List String
  seen : List String

namespace Worklist

/-- A round takes the first name and, if it is new, expands it. -/
inductive Round (all : List Declaration) : Worklist → Worklist → Prop
  | known {name : String} {queue seen : List String} (h : name ∈ seen) :
      Round all ⟨name :: queue, seen⟩ ⟨queue, seen⟩
  | fresh {name : String} {queue seen : List String} (h : name ∉ seen) :
      Round all ⟨name :: queue, seen⟩ ⟨queue ++ stepsFrom all name, name :: seen⟩

/-- The supertraits of all declarations whose name was not taken yet. -/
def unexpanded (all : List Declaration) (seen : List String) : List String :=
  (all.filter fun d => d.name ∉ seen).flatMap (·.supertraits)

/-- The rounds to come. -/
def remaining (all : List Declaration) (w : Worklist) : Nat :=
  w.queue.length + (unexpanded all w.seen).length

theorem length_unexpanded_cons (all : List Declaration) {name : String}
    {seen : List String} (h : name ∉ seen) :
    (unexpanded all (name :: seen)).length + (stepsFrom all name).length =
      (unexpanded all seen).length := by
  unfold unexpanded stepsFrom
  induction all with
  | nil => rfl
  | cons d all ih =>
      by_cases hd : d.name = name
      · have hnew : d.name ∉ seen := hd ▸ h
        simp [hd, h] at ih ⊢
        omega
      · by_cases hseen : d.name ∈ seen
        · simp [hd, hseen] at ih ⊢
          omega
        · simp [hd, hseen] at ih ⊢
          omega

/-- Each round is one less to come, whatever the graph. -/
theorem Round.remaining_succ {all : List Declaration} {w w' : Worklist}
    (h : Round all w w') : w'.remaining all + 1 = w.remaining all := by
  cases h with
  | known h =>
      simp only [remaining, List.length_cons]
      omega
  | fresh h =>
      have := length_unexpanded_cons all h
      simp only [remaining, List.length_append, List.length_cons]
      omega

/-- There is no endless run. -/
theorem wellFounded_round (all : List Declaration) :
    WellFounded fun w' w => Round all w w' := by
  refine Subrelation.wf ?_ (measure (remaining all)).wf
  intro w' w h
  have := h.remaining_succ
  show w'.remaining all < w.remaining all
  omega

/-- The fueled rounds are a run of the work list to its end. -/
theorem reachRounds_runs {all : List Declaration} : ∀ {fuel : Nat} {queue seen : List String},
    remaining all ⟨queue, seen⟩ ≤ fuel →
    Relation.ReflTransGen (Round all) ⟨queue, seen⟩ ⟨[], reachRounds all fuel queue seen⟩ := by
  intro fuel
  induction fuel with
  | zero =>
      intro queue seen hle
      obtain rfl : queue = [] := by
        refine List.eq_nil_of_length_eq_zero ?_
        simp only [remaining] at hle
        omega
      rw [reachRounds]
  | succ fuel ih =>
      intro queue seen hle
      cases queue with
      | nil => rw [reachRounds]
      | cons name queue =>
          rw [reachRounds]
          split
          · next hknown =>
              have hround : Round all ⟨name :: queue, seen⟩ ⟨queue, seen⟩ :=
                .known (List.contains_iff_mem.mp hknown)
              have := hround.remaining_succ
              exact .head hround (ih (by omega))
          · next hfresh =>
              have hround : Round all ⟨name :: queue, seen⟩
                  ⟨queue ++ stepsFrom all name, name :: seen⟩ :=
                .fresh (mt List.contains_iff_mem.mpr hfresh)
              have := hround.remaining_succ
              exact .head hround (ih (by omega))

/-- What is known of a work list that began with the names of `start`: it holds
only names that those lead to, it still holds all of them, and a name that was
taken has left its steps behind. -/
structure Tracks (all : List Declaration) (start : List String) (w : Worklist) : Prop where
  sound : ∀ name ∈ w.queue ++ w.seen,
    ∃ first ∈ start, Relation.ReflTransGen (LeadsTo all) first name
  started : ∀ name ∈ start, name ∈ w.queue ++ w.seen
  closed : ∀ name ∈ w.seen, ∀ next, LeadsTo all name next → next ∈ w.queue ++ w.seen

theorem tracks_start (all : List Declaration) (start : List String) :
    Tracks all start ⟨start, []⟩ where
  sound name h := ⟨name, by simpa using h, .refl⟩
  started name h := by simpa using h
  closed name h := by cases h

theorem Tracks.round {all : List Declaration} {start : List String} {w w' : Worklist}
    (hw : Tracks all start w) (h : Round all w w') : Tracks all start w' := by
  obtain ⟨sound, started, closed⟩ := hw
  cases h with
  | @known name queue seen h =>
      have hsame : ∀ n, n ∈ name :: queue ++ seen ↔ n ∈ queue ++ seen := by
        intro n
        simp only [List.cons_append, List.mem_cons, List.mem_append]
        exact ⟨fun hn => hn.elim (fun e => .inr (e ▸ h)) id, .inr⟩
      exact ⟨fun n hn => sound n ((hsame n).mpr hn), fun n hn => (hsame n).mp (started n hn),
        fun n hn m hm => (hsame m).mp (closed n hn m hm)⟩
  | @fresh name queue seen h =>
      have hsplit : ∀ n, n ∈ (queue ++ stepsFrom all name) ++ name :: seen ↔
          n ∈ name :: queue ++ seen ∨ LeadsTo all name n := by
        intro n
        simp only [List.cons_append, List.mem_cons, List.mem_append, mem_stepsFrom]
        grind
      refine ⟨?_, fun n hn => (hsplit n).mpr (.inl (started n hn)), ?_⟩
      · intro n hn
        rcases (hsplit n).mp hn with hold | hstep
        · exact sound n hold
        · obtain ⟨first, hfirst, hpath⟩ := sound name (by simp)
          exact ⟨first, hfirst, hpath.tail hstep⟩
      · intro n hn m hm
        refine (hsplit m).mpr ?_
        rcases List.mem_cons.mp hn with rfl | hn
        · exact .inr hm
        · exact .inl (closed n hn m hm)

theorem Tracks.run {all : List Declaration} {start : List String} {w w' : Worklist}
    (hw : Tracks all start w) (h : Relation.ReflTransGen (Round all) w w') :
    Tracks all start w' := by
  induction h with
  | refl => exact hw
  | tail _ hround ih => exact ih.round hround

/-- When nothing waits, exactly what the first names lead to was seen. -/
theorem Tracks.mem_seen_iff {all : List Declaration} {start seen : List String}
    (hw : Tracks all start ⟨[], seen⟩) {name : String} :
    name ∈ seen ↔ ∃ first ∈ start, Relation.ReflTransGen (LeadsTo all) first name := by
  refine ⟨fun h => hw.sound name (by simpa using h), ?_⟩
  rintro ⟨first, hfirst, hpath⟩
  induction hpath with
  | refl => simpa using hw.started first hfirst
  | tail _ hstep ih => simpa using hw.closed _ ih _ hstep

end Worklist

open Worklist in
theorem reachable_runs (all : List Declaration) (names : List String) :
    Relation.ReflTransGen (Round all) ⟨names, []⟩ ⟨[], reachable all names⟩ := by
  refine reachRounds_runs ?_
  have hall : unexpanded all [] = all.flatMap (·.supertraits) := by
    rw [unexpanded, List.filter_eq_self.mpr (by simp)]
  rw [remaining, hall]
  exact Nat.le_succ _

theorem mem_reachable_iff {all : List Declaration} {names : List String} {name : String} :
    name ∈ reachable all names ↔
      ∃ first ∈ names, Relation.ReflTransGen (LeadsTo all) first name :=
  ((Worklist.tracks_start all names).run (reachable_runs all names)).mem_seen_iff

/-! ## Capabilities in a corpus -/

theorem mem_insertSorted {text name : String} {l : List String} :
    name ∈ insertSorted text l ↔ name = text ∨ name ∈ l := by
  induction l with
  | nil => simp [insertSorted]
  | cons first rest ih =>
      rw [insertSorted]
      split
      · simp
      · split
        · next heq => simp [heq]
        · simp [ih, or_left_comm]

theorem mem_sortedSet {name : String} {l : List String} : name ∈ sortedSet l ↔ name ∈ l := by
  unfold sortedSet
  induction l with
  | nil => rfl
  | cons text l ih => rw [List.foldr_cons, mem_insertSorted, ih, List.mem_cons]

/-- A declaration with its capabilities is the one that was collected, but for
these. -/
theorem mem_build {draft : Draft} {d : Declaration} :
    d ∈ draft.build.declarations ↔ ∃ e ∈ draft.declarations,
      { e with capabilities := sortedSet (reachable draft.declarations e.supertraits) } = d :=
  List.mem_map

theorem leadsTo_build (draft : Draft) :
    LeadsTo draft.build.declarations = LeadsTo draft.declarations := by
  funext a b
  refine propext ⟨?_, ?_⟩
  · rintro ⟨d, hd, hname, hb⟩
    obtain ⟨e, he, rfl⟩ := mem_build.mp hd
    exact ⟨e, he, hname, hb⟩
  · rintro ⟨e, he, hname, hb⟩
    exact ⟨_, mem_build.mpr ⟨e, he, rfl⟩, hname, hb⟩

theorem mem_capabilities_iff {draft : Draft} {d : Declaration}
    (hd : d ∈ draft.build.declarations) {name : String} :
    name ∈ d.capabilities ↔ d.Reaches draft.build.declarations name := by
  obtain ⟨e, -, rfl⟩ := mem_build.mp hd
  rw [mem_sortedSet, mem_reachable_iff, Declaration.Reaches, leadsTo_build]

/-- A name reaches what one of its declarations reaches. -/
theorem transGen_leadsTo_iff {all : List Declaration} {a b : String} :
    Relation.TransGen (LeadsTo all) a b ↔ ∃ d ∈ all, d.name = a ∧ d.Reaches all b := by
  rw [Relation.TransGen.head'_iff]
  constructor
  · rintro ⟨first, ⟨d, hd, hname, hfirst⟩, hpath⟩
    exact ⟨d, hd, hname, first, hfirst, hpath⟩
  · rintro ⟨d, hd, hname, first, hfirst, hpath⟩
    exact ⟨first, ⟨d, hd, hname, hfirst⟩, hpath⟩

theorem build_runs {draft : Draft} {d : Declaration} (hd : d ∈ draft.build.declarations) :
    ∃ seen, Relation.ReflTransGen (Worklist.Round draft.declarations) ⟨d.supertraits, []⟩
      ⟨[], seen⟩ ∧ d.capabilities = sortedSet seen := by
  obtain ⟨e, -, rfl⟩ := mem_build.mp hd
  exact ⟨_, reachable_runs draft.declarations e.supertraits, rfl⟩

theorem ident_text_of_mem_build {draft : Draft}
    (plain : ∀ d ∈ draft.declarations, d.ident.raw = false) {d : Declaration}
    (hd : d ∈ draft.build.declarations) : d.ident.text = d.name := by
  obtain ⟨e, he, rfl⟩ := mem_build.mp hd
  show (if e.ident.raw then "r#" ++ e.ident.name else e.ident.name) = e.ident.name
  rw [plain e he]
  rfl

theorem mem_candidates_iff {draft : Draft}
    (plain : ∀ d ∈ draft.declarations, d.ident.raw = false) {marker : String}
    (known : draft.build.isKnown marker = true) {d : Declaration} :
    d ∈ draft.build.candidates marker ↔ d ∈ draft.build.declarations ∧ d.name ≠ marker ∧
      d.Reaches draft.build.declarations marker := by
  rw [Corpus.candidates, if_pos known, List.mem_filter]
  refine and_congr_right fun hd => ?_
  rw [ident_text_of_mem_build plain hd, Bool.and_eq_true, bne_iff_ne, List.contains_iff_mem,
    mem_capabilities_iff hd]

open Classical in
/-- The candidates of a corpus, from whatever sources it was collected: if the
marker is known, the declarations that are not named like it and reach it, each at
its place. Their capabilities are all that they reach, found by a work list
that comes to its end in every graph. A name that reaches the marker is the
name of a candidate, and no other one is. -/
theorem candidates_eq_filter_reaches (draft : Draft)
    (plain : ∀ d ∈ draft.declarations, d.ident.raw = false) (marker : String) :
    (draft.build.isKnown marker = false → draft.build.candidates marker = []) ∧
    (draft.build.isKnown marker = true →
      draft.build.candidates marker = draft.build.declarations.filter (fun d =>
        decide (d.name ≠ marker ∧ d.Reaches draft.build.declarations marker)) ∧
      ∀ name, name ≠ marker →
        (Relation.TransGen (LeadsTo draft.build.declarations) name marker ↔
          ∃ d ∈ draft.build.candidates marker, d.name = name)) ∧
    (∀ d ∈ draft.build.declarations, ∀ name,
      name ∈ d.capabilities ↔ d.Reaches draft.build.declarations name) ∧
    (WellFounded fun w' w => Worklist.Round draft.declarations w w') ∧
    ∀ d ∈ draft.build.declarations, ∃ seen,
      Relation.ReflTransGen (Worklist.Round draft.declarations) ⟨d.supertraits, []⟩ ⟨[], seen⟩ ∧
        d.capabilities = sortedSet seen := by
  refine ⟨?_, fun known => ⟨?_, ?_⟩, fun d hd name => mem_capabilities_iff hd,
    Worklist.wellFounded_round draft.declarations, fun d hd => build_runs hd⟩
  · intro unknown
    rw [Corpus.candidates, unknown]
    rfl
  · rw [Corpus.candidates, if_pos known]
    refine List.filter_congr fun d hd => ?_
    rw [ident_text_of_mem_build plain hd, Bool.eq_iff_iff, Bool.and_eq_true, bne_iff_ne,
      List.contains_iff_mem, mem_capabilities_iff hd, decide_eq_true_iff]
  · intro name hname
    rw [transGen_leadsTo_iff]
    constructor
    · rintro ⟨d, hd, rfl, hreach⟩
      exact ⟨d, (mem_candidates_iff plain known).mpr ⟨hd, hname, hreach⟩, rfl⟩
    · rintro ⟨d, hd, rfl⟩
      obtain ⟨hmem, -, hreach⟩ := (mem_candidates_iff plain known).mp hd
      exact ⟨d, hmem, rfl, hreach⟩

/-- A trait with the given supertraits and nothing else. -/
def traitIn (space : String) (ident : Ident) (supertraits : List String) : Declaration where
  ident := ident
  space := space
  attrs := []
  generics := .empty
  supertraits := supertraits
  methods := []
  location := ⟨"src/lib.rs", 1, 1⟩

/-- A trait that extends itself, two that extend one another, and a second trait of
the name of one of them, which extends the marker. -/
def knot : Draft where
  declarations :=
    [traitIn "crate" (.plain "A") ["A"], traitIn "crate" (.plain "B") ["C"],
      traitIn "crate" (.plain "C") ["B"], traitIn "crate::m" (.plain "C") ["Marker"]]
  known := ["Marker"]

open Classical in
theorem candidates_eq_filter_reaches_knot :
    (∀ d ∈ knot.declarations, d.ident.raw = false) ∧ knot.build.isKnown "Marker" = true ∧
      (knot.build.candidates "Marker").map Declaration.qualifiedName =
        ["crate::B", "crate::C", "crate::m::C"] ∧
      knot.build.candidates "Marker" = knot.build.declarations.filter (fun d =>
        decide (d.name ≠ "Marker" ∧ d.Reaches knot.build.declarations "Marker")) := by
  have plain : ∀ d ∈ knot.declarations, d.ident.raw = false := by decide
  have known : knot.build.isKnown "Marker" = true := by decide +kernel
  refine ⟨plain, known, by decide +kernel, ?_⟩
  exact ((candidates_eq_filter_reaches knot plain "Marker").2.1 known).1

end TraitRoutes
