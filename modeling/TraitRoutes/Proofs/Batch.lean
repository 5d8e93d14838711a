import Mathlib.Data.List.Induction
import Mathlib.Data.List.Nodup
import TraitRoutes.Generation
import TraitRoutes.Proofs.Sequencing

/-!
# A pass, candidate by candidate

A pass carries three things from one candidate to the next: the artifacts, the
diagnostics, and the owners of the files. All three are views of one ledger, in
which every candidate so far stands with what it came to. The invariant says
so, and says of each entry why it is what it is, in terms of the entries
before it. A step adds one entry at the end and touches no other, so the
entries never disagree with the candidates, in number or in order.

The owners are where the candidates meet: a file is taken exactly if some
earlier entry is an artifact of that file name. An entry without an artifact
is in nobody's way.
-/

namespace TraitRoutes

/-- What a candidate came to. -/
inductive Outcome where
  | generated (artifact : Artifact)
  | refused (fault : Fault)

namespace Outcome

/-- The artifact, if there is one. -/
def artifact? : Outcome → Option Artifact
  | generated a => some a
  | refused _ => none

/-- The diagnostic of a candidate that was refused. -/
def diagnostic? (d : Declaration) : Outcome → Option Diagnostic
  | generated _ => none
  | refused fault => some (.failed d.name d.location fault)

end Outcome

/-- The candidate resolves, and its service renders to the artifact. -/
def Declaration.Yields (options : Options) (d : Declaration) (a : Artifact) : Prop :=
  ∃ s, d.resolve options = .ok s ∧ s.render options.unitSuffix = .ok a

/-- The candidate does not resolve, or its service does not render, with the
given fault. -/
def Declaration.Fails (options : Options) (d : Declaration) (fault : Fault) : Prop :=
  d.resolve options = .error fault ∨
    ∃ s, d.resolve options = .ok s ∧ s.render options.unitSuffix = .error (.fault fault)

/-- Candidates in order, each with what it came to. -/
abbrev Ledger := List (Declaration × Outcome)

namespace Ledger

/-- The artifacts, in order. -/
def artifacts (l : Ledger) : List Artifact := l.filterMap (·.2.artifact?)

/-- The diagnostics, in order. -/
def diagnostics (l : Ledger) : List Diagnostic := l.filterMap fun e => e.2.diagnostic? e.1

/-- The file of an entry with the name of its candidate. -/
def claim? (e : Declaration × Outcome) : Option (String × String) :=
  e.2.artifact?.map fun a => (a.fileName, e.1.qualifiedName)

/-- A candidate that was generated into the file. -/
def Owns (l : Ledger) (owner : Declaration) (file : String) : Prop :=
  ∃ a, (owner, .generated a) ∈ l ∧ a.fileName = file

end Ledger

/-- Why a candidate came to its outcome, behind the given entries. -/
def Settles (options : Options) (before : Ledger) (d : Declaration) : Outcome → Prop
  | .generated a => d.Yields options a ∧ ∀ owner, ¬ before.Owns owner a.fileName
  | .refused fault => d.Fails options fault ∨
      ∃ a owner, d.Yields options a ∧ before.Owns owner a.fileName ∧
        fault = .fileConflict a.fileName owner.qualifiedName

/-- Every entry follows from the ones before it. -/
def Ledger.Settled (options : Options) (l : Ledger) : Prop :=
  ∀ before d e after, l = before ++ (d, e) :: after → Settles options before d e

/-! ## What one candidate yields -/

theorem Declaration.Yields.unique {o : Options} {d : Declaration} {a b : Artifact}
    (ha : d.Yields o a) (hb : d.Yields o b) : a = b := by
  obtain ⟨s, hs, ha⟩ := ha
  obtain ⟨t, ht, hb⟩ := hb
  rw [hs] at ht
  obtain rfl := Except.ok.inj ht
  rw [ha] at hb
  exact Except.ok.inj hb

theorem Declaration.Fails.unique {o : Options} {d : Declaration} {f f' : Fault}
    (hf : d.Fails o f) (hf' : d.Fails o f') : f = f' := by
  rcases hf with hf | ⟨s, hs, hf⟩ <;> rcases hf' with hf' | ⟨t, ht, hf'⟩
  · rw [hf] at hf'
    exact Except.error.inj hf'
  · rw [hf] at ht
    cases ht
  · rw [hf'] at hs
    cases hs
  · rw [hs] at ht
    obtain rfl := Except.ok.inj ht
    rw [hf] at hf'
    exact Stop.fault.inj (Except.error.inj hf')

theorem Declaration.Yields.not_fails {o : Options} {d : Declaration} {a : Artifact}
    {fault : Fault} (ha : d.Yields o a) : ¬ d.Fails o fault := by
  obtain ⟨s, hs, ha⟩ := ha
  rintro (hf | ⟨t, ht, hf⟩)
  · rw [hs] at hf
    cases hf
  · rw [hs] at ht
    obtain rfl := Except.ok.inj ht
    rw [ha] at hf
    cases hf

/-- A candidate with an artifact is refused only for the owner of its file. -/
theorem refused_iff_owned {o : Options} {before : Ledger} {d : Declaration} {a : Artifact}
    {e : Outcome} (ha : d.Yields o a) (he : Settles o before d e) :
    (∃ fault, e = .refused fault) ↔ ∃ owner, before.Owns owner a.fileName := by
  cases e with
  | generated b =>
      obtain rfl := ha.unique he.1
      constructor
      · rintro ⟨fault, h⟩
        cases h
      · rintro ⟨owner, howns⟩
        exact absurd howns (he.2 owner)
  | refused fault =>
      refine ⟨fun _ => ?_, fun _ => ⟨fault, rfl⟩⟩
      rcases he with hf | ⟨b, owner, hb, howns, -⟩
      · exact absurd hf ha.not_fails
      · exact ⟨owner, ha.unique hb ▸ howns⟩

theorem artifactOf_ok_iff {o : Options} {d : Declaration} {a : Artifact} :
    Generation.artifactOf o d = .ok a ↔ d.Yields o a := by
  rw [Generation.artifactOf, bind_ok_iff]
  simp only [mapError_ok_iff]
  rfl

theorem artifactOf_fault_iff {o : Options} {d : Declaration} {fault : Fault} :
    Generation.artifactOf o d = .error (.fault fault) ↔ d.Fails o fault := by
  rw [Generation.artifactOf, bind_error_iff]
  simp only [mapError_ok_iff, mapError_error_iff, Stop.fault.injEq]
  constructor
  · rintro (⟨fault', hfault, rfl⟩ | h)
    · exact .inl hfault
    · exact .inr h
  · rintro (h | h)
    · exact .inl ⟨fault, h, rfl⟩
    · exact .inr h

theorem render_capabilities (s : Service) (names : List String) (suffix : String) :
    ({ s with capabilities := names } : Service).render suffix = s.render suffix := rfl

theorem resolve_capabilities (o : Options) (d : Declaration) (names : List String) :
    ({ d with capabilities := names } : Declaration).resolve o
      = (d.resolve o).map fun s => { s with capabilities := names } := by
  have header : Resolution.header { d with capabilities := names } = Resolution.header d := rfl
  have name : ({ d with capabilities := names } : Declaration).name = d.name := rfl
  rw [Declaration.resolve, Declaration.resolve, Declaration.resolution, Declaration.resolution,
    header, name]
  cases Resolution.header d with
  | error fault => rfl
  | ok h =>
      obtain ⟨routePrefix, visibility⟩ := h
      dsimp only
      cases (Resolution.handlers o d.name d.methods).2 with
      | none => rfl
      | some fault => rfl

/-- The names that a trait leads to are all that a declaration takes from other
ones, and no artifact depends on them. -/
theorem yields_capabilities {o : Options} {d : Declaration} {names : List String}
    {a : Artifact} :
    ({ d with capabilities := names } : Declaration).Yields o a ↔ d.Yields o a := by
  unfold Declaration.Yields
  rw [resolve_capabilities]
  cases d.resolve o with
  | error fault => simp [Except.map]
  | ok s => simp [Except.map, render_capabilities]

theorem fileName_of_render {s : Service} {suffix : String} {a : Artifact}
    (h : s.render suffix = .ok a) : a.fileName = Naming.moduleName a.unitName ++ ".rs" := by
  rw [Service.render, bind_ok_iff] at h
  obtain ⟨c, -, h⟩ := h
  dsimp only at h
  split at h
  · obtain rfl := Except.ok.inj h
    rfl
  · cases h

/-! ## The ledger and its owners -/

namespace Ledger

theorem artifacts_append (l m : Ledger) : (l ++ m).artifacts = l.artifacts ++ m.artifacts :=
  List.filterMap_append

theorem diagnostics_append (l m : Ledger) :
    (l ++ m).diagnostics = l.diagnostics ++ m.diagnostics :=
  List.filterMap_append

theorem owns_of_mem_claims {l : Ledger} {file name : String}
    (h : (file, name) ∈ l.filterMap claim?) :
    ∃ owner, l.Owns owner file ∧ owner.qualifiedName = name := by
  obtain ⟨⟨d, e⟩, he, hc⟩ := List.mem_filterMap.mp h
  cases e with
  | generated a =>
      obtain ⟨rfl, rfl⟩ := Prod.mk.inj (Option.some.inj hc)
      exact ⟨d, ⟨a, he, rfl⟩, rfl⟩
  | refused fault => cases hc

theorem mem_claims_of_owns {l : Ledger} {owner : Declaration} {file : String}
    (h : l.Owns owner file) : (file, owner.qualifiedName) ∈ l.filterMap claim? := by
  obtain ⟨a, ha, rfl⟩ := h
  exact List.mem_filterMap.mpr ⟨_, ha, rfl⟩

theorem settled_nil (o : Options) : Settled o [] := by
  intro before d e after h
  cases before <;> cases h

/-- An entry that follows from the ledger in front of it can be added to it. -/
theorem Settled.concat {o : Options} {l : Ledger} {d : Declaration} {e : Outcome}
    (hl : l.Settled o) (he : Settles o l d e) : Settled o (l ++ [(d, e)]) := by
  intro before d' e' after h
  rcases List.eq_nil_or_concat after with rfl | ⟨after', x, rfl⟩
  · obtain ⟨rfl, hx⟩ := List.append_inj' h rfl
    obtain ⟨rfl, rfl⟩ := Prod.mk.inj (List.cons.inj hx).1
    exact he
  · rw [List.concat_eq_append, ← List.cons_append, ← List.append_assoc] at h
    exact hl before d' e' after' (List.append_inj' h rfl).1

theorem Settled.of_append {o : Options} {l m : Ledger} (h : Settled o (l ++ m)) :
    Settled o l := by
  intro before d e after hl
  exact h before d e (after ++ m) (by rw [hl, List.append_assoc, List.cons_append])

theorem mem_artifacts {l : Ledger} {a : Artifact} :
    a ∈ l.artifacts ↔ ∃ d, (d, .generated a) ∈ l := by
  constructor
  · intro h
    obtain ⟨⟨d, e⟩, he, ha⟩ := List.mem_filterMap.mp h
    cases e with
    | generated b => obtain rfl := Option.some.inj ha; exact ⟨d, he⟩
    | refused fault => cases ha
  · rintro ⟨d, h⟩
    exact List.mem_filterMap.mpr ⟨_, h, rfl⟩

/-- No file is generated twice: each entry keeps off the files of all earlier
ones. -/
theorem Settled.nodup_fileNames {o : Options} {l : Ledger} (hl : l.Settled o) :
    (l.artifacts.map Artifact.fileName).Nodup := by
  induction l using List.reverseRecOn with
  | nil => exact List.nodup_nil
  | append_singleton l x ih =>
      have hprev := hl.of_append
      obtain ⟨d, e⟩ := x
      have hlast := hl l d e [] rfl
      rw [artifacts_append, List.map_append, List.nodup_append]
      cases e with
      | refused fault => exact ⟨ih hprev, List.nodup_nil, by intro a _ b hb; cases hb⟩
      | generated a =>
          refine ⟨ih hprev, List.nodup_singleton _, ?_⟩
          intro file hfile file' hfile' heq
          obtain ⟨b, hb, rfl⟩ := List.mem_map.mp hfile
          obtain rfl : file' = a.fileName := by simpa [artifacts, Outcome.artifact?, eq_comm] using hfile'
          obtain ⟨owner, howner⟩ := mem_artifacts.mp hb
          exact hlast.2 owner ⟨b, howner, heq⟩

/-- A file has one owner. -/
theorem Settled.owner_unique {o : Options} {l : Ledger} (hl : l.Settled o)
    {file : String} {d d' : Declaration} (hd : l.Owns d file) (hd' : l.Owns d' file) :
    d = d' := by
  induction l using List.reverseRecOn with
  | nil =>
      obtain ⟨a, ha, -⟩ := hd
      cases ha
  | append_singleton l x ih =>
      obtain ⟨a, ha, rfl⟩ := hd
      obtain ⟨b, hb, hfile⟩ := hd'
      rcases List.mem_append.mp ha with hold | hnew <;>
        rcases List.mem_append.mp hb with hold' | hnew'
      · exact ih hl.of_append ⟨a, hold, rfl⟩ ⟨b, hold', hfile⟩
      · obtain rfl := List.mem_singleton.mp hnew'
        exact absurd ⟨a, hold, hfile.symm⟩ ((hl l d' (.generated b) [] rfl).2 d)
      · obtain rfl := List.mem_singleton.mp hnew
        exact absurd ⟨b, hold', hfile⟩ ((hl l d (.generated a) [] rfl).2 d')
      · rw [List.mem_singleton] at hnew hnew'
        exact (Prod.mk.inj (hnew.trans hnew'.symm)).1

/-- The entries before a candidate leave it one outcome. -/
theorem Settled.outcome_unique {o : Options} {l : Ledger} (hl : l.Settled o)
    {d : Declaration} {e e' : Outcome} (he : Settles o l d e) (he' : Settles o l d e') :
    e = e' := by
  cases e with
  | generated a =>
      obtain ⟨ha, hfree⟩ := he
      cases e' with
      | generated b => rw [ha.unique he'.1]
      | refused fault =>
          rcases he' with hf | ⟨b, owner, hb, howns, -⟩
          · exact absurd hf ha.not_fails
          · exact absurd (ha.unique hb ▸ howns) (hfree owner)
  | refused fault =>
      cases e' with
      | generated b =>
          rcases he with hf | ⟨a, owner, ha, howns, -⟩
          · exact absurd hf he'.1.not_fails
          · exact absurd (ha.unique he'.1 ▸ howns) (he'.2 owner)
      | refused fault' =>
          rcases he with hf | ⟨a, owner, ha, howns, rfl⟩ <;>
            rcases he' with hf' | ⟨b, owner', hb, howns', rfl⟩
          · rw [hf.unique hf']
          · exact absurd hf hb.not_fails
          · exact absurd hf' ha.not_fails
          · obtain rfl := ha.unique hb
            rw [hl.owner_unique howns howns']

end Ledger

/-! ## The pass keeps the ledger -/

namespace Generation

/-- The state of a pass is what the ledger says. -/
structure Reflects (g : Generation) (l : Ledger) : Prop where
  artifacts : g.artifacts = l.artifacts
  diagnostics : g.diagnostics = l.diagnostics
  owners : g.owners = (l.filterMap Ledger.claim?).reverse

theorem Reflects.lookup_some {g : Generation} {l : Ledger} (hg : g.Reflects l)
    {file name : String} (h : g.owners.lookup file = some name) :
    ∃ owner, l.Owns owner file ∧ owner.qualifiedName = name := by
  rw [hg.owners, List.lookup_eq_some_iff] at h
  obtain ⟨before, after, hsplit, -⟩ := h
  have hmem : (file, name) ∈ (l.filterMap Ledger.claim?).reverse := by
    rw [hsplit]
    exact List.mem_append_right before List.mem_cons_self
  exact Ledger.owns_of_mem_claims (List.mem_reverse.mp hmem)

theorem Reflects.lookup_none {g : Generation} {l : Ledger} (hg : g.Reflects l)
    {file : String} (h : g.owners.lookup file = none) (owner : Declaration) :
    ¬ l.Owns owner file := by
  intro howns
  rw [hg.owners, List.lookup_eq_none_iff] at h
  have hmem := List.mem_reverse.mpr (Ledger.mem_claims_of_owns howns)
  exact absurd (h _ hmem) (by simp)

theorem Reflects.fail {g : Generation} {l : Ledger} (hg : g.Reflects l) (d : Declaration)
    (fault : Fault) : (g.fail d fault).Reflects (l ++ [(d, .refused fault)]) where
  artifacts := by
    rw [Ledger.artifacts_append, ← hg.artifacts]
    simp [Generation.fail, Ledger.artifacts, Outcome.artifact?]
  diagnostics := by
    rw [Ledger.diagnostics_append, ← hg.diagnostics]
    rfl
  owners := by
    rw [List.filterMap_append, List.reverse_append, ← hg.owners]
    rfl

/-- A candidate either claims its file or is refused for the owner of it. -/
theorem Reflects.claim {g : Generation} {l : Ledger} (hg : g.Reflects l) {o : Options}
    {d : Declaration} {a : Artifact} (ha : d.Yields o a) :
    ∃ e, Settles o l d e ∧ (g.claim d a).Reflects (l ++ [(d, e)]) := by
  rw [Generation.claim]
  cases hlookup : g.owners.lookup a.fileName with
  | some first =>
      obtain ⟨owner, howns, rfl⟩ := hg.lookup_some hlookup
      exact ⟨.refused (.fileConflict a.fileName owner.qualifiedName),
        .inr ⟨a, owner, ha, howns, rfl⟩, hg.fail d _⟩
  | none =>
      refine ⟨.generated a, ⟨ha, hg.lookup_none hlookup⟩, ?_, ?_, ?_⟩
      · rw [Ledger.artifacts_append, ← hg.artifacts]
        rfl
      · rw [Ledger.diagnostics_append, ← hg.diagnostics]
        simp [Ledger.diagnostics, Outcome.diagnostic?]
      · rw [List.filterMap_append, List.reverse_append, ← hg.owners]
        rfl

/-- The events are no part of what a ledger says. -/
theorem Reflects.events {g : Generation} {l : Ledger} (hg : g.Reflects l) (es : List Event) :
    ({ g with events := es } : Generation).Reflects l :=
  ⟨hg.artifacts, hg.diagnostics, hg.owners⟩

theorem step_reflects {o : Options} {g g' : Generation} {l : Ledger} {d : Declaration}
    (hg : g.Reflects l) (h : step o g d = .ok g') :
    ∃ e, Settles o l d e ∧ g'.Reflects (l ++ [(d, e)]) := by
  have hev := hg.events (g.events ++ eventsOf o d)
  rw [step] at h
  split at h
  · next a ha =>
      obtain rfl := Except.ok.inj h
      exact hev.claim (artifactOf_ok_iff.mp ha)
  · next fault hf =>
      obtain rfl := Except.ok.inj h
      exact ⟨.refused fault, .inl (artifactOf_fault_iff.mp hf), hev.fail d fault⟩
  · cases h

/-- A pass over candidates adds an entry for each of them, in order. -/
theorem steps_reflects {o : Options} {ds : List Declaration} :
    ∀ {g g' : Generation} {l : Ledger}, g.Reflects l → l.Settled o → steps o g ds = .ok g' →
      ∃ l' : Ledger, l'.map Prod.fst = l.map Prod.fst ++ ds ∧ l'.Settled o ∧ g'.Reflects l' := by
  induction ds with
  | nil =>
      intro g g' l hg hl h
      obtain rfl := Except.ok.inj h
      exact ⟨l, by simp, hl, hg⟩
  | cons d ds ih =>
      intro g g' l hg hl h
      rw [steps, List.foldlM_cons, bind_ok_iff] at h
      obtain ⟨mid, hd, hrest⟩ := h
      obtain ⟨e, he, hmid⟩ := step_reflects hg hd
      obtain ⟨l', hfst, hl', hg'⟩ := ih hmid (hl.concat he) hrest
      exact ⟨l', by simp [hfst], hl', hg'⟩

/-- A file is named after the controller in it. -/
theorem Reflects.fileNames {g : Generation} {l : Ledger} {o : Options} (hg : g.Reflects l)
    (hl : l.Settled o) :
    g.artifacts.map Artifact.fileName
      = (g.artifacts.map Artifact.unitName).map fun u => Naming.moduleName u ++ ".rs" := by
  rw [List.map_map]
  refine List.map_congr_left fun a ha => ?_
  rw [hg.artifacts] at ha
  obtain ⟨d, hd⟩ := Ledger.mem_artifacts.mp ha
  obtain ⟨before, after, hsplit⟩ := List.append_of_mem hd
  obtain ⟨s, -, hrender⟩ := (hl before d (.generated a) after hsplit).1
  exact fileName_of_render hrender

theorem generate_reflects {c : Corpus} {o : Options} {g : Generation}
    (enabled : o.disabled = false) (h : c.generate o = .ok g) :
    ∃ l : Ledger, l.map Prod.fst = c.candidates o.marker ∧ l.Settled o ∧ g.Reflects l := by
  rw [Corpus.generate, enabled] at h
  simp only [Bool.false_eq_true, if_false] at h
  obtain ⟨mid, hs, h⟩ := bind_ok_iff.mp h
  obtain rfl := Except.ok.inj h
  obtain ⟨l, hfst, hl, hmid⟩ := steps_reflects ⟨rfl, rfl, rfl⟩ (Ledger.settled_nil o) hs
  exact ⟨l, hfst, hl, hmid.events _⟩

end Generation

/-- A pass that comes to an end gives each candidate, in the order of the corpus,
one artifact or one diagnostic. Which of them it is, and what is in it, follows
from the candidate alone and from the files that earlier candidates were
generated into; those are never generated twice. -/
theorem generate_partitions (c : Corpus) (o : Options) (g : Generation)
    (enabled : o.disabled = false) (h : c.generate o = .ok g) :
    ∃ l : Ledger, l.map Prod.fst = c.candidates o.marker ∧
      g.artifacts = l.artifacts ∧ g.diagnostics = l.diagnostics ∧
      (∀ before d e after, l = before ++ (d, e) :: after →
        (∀ e', Settles o before d e' ↔ e' = e) ∧
        (∀ a, d.Yields o a →
          ((∃ fault, e = .refused fault) ↔ ∃ owner, Ledger.Owns before owner a.fileName)) ∧
        ∀ names a, ({ d with capabilities := names } : Declaration).Yields o a ↔ d.Yields o a) ∧
      (g.artifacts.map Artifact.fileName).Nodup ∧ (g.artifacts.map Artifact.unitName).Nodup := by
  obtain ⟨l, hfst, hl, hg⟩ := Generation.generate_reflects enabled h
  have hfiles : (g.artifacts.map Artifact.fileName).Nodup := by
    rw [hg.artifacts]
    exact hl.nodup_fileNames
  refine ⟨l, hfst, hg.artifacts, hg.diagnostics, ?_, hfiles, ?_⟩
  · intro before d e after hsplit
    have he := hl before d e after hsplit
    have hbefore : Ledger.Settled o before := Ledger.Settled.of_append (hsplit ▸ hl)
    refine ⟨fun e' => ⟨fun he' => hbefore.outcome_unique he' he, fun heq => heq ▸ he⟩, ?_,
      fun names a => yields_capabilities⟩
    intro a ha
    exact refused_iff_owned ha he
  · rw [hg.fileNames hl] at hfiles
    exact hfiles.of_map

/-- A trait without methods that extends the marker. -/
def usersIn (space : String) (clause : Option Node) : Declaration where
  ident := .plain "IUsers"
  space := space
  attrs := []
  generics := { Generics.empty with clause }
  supertraits := ["DynamicController"]
  methods := []
  location := ⟨"src/lib.rs", 1, 1⟩

/-- One name in three modules; the first trait has a `where` clause. -/
def homonyms : Corpus :=
  Draft.build
    { declarations := [usersIn "crate::a" (some .absent), usersIn "crate::b" none,
        usersIn "crate::c" none]
      known := ["DynamicController"] }

/-- What is reported of the first and the third of them. -/
def homonymMessages : List String :=
  ["Failed to generate controller for `IUsers`: the trait has a `where` clause, move the "
    ++ "bounds to supertraits",
  "Failed to generate controller for `IUsers`: controller file `users_controller.rs` is "
    ++ "already generated for `crate::b::IUsers`, rename one of the traits"]

/-- The trait that cannot have a controller leaves the file to the second one, and
the third one comes too late. -/
theorem generate_partitions_homonyms :
    ∃ g, homonyms.generate {} = .ok g ∧
      g.artifacts.map Artifact.space = ["crate::b"] ∧
      g.diagnostics.map Diagnostic.message = homonymMessages ∧
      ∃ l : Ledger, l.map Prod.fst = homonyms.candidates "DynamicController" ∧
        g.artifacts = l.artifacts ∧ g.diagnostics = l.diagnostics := by
  have hpass : (homonyms.generate {}).toOption.map (fun g =>
      (g.artifacts.map Artifact.space, g.diagnostics.map Diagnostic.message)) =
      some (["crate::b"], homonymMessages) := by
    decide +kernel
  cases h : homonyms.generate {} with
  | error stop =>
      rw [h] at hpass
      cases hpass
  | ok g =>
      rw [h] at hpass
      obtain ⟨hspaces, hmessages⟩ := Prod.mk.inj (Option.some.inj hpass)
      obtain ⟨l, hl, hartifacts, hdiagnostics, -⟩ := generate_partitions homonyms {} g rfl h
      exact ⟨g, rfl, hspaces, hmessages, l, hl, hartifacts, hdiagnostics⟩

end TraitRoutes
