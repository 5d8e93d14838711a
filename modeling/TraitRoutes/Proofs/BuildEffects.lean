import TraitRoutes.Build
import TraitRoutes.Proofs.CandidateFaults
import TraitRoutes.Proofs.FileTrees
import TraitRoutes.Proofs.Interruption

/-!
# What a build step leaves behind

A build step goes through stages, and each of them can end it: the variables, the
switch, the scan of the sources, the pass over the corpus and the writing. Nothing is
written before the last stage, so an earlier end leaves the tree as it was, and nothing
but the two lines of every step is printed before the pass. A fault of the scan ends the
step; a fault of a candidate never does, and becomes a line instead.

Artifacts are written under names that are identifiers with an ending, and each under
a name of its own, so writing one of them leaves all others, and every other file, as
they are. What remains is the pass that gives no answer, and then the step gives none.
-/

namespace TraitRoutes

/-! ## Names of generated files -/

/-- A name with an ending is no dots. -/
theorem PathName.isPlain_append {stem ending : String}
    (hchars : ∀ c ∈ (stem ++ ending).toList, c ≠ '/' ∧ c ≠ '\x00') (hending : 3 ≤ ending.length) :
    IsPlain (stem ++ ending) := by
  have hlength : 3 ≤ (stem ++ ending).length := by
    rw [String.length_append]
    omega
  have hshort : ∀ dots : String, dots.length < 3 → stem ++ ending ≠ dots := by
    intro dots hdots heq
    rw [heq] at hlength
    omega
  exact ⟨fun h => (hchars _ h).1 rfl, fun h => (hchars _ h).2 rfl, hshort _ (by decide),
    hshort _ (by decide), hshort _ (by decide)⟩

theorem Declaration.Yields.isPlain_fileName {o : Options} {d : Declaration} {a : Artifact}
    (h : d.Yields o a) : PathName.IsPlain a.fileName := by
  obtain ⟨s, -, hrender⟩ := h
  obtain ⟨module, i, hmodule, hfile⟩ := Service.fileName_of_render_ok hrender
  have hending : ".rs".toList.all (fun c => c != '/' && c != '\x00') = true := by decide
  rw [hfile]
  refine PathName.isPlain_append (fun c hc => ?_) (by decide)
  rw [String.toList_append] at hc
  rcases List.mem_append.mp hc with hc | hc
  · have hname := List.all_eq_true.mp (Synthesis.all_of_identOf hmodule) c hc
    constructor <;> rintro rfl <;> revert hname <;> decide
  · simpa using List.all_eq_true.mp hending c hc

/-! ## Faults of a scan -/

namespace Draft

theorem addFile_fatal (draft : Draft) (tree : FileTree) (root path : String) :
    FailsWith (fun fault => fault.isFatal = true) (draft.addFile tree root path) := by
  unfold addFile
  split
  · exact .error rfl
  · unfold addSource
    split
    · exact .error rfl
    · exact .ok _

theorem addVisits_fatal {tree : FileTree} {root : String} {visits : List FileTree.Visit}
    {fault : Fault} : ∀ {draft : Draft}, (draft.addVisits tree root visits).fault = some fault →
      fault.isFatal = true := by
  induction visits with
  | nil => exact nofun
  | cons visit rest ih =>
      intro draft h
      cases visit with
      | unlisted path e =>
          obtain rfl := Option.some.inj h
          rfl
      | folder path => exact ih h
      | file path =>
          rw [addVisits] at h
          split at h
          · split at h
            · exact ih h
            · next herror =>
                obtain rfl := Option.some.inj h
                exact addFile_fatal draft tree root path _ herror
          · exact ih h

/-- Whatever keeps sources from being read ends the pass. -/
theorem scan_fatal {draft : Draft} {tree : FileTree} {root : String} {fault : Fault}
    (h : (draft.scan tree root).fault = some fault) : fault.isFatal = true :=
  addVisits_fatal h

end Draft

/-! ## What a pass reports -/

/-- A pass never ends with a fault. -/
theorem generate_ne_fault {c : Corpus} {o : Options} {stop : Stop}
    (h : c.generate o = .error stop) (fault : Fault) : stop ≠ .fault fault := by
  have hstep : ∀ g d, FailsWith (fun stop => stop ≠ .fault fault) (Generation.step o g d) := by
    intro g d
    unfold Generation.step
    dsimp only
    split
    · exact .ok _
    · exact .ok _
    · next stop' hstop _ => exact .error (hstop fault)
  have hsteps : ∀ ds g, FailsWith (fun stop => stop ≠ .fault fault)
      (Generation.steps o g ds) := by
    intro ds
    induction ds with
    | nil => exact fun g => .ok _
    | cons d ds ih =>
        intro g
        rw [Generation.steps, List.foldlM_cons]
        exact (hstep g d).bind ih
  unfold Corpus.generate at h
  split at h
  · cases h
  · rcases bind_error_iff.mp h with h | ⟨g, -, h⟩
    · exact hsteps _ _ _ h
    · cases h

/-- Every diagnostic is that of a candidate, with a fault that concerns it only. -/
theorem generate_diagnostics {c : Corpus} {o : Options} {g : Generation} {diag : Diagnostic}
    (enabled : o.disabled = false) (h : c.generate o = .ok g) (hdiag : diag ∈ g.diagnostics) :
    ∃ d ∈ c.candidates o.marker, ∃ fault : Fault, fault.isFatal = false ∧
      diag = .failed d.name d.location fault := by
  obtain ⟨l, hfst, hl, hg⟩ := Generation.generate_reflects enabled h
  rw [hg.diagnostics] at hdiag
  obtain ⟨⟨d, e⟩, he, hdiag⟩ := List.mem_filterMap.mp hdiag
  cases e with
  | generated a => cases hdiag
  | refused fault =>
      obtain rfl := Option.some.inj hdiag
      obtain ⟨before, after, hsplit⟩ := List.append_of_mem he
      refine ⟨d, ?_, fault, (hl before d _ after hsplit).isLocal, rfl⟩
      rw [← hfst]
      exact List.mem_map_of_mem he

theorem generate_fileNames {c : Corpus} {o : Options} {g : Generation}
    (enabled : o.disabled = false) (h : c.generate o = .ok g) :
    (∀ a ∈ g.artifacts, PathName.IsPlain a.fileName) ∧
      (g.artifacts.map Artifact.fileName).Nodup := by
  obtain ⟨l, -, hl, hg⟩ := Generation.generate_reflects enabled h
  rw [hg.artifacts]
  refine ⟨fun a ha => ?_, hl.nodup_fileNames⟩
  obtain ⟨d, hd⟩ := Ledger.mem_artifacts.mp ha
  obtain ⟨before, after, hsplit⟩ := List.append_of_mem hd
  exact (hl before d _ after hsplit).1.isPlain_fileName

theorem exists_stop_of_steps {o : Options} {stop : Stop} {ds : List Declaration} :
    ∀ {g : Generation}, Generation.steps o g ds = .error stop →
      ∃ before d after, ds = before ++ d :: after ∧
        Generation.steps o g before = .ok (Generation.upTo o g ds) ∧
        Generation.artifactOf o d = .error stop := by
  induction ds with
  | nil => exact nofun
  | cons d ds ih =>
      intro g h
      rw [Generation.upTo]
      rcases bind_error_iff.mp h with h | ⟨g', hg', h⟩
      · rw [h]
        refine ⟨[], d, ds, rfl, rfl, ?_⟩
        unfold Generation.step at h
        dsimp only at h
        split at h
        · cases h
        · cases h
        · next hartifact => rw [hartifact, Except.error.inj h]
      · rw [hg']
        obtain ⟨before, d', after, rfl, hbefore, hd'⟩ := ih h
        refine ⟨d :: before, d', after, rfl, ?_, hd'⟩
        rw [Generation.steps, List.foldlM_cons, hg']
        exact hbefore

/-- A pass gives no answer because of a candidate. What is in front of this one has been
reported. -/
theorem exists_stop {c : Corpus} {o : Options} {stop : Stop} (enabled : o.disabled = false)
    (h : c.generate o = .error stop) :
    ∃ before d after g, c.candidates o.marker = before ++ d :: after ∧
      Generation.steps o (c.start o) before = .ok g ∧ Generation.artifactOf o d = .error stop ∧
      c.reported o = g.diagnostics := by
  rw [Corpus.generate, if_neg (by simp [enabled])] at h
  rcases bind_error_iff.mp h with h | ⟨g, -, h⟩
  · obtain ⟨before, d, after, hsplit, hbefore, hd⟩ := exists_stop_of_steps h
    exact ⟨before, d, after, _, hsplit, hbefore, hd, rfl⟩
  · cases h

/-! ## The build step -/

namespace BuildEnv

/-- The folder of the sources and the folder for generated files are known. -/
def Knows (env : BuildEnv) (source outDir : String) : Prop :=
  (∃ crateDir, env.crateDir = some crateDir ∧ source = PathName.join crateDir "src") ∧
    env.outDir = some outDir

/-- The step comes to generating controllers for a corpus. -/
structure Generates (env : BuildEnv) (o : Options) (tree : FileTree) (source outDir : String)
    (c : Corpus) : Prop where
  knows : env.Knows source outDir
  enabled : o.disabled = false
  scanned : (Draft.scan {} tree source).fault = none
  corpus : c = (Draft.scan {} tree source).draft.build

/-- What a build step leaves behind, in the order in which it can end. -/
structure Concludes (env : BuildEnv) (o : Options) (tree : FileTree) (r : BuildResult) : Prop where
  /-- Without a variable, nothing is done. -/
  unset : env.crateDir = none ∨ env.outDir = none →
    r.lines = [switchLine] ∧ r.tree = tree ∧
      ∃ name, r.outcome = .error (.fault (.missingVariable name))
  /-- A pass that is turned off succeeds whatever the sources are. -/
  disabled : ∀ source outDir, env.Knows source outDir → o.disabled = true →
    r.lines = [switchLine, sourceLine source] ∧ r.tree = tree ∧ r.outcome = .ok []
  unread : ∀ source outDir fault, env.Knows source outDir → o.disabled = false →
    (Draft.scan {} tree source).fault = some fault →
    r.lines = [switchLine, sourceLine source] ∧ r.tree = tree ∧
      r.outcome = .error (.fault fault) ∧ fault.isFatal = true
  /-- A pass over the corpus prints its diagnostics and writes its artifacts. -/
  generated : ∀ source outDir c g, env.Generates o tree source outDir c → c.generate o = .ok g →
    r.lines = [switchLine, sourceLine source] ++ g.diagnostics.map Diagnostic.buildLine ∧
      (∀ diag ∈ g.diagnostics, ∃ d ∈ c.candidates o.marker, ∃ fault : Fault,
        fault.isFatal = false ∧ diag = .failed d.name d.location fault) ∧
      ((∃ files, r.outcome = .ok files ∧
          files.map OutputFile.path = g.artifacts.map (fun a => PathName.join outDir a.fileName) ∧
          tree.Delivered outDir g.artifacts r.tree) ∨
        ∃ before after path reason, g.artifacts = before ++ after ∧
          r.outcome = .error (.fault (.access path reason)) ∧
          tree.Delivered outDir before r.tree)
  /-- A pass that gives no answer for a candidate prints the diagnostics of those in front of
  it, and writes nothing. -/
  stopped : ∀ source outDir c stop, env.Generates o tree source outDir c →
    c.generate o = .error stop → r.outcome = .error stop ∧ r.tree = tree ∧
      ∃ before d after g, c.candidates o.marker = before ++ d :: after ∧
        Generation.steps o (c.start o) before = .ok g ∧
        Generation.artifactOf o d = .error stop ∧
        r.lines = [switchLine, sourceLine source] ++ g.diagnostics.map Diagnostic.buildLine
  /-- There is no other way to end than success and a fault of the whole pass. -/
  ends : ((∃ files, r.outcome = .ok files) ∨
      ∃ fault, r.outcome = .error (.fault fault) ∧ fault.isFatal = true) ↔
    ∀ source outDir c, env.Generates o tree source outDir c → ∃ g, c.generate o = .ok g

variable {env : BuildEnv} {o : Options} {tree : FileTree} {source outDir : String}

theorem unset_or_knows (env : BuildEnv) :
    (env.crateDir = none ∨ env.outDir = none) ∨ ∃ source outDir, env.Knows source outDir := by
  cases hcrate : env.crateDir with
  | none => exact .inl (.inl rfl)
  | some crateDir =>
      cases hout : env.outDir with
      | none => exact .inl (.inr rfl)
      | some outDir => exact .inr ⟨_, outDir, ⟨crateDir, hcrate, rfl⟩, hout⟩

theorem Knows.unique {source' outDir' : String} (h : env.Knows source outDir)
    (h' : env.Knows source' outDir') : source' = source ∧ outDir' = outDir := by
  obtain ⟨⟨crateDir, hcrate, rfl⟩, hout⟩ := h
  obtain ⟨⟨crateDir', hcrate', rfl⟩, hout'⟩ := h'
  rw [hcrate] at hcrate'
  rw [hout] at hout'
  rw [Option.some.inj hcrate', Option.some.inj hout']
  exact ⟨rfl, rfl⟩

theorem Knows.not_unset (h : env.Knows source outDir) :
    ¬ (env.crateDir = none ∨ env.outDir = none) := by
  obtain ⟨⟨crateDir, hcrate, -⟩, hout⟩ := h
  rw [hcrate, hout]
  rintro (h | h) <;> cases h

theorem Generates.unique {source' outDir' : String} {c c' : Corpus}
    (h : env.Generates o tree source outDir c) (h' : env.Generates o tree source' outDir' c') :
    source' = source ∧ outDir' = outDir ∧ c' = c := by
  obtain ⟨rfl, rfl⟩ := h.knows.unique h'.knows
  exact ⟨rfl, rfl, h'.corpus.trans h.corpus.symm⟩

theorem runWith_unset (h : env.crateDir = none ∨ env.outDir = none) :
    ∃ name, env.runWith o tree
      = ⟨[switchLine], tree, .error (.fault (.missingVariable name))⟩ := by
  have hfolders : ∃ name, env.folders = .error (.missingVariable name) := by
    rw [folders]
    cases hcrate : env.crateDir with
    | none => exact ⟨_, rfl⟩
    | some crateDir =>
        rw [hcrate] at h
        obtain h | h := h
        · cases h
        · rw [h]
          exact ⟨_, rfl⟩
  obtain ⟨name, hname⟩ := hfolders
  exact ⟨name, by rw [runWith, hname]⟩

theorem runWith_of_knows (h : env.Knows source outDir) :
    env.runWith o tree = runIn source outDir o tree := by
  obtain ⟨⟨crateDir, hcrate, rfl⟩, hout⟩ := h
  rw [runWith, folders, hcrate, hout]
  rfl

theorem runWith_disabled (h : env.Knows source outDir) (hdisabled : o.disabled = true) :
    env.runWith o tree = ⟨[switchLine, sourceLine source], tree, .ok []⟩ := by
  rw [runWith_of_knows h, runIn, if_pos hdisabled]

theorem runWith_unread {fault : Fault} (h : env.Knows source outDir) (enabled : o.disabled = false)
    (hfault : (Draft.scan {} tree source).fault = some fault) :
    env.runWith o tree
      = ⟨[switchLine, sourceLine source], tree, .error (.fault fault)⟩ := by
  rw [runWith_of_knows h, runIn, enabled]
  dsimp only
  rw [hfault]
  rfl

theorem runWith_stopped {c : Corpus} {stop : Stop} (h : env.Generates o tree source outDir c)
    (hstop : c.generate o = .error stop) :
    env.runWith o tree =
      ⟨[switchLine, sourceLine source] ++ (c.reported o).map Diagnostic.buildLine, tree,
        .error stop⟩ := by
  rw [h.corpus] at hstop
  rw [runWith_of_knows h.knows, runIn, h.enabled, h.corpus]
  dsimp only
  rw [h.scanned, hstop]
  rfl

theorem runWith_generated {c : Corpus} {g : Generation} (h : env.Generates o tree source outDir c)
    (hg : c.generate o = .ok g) :
    env.runWith o tree =
      ⟨[switchLine, sourceLine source] ++ g.diagnostics.map Diagnostic.buildLine,
        (tree.writeArtifacts outDir g.artifacts).tree,
        (tree.writeArtifacts outDir g.artifacts).outcome.mapError .fault⟩ := by
  rw [h.corpus] at hg
  rw [runWith_of_knows h.knows, runIn, h.enabled]
  dsimp only
  rw [h.scanned, hg]
  rfl

/-- Artifacts are written, or those in front of the first one that cannot be. -/
theorem runWith_delivers {c : Corpus} {g : Generation} (h : env.Generates o tree source outDir c)
    (hg : c.generate o = .ok g) :
    (∃ files, (env.runWith o tree).outcome = .ok files ∧
        files.map OutputFile.path = g.artifacts.map (fun a => PathName.join outDir a.fileName) ∧
        tree.Delivered outDir g.artifacts (env.runWith o tree).tree) ∨
      ∃ before after path reason, g.artifacts = before ++ after ∧
        (env.runWith o tree).outcome = .error (.fault (.access path reason)) ∧
        tree.Delivered outDir before (env.runWith o tree).tree := by
  obtain ⟨hplain, hnodup⟩ := generate_fileNames h.enabled hg
  rw [runWith_generated h hg]
  rcases tree.writeArtifacts_cases outDir hplain hnodup with
    ⟨files, houtcome, hfiles, hdelivered⟩ |
      ⟨before, after, path, reason, hsplit, houtcome, hdelivered⟩
  · rw [houtcome]
    exact .inl ⟨files, rfl, hfiles, hdelivered⟩
  · rw [houtcome]
    exact .inr ⟨before, after, path, reason, hsplit, rfl, hdelivered⟩

/-- Whatever is not unset, turned off or unread comes to generating. -/
theorem ends_before_or_generates (h : env.Knows source outDir) (o : Options) (tree : FileTree) :
    o.disabled = true ∨
      (o.disabled = false ∧ ∃ fault, (Draft.scan {} tree source).fault = some fault) ∨
      env.Generates o tree source outDir (Draft.scan {} tree source).draft.build := by
  cases hdisabled : o.disabled with
  | true => exact .inl rfl
  | false =>
      cases hfault : (Draft.scan {} tree source).fault with
      | some fault => exact .inr (.inl ⟨rfl, fault, rfl⟩)
      | none => exact .inr (.inr ⟨h, hdisabled, hfault, rfl⟩)

theorem runWith_answers_iff (env : BuildEnv) (o : Options) (tree : FileTree) :
    ((∃ files, (env.runWith o tree).outcome = .ok files) ∨
      ∃ fault, (env.runWith o tree).outcome = .error (.fault fault) ∧ fault.isFatal = true) ↔
    ∀ source outDir c, env.Generates o tree source outDir c → ∃ g, c.generate o = .ok g := by
  rcases unset_or_knows env with h | ⟨source, outDir, h⟩
  · obtain ⟨name, hrun⟩ := @runWith_unset env o tree h
    rw [hrun]
    exact ⟨fun _ _ _ _ hg => absurd h hg.knows.not_unset, fun _ => .inr ⟨_, rfl, rfl⟩⟩
  rcases ends_before_or_generates h o tree with hdisabled | ⟨enabled, fault, hfault⟩ | hgenerates
  · rw [runWith_disabled h hdisabled]
    refine ⟨fun _ _ _ _ hg => ?_, fun _ => .inl ⟨_, rfl⟩⟩
    rw [hg.enabled] at hdisabled
    cases hdisabled
  · rw [runWith_unread h enabled hfault]
    refine ⟨fun _ _ _ _ hg => ?_, fun _ => .inr ⟨fault, rfl, Draft.scan_fatal hfault⟩⟩
    have hscanned := hg.scanned
    rw [(h.unique hg.knows).1, hfault] at hscanned
    cases hscanned
  · cases hgen : (Draft.scan {} tree source).draft.build.generate o with
    | error stop =>
        rw [runWith_stopped hgenerates hgen]
        constructor
        · rintro (⟨files, hok⟩ | ⟨fault, hfault, -⟩)
          · cases hok
          · exact absurd (Except.error.inj hfault) (generate_ne_fault hgen fault)
        · intro hall
          obtain ⟨g, hg⟩ := hall _ _ _ hgenerates
          rw [hgen] at hg
          cases hg
    | ok g =>
        constructor
        · intro _ source' outDir' c' hgenerates'
          obtain ⟨-, -, rfl⟩ := hgenerates.unique hgenerates'
          exact ⟨g, hgen⟩
        · intro _
          rcases runWith_delivers hgenerates hgen with
            ⟨files, houtcome, -⟩ | ⟨-, -, path, reason, -, houtcome, -⟩
          · exact .inl ⟨files, houtcome⟩
          · exact .inr ⟨_, houtcome, rfl⟩

/-- A build step ends with success or a fault of the whole pass, unless the pass over the
corpus gives no answer. -/
theorem runWith_concludes (env : BuildEnv) (o : Options) (tree : FileTree) :
    env.Concludes o tree (env.runWith o tree) where
  unset h := by
    obtain ⟨name, hrun⟩ := @runWith_unset env o tree h
    rw [hrun]
    exact ⟨rfl, rfl, name, rfl⟩
  disabled source outDir h hdisabled := by
    rw [runWith_disabled h hdisabled]
    exact ⟨rfl, rfl, rfl⟩
  unread source outDir fault h enabled hfault := by
    rw [runWith_unread h enabled hfault]
    exact ⟨rfl, rfl, rfl, Draft.scan_fatal hfault⟩
  generated source outDir c g h hg := by
    refine ⟨?_, fun diag hdiag => generate_diagnostics h.enabled hg hdiag, runWith_delivers h hg⟩
    rw [runWith_generated h hg]
  stopped source outDir c stop h hstop := by
    obtain ⟨before, d, after, g, hsplit, hbefore, hd, hreported⟩ := exists_stop h.enabled hstop
    rw [runWith_stopped h hstop, hreported]
    exact ⟨rfl, rfl, before, d, after, g, hsplit, hbefore, hd, rfl⟩
  ends := runWith_answers_iff env o tree

/-- A crate with one source file. -/
def crateOf (text : String) : FileTree :=
  .folder [("crate", .folder [("src", .folder [("lib.rs", .file text.toUTF8)])])]

/-- The variables of a build of the crate. -/
def crateEnv : BuildEnv := ⟨some "/crate", some "/out", none⟩

/-- A trait with a method that is called by a number. -/
def unnamed : String :=
  "use dynamic_api::DynamicController;\n"
    ++ "pub trait IBad: DynamicController \x7b async fn _1(&self); \x7d"

/-- A trait that is generic, and one that is not. -/
def mixed : String :=
  "use api::DynamicController;\ntrait Many<T>: DynamicController \x7b\x7d\n"
    ++ "trait One: DynamicController \x7b\x7d"

/-- The generic trait is reported in one line behind the two of every step, and the controller
of the other one is delivered. -/
theorem runWith_concludes_mixed :
    ∃ c g files, crateEnv.Generates {} (crateOf mixed) "/crate/src" "/out" c ∧
      c.generate {} = .ok g ∧ (crateEnv.runWith {} (crateOf mixed)).lines.length = 3 ∧
      (crateEnv.runWith {} (crateOf mixed)).outcome = .ok files ∧
      files.map OutputFile.path = ["/out/one_controller.rs"] ∧
      (crateOf mixed).Delivered "/out" g.artifacts (crateEnv.runWith {} (crateOf mixed)).tree := by
  have hrun : (Draft.scan {} (crateOf mixed) "/crate/src").fault = none ∧
      (crateEnv.runWith {} (crateOf mixed)).lines.length = 3 ∧
      (crateEnv.runWith {} (crateOf mixed)).outcome.toOption.map (·.map OutputFile.path)
        = some ["/out/one_controller.rs"] := by
    decide +kernel
  obtain ⟨hscanned, hlines, hfiles⟩ := hrun
  have hknows : crateEnv.Knows "/crate/src" "/out" := ⟨⟨"/crate", rfl, by decide +kernel⟩, rfl⟩
  have hgenerates : crateEnv.Generates {} (crateOf mixed) "/crate/src" "/out" _ :=
    ⟨hknows, rfl, hscanned, rfl⟩
  have hconcludes := runWith_concludes crateEnv {} (crateOf mixed)
  cases houtcome : (crateEnv.runWith {} (crateOf mixed)).outcome with
  | error stop =>
      rw [houtcome] at hfiles
      cases hfiles
  | ok files =>
      rw [houtcome] at hfiles
      obtain ⟨g, hg⟩ := hconcludes.ends.mp (.inl ⟨files, houtcome⟩) _ _ _ hgenerates
      rcases (hconcludes.generated _ _ _ g hgenerates hg).2.2 with
        ⟨files', -, -, hdelivered⟩ | ⟨-, -, path, reason, -, herror, -⟩
      · exact ⟨_, g, files, hgenerates, hg, hlines, rfl, Option.some.inj hfiles, hdelivered⟩
      · rw [houtcome] at herror
        cases herror

/-- A step may end in neither way. -/
theorem not_forall_runWith_answers :
    ¬ ∀ (env : BuildEnv) (o : Options) (tree : FileTree),
      (∃ files, (env.runWith o tree).outcome = .ok files) ∨
        ∃ fault, (env.runWith o tree).outcome = .error (.fault fault) ∧ fault.isFatal = true := by
  intro h
  have hrun : (match (crateEnv.runWith {} (crateOf unnamed)).outcome with
      | .error (.illegalName name) => name
      | _ => "") = "1Query" := by
    decide +kernel
  have hempty : "" ≠ "1Query" := by decide
  rcases h crateEnv {} (crateOf unnamed) with ⟨files, hok⟩ | ⟨fault, herror, -⟩
  · rw [hok] at hrun
    exact hempty hrun
  · rw [herror] at hrun
    exact hempty hrun

end BuildEnv

end TraitRoutes
