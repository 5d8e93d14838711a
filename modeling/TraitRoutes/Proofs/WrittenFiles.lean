import TraitRoutes.Proofs.FileTrees

/-!
# Writing once and writing again

Artifacts are written one after the other, so a run over some of them goes on from the
tree that a run over those in front of it has left. This is what every statement about
a single artifact comes down to: what it found is what the shorter run left, and a run
that stopped has left what the shorter run left.

A run that wrote everything has the folder, and if no two artifacts are for one file,
every file holds what it should. A second run then finds nothing to do: the folder is
there, and each file holds its text when it is reached.
-/

namespace TraitRoutes.FileTree

variable {t t' : FileTree} {path dir : String}

/-! ## Folders that are there -/

theorem hasFolder_iff :
    t.hasFolder path = true ↔ ∃ names, t.locate path = .ok names ∧
      t.entryAt? names = some .folder := by
  have hfind : t.hasFolder path = true ↔ ∃ entries, t.find path = .ok (folder entries) := by
    rw [hasFolder]
    split
    · next node hnode =>
        rw [hnode]
        cases node with
        | file content => exact ⟨nofun, fun ⟨_, h⟩ => nomatch h⟩
        | folder entries => exact ⟨fun _ => ⟨entries, rfl⟩, fun _ => rfl⟩
    · next e he =>
        rw [he]
        exact ⟨nofun, fun ⟨_, h⟩ => nomatch h⟩
  rw [hfind]
  constructor
  · intro ⟨entries, h⟩
    obtain ⟨names, hlocate, hnode, -⟩ := find_ok_iff.mp h
    exact ⟨names, hlocate, congrArg (Option.map entry) hnode⟩
  · intro ⟨names, hlocate, hentry⟩
    obtain ⟨entries, hnode⟩ := get?_folder_of_entryAt? hentry
    exact ⟨entries, find_ok_iff.mpr ⟨names, hlocate, hnode, nofun⟩⟩

theorem hasFolder_mono (h : t.Keeps t') (hfolder : t.hasFolder path = true) :
    t'.hasFolder path = true := by
  obtain ⟨names, hlocate, hentry⟩ := hasFolder_iff.mp hfolder
  exact hasFolder_iff.mpr ⟨names, locate_mono h hlocate, h names hentry⟩

theorem hasFolder_of_makeFolder (h : t.makeFolder path = .ok t') : t'.hasFolder path = true := by
  obtain ⟨names, hlocate, -, hsets⟩ := makeFolder_sets h
  exact hasFolder_iff.mpr ⟨names, locate_mono hsets.keeps hlocate, hsets.self⟩

theorem hasFolder_of_ensureFolder (h : t.ensureFolder path = (none, t')) :
    t'.hasFolder path = true := by
  rw [ensureFolder] at h
  split at h
  · next hmake =>
      obtain ⟨-, rfl⟩ := Prod.mk.inj h
      exact hasFolder_of_makeFolder hmake
  · split at h
    · next hfolder =>
        obtain ⟨-, rfl⟩ := Prod.mk.inj h
        exact hfolder
    · cases (Prod.mk.inj h).1

/-- Where folders could be made, the last of them is there. A path without parts names none. -/
theorem hasFolder_of_makeFolders (h : t.makeFolders path = (none, t')) :
    PathName.parts path = [] ∨ t'.hasFolder path = true := by
  rw [makeFolders] at h
  cases hparts : PathName.parts path with
  | nil => exact .inl rfl
  | cons part rest =>
      right
      rw [hparts, List.length_cons, ensureFolders] at h
      split at h
      · next hmake =>
          obtain ⟨-, rfl⟩ := Prod.mk.inj h
          exact hasFolder_of_makeFolder hmake
      · split at h
        · exact hasFolder_of_ensureFolder h
        · next hfailed => exact absurd h (hfailed _)
      · split at h
        · next hfolder =>
            obtain ⟨-, rfl⟩ := Prod.mk.inj h
            exact hfolder
        · cases (Prod.mk.inj h).1

/-- A folder that is there is not made again. -/
theorem makeFolders_of_hasFolder (h : PathName.parts path = [] ∨ t.hasFolder path = true) :
    t.makeFolders path = (none, t) := by
  rw [makeFolders]
  cases hparts : PathName.parts path with
  | nil => rfl
  | cons part rest =>
      rcases h with hnil | hfolder
      · rw [hparts] at hnil
        cases hnil
      · obtain ⟨names, hlocate, hentry⟩ := hasFolder_iff.mp hfolder
        obtain ⟨entries, hnode⟩ := get?_folder_of_entryAt? hentry
        have hplace : t.placeFor path .alreadyExists = .error .alreadyExists :=
          bind_error_iff.mpr (.inr ⟨names, hlocate, by rw [hnode]⟩)
        have hmake : t.makeFolder path = .error .alreadyExists :=
          bind_error_iff.mpr (.inl hplace)
        rw [List.length_cons, ensureFolders, hmake]
        dsimp only
        rw [if_pos hfolder]

/-! ## Runs over some of the artifacts -/

theorem holds_iff {text : String} : t.holds path text = true ↔ t.readText path = .ok text := by
  rw [holds]
  split
  · next old hold => rw [hold, beq_iff_eq, Except.ok.injEq]
  · next e he => rw [he]; exact ⟨nofun, nofun⟩

/-- What putting an artifact into its file does: nothing if the file holds it, and else the
file is written. -/
inductive Puts (t : FileTree) (dir : String) (a : Artifact) : OutputFile → FileTree → Prop
  | left (h : t.readText (PathName.join dir a.fileName) = .ok a.source) :
      Puts t dir a ⟨PathName.join dir a.fileName, false⟩ t
  | written {t' : FileTree} (h : t.readText (PathName.join dir a.fileName) ≠ .ok a.source)
      (hwrite : t.write (PathName.join dir a.fileName) a.source.toUTF8 = .ok t') :
      Puts t dir a ⟨PathName.join dir a.fileName, true⟩ t'

theorem puts_of_writeArtifact {a : Artifact} {output : OutputFile}
    (h : t.writeArtifact dir a = .ok (output, t')) : t.Puts dir a output t' := by
  rw [writeArtifact] at h
  split at h
  · next hholds =>
      obtain ⟨rfl, rfl⟩ := Prod.mk.inj (Except.ok.inj h)
      exact .left (holds_iff.mp hholds)
  · next hdiffers =>
      split at h
      · next hwrite =>
          obtain ⟨rfl, rfl⟩ := Prod.mk.inj (Except.ok.inj h)
          exact .written (mt holds_iff.mpr hdiffers) hwrite
      · cases h

theorem writeArtifact_of_readText {a : Artifact}
    (h : t.readText (PathName.join dir a.fileName) = .ok a.source) :
    t.writeArtifact dir a = .ok (⟨PathName.join dir a.fileName, false⟩, t) := by
  rw [writeArtifact, if_pos (holds_iff.mpr h)]

variable {before after artifacts : List Artifact} {done files : List OutputFile} {fault : Fault}

theorem writeEach_cons_ok {a : Artifact} {rest : List Artifact} {output : OutputFile}
    (h : t.writeArtifact dir a = .ok (output, t')) :
    t.writeEach dir done (a :: rest) = t'.writeEach dir (done ++ [output]) rest := by
  rw [writeEach_cons, h]

theorem writeEach_cons_error {a : Artifact} {rest : List Artifact}
    (h : t.writeArtifact dir a = .error fault) :
    t.writeEach dir done (a :: rest) = ⟨t, .error fault⟩ := by
  rw [writeEach_cons, h]

/-- A run goes on from where a run over the artifacts in front has ended. -/
theorem writeEach_append (before after : List Artifact) :
    ∀ (t : FileTree) (done : List OutputFile),
      t.writeEach dir done (before ++ after) =
        match (t.writeEach dir done before).outcome with
        | .ok files => (t.writeEach dir done before).tree.writeEach dir files after
        | .error _ => t.writeEach dir done before := by
  induction before with
  | nil => exact fun _ _ => rfl
  | cons a rest ih =>
      intro t done
      rw [List.cons_append]
      cases hwrite : t.writeArtifact dir a with
      | error fault => rw [writeEach_cons_error hwrite, writeEach_cons_error hwrite]
      | ok written => rw [writeEach_cons_ok hwrite, writeEach_cons_ok hwrite, ih]

/-- A run that has written everything has a file for each artifact, behind those that it
began with. -/
theorem writeEach_grows (artifacts : List Artifact) : ∀ {t : FileTree} {done : List OutputFile},
    (t.writeEach dir done artifacts).outcome = .ok files →
      ∃ more, files = done ++ more ∧ more.length = artifacts.length := by
  induction artifacts with
  | nil =>
      intro t done h
      exact ⟨[], (Except.ok.inj h).symm.trans (List.append_nil done).symm, rfl⟩
  | cons a rest ih =>
      intro t done h
      cases hwrite : t.writeArtifact dir a with
      | error fault =>
          rw [writeEach_cons_error hwrite] at h
          cases h
      | ok written =>
          rw [writeEach_cons_ok hwrite] at h
          obtain ⟨more, rfl, hlength⟩ := ih h
          refine ⟨written.1 :: more, List.append_assoc .., ?_⟩
          rw [List.length_cons, List.length_cons, hlength]

/-- A run that stopped has left what a run over the artifacts in front of the failing one
leaves. -/
theorem writeEach_stopped (artifacts : List Artifact) :
    ∀ {t : FileTree} {done : List OutputFile},
      (t.writeEach dir done artifacts).outcome = .error fault →
        ∃ before a after files, artifacts = before ++ a :: after ∧
          t.writeEach dir done before = ⟨(t.writeEach dir done artifacts).tree, .ok files⟩ ∧
          (t.writeEach dir done artifacts).tree.writeArtifact dir a = .error fault := by
  induction artifacts with
  | nil => exact nofun
  | cons a rest ih =>
      intro t done h
      cases hwrite : t.writeArtifact dir a with
      | error fault' =>
          rw [writeEach_cons_error hwrite] at h ⊢
          obtain rfl := Except.error.inj h
          exact ⟨[], a, rest, done, rfl, rfl, hwrite⟩
      | ok written =>
          rw [writeEach_cons_ok hwrite] at h ⊢
          obtain ⟨before, b, after, files, rfl, hbefore, hb⟩ := ih h
          refine ⟨a :: before, b, after, files, rfl, ?_, hb⟩
          rw [writeEach_cons_ok hwrite, hbefore]

/-- Nothing is written where every file holds its text. -/
theorem writeEach_held : ∀ (artifacts : List Artifact) (done : List OutputFile),
    (∀ a ∈ artifacts, t.readText (PathName.join dir a.fileName) = .ok a.source) →
      t.writeEach dir done artifacts
        = ⟨t, .ok (done ++ artifacts.map fun a => ⟨PathName.join dir a.fileName, false⟩)⟩ := by
  intro artifacts
  induction artifacts with
  | nil => exact fun done _ => by rw [List.map_nil, List.append_nil]; rfl
  | cons a rest ih =>
      intro done h
      have hrest := ih (done ++ [⟨PathName.join dir a.fileName, false⟩])
        fun b hb => h b (List.mem_cons_of_mem a hb)
      rw [writeEach_cons_ok (writeArtifact_of_readText (h a List.mem_cons_self)), hrest,
        List.append_assoc]
      rfl

/-! ## Runs with their folder -/

theorem writeArtifacts_of_makeFolders (h : t.makeFolders dir = (none, t'))
    (artifacts : List Artifact) : t.writeArtifacts dir artifacts = t'.writeEach dir [] artifacts := by
  rw [writeArtifacts, h]

/-- Whatever was written was written into a folder that could be made. -/
theorem exists_makeFolders (h : (t.writeArtifacts dir artifacts).outcome = .ok files) :
    ∃ t', t.makeFolders dir = (none, t') ∧ t.Grows t' ∧
      ∀ artifacts, t.writeArtifacts dir artifacts = t'.writeEach dir [] artifacts := by
  have hgrows := makeFolders_grows t dir
  rcases hmake : t.makeFolders dir with ⟨failed, t'⟩
  rw [hmake] at hgrows
  cases failed with
  | some e =>
      rw [writeArtifacts, hmake] at h
      cases h
  | none => exact ⟨t', rfl, hgrows, writeArtifacts_of_makeFolders hmake⟩

/-- What an artifact found, and what was done to its file. -/
theorem puts_of_writeArtifacts {a : Artifact}
    (h : (t.writeArtifacts dir (before ++ a :: after)).outcome = .ok files) :
    ∃ output, files[before.length]? = some output ∧
      (t.writeArtifacts dir before).tree.Puts dir a output
        (t.writeArtifacts dir (before ++ [a])).tree := by
  obtain ⟨t', -, -, hrun⟩ := exists_makeFolders h
  rw [hrun, writeEach_append] at h
  rw [hrun, hrun, writeEach_append]
  cases hbefore : (t'.writeEach dir [] before).outcome with
  | error e =>
      rw [hbefore] at h
      exact nomatch hbefore.symm.trans h
  | ok front =>
      rw [hbefore] at h
      dsimp only at h ⊢
      cases hwrite : (t'.writeEach dir [] before).tree.writeArtifact dir a with
      | error fault =>
          rw [writeEach_cons_error hwrite] at h
          cases h
      | ok written =>
          rw [writeEach_cons_ok hwrite] at h ⊢
          obtain ⟨more, rfl, -⟩ := writeEach_grows after h
          obtain ⟨front, rfl, hlength⟩ := writeEach_grows before hbefore
          refine ⟨written.1, ?_, puts_of_writeArtifact hwrite⟩
          rw [List.append_assoc, List.getElem?_append_right (by omega), hlength, Nat.sub_self]
          rfl

/-- What writing artifacts does, by how it ended. -/
structure WritesOut (t : FileTree) (dir : String) (artifacts : List Artifact) (r : WriteResult) :
    Prop where
  paths : ∀ files, r.outcome = .ok files →
    files.map OutputFile.path = artifacts.map fun a => PathName.join dir a.fileName
  stored : ∀ files, r.outcome = .ok files → t.Stored dir artifacts r.tree
  /-- A file is written only if it did not hold the text of its artifact when that was
  reached. -/
  puts : ∀ files, r.outcome = .ok files → ∀ before a after, artifacts = before ++ a :: after →
    ∃ output, files[before.length]? = some output ∧
      (t.writeArtifacts dir before).tree.Puts dir a output
        (t.writeArtifacts dir (before ++ [a])).tree
  /-- Artifacts for files of their own need no second writing. -/
  again : ∀ files, r.outcome = .ok files → (artifacts.map Artifact.fileName).Nodup →
    r.tree.writeArtifacts dir artifacts
      = ⟨r.tree, .ok (artifacts.map fun a => ⟨PathName.join dir a.fileName, false⟩)⟩
  /-- The folder could not be made, or else the artifacts in front of one that could not be
  written are all that was written. -/
  stopped : ∀ fault, r.outcome = .error fault →
    (∃ e : DiskError, fault = .access dir e.text ∧ t.Stored dir [] r.tree) ∨
      ∃ before a after, ∃ e : DiskError, artifacts = before ++ a :: after ∧
        fault = .access (PathName.join dir a.fileName) e.text ∧
        r.tree.write (PathName.join dir a.fileName) a.source.toUTF8 = .error e ∧
        r.tree = (t.writeArtifacts dir before).tree ∧ t.Stored dir before r.tree

theorem stored_of_ok (hplain : ∀ a ∈ artifacts, PathName.IsPlain a.fileName)
    (h : (t.writeArtifacts dir artifacts).outcome = .ok files) :
    files.map OutputFile.path = artifacts.map (fun a => PathName.join dir a.fileName) ∧
      t.Stored dir artifacts (t.writeArtifacts dir artifacts).tree := by
  obtain ⟨t', -, hgrows, hrun⟩ := exists_makeFolders h
  rw [hrun] at h ⊢
  rcases writeEach_cases dir artifacts t' [] with
    ⟨files', houtcome, hfiles, hwritten⟩ | ⟨-, a, -, e, -, herror, -⟩
  · obtain rfl := Except.ok.inj (h.symm.trans houtcome)
    exact ⟨hfiles, hwritten.stored hgrows hplain⟩
  · rw [herror] at h
    cases h

/-- The folder is there when everything is written, so a second run has nothing to make. -/
theorem makeFolders_again (h : (t.writeArtifacts dir artifacts).outcome = .ok files) :
    (t.writeArtifacts dir artifacts).tree.makeFolders dir
      = (none, (t.writeArtifacts dir artifacts).tree) := by
  obtain ⟨t', hmake, -, hrun⟩ := exists_makeFolders h
  have hkeeps : t'.Keeps (t.writeArtifacts dir artifacts).tree := by
    rw [hrun] at h ⊢
    rcases writeEach_cases dir artifacts t' [] with
      ⟨-, -, -, hwritten⟩ | ⟨-, a, -, e, -, herror, -⟩
    · exact hwritten.keeps
    · rw [herror] at h
      cases h
  exact makeFolders_of_hasFolder ((hasFolder_of_makeFolders hmake).imp_right (hasFolder_mono hkeeps))

/-- A second run finds everything as it should be. -/
theorem writeArtifacts_again (hplain : ∀ a ∈ artifacts, PathName.IsPlain a.fileName)
    (hnodup : (artifacts.map Artifact.fileName).Nodup)
    (h : (t.writeArtifacts dir artifacts).outcome = .ok files) :
    (t.writeArtifacts dir artifacts).tree.writeArtifacts dir artifacts
      = ⟨(t.writeArtifacts dir artifacts).tree,
          .ok (artifacts.map fun a => ⟨PathName.join dir a.fileName, false⟩)⟩ := by
  have hsources := ((stored_of_ok hplain h).2.delivered hnodup).sources
  rw [writeArtifacts_of_makeFolders (makeFolders_again h), writeEach_held artifacts [] hsources]
  rfl

/-- A run that stopped could not make its folder, or it has left what a run over the
artifacts in front of the failing one leaves. -/
theorem stored_of_error (hplain : ∀ a ∈ artifacts, PathName.IsPlain a.fileName)
    (h : (t.writeArtifacts dir artifacts).outcome = .error fault) :
    (∃ e : DiskError, fault = .access dir e.text ∧
        t.Stored dir [] (t.writeArtifacts dir artifacts).tree) ∨
      ∃ before a after, ∃ e : DiskError, artifacts = before ++ a :: after ∧
        fault = .access (PathName.join dir a.fileName) e.text ∧
        (t.writeArtifacts dir artifacts).tree.write (PathName.join dir a.fileName)
          a.source.toUTF8 = .error e ∧
        (t.writeArtifacts dir artifacts).tree = (t.writeArtifacts dir before).tree ∧
        t.Stored dir before (t.writeArtifacts dir artifacts).tree := by
  have hgrows := makeFolders_grows t dir
  rcases hmake : t.makeFolders dir with ⟨failed, t'⟩
  rw [hmake] at hgrows
  cases failed with
  | some e =>
      rw [writeArtifacts, hmake] at h ⊢
      exact .inl ⟨e, (Except.error.inj h).symm,
        (Written.nil t').stored hgrows (List.forall_mem_nil _)⟩
  | none =>
      have hrun := writeArtifacts_of_makeFolders hmake
      rw [hrun] at h
      obtain ⟨before, a, after, files, rfl, hbefore, hfails⟩ := writeEach_stopped artifacts h
      obtain ⟨e, hwrite, rfl⟩ := writeArtifact_error hfails
      rw [← hrun] at hwrite
      rw [← hrun, ← hrun] at hbefore
      have hstored := stored_of_ok (fun b hb => hplain b (List.mem_append_left _ hb))
        (congrArg WriteResult.outcome hbefore)
      rw [hbefore] at hstored
      exact .inr ⟨before, a, after, e, rfl, rfl, hwrite, by rw [hbefore], hstored.2⟩

/-- Artifacts that are written are found where they should be and nothing else changes; what
is there already is left alone; and what keeps one from being written keeps the later ones
from being reached. -/
theorem writeArtifacts_writesOut (t : FileTree) (dir : String) (artifacts : List Artifact)
    (hplain : ∀ a ∈ artifacts, PathName.IsPlain a.fileName) :
    t.WritesOut dir artifacts (t.writeArtifacts dir artifacts) where
  paths files h := (stored_of_ok hplain h).1
  stored files h := (stored_of_ok hplain h).2
  puts files h before a after hsplit := by
    rw [hsplit] at h
    exact puts_of_writeArtifacts h
  again files h hnodup := writeArtifacts_again hplain hnodup h
  stopped fault h := stored_of_error hplain h

/-- A folder with a file that is up to date, and one that is no text. -/
def staleOutput : FileTree :=
  .folder [("out", .folder [("b.rs", .file ⟨#[255]⟩), ("a.rs", .file "mod a".toUTF8)])]

/-- Two artifacts for the files that are there, and one for a new file. -/
def freshArtifacts : List Artifact :=
  [⟨"IA", "crate", "A", "a.rs", "mod a"⟩, ⟨"IB", "crate", "B", "b.rs", "mod b"⟩,
    ⟨"IC", "crate", "C", "c.rs", "mod c"⟩]

theorem writeArtifacts_writesOut_fresh :
    (∀ a ∈ freshArtifacts, PathName.IsPlain a.fileName) ∧
      ∃ files, (staleOutput.writeArtifacts "/out" freshArtifacts).outcome = .ok files ∧
        files.map OutputFile.rewritten = [false, true, true] ∧
        staleOutput.Stored "/out" freshArtifacts
          (staleOutput.writeArtifacts "/out" freshArtifacts).tree ∧
        ((staleOutput.writeArtifacts "/out" freshArtifacts).tree.writeArtifacts "/out"
          freshArtifacts).outcome
          = .ok [⟨"/out/a.rs", false⟩, ⟨"/out/b.rs", false⟩, ⟨"/out/c.rs", false⟩] := by
  have hplain : ∀ a ∈ freshArtifacts, PathName.IsPlain a.fileName := by decide
  have hrun : (staleOutput.writeArtifacts "/out" freshArtifacts).outcome.toOption.map
      (·.map OutputFile.rewritten) = some [false, true, true] := by
    decide +kernel
  cases houtcome : (staleOutput.writeArtifacts "/out" freshArtifacts).outcome with
  | error fault =>
      rw [houtcome] at hrun
      cases hrun
  | ok files =>
      rw [houtcome] at hrun
      have hwrites := writeArtifacts_writesOut staleOutput "/out" freshArtifacts hplain
      refine ⟨hplain, files, rfl, Option.some.inj hrun, hwrites.stored files houtcome, ?_⟩
      rw [hwrites.again files houtcome (by decide)]
      decide +kernel

end TraitRoutes.FileTree
