import TraitRoutes.Proofs.FileDelivery

/-!
# Taking files

Handlers take uploaded files out of a collection by calls of three kinds. However many calls
there are, each file is in one place: with one of the calls, or among the files left, and these
stand in the order of upload.

A call parts the files into those it takes and those it leaves, and all that is said here is
about these two parts. They follow the list: a file of another name is left, and a file of the
name of the call is taken, whereupon a call for one file leaves everything behind it. That is
why every call has the same two equations, and why calls for two names do not get in the way of
each other.
-/

namespace TraitRoutes.Http

/-! ## Calls -/

/-- A call on a collection of files. -/
inductive FileCall where
  | take (name : String)
  | require (name : String)
  | takeAll (name : String)

/-- What a call returns. -/
inductive FileReturn where
  | file (file : Option FormFile)
  | required (file : Except MissingFile FormFile)
  | collection (files : FormFiles)

/-- The files in what a call returns. -/
def FileReturn.files : FileReturn → List FormFile
  | file found => found.toList
  | required (.ok found) => [found]
  | required (.error _) => []
  | collection found => found.files

namespace FileCall

/-- The name that a call asks for. -/
def name : FileCall → String
  | take name | require name | takeAll name => name

/-- What a call returns, and the collection behind it. -/
def run : FileCall → FormFiles → FileReturn × FormFiles
  | take name, fs => (.file (fs.take name).1, (fs.take name).2)
  | require name, fs => (.required (fs.require name).1, (fs.require name).2)
  | takeAll name, fs => (.collection (fs.takeAll name).1, (fs.takeAll name).2)

end FileCall

namespace FormFiles

/-- What the calls of a sequence return, and the collection behind them. -/
def runCalls : List FileCall → FormFiles → List FileReturn × FormFiles
  | [], fs => ([], fs)
  | c :: more, fs =>
    ((c.run fs).1 :: (runCalls more (c.run fs).2).1, (runCalls more (c.run fs).2).2)

/-- No file was uploaded under the name. -/
def Lacks (fs : FormFiles) (name : String) : Prop := ∀ f ∈ fs.files, f.field ≠ name

end FormFiles

/-! ## The files that a call takes, and those that it leaves -/

namespace FileCall

variable {c d : FileCall} {files : List FormFile}

/-- The call takes all files of its name. -/
def isForAll : FileCall → Bool
  | takeAll _ => true
  | take _ | require _ => false

/-- The files that a call takes. -/
def taken (c : FileCall) : List FormFile → List FormFile
  | [] => []
  | f :: rest =>
    if f.field = c.name then f :: (if c.isForAll then c.taken rest else []) else c.taken rest

/-- The files that a call leaves. -/
def left (c : FileCall) : List FormFile → List FormFile
  | [] => []
  | f :: rest =>
    if f.field = c.name then (if c.isForAll then c.left rest else rest) else f :: c.left rest

/-- What a call returns for the files that it takes. -/
def give : FileCall → List FormFile → FileReturn
  | take _, found => .file found.head?
  | require name, found =>
    .required (match found.head? with
      | some f => .ok f
      | none => .error ⟨name⟩)
  | takeAll _, found => .collection ⟨found⟩

variable {f : FormFile}

theorem taken_cons_of_eq (hname : f.field = c.name) (rest : List FormFile) :
    c.taken (f :: rest) = f :: (if c.isForAll then c.taken rest else []) := if_pos hname

theorem taken_cons_of_ne (hname : f.field ≠ c.name) (rest : List FormFile) :
    c.taken (f :: rest) = c.taken rest := if_neg hname

theorem left_cons_of_eq (hname : f.field = c.name) (rest : List FormFile) :
    c.left (f :: rest) = if c.isForAll then c.left rest else rest := if_pos hname

theorem left_cons_of_ne (hname : f.field ≠ c.name) (rest : List FormFile) :
    c.left (f :: rest) = f :: c.left rest := if_neg hname

theorem filter_eq_taken (name : String) (files : List FormFile) :
    files.filter (fun f => f.field == name) = (takeAll name).taken files := by
  induction files with
  | nil => rfl
  | cons f rest ih =>
      by_cases hname : f.field = name
      · rw [taken_cons_of_eq (c := takeAll name) hname, List.filter_cons,
          if_pos (beq_iff_eq.mpr hname), ih]
        rfl
      · rw [taken_cons_of_ne (c := takeAll name) hname, List.filter_cons,
          if_neg (by simpa using hname), ih]

theorem filter_not_eq_left (name : String) (files : List FormFile) :
    files.filter (fun f => !(f.field == name)) = (takeAll name).left files := by
  induction files with
  | nil => rfl
  | cons f rest ih =>
      by_cases hname : f.field = name
      · rw [left_cons_of_eq (c := takeAll name) hname, List.filter_cons,
          if_neg (by simpa using hname), ih]
        rfl
      · rw [left_cons_of_ne (c := takeAll name) hname, List.filter_cons,
          if_pos (by simpa using hname), ih]

theorem find?_eq_head? (c : FileCall) (files : List FormFile) :
    files.find? (·.field == c.name) = (c.taken files).head? := by
  induction files with
  | nil => rfl
  | cons f rest ih =>
      by_cases hname : f.field = c.name
      · rw [taken_cons_of_eq hname, List.find?_cons, beq_iff_eq.mpr hname]
        rfl
      · rw [taken_cons_of_ne hname, List.find?_cons, beq_eq_false_iff_ne.mpr hname, ih]

theorem eraseP_eq_left (hone : c.isForAll = false) (files : List FormFile) :
    files.eraseP (·.field == c.name) = c.left files := by
  induction files with
  | nil => rfl
  | cons f rest ih =>
      by_cases hname : f.field = c.name
      · rw [left_cons_of_eq hname, List.eraseP_cons, beq_iff_eq.mpr hname, hone]
        rfl
      · rw [left_cons_of_ne hname, List.eraseP_cons, beq_eq_false_iff_ne.mpr hname, ih]
        rfl

theorem run_eq (c : FileCall) (fs : FormFiles) :
    c.run fs = (c.give (c.taken fs.files), ⟨c.left fs.files⟩) := by
  obtain ⟨files⟩ := fs
  have hfind := c.find?_eq_head? files
  cases c with
  | take name =>
      rw [run, FormFiles.take_eq, ← eraseP_eq_left (c := take name) rfl, give, ← hfind]
      rfl
  | require name =>
      rw [run, FormFiles.require, FormFiles.take_eq, ← eraseP_eq_left (c := require name) rfl, give,
        ← hfind, FileCall.name]
      cases files.find? (·.field == name) <;> rfl
  | takeAll name =>
      rw [run, FormFiles.takeAll, filter_eq_taken, filter_not_eq_left]
      rfl

theorem length_taken_le (hone : c.isForAll = false) (files : List FormFile) :
    (c.taken files).length ≤ 1 := by
  induction files with
  | nil => exact Nat.zero_le 1
  | cons f rest ih =>
      by_cases hname : f.field = c.name
      · rw [taken_cons_of_eq hname, hone]
        exact Nat.le_refl 1
      · rw [taken_cons_of_ne hname]
        exact ih

theorem files_give (c : FileCall) (files : List FormFile) :
    (c.give (c.taken files)).files = c.taken files := by
  have hsingle : c.isForAll = false → (c.taken files).head?.toList = c.taken files := by
    intro hone
    have hle := length_taken_le hone files
    cases hfound : c.taken files with
    | nil => rfl
    | cons f more =>
        rw [hfound, List.length_cons] at hle
        rw [List.length_eq_zero_iff.mp (by omega : more.length = 0)]
        rfl
  cases c with
  | take name => exact hsingle rfl
  | require name =>
      have hrequired := hsingle rfl
      rw [give]
      cases hhead : ((require name).taken files).head? <;> rw [hhead] at hrequired <;>
        exact hrequired
  | takeAll name => rfl

theorem taken_append_left_perm (c : FileCall) (files : List FormFile) :
    (c.taken files ++ c.left files).Perm files := by
  induction files with
  | nil => exact .refl _
  | cons f rest ih =>
      by_cases hname : f.field = c.name
      · rw [taken_cons_of_eq hname, left_cons_of_eq hname]
        cases c.isForAll with
        | true => exact ih.cons f
        | false => exact .refl _
      · rw [taken_cons_of_ne hname, left_cons_of_ne hname]
        exact List.perm_middle.trans (ih.cons f)

theorem left_sublist (c : FileCall) (files : List FormFile) : (c.left files).Sublist files := by
  induction files with
  | nil => exact .refl _
  | cons f rest ih =>
      by_cases hname : f.field = c.name
      · rw [left_cons_of_eq hname]
        cases c.isForAll with
        | true => exact ih.cons f
        | false => exact (List.Sublist.refl rest).cons f
      · rw [left_cons_of_ne hname]
        exact ih.cons_cons f

theorem taken_sublist (c : FileCall) (files : List FormFile) : (c.taken files).Sublist files := by
  induction files with
  | nil => exact .refl _
  | cons f rest ih =>
      by_cases hname : f.field = c.name
      · rw [taken_cons_of_eq hname]
        cases c.isForAll with
        | true => exact ih.cons_cons f
        | false => exact (List.nil_sublist rest).cons_cons f
      · rw [taken_cons_of_ne hname]
        exact ih.cons f

theorem taken_eq_nil_iff (c : FileCall) (fs : FormFiles) :
    c.taken fs.files = [] ↔ fs.Lacks c.name := by
  obtain ⟨files⟩ := fs
  rw [FormFiles.Lacks]
  induction files with
  | nil => exact ⟨fun _ f hf => absurd hf List.not_mem_nil, fun _ => rfl⟩
  | cons f rest ih =>
      rw [List.forall_mem_cons]
      by_cases hname : f.field = c.name
      · rw [taken_cons_of_eq hname]
        exact ⟨fun h => absurd h (List.cons_ne_nil _ _), fun h => absurd hname h.1⟩
      · rw [taken_cons_of_ne hname]
        exact ih.trans ⟨fun h => ⟨hname, h⟩, And.right⟩

/-- A call that takes nothing changes nothing. -/
theorem left_of_taken_eq_nil (h : c.taken files = []) : c.left files = files := by
  have hperm := taken_append_left_perm c files
  rw [h, List.nil_append] at hperm
  exact (left_sublist c files).eq_of_length hperm.length_eq

/-! ## Two calls -/

theorem taken_left (hne : c.name ≠ d.name) (files : List FormFile) :
    c.taken (d.left files) = c.taken files := by
  induction files with
  | nil => rfl
  | cons f rest ih =>
      by_cases hd : f.field = d.name
      · rw [left_cons_of_eq hd, taken_cons_of_ne fun hc => hne (hc.symm.trans hd)]
        cases d.isForAll with
        | true => exact ih
        | false => rfl
      · rw [left_cons_of_ne hd, taken, taken, ih]

theorem left_left (hne : c.name ≠ d.name) (files : List FormFile) :
    c.left (d.left files) = d.left (c.left files) := by
  induction files with
  | nil => rfl
  | cons f rest ih =>
      by_cases hd : f.field = d.name
      · have hc : f.field ≠ c.name := fun hc => hne (hc.symm.trans hd)
        rw [left_cons_of_eq hd, left_cons_of_ne hc, left_cons_of_eq hd]
        cases d.isForAll with
        | true => exact ih
        | false => rfl
      · rw [left_cons_of_ne hd]
        by_cases hc : f.field = c.name
        · rw [left_cons_of_eq hc, left_cons_of_eq hc]
          cases c.isForAll with
          | true => exact ih
          | false => rfl
        · rw [left_cons_of_ne hc, left_cons_of_ne hc, left_cons_of_ne hd, ih]

/-- All files are one file and then all that are left. -/
theorem taken_takeAll (name : String) (files : List FormFile) :
    (takeAll name).taken files
      = (take name).taken files ++ (takeAll name).taken ((take name).left files) := by
  induction files with
  | nil => rfl
  | cons f rest ih =>
      by_cases hname : f.field = name
      · rw [taken_cons_of_eq (c := takeAll name) hname, taken_cons_of_eq (c := take name) hname,
          left_cons_of_eq (c := take name) hname]
        rfl
      · rw [taken_cons_of_ne (c := takeAll name) hname, taken_cons_of_ne (c := take name) hname,
          left_cons_of_ne (c := take name) hname, taken_cons_of_ne (c := takeAll name) hname, ih]

theorem left_takeAll (name : String) (files : List FormFile) :
    (takeAll name).left ((take name).left files) = (takeAll name).left files := by
  induction files with
  | nil => rfl
  | cons f rest ih =>
      by_cases hname : f.field = name
      · rw [left_cons_of_eq (c := takeAll name) hname, left_cons_of_eq (c := take name) hname]
        rfl
      · rw [left_cons_of_ne (c := takeAll name) hname, left_cons_of_ne (c := take name) hname,
          left_cons_of_ne (c := takeAll name) hname, ih]

end FileCall

/-! ## Sequences of calls -/

namespace FormFiles

theorem runCalls_perm (calls : List FileCall) (fs : FormFiles) :
    ((runCalls calls fs).1.flatMap FileReturn.files ++ (runCalls calls fs).2.files).Perm
      fs.files := by
  induction calls generalizing fs with
  | nil => exact .refl _
  | cons c more ih =>
      rw [runCalls, c.run_eq, List.flatMap_cons, c.files_give, List.append_assoc]
      exact ((ih _).append_left _).trans (c.taken_append_left_perm fs.files)

theorem runCalls_sublist (calls : List FileCall) (fs : FormFiles) :
    (runCalls calls fs).2.files.Sublist fs.files := by
  induction calls generalizing fs with
  | nil => exact .refl _
  | cons c more ih =>
      rw [runCalls, c.run_eq]
      exact (ih _).trans (c.left_sublist fs.files)

theorem returned_sublist (calls : List FileCall) (fs : FormFiles) :
    ∀ r ∈ (runCalls calls fs).1, r.files.Sublist fs.files := by
  induction calls generalizing fs with
  | nil => exact fun r hr => absurd hr List.not_mem_nil
  | cons c more ih =>
      rw [runCalls, c.run_eq]
      intro r hr
      rcases List.mem_cons.mp hr with rfl | hr
      · rw [c.files_give]
        exact c.taken_sublist fs.files
      · exact (ih _ r hr).trans (c.left_sublist fs.files)

theorem take_eq_none_iff {fs : FormFiles} {name : String} :
    (fs.take name).1 = none ↔ fs.Lacks name := by
  have hrun := FileReturn.file.inj (Prod.mk.inj ((FileCall.take name).run_eq fs)).1
  rw [hrun, List.head?_eq_none_iff]
  exact (FileCall.take name).taken_eq_nil_iff fs

theorem require_eq_error_iff {fs : FormFiles} {name : String} {e : MissingFile} :
    (fs.require name).1 = .error e ↔ e = ⟨name⟩ ∧ fs.Lacks name := by
  rw [← take_eq_none_iff, require]
  split
  · next f left hfile => simp [hfile]
  · next left hnone => simp [hnone, eq_comm]

theorem take_of_lacks {fs : FormFiles} {name : String} (h : fs.Lacks name) :
    (fs.take name).2 = fs := by
  rw [(Prod.mk.inj ((FileCall.take name).run_eq fs)).2,
    FileCall.left_of_taken_eq_nil (((FileCall.take name).taken_eq_nil_iff fs).mpr h)]

theorem require_left (fs : FormFiles) (name : String) :
    (fs.require name).2 = (fs.take name).2 := by
  rw [require]
  split <;> simp_all

theorem files_take {fs : FormFiles} {name : String} {f : FormFile}
    (h : (fs.take name).1 = some f) : (FileCall.take name).taken fs.files = [f] := by
  have hrun := (Prod.mk.inj ((FileCall.take name).run_eq fs)).1
  rw [← FileCall.files_give, ← hrun, h]
  rfl

theorem take_left (fs : FormFiles) (name : String) :
    (fs.take name).2 = ⟨(FileCall.take name).left fs.files⟩ :=
  (Prod.mk.inj ((FileCall.take name).run_eq fs)).2

theorem length_take_lt {fs : FormFiles} {name : String} {f : FormFile}
    (h : (fs.take name).1 = some f) : (fs.take name).2.files.length < fs.files.length := by
  have hlength := ((FileCall.take name).taken_append_left_perm fs.files).length_eq
  rw [files_take h, List.singleton_append, List.length_cons] at hlength
  rw [take_left, ← hlength]
  exact Nat.lt_succ_self _

/-- Takes single files of a name until there is none. -/
def takeEach (fs : FormFiles) (name : String) : List FormFile × FormFiles :=
  match _found : (fs.take name).1 with
  | none => ([], (fs.take name).2)
  | some f =>
    (f :: (takeEach (fs.take name).2 name).1, (takeEach (fs.take name).2 name).2)
termination_by fs.files.length
decreasing_by all_goals exact length_take_lt _found

theorem takeAll_eq (fs : FormFiles) (name : String) :
    fs.takeAll name
      = (⟨(FileCall.takeAll name).taken fs.files⟩, ⟨(FileCall.takeAll name).left fs.files⟩) := by
  rw [takeAll, FileCall.filter_eq_taken, FileCall.filter_not_eq_left]

/-- Single files and all files at once are the same files, and leave the same. -/
theorem takeEach_eq (fs : FormFiles) (name : String) :
    fs.takeEach name = ((fs.takeAll name).1.files, (fs.takeAll name).2) := by
  rw [takeAll_eq]
  fun_induction takeEach fs name with
  | case1 fs hnone =>
      have hlacks := take_eq_none_iff.mp hnone
      have htaken := ((FileCall.takeAll name).taken_eq_nil_iff fs).mpr hlacks
      rw [take_of_lacks hlacks, htaken, FileCall.left_of_taken_eq_nil htaken]
  | case2 fs f hsome ih =>
      rw [ih, take_left, FileCall.left_takeAll, FileCall.taken_takeAll name fs.files,
        files_take hsome]
      rfl

/-- Calls for two names return the same in either order, and leave the same. -/
theorem runCalls_comm {c d : FileCall} (hne : c.name ≠ d.name) (fs : FormFiles) :
    ∃ first second rest, runCalls [c, d] fs = ([first, second], rest) ∧
      runCalls [d, c] fs = ([second, first], rest) := by
  refine ⟨_, _, _, rfl, ?_⟩
  simp only [runCalls, FileCall.run_eq, FileCall.taken_left hne, FileCall.taken_left hne.symm,
    FileCall.left_left hne]

/-- Whatever is called, each file is either returned once or left, in the order of upload. A call
for one file fails if there is none of its name, and then changes nothing. All files of a name
are its single files one after the other, and the order of calls for two names does not matter. -/
theorem calls_share_files (fs : FormFiles) :
    (∀ calls : List FileCall,
      ((runCalls calls fs).1.flatMap FileReturn.files ++ (runCalls calls fs).2.files).Perm
        fs.files ∧
      (runCalls calls fs).2.files.Sublist fs.files ∧
      ∀ taken, .collection taken ∈ (runCalls calls fs).1 → taken.files.Sublist fs.files) ∧
    (∀ name : String,
      ((fs.take name).1 = none ↔ fs.Lacks name) ∧
      (∀ e, (fs.require name).1 = .error e ↔ e = ⟨name⟩ ∧ fs.Lacks name) ∧
      (fs.Lacks name → (fs.take name).2 = fs ∧ (fs.require name).2 = fs) ∧
      fs.takeEach name = ((fs.takeAll name).1.files, (fs.takeAll name).2)) ∧
    ∀ c d : FileCall, c.name ≠ d.name →
      ∃ first second rest, runCalls [c, d] fs = ([first, second], rest) ∧
        runCalls [d, c] fs = ([second, first], rest) := by
  refine ⟨fun calls => ⟨runCalls_perm calls fs, runCalls_sublist calls fs, fun taken htaken => ?_⟩,
    fun name => ⟨take_eq_none_iff, fun e => require_eq_error_iff, fun lacks => ?_,
      takeEach_eq fs name⟩,
    fun c d hne => runCalls_comm hne fs⟩
  · exact returned_sublist calls fs _ htaken
  · rw [require_left]
    exact ⟨take_of_lacks lacks, take_of_lacks lacks⟩

/-- Two documents with a picture between them. -/
def letter : FormFiles :=
  let file (field name : String) : FormFile := ⟨field, some name, none, []⟩
  ⟨[file "docs" "a.txt", file "avatar" "me.png", file "docs" "b.txt"]⟩

theorem letter_lacks : letter.Lacks "resume" := by
  intro f hf
  simp only [letter, List.mem_cons, List.not_mem_nil, or_false] at hf
  rcases hf with rfl | rfl | rfl <;> decide

theorem calls_share_files_letter :
    (letter.require "resume").1 = .error ⟨"resume"⟩ ∧ (letter.require "resume").2 = letter ∧
      ∃ first second rest,
        runCalls [.take "docs", .takeAll "avatar"] letter = ([first, second], rest) ∧
          runCalls [.takeAll "avatar", .take "docs"] letter = ([second, first], rest) := by
  obtain ⟨-, calls, order⟩ := calls_share_files letter
  obtain ⟨-, failing, unchanged, -⟩ := calls "resume"
  exact ⟨(failing _).mpr ⟨rfl, letter_lacks⟩, (unchanged letter_lacks).2, order _ _ (by decide)⟩

end FormFiles

end TraitRoutes.Http
