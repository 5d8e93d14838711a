import Mathlib.Data.List.Perm.Basic
import Mathlib.Data.List.Perm.Subperm
import TraitRoutes.Controller.FileReading
import TraitRoutes.Proofs.DistinctKeys
import TraitRoutes.Proofs.HandlerParts

/-!
# Who gets which files

A form is read to its end before any file is taken, and then the statements of a
handler take files out of one collection, one statement after the other. What a
parameter gets can be said without that order: a file goes to the parameter of its
name, unless that takes a single file and an earlier file was it, and what goes to
nobody by name is left to the collection.

The two meet because parameters have distinct names. A statement takes files of
its own name only, so what it finds is what was uploaded under that name, whatever
was taken before. The collection comes last, when all the others have theirs, and
what is left then is what none of them takes. The invariant of a run is just this:
the files left are those that no parameter so far takes, and they still stand in
the order of upload.
-/

namespace TraitRoutes

open Http (BodyError Field FieldStream FormFile FormFiles MissingFile)
open Synthesis (fileShape fileRead fileBinding fileOrder fileBindings)

/-! ## Reading a form -/

namespace Http

/-- The file in a field that has a name and can be read. -/
def Field.file? (field : Field) : Option FormFile :=
  match field.name, field.content with
  | some name, .ok content => some ⟨name, field.fileName, field.contentType, content⟩
  | _, _ => none

namespace FieldStream

/-- The fields in the order of the body, as far as they come. -/
def fields : FieldStream → List Field
  | done => []
  | failed _ => []
  | next field rest => field :: rest.fields

/-- The files that were uploaded under a name. -/
def files (s : FieldStream) : List FormFile := s.fields.filterMap Field.file?

/-- The first thing that goes wrong: the fields break off, or one with a name cannot
be read. -/
inductive Fails : FieldStream → BodyError → Prop
  | breaksOff (e : BodyError) : Fails (failed e) e
  | unreadable {field : Field} {rest : FieldStream} {name : String} {e : BodyError}
      (named : field.name = some name) (content : field.content = .error e) :
      Fails (next field rest) e
  | behind {field : Field} {rest : FieldStream} {e : BodyError}
      (passed : field.name = none ∨ ∃ content, field.content = .ok content)
      (later : Fails rest e) : Fails (next field rest) e

theorem Fails.gather_eq {s : FieldStream} {e : BodyError} (h : s.Fails e) :
    s.gather = .error e := by
  induction h with
  | breaksOff e => rfl
  | unreadable named content => simp only [gather, named, content]
  | @behind field rest e passed later ih =>
      rcases passed with hnone | ⟨content, hcontent⟩
      · simp only [gather, hnone, ih]
      · cases hname : field.name with
        | none => simp only [gather, hname, ih]
        | some name =>
            simp only [gather, hname, hcontent, ih]
            rfl

end FieldStream

theorem takeFirst_eq (field : String) (files : List FormFile) :
    takeFirst field files
      = (files.find? (·.field == field)).map (·, files.eraseP (·.field == field)) := by
  induction files with
  | nil => rfl
  | cons f rest ih =>
      rw [takeFirst, List.find?_cons, List.eraseP_cons]
      cases f.field == field with
      | true => rfl
      | false =>
          rw [ih]
          cases rest.find? (·.field == field) <;> rfl

theorem FormFiles.take_eq (field : String) (files : List FormFile) :
    (FormFiles.mk files).take field
      = (files.find? (·.field == field), ⟨files.eraseP (·.field == field)⟩) := by
  rw [FormFiles.take, takeFirst_eq]
  cases hfind : files.find? (·.field == field) with
  | some f => rfl
  | none =>
      have hnone : files.eraseP (·.field == field) = files :=
        List.eraseP_of_forall_not (List.find?_eq_none.mp hfind)
      rw [hnone]
      rfl

end Http

/-! ## Files picked out of a list -/

/-- The files that a rule picks. The rule sees which files come before. -/
def pick (rule : List FormFile → FormFile → Bool) (before : List FormFile) :
    List FormFile → List FormFile
  | [] => []
  | f :: rest => (if rule before f then [f] else []) ++ pick rule (before ++ [f]) rest

section Pick

variable {rule rule' : List FormFile → FormFile → Bool}

theorem pick_congr (before : List FormFile) {files : List FormFile}
    (h : ∀ b, ∀ f ∈ files, rule b f = rule' b f) : pick rule before files = pick rule' before files := by
  induction files generalizing before with
  | nil => rfl
  | cons f rest ih =>
      rw [pick, pick, h before f List.mem_cons_self,
        ih _ fun b g hg => h b g (List.mem_cons_of_mem _ hg)]

end Pick

/-! ## What a parameter takes -/

namespace Parameter

/-- Whether a parameter takes a file for its name. Of single files it takes the
first. -/
def takes (p : Parameter) (before : List FormFile) (f : FormFile) : Bool :=
  f.field == p.name &&
    match fileShape p with
    | .single => !before.any (·.field == p.name)
    | .sequence => true
    | .collection => false

/-- A file without which the request fails. -/
def RequiresFile (p : Parameter) : Prop := fileShape p = .single ∧ p.nullable = false

end Parameter

namespace Parameter

/-- Whether a parameter gets a file when files are handed out to parameters: one that
it takes, or if it is a collection, one that no parameter takes. -/
def gets (p : Parameter) (ps : List Parameter) (before : List FormFile) (f : FormFile) : Bool :=
  if fileShape p = .collection then !ps.any (·.takes before f) else p.takes before f

/-- All that a parameter gets, in the order of upload. -/
def share (p : Parameter) (ps : List Parameter) (files : List FormFile) : List FormFile :=
  pick (p.gets ps) [] files

end Parameter

/-- The value of a parameter that gets the given files, by its shape and by whether it
is declared as an `Option`. -/
inductive Delivers : FileShape → Bool → List FormFile → FileValue → Prop
  | one (f : FormFile) : Delivers .single false [f] (.one f)
  | optional (files : List FormFile) : Delivers .single true files (.optional files.head?)
  | many (files : List FormFile) : Delivers .sequence false files (.many files)
  | optionalMany (files : List FormFile) :
      Delivers .sequence true files
        (.optionalMany (if files.isEmpty then none else some files))
  | rest (files : List FormFile) : Delivers .collection false files (.rest ⟨files⟩)
  | optionalRest (files : List FormFile) :
      Delivers .collection true files
        (.optionalRest (if files.isEmpty then none else some ⟨files⟩))

theorem Delivers.unique {shape : FileShape} {nullable : Bool} {files : List FormFile}
    {v w : FileValue} (hv : Delivers shape nullable files v) (hw : Delivers shape nullable files w) :
    v = w := by
  cases hv <;> cases hw <;> rfl

section Taking

variable {ps qs : List Parameter} {p : Parameter}

theorem share_perm (h : ps.Perm qs) (files : List FormFile) :
    p.share ps files = p.share qs files :=
  pick_congr [] fun before f _ => by rw [Parameter.gets, Parameter.gets, h.any_eq]

end Taking

/-! ## One statement after the other -/

section Running

variable {done : List Parameter} {p : Parameter}

end Running

/-! ## All statements of a handler -/

section Shares

variable {ps qs : List Parameter} {p : Parameter}

end Shares

/-! ## The call of the service -/

section Call

variable {upload : Option FieldStream} {h : Handler} {fn : HandlerFn}

/-- The files of an upload, as far as its fields come. -/
def uploadedFiles (upload : Option FieldStream) : List FormFile :=
  (upload.map FieldStream.files).getD []

/-- The extractor of the form fails. -/
inductive Unreadable : Option FieldStream → FormRejection → Prop
  | noForm : Unreadable none .noForm
  | fails {s : FieldStream} {e : BodyError} (fails : s.Fails e) :
      Unreadable (some s) (.unreadable e)

theorem Unreadable.readUpload_eq {r : FormRejection} (h : Unreadable upload r) :
    readUpload upload = .error r := by
  cases h with
  | noForm => rfl
  | fails hs =>
      rw [readUpload, FieldStream.readForm, hs.gather_eq]
      rfl

/-- Why a request is answered without a call: the handler takes files and the form
cannot be read, or a file is missing. -/
inductive Handler.Rejects (h : Handler) (upload : Option FieldStream) : FormRejection → Prop
  | unreadable {r : FormRejection} (takesFiles : h.boundTo .form ≠ [])
      (fails : Unreadable upload r) : Rejects h upload r
  | missing {p : Parameter} (readable : ∀ r, ¬ Unreadable upload r) (mem : p ∈ h.boundTo .form)
      (requires : p.RequiresFile) (absent : ∀ f ∈ uploadedFiles upload, f.field ≠ p.name) :
      Rejects h upload (.missing ⟨p.name⟩)

/-- Each parameter from the form is passed what it gets of the files. -/
def Handler.Distributes (h : Handler) (upload : Option FieldStream)
    (args : List (Option FileValue)) : Prop :=
  List.Forall₂ (fun p v => p.binding = .form → ∃ value, v = some value ∧
    Delivers (fileShape p) p.nullable (p.share (h.boundTo .form) (uploadedFiles upload)) value)
    h.params args

theorem Handler.Rejects.of_perm {h' : Handler} {r : FormRejection}
    (hperm : (h.boundTo .form).Perm (h'.boundTo .form)) (hr : h.Rejects upload r) :
    h'.Rejects upload r := by
  cases hr with
  | unreadable takesFiles fails =>
      refine .unreadable (fun hnil => takesFiles ?_) fails
      rw [hnil] at hperm
      exact hperm.eq_nil
  | missing readable mem requires absent =>
      exact .missing readable (hperm.mem_iff.mp mem) requires absent

/-- Only which of several missing files is named may differ. -/
theorem Handler.Rejects.same {r r' : FormRejection} (hr : h.Rejects upload r)
    (hr' : h.Rejects upload r') : r = r' ∨ ∃ m m', r = .missing m ∧ r' = .missing m' := by
  cases hr with
  | unreadable takesFiles fails =>
      cases hr' with
      | unreadable takesFiles' fails' =>
          have heq := fails.readUpload_eq
          rw [fails'.readUpload_eq] at heq
          exact .inl (Except.error.inj heq).symm
      | missing readable' => exact absurd fails (readable' _)
  | missing readable =>
      cases hr' with
      | unreadable takesFiles' fails' => exact absurd fails' (readable _)
      | missing => exact .inr ⟨_, _, rfl, rfl⟩

end Call

theorem Handler.Distributes.same {h h' : Handler} {upload : Option FieldStream}
    {args args' : List (Option FileValue)} (hperm : (h.boundTo .form).Perm (h'.boundTo .form))
    (hargs : h.Distributes upload args) (hargs' : h'.Distributes upload args') {p : Parameter}
    {v v' : Option FileValue} (hp : p.binding = .form) (hv : (p, v) ∈ h.params.zip args)
    (hv' : (p, v') ∈ h'.params.zip args') : v = v' := by
  obtain ⟨w, rfl, hw⟩ := List.forall₂_zip hargs hv hp
  obtain ⟨w', rfl, hw'⟩ := List.forall₂_zip hargs' hv' hp
  rw [share_perm hperm] at hw
  rw [hw.unique hw']

end TraitRoutes
