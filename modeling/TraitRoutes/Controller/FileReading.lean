import TraitRoutes.Controller.Basic
import TraitRoutes.Http.Message
import TraitRoutes.Http.Multipart

/-!
# What file statements do

The statements of a handler take files out of one form, one statement after the
other. A form that cannot be read ends the handler before the service is called,
and so does the first file that has to be there and is not. Names with two
underscores in front belong to the handler itself.
-/

namespace TraitRoutes

open Http (BodyError FieldStream FormFile FormFiles MissingFile Response)

/-- What a statement binds. -/
inductive FileValue where
  | one (file : FormFile)
  | optional (file : Option FormFile)
  | many (files : List FormFile)
  | optionalMany (files : Option (List FormFile))
  | rest (files : FormFiles)
  | optionalRest (files : Option FormFiles)
deriving DecidableEq, Repr

/-- Takes the files of a statement, and leaves the others. -/
def FileRead.run (read : FileRead) (field : String) (form : FormFiles) :
    Except MissingFile (FileValue × FormFiles) :=
  match read with
  | require =>
    match form.require field with
    | (.ok file, left) => .ok (.one file, left)
    | (.error e, _) => .error e
  | take => .ok (.optional (form.take field).1, (form.take field).2)
  | takeAll => .ok (.many (form.takeAll field).1.files, (form.takeAll field).2)
  | takeAny =>
    let taken := (form.takeAll field).1.files
    .ok (.optionalMany (if taken.isEmpty then none else some taken), (form.takeAll field).2)
  | rest => .ok (.rest form, {})
  | restAny => .ok (.optionalRest (if form.files.isEmpty then none else some form), {})

/-- Why a request with files does not get to the service. -/
inductive FormRejection where
  /-- The request announces no form. -/
  | noForm
  | unreadable (e : BodyError)
  | missing (e : MissingFile)
deriving DecidableEq, Repr

/-- The answer to a form that is not accepted. -/
def FormRejection.response : FormRejection → Response
  | noForm => .reject 400
  | unreadable e => .reject e.status
  | missing e => ⟨400, .text e.message⟩

/-- Reads the form of a request, if it has one. -/
def readUpload : Option FieldStream → Except FormRejection FormFiles
  | none => .error .noForm
  | some fields => fields.readForm.mapError .unreadable

/-! ### The call -/

end TraitRoutes
