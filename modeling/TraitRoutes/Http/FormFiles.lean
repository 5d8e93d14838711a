import TraitRoutes.Http.Encoding

/-!
# Uploaded files

The files of one form, in the order of upload. Handlers take files out by the
name of their field, so no file is taken twice.
-/

namespace TraitRoutes.Http

/-- An uploaded file. -/
structure FormFile where
  /-- The field that it was uploaded under. -/
  field : String
  fileName : Option String
  contentType : Option String
  content : Bytes
deriving DecidableEq, Repr

/-- The files of a form that have not been taken, in the order of upload. -/
structure FormFiles where
  files : List FormFile := []
deriving DecidableEq, Repr

/-- A file that had to be there and is not, by the name of its field. -/
structure MissingFile where
  field : String
deriving DecidableEq, Repr

/-- The wording of a missing file. -/
def MissingFile.message (e : MissingFile) : String := "missing form file `" ++ e.field ++ "`"

/-- Takes the first file of a field out of a list. -/
def takeFirst (field : String) : List FormFile → Option (FormFile × List FormFile)
  | [] => none
  | f :: rest =>
    if f.field == field then some (f, rest)
    else (takeFirst field rest).map fun (taken, left) => (taken, f :: left)

namespace FormFiles

/-- Takes the first file of a field. -/
def take (fs : FormFiles) (field : String) : Option FormFile × FormFiles :=
  match takeFirst field fs.files with
  | some (f, left) => (some f, ⟨left⟩)
  | none => (none, fs)

/-- Takes the first file of a field, which must be there. -/
def require (fs : FormFiles) (field : String) : Except MissingFile FormFile × FormFiles :=
  match fs.take field with
  | (some f, left) => (.ok f, left)
  | (none, left) => (.error ⟨field⟩, left)

/-- Takes all files of a field. -/
def takeAll (fs : FormFiles) (field : String) : FormFiles × FormFiles :=
  (⟨fs.files.filter fun f => f.field == field⟩, ⟨fs.files.filter fun f => !(f.field == field)⟩)

end FormFiles

end TraitRoutes.Http
