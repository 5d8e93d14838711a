import TraitRoutes.Http.FormFiles
import TraitRoutes.Http.MediaType

/-!
# Forms in parts

The body of a form with files: parts between boundary lines, each with headers
and content. What stands before the first boundary and behind the closing one is
passed over. A part ends only where a boundary line begins, so a body that breaks
off is malformed. The fields come one after the other; a handler gathers all of
them before it takes any file, but for those without a name.
-/

namespace TraitRoutes.Http

/-- Why a body was not read. -/
inductive BodyError where
  | malformed
  | tooLarge
deriving DecidableEq, Repr

/-- The status that a body error is answered with. -/
def BodyError.status : BodyError → Nat
  | malformed => 400
  | tooLarge => 413

/-- The number of bytes that a body may have. -/
def bodyLimit : Nat := 2097152

/-! ### Fields -/

/-- A field of a form. -/
structure Field where
  name : Option String
  fileName : Option String
  contentType : Option String
  /-- What is in the field, or why that cannot be read. -/
  content : Except BodyError Bytes

/-- The fields of a form in the order of its body, up to the end or to a failure. -/
inductive FieldStream where
  | done
  | failed (e : BodyError)
  | next (field : Field) (rest : FieldStream)

/-- The files of all fields that have a name. The content of a field without one is
not looked at. -/
def FieldStream.gather : FieldStream → Except BodyError (List FormFile)
  | done => .ok []
  | failed e => .error e
  | next field rest =>
    match field.name, field.content with
    | none, _ => rest.gather
    | some _, .error e => .error e
    | some name, .ok content =>
      rest.gather.map (⟨name, field.fileName, field.contentType, content⟩ :: ·)

/-- Reads a form to its end. -/
def FieldStream.readForm (fields : FieldStream) : Except BodyError FormFiles :=
  fields.gather.map FormFiles.mk

namespace Multipart

/-- Cuts bytes at the first place where a pattern stands. The bytes before the
place are gathered backwards. -/
def cutFrom (pattern before : Bytes) : Bytes → Option (Bytes × Bytes)
  | [] => if pattern.isEmpty then some (before.reverse, []) else none
  | b :: rest =>
    if pattern.isPrefixOf (b :: rest) then some (before.reverse, (b :: rest).drop pattern.length)
    else cutFrom pattern (b :: before) rest

/-- Cuts bytes at the first place where a pattern stands. -/
def cut (pattern bytes : Bytes) : Option (Bytes × Bytes) := cutFrom pattern [] bytes

/-- The end of a line. -/
def lineEnd : Bytes := [0x0D, 0x0A]

/-- Two hyphens. -/
def hyphens : Bytes := [0x2D, 0x2D]

/-- Whether a byte is a blank or a tab. -/
def isGap (b : UInt8) : Bool := b == 0x20 || b == 0x09

/-! ### Headers -/

/-- The largest number of headers. -/
def headerLimit : Nat := 32

/-- Whether a byte may stand in the name of a header. -/
def isNameByte (b : UInt8) : Bool := b < 128 && MediaType.isWordChar (Char.ofNat b.toNat)

/-- Whether a byte may stand in the value of a header. -/
def isValueByte (b : UInt8) : Bool := b == 0x09 || (0x20 ≤ b && b != 0x7F)

/-- A byte in lower case. -/
def lowerByte (b : UInt8) : UInt8 := if isWithin 0x41 0x5A b then b + 0x20 else b

/-- Bytes without gaps at the end. -/
def trimEnd (bytes : Bytes) : Bytes := (bytes.reverse.dropWhile isGap).reverse

/-- What follows the end of a line. -/
def afterLineEnd : Bytes → Option Bytes
  | 0x0D :: 0x0A :: rest => some rest
  | 0x0A :: rest => some rest
  | _ => none

/-- Reads headers up to an empty line, no more than the fuel. -/
def readHeaders : Nat → Bytes → Option (List (Bytes × Bytes))
  | _, 0x0D :: rest => if rest.head? == some 0x0A then some [] else none
  | _, 0x0A :: _ => some []
  | 0, _ => none
  | fuel + 1, bytes =>
    let name := bytes.takeWhile isNameByte
    match bytes.dropWhile isNameByte with
    | 0x3A :: rest =>
      if name.isEmpty then none
      else
        let rest := rest.dropWhile isGap
        match afterLineEnd (rest.dropWhile isValueByte) with
        | none => none
        | some more =>
          (readHeaders fuel more).map
            ((name.map lowerByte, trimEnd (rest.takeWhile isValueByte)) :: ·)
    | _ => none

/-- The value of a header; a later one of the same name counts. -/
def header? (headers : List (Bytes × Bytes)) (name : String) : Option Bytes :=
  headers.reverse.lookup (bytesOf name)

/-! ### Names in a part -/

/-- Whether a byte is white space in ASCII. -/
def isSpace (b : UInt8) : Bool := b == 0x20 || b == 0x09 || b == 0x0A || b == 0x0C || b == 0x0D

/-- Bytes without white space at the front. -/
def trimStart (bytes : Bytes) : Bytes := bytes.dropWhile isSpace

/-- The bytes up to a quotation mark that no backslash stands right before, after
the byte `last`. -/
def quoted (last : Option UInt8) : Bytes → Option Bytes
  | [] => none
  | b :: rest =>
    if b == 0x22 && last != some 0x5C then some []
    else (quoted (some b) rest).map (b :: ·)

/-- Bytes with each escaped quotation mark resolved. -/
def unescape : Bytes → Bytes
  | 0x5C :: 0x22 :: rest => 0x22 :: unescape rest
  | b :: rest => b :: unescape rest
  | [] => []

/-- The value of an attribute, given what follows its name. -/
def attributeValue (bytes : Bytes) : Option Bytes :=
  match trimStart bytes with
  | 0x3D :: rest =>
    match trimStart rest with
    | 0x22 :: rest => (quoted none rest).map unescape
    | rest => some (rest.takeWhile fun b => b != 0x3B && b != 0x20)
  | _ => none

/-- Whether an attribute may start behind a byte. -/
def isSeparator (b : UInt8) : Bool := isSpace b || b == 0x3B

/-- Searches a header for an attribute, behind the byte `before` and `skip` more
bytes. A name inside of a longer word is passed over, and the search goes on
behind it as if the header started there. The first name that stands alone
decides, whether it has a value or not. -/
def findAttribute (name : Bytes) (before : Option UInt8) (skip : Nat) : Bytes → Option Bytes
  | [] => none
  | b :: rest =>
    match skip with
    | more + 1 => findAttribute name none more rest
    | 0 =>
      if !name.isPrefixOf (b :: rest) then findAttribute name (some b) 0 rest
      else if before.all isSeparator then attributeValue ((b :: rest).drop name.length)
      else findAttribute name none (name.length - 1) rest

/-- An attribute of the header that names a part, as text. -/
def attributeText? (headers : List (Bytes × Bytes)) (name : String) : Option String :=
  ((header? headers "content-disposition").bind (findAttribute (bytesOf name) none 0)).bind textOf?

/-- The content type of a part, if it is a media type. -/
def contentType? (headers : List (Bytes × Bytes)) : Option String :=
  (((header? headers "content-type").bind textOf?).bind MediaType.ofHeader?).map MediaType.text

/-- The field of a part. -/
def fieldOf (headers : List (Bytes × Bytes)) (content : Bytes) : Field :=
  ⟨attributeText? headers "name", attributeText? headers "filename", contentType? headers,
    .ok content⟩

/-! ### Parts -/

/-- What stands at a boundary. -/
inductive Boundary where
  /-- The closing boundary. -/
  | closing
  /-- The start of a part. -/
  | part (rest : Bytes)

/-- Reads the boundary line at the start of bytes. -/
def readBoundary (mark bytes : Bytes) : Option Boundary :=
  if mark.isPrefixOf bytes then
    let rest := bytes.drop mark.length
    if hyphens.isPrefixOf rest then some .closing
    else if rest.length < 2 then none
    else
      let rest := rest.dropWhile isGap
      if lineEnd.isPrefixOf rest then some (.part (rest.drop 2)) else none
  else none

/-- The fields from a boundary on. The fuel bounds their number. -/
def fieldsFrom (mark : Bytes) : Nat → Bytes → FieldStream
  | 0, _ => .failed .malformed
  | fuel + 1, bytes =>
    match readBoundary mark bytes with
    | none => .failed .malformed
    | some .closing => .done
    | some (.part rest) =>
      match cut (lineEnd ++ lineEnd) rest with
      | none => .failed .malformed
      | some (head, rest) =>
        match readHeaders headerLimit (head ++ lineEnd ++ lineEnd), cut (lineEnd ++ mark) rest with
        | some headers, some (content, after) =>
          .next (fieldOf headers content) (fieldsFrom mark fuel (mark ++ after))
        | _, _ => .failed .malformed

/-- The fields of a body with a given boundary. -/
def fieldsOf (boundary : String) (body : Bytes) : FieldStream :=
  if bodyLimit < body.length then .failed .tooLarge
  else
    let mark := hyphens ++ bytesOf boundary
    match cut mark body with
    | none => .failed .malformed
    | some (_, after) => fieldsFrom mark (body.length + 1) (mark ++ after)

/-- Reads a body with a given boundary. -/
def read (boundary : String) (body : Bytes) : Except BodyError FormFiles :=
  (fieldsOf boundary body).readForm

/-- The boundary that a content type announces. -/
def boundaryOf? (contentType : Option String) : Option String :=
  ((contentType.bind MediaType.ofHeader?).bind MediaType.boundary?).map String.ofList

/-- The fields of a body, if its content type announces a form. -/
def fields? (contentType : Option String) (body : Bytes) : Option FieldStream :=
  (boundaryOf? contentType).map (fieldsOf · body)

end Multipart

end TraitRoutes.Http
