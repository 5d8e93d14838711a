/-!
# Path names

A path name is read as a list of parts: repeated slashes count as one, and a dot
only matters at the front of a relative path. The extension of a file is what
stands behind the last dot of its name, unless that dot is the first character.
-/

namespace TraitRoutes

/-- A part of a path name. -/
inductive PathPart where
  | root | here | up
  | name (text : List Char)
deriving DecidableEq, Repr

namespace PathName

/-- The pieces between slashes. -/
def pieces : List Char → List (List Char)
  | [] => [[]]
  | '/' :: rest => [] :: pieces rest
  | c :: rest =>
    match pieces rest with
    | [] => [[c]]
    | piece :: more => (c :: piece) :: more

/-- The part that a piece stands for; an empty piece and a dot stand for none. -/
def partOf? (piece : List Char) : Option PathPart :=
  if piece.isEmpty || piece == ['.'] then none
  else if piece == ['.', '.'] then some .up
  else some (.name piece)

/-- The parts of a path name. -/
def parts (path : String) : List PathPart :=
  match path.toList with
  | [] => []
  | '/' :: rest => .root :: (pieces rest).filterMap partOf?
  | cs =>
    match pieces cs with
    | ['.'] :: more => .here :: more.filterMap partOf?
    | all => all.filterMap partOf?

/-- What follows the parts of `root` in a path, or the whole path if it does not
begin with them. -/
def relativeTo (root path : List PathPart) : List PathPart :=
  if root.isPrefixOf path then path.drop root.length else path

/-- A file name up to its last dot, with what stands behind it. A dot in front
does not count. -/
def splitName (name : List Char) : List Char × Option (List Char) :=
  if name == ['.', '.'] then (name, none)
  else
    let behind := (name.reverse.takeWhile (· != '.')).reverse
    let stem := name.take (name.length - behind.length - 1)
    if behind.length = name.length || stem.isEmpty then (name, none) else (stem, some behind)

/-- The file name of a path: its last part, if that is a name. -/
def fileName? (path : String) : Option (List Char) :=
  match (parts path).getLast? with
  | some (.name text) => some text
  | _ => none

/-- Whether the name of a file ends in the given extension. -/
def hasExtension (path extension : String) : Bool :=
  ((fileName? path).bind fun name => (splitName name).2) == some extension.toList

/-- A path below a directory; an absolute path stands alone. -/
def join (dir path : String) : String :=
  if path.startsWith "/" || dir.isEmpty then path
  else if dir.endsWith "/" then dir ++ path
  else dir ++ "/" ++ path

/-- The spelling of a part. -/
def partText : PathPart → String
  | .root => ""
  | .here => "."
  | .up => ".."
  | .name text => String.ofList text

/-- The path name that parts spell. -/
def ofParts : List PathPart → String
  | [.root] => "/"
  | parts => "/".intercalate (parts.map partText)

/-- The path of the folder that a path lies in. -/
def parent (path : String) : String := ofParts (parts path).dropLast

end PathName

end TraitRoutes
