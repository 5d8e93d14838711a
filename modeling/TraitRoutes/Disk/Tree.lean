import TraitRoutes.Text.PathName

/-!
# A tree of files

The part of a file system that a pass reads and writes: folders and files, no
links. A path is followed part by part from the top of the tree, and every part
but the last must be an existing folder. All operations either give a new tree
or leave the old one and say why, in the words of the operating system.

Every name is text and everything may be read and written: names that are not
UTF-8 have no place in a tree, and no operation fails for want of a permission.
-/

namespace TraitRoutes

/-- Why a path could not be used. -/
inductive DiskError where
  | notFound
  | alreadyExists
  | notAFolder
  | isAFolder
  | nameTooLong
  /-- A path with a zero byte, which no system call can express. -/
  | zeroByte
  /-- A file that was to be read as text is not UTF-8. -/
  | notText
deriving DecidableEq, Repr

/-- The wording of a disk error. -/
def DiskError.text : DiskError → String
  | notFound => "No such file or directory (os error 2)"
  | alreadyExists => "File exists (os error 17)"
  | notAFolder => "Not a directory (os error 20)"
  | isAFolder => "Is a directory (os error 21)"
  | nameTooLong => "File name too long (os error 36)"
  | zeroByte => "file name contained an unexpected NUL byte"
  | notText => "stream did not contain valid UTF-8"

/-- A file or a folder. The entries of a folder stand in no particular order. -/
inductive FileTree where
  | file (content : ByteArray)
  | folder (entries : List (String × FileTree))

namespace FileTree

/-- Whether a node is a folder. -/
def isFolder : FileTree → Bool
  | folder _ => true
  | file _ => false

/-- The node that names lead to. -/
def get? : List String → FileTree → Option FileTree
  | [], t => some t
  | name :: rest, folder entries => (entries.lookup name).bind (get? rest)
  | _ :: _, file _ => none

/-- Puts a node under a name, in place of the one that has the name. -/
def setEntry (name : String) (node : FileTree) : List (String × FileTree) → List (String × FileTree)
  | [] => [(name, node)]
  | (n, old) :: rest => if n == name then (n, node) :: rest else (n, old) :: setEntry name node rest

/-- Puts a node where names lead to. Folders on the way come into being. -/
def put : FileTree → List String → FileTree → FileTree
  | _, [], node => node
  | folder entries, name :: rest, node =>
    folder (setEntry name (put ((entries.lookup name).getD (folder [])) rest node) entries)
  | file content, _ :: _, _ => file content

/-! ### Paths -/

/-- The number of bytes that a name may have. -/
def nameLimit : Nat := 255

/-- The number of bytes that a path may have. -/
def pathLimit : Nat := 4095

/-- Follows the parts of a path. The names that lead to the folder to start from
are given from the inside out, together with what is there. What is named at the
end need not exist. -/
def follow (top : FileTree) (trail : List String) (node : Option FileTree) :
    List PathPart → Except DiskError (List String)
  | [] => .ok trail.reverse
  | part :: rest =>
    match node with
    | none => .error .notFound
    | some (file _) => .error .notAFolder
    | some (folder entries) =>
      match part with
      | .root => follow top [] (some top) rest
      | .here => follow top trail node rest
      | .up => follow top trail.tail (top.get? trail.tail.reverse) rest
      | .name text =>
        let name := String.ofList text
        if nameLimit < name.utf8ByteSize then .error .nameTooLong
        else follow top (name :: trail) (entries.lookup name) rest

/-- Whether the end of a path is spelled as that of a folder: with a slash or
with dots. -/
def spelledAsFolder (path : String) : Bool :=
  match (PathName.pieces path.toList).getLast? with
  | some piece => piece.isEmpty || piece == ['.'] || piece == ['.', '.']
  | none => true

/-- Whether a path ends in dots, slashes aside. It then names a folder that has to
exist already. -/
def endsInDots (path : String) : Bool :=
  match ((PathName.pieces path.toList).filter fun piece => !piece.isEmpty).getLast? with
  | some piece => piece == ['.'] || piece == ['.', '.']
  | none => false

/-- The names that a path leads to. -/
def locate (t : FileTree) (path : String) : Except DiskError (List String) :=
  if path.toList.contains '\x00' then .error .zeroByte
  else if path.isEmpty then .error .notFound
  else if pathLimit < path.utf8ByteSize then .error .nameTooLong
  else t.follow [] (some t) (PathName.parts path)

/-- The node at a path. -/
def find (t : FileTree) (path : String) : Except DiskError FileTree := do
  match t.get? (← t.locate path) with
  | none => .error .notFound
  | some (file content) =>
    if spelledAsFolder path then .error .notAFolder else .ok (file content)
  | some node => .ok node

/-- Whether a path leads to a folder. -/
def hasFolder (t : FileTree) (path : String) : Bool :=
  match t.find path with
  | .ok node => node.isFolder
  | .error _ => false

/-! ### Files -/

/-- The content of the file at a path. -/
def read (t : FileTree) (path : String) : Except DiskError ByteArray := do
  match ← t.find path with
  | file content => .ok content
  | folder _ => .error .isAFolder

/-- The file at a path as text. -/
def readText (t : FileTree) (path : String) : Except DiskError String := do
  match String.fromUTF8? (← t.read path) with
  | some text => .ok text
  | none => .error .notText

/-- The names of a node to be made, which `taken` is said of if a folder has its
place. -/
def placeFor (t : FileTree) (path : String) (taken : DiskError) :
    Except DiskError (List String) := do
  let names ← t.locate path
  match t.get? names with
  | some (folder _) => .error taken
  | some (file _) => if endsInDots path then .error .notAFolder else .ok names
  | none => if endsInDots path then .error .notFound else .ok names

/-- Writes the file at a path. -/
def write (t : FileTree) (path : String) (content : ByteArray) : Except DiskError FileTree := do
  let names ← t.placeFor path .isAFolder
  if spelledAsFolder path then .error .isAFolder else .ok (t.put names (file content))

/-! ### Folders -/

/-- Makes a folder in a folder that exists. -/
def makeFolder (t : FileTree) (path : String) : Except DiskError FileTree := do
  let names ← t.placeFor path .alreadyExists
  match t.get? names with
  | some _ => .error .alreadyExists
  | none => .ok (t.put names (folder []))

/-- Makes a folder unless it is there. -/
def ensureFolder (t : FileTree) (path : String) : Option DiskError × FileTree :=
  match t.makeFolder path with
  | .ok t' => (none, t')
  | .error e => if t.hasFolder path then (none, t) else (some e, t)

/-- Makes the folder at a path and those around it that are missing, up to a given
number of folders. Those that were made stay, even if one further in could not be. -/
def ensureFolders (t : FileTree) : Nat → String → Option DiskError × FileTree
  | 0, _ => (none, t)
  | depth + 1, path =>
    match t.makeFolder path with
    | .ok t' => (none, t')
    | .error .notFound =>
      match t.ensureFolders depth (PathName.parent path) with
      | (none, t') => t'.ensureFolder path
      | failed => failed
    | .error e => if t.hasFolder path then (none, t) else (some e, t)

/-- Makes the folder at a path and all folders around it. -/
def makeFolders (t : FileTree) (path : String) : Option DiskError × FileTree :=
  t.ensureFolders (PathName.parts path).length path

end FileTree

end TraitRoutes
