import TraitRoutes.Text.PathName

/-!
# Namespaces

The module that a source file declares follows from where it lies below the
source root. `lib.rs` and `main.rs` at the root are the crate itself, and
`a/mod.rs` is the module `a`, like `a.rs`.
-/

namespace TraitRoutes.Namespace

/-- The namespace of the crate root. -/
def crateRoot : String := "crate"

/-- The names among the parts of a path. -/
def names : List PathPart → List (List Char)
  | [] => []
  | .name text :: rest => text :: names rest
  | _ :: rest => names rest

/-- The parts of a path, the last one without its extension. A name that is left
as dots is no name. -/
def withoutExtension (parts : List PathPart) : List PathPart :=
  match parts.getLast? with
  | some (.name text) =>
    parts.dropLast ++ (PathName.partOf? (PathName.splitName text).1).toList
  | _ => parts

/-- Whether the only name of a path is that of the crate root. -/
def isCrateFile (name : List Char) : Bool := name == "lib".toList || name == "main".toList

/-- The modules of a file by the names in its path. -/
def modules (names : List (List Char)) : List (List Char) :=
  match names.getLast? with
  | none => []
  | some last =>
    if last == "mod".toList || (names.length == 1 && isCrateFile last) then names.dropLast
    else names

/-- A namespace with a module below it. -/
def nested (space module : String) : String := space ++ "::" ++ module

/-- The namespace of a file at `path`, for sources below `root`. -/
def ofPath (root path : String) : String :=
  let relative := PathName.relativeTo (PathName.parts root) (PathName.parts path)
  (modules (names (withoutExtension relative))).foldl
    (fun space name => nested space (String.ofList name)) crateRoot

end TraitRoutes.Namespace
