import TraitRoutes.Disk.Tree

/-!
# Walking a tree

All nodes below a folder. The entries of a folder are visited in the order of
their names, byte by byte, and what is in a folder is visited right behind it, so
the order does not depend on how the folder keeps its entries. A folder is listed
by its path, and one with too long a path cannot be.
-/

namespace TraitRoutes.FileTree

/-- Puts an item into its place by name, before those of the same name. -/
def insertByName {α : Type} (item : String × α) : List (String × α) → List (String × α)
  | [] => [item]
  | first :: rest =>
    if first.1 < item.1 then first :: insertByName item rest else item :: first :: rest

/-- Items in the order of their names. -/
def sortByName {α : Type} (items : List (String × α)) : List (String × α) :=
  items.foldr insertByName []

mutual

/-- The nodes of a tree, each with the names that lead to it. -/
def nodes : FileTree → List (List String × FileTree)
  | file content => [([], file content)]
  | folder entries =>
    ([], folder entries) ::
      (sortByName (entryNodes entries)).flatMap fun e => e.2.map fun n => (e.1 :: n.1, n.2)

/-- The nodes of each entry. -/
def entryNodes : List (String × FileTree) → List (String × List (List String × FileTree))
  | [] => []
  | (name, node) :: rest => (name, nodes node) :: entryNodes rest

end

/-- The path of a node by the names that lead to it from a path. -/
def pathBelow (path : String) (names : List String) : String := names.foldl PathName.join path

/-- What a walk comes to. -/
inductive Visit where
  | file (path : String)
  | folder (path : String)
  /-- A folder whose entries cannot be listed. -/
  | unlisted (path : String) (error : DiskError)

/-- The visit to a node at a path. -/
def visit (path : String) : FileTree → Visit
  | file _ => .file path
  | folder _ =>
    if pathLimit < path.utf8ByteSize then .unlisted path .nameTooLong else .folder path

/-- The visits to the nodes at and below a path. A walk is over at the first folder that
cannot be listed, and the visits behind that one are never made. -/
def walk (t : FileTree) (path : String) : List Visit :=
  match t.find path with
  | .error e => [.unlisted path e]
  | .ok node => node.nodes.map fun n => visit (pathBelow path n.1) n.2

end TraitRoutes.FileTree
