import TraitRoutes.Disk.Walk
import TraitRoutes.Source.Corpus
import TraitRoutes.Source.Namespace

/-!
# Reading sources from disk

Adds one file, or all files with the extension `rs` below a folder. The first
file that cannot be read or parsed ends a scan, and so does the first folder that
cannot be listed; what was added before it stays.
-/

namespace TraitRoutes

/-- What was added, and what stopped the adding. -/
structure ScanResult where
  draft : Draft
  fault : Option Fault := none

namespace Draft

/-- Adds a file, under the namespace that it has below a source root. -/
def addFile (draft : Draft) (tree : FileTree) (root path : String) : Except Fault Draft :=
  match tree.readText path with
  | .error e => .error (.access path e.text)
  | .ok text => draft.addSource path (Namespace.ofPath root path) text

/-- Why a folder cannot be walked. -/
def walkFault (path : String) (e : DiskError) : Fault :=
  .access path ("IO error for operation on " ++ path ++ ": " ++ e.text)

/-- Adds the source files that a walk comes to, up to the first one that fails or the
first folder that cannot be listed. -/
def addVisits (draft : Draft) (tree : FileTree) (root : String) : List FileTree.Visit → ScanResult
  | [] => { draft }
  | .unlisted path e :: _ => { draft, fault := some (walkFault path e) }
  | .folder _ :: rest => draft.addVisits tree root rest
  | .file path :: rest =>
    if PathName.hasExtension path "rs" then
      match draft.addFile tree root path with
      | .ok draft => draft.addVisits tree root rest
      | .error fault => { draft, fault := some fault }
    else draft.addVisits tree root rest

/-- Adds all source files below a folder, in the order of the walk. -/
def scan (draft : Draft) (tree : FileTree) (root : String) : ScanResult :=
  draft.addVisits tree root (tree.walk root)

end Draft

end TraitRoutes
