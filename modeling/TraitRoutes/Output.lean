import TraitRoutes.Disk.Tree
import TraitRoutes.Generation

/-!
# Writing controllers

One file for each artifact, in one folder. A file that already holds the text of
its artifact is left alone, so what depends on it need not be built again. The
first file that cannot be written ends the writing.
-/

namespace TraitRoutes

/-- A file that an artifact was put into. -/
structure OutputFile where
  path : String
  /-- The file held something else, or did not exist. -/
  rewritten : Bool
deriving DecidableEq, Repr

/-- What came of writing: the tree of files after it, and the files or the fault
that ended it. -/
structure WriteResult where
  tree : FileTree
  outcome : Except Fault (List OutputFile)

namespace FileTree

/-- Whether the file at a path holds a text. -/
def holds (t : FileTree) (path text : String) : Bool :=
  match t.readText path with
  | .ok old => old == text
  | .error _ => false

/-- Puts an artifact into its file. -/
def writeArtifact (t : FileTree) (dir : String) (a : Artifact) :
    Except Fault (OutputFile × FileTree) :=
  let path := PathName.join dir a.fileName
  if t.holds path a.source then .ok (⟨path, false⟩, t)
  else
    match t.write path a.source.toUTF8 with
    | .ok t => .ok (⟨path, true⟩, t)
    | .error e => .error (.access path e.text)

/-- Puts artifacts into their files, in order. -/
def writeEach (t : FileTree) (dir : String) (done : List OutputFile) : List Artifact → WriteResult
  | [] => ⟨t, .ok done⟩
  | a :: rest =>
    match t.writeArtifact dir a with
    | .ok (output, t) => t.writeEach dir (done ++ [output]) rest
    | .error fault => ⟨t, .error fault⟩

/-- Puts artifacts into a folder, which is made if it is missing. -/
def writeArtifacts (t : FileTree) (dir : String) (artifacts : List Artifact) : WriteResult :=
  match t.makeFolders dir with
  | (some e, t) => ⟨t, .error (.access dir e.text)⟩
  | (none, t) => t.writeEach dir [] artifacts

end FileTree

end TraitRoutes
