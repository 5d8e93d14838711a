import TraitRoutes.Output
import TraitRoutes.Source.Scan

/-!
# The build step

What a build script does: it reads the sources of the crate, generates their
controllers, prints a line for each trait without one, and writes the controllers
into the output folder. The lines that say when to run again come first, so they
are printed whatever happens later. The line of a trait is printed as soon as its
turn has come, so a pass that stops has printed those of the traits before.
-/

namespace TraitRoutes

/-- The variables that a build step reads. -/
structure BuildEnv where
  /-- The folder of the crate. -/
  crateDir : Option String
  /-- The folder for generated files. -/
  outDir : Option String
  /-- The switch that turns generation off. -/
  switch : Option String

/-- What came of a build step. -/
structure BuildResult where
  /-- The lines printed. -/
  lines : List String
  tree : FileTree
  outcome : Except Stop (List OutputFile)

namespace BuildEnv

/-- The variable with the folder of the crate. -/
def crateDirName : String := "CARGO_MANIFEST_DIR"

/-- The variable with the folder for generated files. -/
def outDirName : String := "OUT_DIR"

/-- The line that ties the build to the switch. -/
def switchLine : String := "cargo:rerun-if-env-changed=" ++ Options.switchName

/-- The line that ties the build to the sources. -/
def sourceLine (source : String) : String := "cargo:rerun-if-changed=" ++ source

/-- The value of a variable that must be set. -/
def required (name : String) : Option String → Except Fault String
  | some value => .ok value
  | none => .error (.missingVariable name)

/-- The source folder and the output folder. -/
def folders (env : BuildEnv) : Except Fault (String × String) := do
  let crateDir ← required crateDirName env.crateDir
  let outDir ← required outDirName env.outDir
  .ok (PathName.join crateDir "src", outDir)

/-- The build step with given options, for folders that are known. -/
def runIn (source outDir : String) (options : Options) (tree : FileTree) : BuildResult :=
  let lines := [switchLine, sourceLine source]
  if options.disabled then ⟨lines, tree, .ok []⟩
  else
    let scanned := Draft.scan {} tree source
    match scanned.fault with
    | some fault => ⟨lines, tree, .error (.fault fault)⟩
    | none =>
      match scanned.draft.build.generate options with
      | .error stop =>
        ⟨lines ++ (scanned.draft.build.reported options).map Diagnostic.buildLine, tree,
          .error stop⟩
      | .ok g =>
        let written := tree.writeArtifacts outDir g.artifacts
        ⟨lines ++ g.diagnostics.map Diagnostic.buildLine, written.tree,
          written.outcome.mapError .fault⟩

/-- The build step with given options. -/
def runWith (env : BuildEnv) (options : Options) (tree : FileTree) : BuildResult :=
  match env.folders with
  | .error fault => ⟨[switchLine], tree, .error (.fault fault)⟩
  | .ok (source, outDir) => runIn source outDir options tree

/-- The build step with the default options, which the switch may turn off. -/
def run (env : BuildEnv) (tree : FileTree) : BuildResult :=
  env.runWith (Options.ofSwitch env.switch) tree

end BuildEnv

end TraitRoutes
