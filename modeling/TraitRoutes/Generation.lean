import TraitRoutes.Controller.Printer
import TraitRoutes.Controller.Synthesis
import TraitRoutes.Service.Resolution
import TraitRoutes.Source.Corpus

/-!
# Generation

One pass over a corpus: every candidate ends as one artifact or one diagnostic,
in the order of the corpus. A file belongs to the first candidate that was
generated into it. A generated name that is no identifier ends the pass without
an answer, and so does a default value that cannot be written.
-/

namespace TraitRoutes

/-- A generated controller. -/
structure Artifact where
  interface : String
  space : String
  unitName : String
  fileName : String
  source : String
deriving DecidableEq, Repr

/-- A reported problem: a trait without a controller. -/
structure Diagnostic where
  code : String
  message : String
  interface : String
  location : Location
deriving DecidableEq, Repr

namespace Diagnostic

/-- The severity of every diagnostic; what is worse ends the pass. -/
def severity : String := "warning"

/-- The code of a controller that could not be generated. -/
def generationFailed : String := "DA001"

/-- The diagnostic for a trait whose controller could not be generated. -/
def failed (interface : String) (location : Location) (fault : Fault) : Diagnostic :=
  ⟨generationFailed, "Failed to generate controller for `" ++ interface ++ "`: " ++ fault.message,
    interface, location⟩

/-- A diagnostic as text. -/
def text (d : Diagnostic) : String :=
  d.location.text ++ ": " ++ severity ++ "[" ++ d.code ++ "]: " ++ d.message

/-- A diagnostic as a line of a build script. -/
def buildLine (d : Diagnostic) : String := "cargo:warning=" ++ d.text

end Diagnostic

/-- Renders the controller of a service, named with the given suffix. -/
def Service.render (s : Service) (suffix : String) : Except Stop Artifact := do
  let c ← s.controller suffix
  let unitName := Naming.unitName s.name suffix
  if c.isWritable then
    .ok ⟨s.name, s.space, unitName, Naming.moduleName unitName ++ ".rs", c.source s.space⟩
  else .error .unwritable

/-! ### Events -/

/-- An event worth a line in a log. -/
inductive Event where
  | disabled
  | markerUnknown (marker : String)
  | generating (interface : Ident) (space : String) (methods : Nat)
  | resolved (interface : String) (method : Ident) (verb : Verb) (params : Nat)
  | finished (candidates generated failed : Nat)
  | reported (diagnostic : Diagnostic)

/-- The line of an event. -/
def Event.line : Event → String
  | disabled => "INFO controller generation disabled"
  | markerUnknown marker =>
    "DEBUG marker not resolvable, skipping discovery marker=" ++ Text.quoteDebug marker
  | generating interface space methods =>
    "DEBUG generating controller interface=" ++ interface.text ++ " namespace=" ++ space
      ++ " methods=" ++ toString methods
  | resolved interface method verb params =>
    "DEBUG resolved method interface=" ++ Text.quoteDebug interface ++ " method=" ++ method.text
      ++ " verb=" ++ verb.wireName ++ " parameters=" ++ toString params
  | finished candidates generated failed =>
    "INFO controller generation finished candidates=" ++ toString candidates ++ " generated="
      ++ toString generated ++ " failed=" ++ toString failed
  | reported d =>
    "WARN " ++ d.message ++ " code=" ++ Text.quoteDebug d.code ++ " interface=" ++ d.interface
      ++ " location=" ++ d.location.text

/-! ### The pass -/

/-- What a pass has come to. -/
structure Generation where
  artifacts : List Artifact := []
  diagnostics : List Diagnostic := []
  events : List Event := []
  /-- File names with the traits that they belong to. -/
  owners : List (String × String) := []

namespace Generation

/-- Takes in an artifact, unless its file belongs to another one. -/
def claim (g : Generation) (d : Declaration) (a : Artifact) : Generation :=
  match g.owners.lookup a.fileName with
  | some first =>
    { g with diagnostics := g.diagnostics
        ++ [.failed d.name d.location (.fileConflict a.fileName first)] }
  | none =>
    { g with artifacts := g.artifacts ++ [a], owners := (a.fileName, d.qualifiedName) :: g.owners }

/-- Reports a candidate without a controller. -/
def fail (g : Generation) (d : Declaration) (fault : Fault) : Generation :=
  { g with diagnostics := g.diagnostics ++ [.failed d.name d.location fault] }

/-- What a candidate is generated to. -/
def artifactOf (options : Options) (d : Declaration) : Except Stop Artifact := do
  let s ← (d.resolve options).mapError .fault
  s.render options.unitSuffix

/-- The events while a candidate is generated. -/
def eventsOf (options : Options) (d : Declaration) : List Event :=
  .generating d.ident d.space d.methods.length
    :: (d.resolution options).1.map fun h => .resolved h.interface h.ident h.verb h.params.length

/-- Generates a candidate. -/
def step (options : Options) (g : Generation) (d : Declaration) : Except Stop Generation :=
  let g := { g with events := g.events ++ eventsOf options d }
  match artifactOf options d with
  | .ok a => .ok (g.claim d a)
  | .error (.fault fault) => .ok (g.fail d fault)
  | .error stop => .error stop

/-- Generates candidates in order. -/
def steps (options : Options) (g : Generation) (ds : List Declaration) : Except Stop Generation :=
  ds.foldlM (step options) g

/-- Generates candidates in order, up to the first one that gives no answer. -/
def upTo (options : Options) (g : Generation) : List Declaration → Generation
  | [] => g
  | d :: ds =>
    match step options g d with
    | .ok g => upTo options g ds
    | .error _ => g

/-- Notes the end of a pass over a number of candidates. -/
def finish (g : Generation) (candidates : Nat) : Generation :=
  { g with events := g.events ++ [.finished candidates g.artifacts.length g.diagnostics.length] }

end Generation

/-- What a pass begins with. -/
def Corpus.start (c : Corpus) (options : Options) : Generation where
  events := if c.isKnown options.marker then [] else [.markerUnknown options.marker]

/-- Generates the controllers of a corpus. A disabled pass does nothing. -/
def Corpus.generate (c : Corpus) (options : Options) : Except Stop Generation :=
  if options.disabled then .ok { events := [.disabled] }
  else do
    let candidates := c.candidates options.marker
    let g ← Generation.steps options (c.start options) candidates
    pure (g.finish candidates.length)

/-- What a pass over a corpus has reported when it ends, with an answer or without one. -/
def Corpus.reported (c : Corpus) (options : Options) : List Diagnostic :=
  (Generation.upTo options (c.start options) (c.candidates options.marker)).diagnostics

end TraitRoutes
