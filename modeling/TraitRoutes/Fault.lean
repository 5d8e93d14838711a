import TraitRoutes.Grammar.Parser

/-!
# Faults

Everything that can keep a controller from being generated. A fault of the pass
itself (an unreadable file, a source that does not parse, a missing variable)
ends the pass; any other concerns one trait only and becomes a diagnostic.
-/

namespace TraitRoutes

/-- What went wrong. -/
inductive Fault where
  /-- A file or a directory could not be accessed. -/
  | access (path reason : String)
  | missingVariable (name : String)
  /-- A source file does not parse. -/
  | unparsable (path reason : String)
  /-- A malformed attribute, or generated code that would not parse. -/
  | malformed (reason : String)
  /-- Attribute arguments with the wrong fields or values. -/
  | attributeArgs (reason : String)
  | unsupportedTrait (reason : String)
  | unsupportedMethod (method reason : String)
  | unsupportedParameter (method parameter reason : String)
  | duplicateRoute (route first second : String)
  | fileConflict (file first : String)
  | conflictingBody (method reason : String)
deriving DecidableEq, Repr

namespace Fault

/-- The wording of a fault. -/
def message : Fault → String
  | access path reason => "failed to access `" ++ path ++ "`: " ++ reason
  | missingVariable name =>
    "environment variable `" ++ name ++ "` is not set, run from a build script"
  | unparsable path reason => "failed to parse `" ++ path ++ "`: " ++ reason
  | malformed reason => reason
  | attributeArgs reason => reason
  | unsupportedTrait reason => "the trait " ++ reason
  | unsupportedMethod method reason => "method `" ++ method ++ "` " ++ reason
  | unsupportedParameter method parameter reason =>
    "parameter `" ++ parameter ++ "` of `" ++ method ++ "` " ++ reason
  | duplicateRoute route first second =>
    "methods `" ++ first ++ "` and `" ++ second ++ "` both resolve to route `" ++ route ++ "`"
  | fileConflict file first =>
    "controller file `" ++ file ++ "` is already generated for `" ++ first
      ++ "`, rename one of the traits"
  | conflictingBody method reason => "method `" ++ method ++ "` binds " ++ reason

/-- Whether a fault ends the whole pass. -/
def isFatal : Fault → Bool
  | access .. | missingVariable _ | unparsable .. => true
  | _ => false

/-- A syntax error as a fault. -/
def ofSyntax (e : SyntaxError) : Fault := .malformed e.message

end Fault

end TraitRoutes
