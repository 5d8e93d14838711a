import TraitRoutes.Fault
import TraitRoutes.Http.VerbInference
import TraitRoutes.Naming
import TraitRoutes.Service.Basic

/-!
# Resolution

Turns a declaration into a service. A trait is refused when it has generics, and
so is one with a method that a request cannot call: a generic one, one that does
not take `&self`, or one with a parameter or result that would have to borrow
from the request. The first fault decides, in the order of the declaration.
-/

namespace TraitRoutes

namespace Resolution

/-- A type that borrows. -/
def isReference : Ty → Bool
  | .reference .. => true
  | _ => false

/-- A type that is only known by its bounds. -/
def isImplTrait : Ty → Bool
  | .implTrait .. => true
  | _ => false

/-- The empty tuple. -/
def isUnit : Ty → Bool
  | .tuple [] _ => true
  | _ => false

/-- The types among generic arguments. -/
def typeArguments : List GenericArg → List Ty
  | [] => []
  | .type t :: rest => t :: typeArguments rest
  | _ :: rest => typeArguments rest

/-- The success type and the error type of a `Result`, of which the latter may be
hidden in an alias. -/
def resultTypes? : Ty → Option (Ty × Option Ty)
  | .path p | .qualified _ _ p =>
    match p.last? with
    | some (.mk ident (.angle _ args _)) =>
      if ident.text == "Result" then
        match typeArguments args with
        | ok :: rest => some (ok, rest.head?)
        | [] => none
      else none
    | _ => none
  | _ => none

/-- The reply of a method by its declared result. -/
def replyOf (method : String) : Option Ty → Except Fault Reply
  | none => .ok .unit
  | some ty =>
    if isUnit ty then .ok .unit
    else if isImplTrait ty then
      .error (.unsupportedMethod method
        "returns `impl Trait`, declare it `async fn` with a concrete type")
    else if isReference ty then .error (.unsupportedMethod method "must return an owned type")
    else
      match resultTypes? ty with
      | some (ok, err) => .ok (.fallible ok err)
      | none => .ok (.value ty)

/-- A trait without parameters and `where` clause. -/
def checkGenerics (g : Generics) : Except Fault Unit :=
  if !g.params.isEmpty then
    .error (.unsupportedTrait ("is generic over `" ++ Token.renderAll g.paramTokens
      ++ "`, controllers need a concrete trait"))
  else if g.constrained then
    .error (.unsupportedTrait "has a `where` clause, move the bounds to supertraits")
  else .ok ()

/-- A method that takes `&self` and nothing that is not concrete. -/
def checkSignature (method : String) (sig : Signature) : Except Fault Unit :=
  if !sig.generics.params.isEmpty then
    .error (.unsupportedMethod method "is generic, handlers must be concrete")
  else if sig.variadic then .error (.unsupportedMethod method "is variadic")
  else
    match sig.receiver with
    | some ⟨true, false, false⟩ => .ok ()
    | _ => .error (.unsupportedMethod method "must take `&self`")

/-- The name of a parameter, which must be a plain binding. -/
def plainName (method : String) (p : Pattern) : Except Fault Ident :=
  match p.name, p.elaborate with
  | some name, false => .ok name
  | _, _ =>
    .error (.unsupportedParameter method (Token.renderAll p.tokens) "must be a plain identifier")

/-- The entry of a parameter among the defaults, and the others. -/
def takeDefault (name : String) (defaults : List DefaultEntry) :
    Option DefaultEntry × List DefaultEntry :=
  (defaults.find? (·.name.text == name), defaults.filter (·.name.text != name))

/-- Resolves a parameter; returns the defaults that are left. -/
def parameter (options : Options) (method : String) (verb : Verb) (defaults : List DefaultEntry)
    (input : Input) : Except Fault (Parameter × List DefaultEntry) := do
  let ident ← plainName method input.pattern
  let name := ident.text
  if isReference input.ty then
    throw (.unsupportedParameter method name
      "must be an owned type, references cannot be extracted from a request")
  if isImplTrait input.ty then
    throw (.unsupportedParameter method name "cannot be `impl Trait`")
  let shape := TypeShape.classify options input.ty
  let binding := Binding.resolve shape name verb
  let (entry, left) := takeDefault name defaults
  if entry.isSome && binding != .query then
    throw (.unsupportedParameter method name ("is bound from " ++ binding.name
      ++ " and cannot take a default value, use `Option<_>`"))
  pure (⟨ident, input.ty, shape, binding, input.ty.optionInner?.isSome,
    entry.map fun e => .ofLiteral e.literal⟩, left)

/-- Resolves parameters in order; returns the defaults that no parameter took. -/
def parameters (options : Options) (method : String) (verb : Verb) :
    List DefaultEntry → List Input → Except Fault (List Parameter × List DefaultEntry)
  | defaults, [] => .ok ([], defaults)
  | defaults, input :: rest => do
    let (p, left) ← parameter options method verb defaults input
    let (ps, left) ← parameters options method verb left rest
    pure (p :: ps, left)

/-- Resolves a method. -/
def handler (options : Options) (interface : String) (m : Method) : Except Fault Handler := do
  let method := m.sig.ident.text
  checkSignature method m.sig
  let reply ← replyOf method m.sig.output
  let explicit ← (Helper.verbIn m.attrs).mapError .ofSyntax
  let verb := Verb.resolve explicit method
  let defaults ← (Helper.defaultsIn m.attrs).mapError .ofSyntax
  let (params, left) ← parameters options method verb defaults m.sig.inputs
  match left with
  | e :: _ =>
    throw (.unsupportedParameter method e.name.text
      "is listed in #[default_value] but not declared")
  | [] => pure ⟨interface, m.sig.ident, m.sig.async, reply, verb, params⟩

/-- Resolves methods in order up to the first fault. -/
def handlers (options : Options) (interface : String) :
    List Method → List Handler × Option Fault
  | [] => ([], none)
  | m :: rest =>
    match handler options interface m with
    | .error e => ([], some e)
    | .ok h =>
      let (hs, fault) := handlers options interface rest
      (h :: hs, fault)

/-- The prefix and the visibility of a trait that can have a controller. -/
def header (d : Declaration) : Except Fault (String × Visibility) := do
  checkGenerics d.generics
  let explicit ← (Helper.prefixIn d.attrs).mapError .ofSyntax
  let routePrefix := match explicit with
    | some text => Naming.normalizePrefix text
    | none => Naming.defaultPrefix d.name
  let visibility ← (Helper.visibilityIn d.attrs).mapError fun e => .attributeArgs e.message
  pure (routePrefix, visibility)

end Resolution

/-- Resolves a declaration, and tells which methods were resolved on the way. -/
def Declaration.resolution (options : Options) (d : Declaration) :
    List Handler × Except Fault Service :=
  match Resolution.header d with
  | .error e => ([], .error e)
  | .ok (routePrefix, visibility) =>
    let (hs, fault) := Resolution.handlers options d.name d.methods
    (hs, match fault with
      | some e => .error e
      | none => .ok ⟨d.ident, d.space, hs, routePrefix, visibility, d.capabilities, d.location⟩)

/-- Resolves a declaration. -/
def Declaration.resolve (options : Options) (d : Declaration) : Except Fault Service :=
  (d.resolution options).2

end TraitRoutes
