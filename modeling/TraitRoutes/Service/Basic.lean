import TraitRoutes.Attributes.Helper
import TraitRoutes.Binding
import TraitRoutes.Source.Declaration

/-!
# Services

What is known of a trait when its controller is written: for each method the verb,
the conversion of its result, and where each parameter comes from.
-/

namespace TraitRoutes

/-- How the result of a method becomes a response. -/
inductive Reply where
  | unit
  | value (ty : Ty)
  /-- A `Result`, of which an alias may hide the error. -/
  | fallible (ok : Ty) (err : Option Ty)

/-- A parameter of a handler. -/
structure Parameter where
  ident : Ident
  ty : Ty
  shape : TypeShape
  binding : Binding
  /-- Declared as an `Option`. -/
  nullable : Bool
  /-- What the parameter is when the request leaves it out. -/
  default : Option DefaultValue

namespace Parameter

/-- The name of a parameter, without `r#`. -/
def name (p : Parameter) : String := p.ident.name

/-- Whether metadata calls the parameter optional. -/
def isOptional (p : Parameter) : Bool := p.nullable || p.default.isSome

/-- The expression for an omitted value, of an optional parameter. -/
def defaultExpr? (p : Parameter) : Option String :=
  match p.default with
  | some d => some d.expr
  | none => if p.nullable then some DefaultValue.zeroExpr else none

end Parameter

/-- A handler: a method of a trait with all that its route needs. -/
structure Handler where
  /-- The name of the trait. -/
  interface : String
  ident : Ident
  async : Bool
  reply : Reply
  verb : Verb
  /-- The parameters in the order of their declaration, without the receiver. -/
  params : List Parameter

namespace Handler

/-- The name of a handler, without `r#`. -/
def name (h : Handler) : String := h.ident.name

/-- The parameters with a binding, in order. -/
def boundTo (h : Handler) (b : Binding) : List Parameter := h.params.filter (·.binding = b)

end Handler

/-- A trait with all its handlers. -/
structure Service where
  ident : Ident
  space : String
  handlers : List Handler
  /-- The prefix of all routes. -/
  routePrefix : String
  visibility : Visibility
  capabilities : List String
  location : Location

/-- The name of a service, without `r#`. -/
def Service.name (s : Service) : String := s.ident.name

end TraitRoutes
