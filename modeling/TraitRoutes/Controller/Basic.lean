import TraitRoutes.Service.Basic
import TraitRoutes.Unicode.IdentChar

/-!
# Controllers

A controller as it is generated: for each method a handler function, with the
structure of its query string, a route, and an entry for the documentation. What
stands in these is exactly what the printer writes.
-/

namespace TraitRoutes

/-- The expression for an omitted value. -/
inductive Fallback where
  /-- A string literal, converted into the type of the parameter. -/
  | converted (literal : Literal)
  /-- Any other expression. -/
  | plain (expr : Fragment)

/-- What a handler passes for a parameter. -/
inductive Argument where
  /-- What an extractor or a statement bound under the name. -/
  | bound (ident : Ident)
  /-- The same, wrapped in `Some`. -/
  | wrapped (ident : Ident)
  /-- A field of the query string. -/
  | field (ident : Ident)
  /-- A field that is an `Option`, or else `Some` of the fallback. -/
  | fieldOr (ident : Ident) (fallback : Fallback)
  /-- What is in a field, or else the fallback. -/
  | fieldUnwrap (ident : Ident) (fallback : Fallback)

/-- What a handler takes from a request. -/
inductive Extractor where
  | service
  /-- The captures of the route with their types. -/
  | path (captures : List (Ident × Ty))
  /-- The query string as a structure of the given name. -/
  | query (struct : Ident)
  | json (ident : Ident) (ty : Ty)
  | multipart

/-- Whether an extractor reads the body of the request. -/
def Extractor.readsBody : Extractor → Bool
  | .json .. | .multipart => true
  | _ => false

/-- A field of a query structure. -/
structure QueryField where
  ident : Ident
  ty : Ty
  /-- The type is wrapped in an `Option` that the source does not have. -/
  wrapped : Bool

/-- The structure of a query string. -/
structure QueryStruct where
  ident : Ident
  fields : List QueryField

/-- How uploaded files are taken for a parameter. -/
inductive FileRead where
  /-- One file, without which the request fails. -/
  | require
  /-- One file, if there is one. -/
  | take
  /-- All files of the name. -/
  | takeAll
  /-- All files of the name, if there is one. -/
  | takeAny
  /-- All files that are left. -/
  | rest
  /-- All files that are left, if there is one. -/
  | restAny
deriving DecidableEq, Repr

/-- A statement that takes uploaded files for a parameter. -/
structure FileBinding where
  ident : Ident
  /-- The field that the files were uploaded under. -/
  field : String
  read : FileRead

/-- A handler function. -/
structure HandlerFn where
  ident : Ident
  /-- The name of the method. -/
  name : String
  query : Option QueryStruct
  extractors : List Extractor
  /-- The statements that take files, in order; with none the form is not read. -/
  files : List FileBinding
  args : List Argument
  async : Bool
  reply : Reply

/-- A parameter in the documentation. -/
structure ParameterMeta where
  name : String
  binding : Binding
  optional : Bool
  /-- The literal default. -/
  defaultValue : Option String
deriving DecidableEq, Repr

/-- An endpoint in the documentation. -/
structure EndpointMeta where
  name : String
  verb : Verb
  path : String
  params : List ParameterMeta
deriving DecidableEq, Repr

/-- The first parameter of a name. -/
def EndpointMeta.param? (e : EndpointMeta) (name : String) : Option ParameterMeta :=
  e.params.find? (·.name == name)

/-- A route of the router: the path, the verb and the function that it calls. -/
structure Route where
  path : String
  verb : Verb
  handler : Ident
deriving DecidableEq, Repr

/-- A controller. -/
structure Controller where
  /-- The trait. -/
  interface : Ident
  /-- The name of the controller. -/
  unit : Ident
  /-- The module around it. -/
  module : Ident
  routePrefix : String
  visibility : Visibility
  handlers : List HandlerFn
  endpoints : List EndpointMeta
  routes : List Route

/-! ### Generated names -/

/-- Words that have no raw form. -/
def Ident.neverRaw : List String := ["_", "super", "self", "Self", "crate"]

/-- The identifier of the given characters, if they make up one. -/
def Ident.ofChars? (raw : Bool) (cs : List Char) : Option Ident :=
  if h : Ident.isLegal cs = true then some ⟨raw, String.ofList cs, by simpa using h⟩ else none

/-- The identifier that a text spells, if it spells one. -/
def Ident.ofString? (text : String) : Option Ident :=
  match text.toList with
  | 'r' :: '#' :: rest =>
    if Ident.neverRaw.contains (String.ofList rest) then none else Ident.ofChars? true rest
  | cs => Ident.ofChars? false cs

end TraitRoutes
