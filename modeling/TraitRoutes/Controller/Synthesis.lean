import TraitRoutes.Controller.Basic
import TraitRoutes.Grammar.Reading
import TraitRoutes.Options
import TraitRoutes.Service.Routes

/-!
# Synthesis

Builds the controller of a service. The handler of a method takes the service
first, then captures, query string and body, the last two only if a parameter
comes from them. Files are taken by name before a collection takes the rest of
them, wherever it is declared. A generated name that is no identifier ends the
whole pass; a keyword is a fault of this trait.
-/

namespace TraitRoutes

/-- Why there is no controller. -/
inductive Stop where
  | fault (fault : Fault)
  /-- A generated name is no identifier. -/
  | illegalName (name : String)
  /-- What was taken over from the source cannot be written. -/
  | unwritable
deriving DecidableEq, Repr

namespace Synthesis

/-- A fault as the end of a synthesis. -/
def lift {α : Type} (e : Except Fault α) : Except Stop α := e.mapError .fault

/-- A generated identifier. -/
def identOf (name : String) : Except Stop Ident :=
  match Ident.ofString? name with
  | some i => .ok i
  | none => .error (.illegalName name)

/-! ### Extractors -/

/-- The type that a route parameter is extracted as: not an `Option`. -/
def captureType (p : Parameter) : Ty := p.ty.optionInner?.getD p.ty

/-- The extractor of captures, if the route has any. -/
def pathExtractor (h : Handler) : List Extractor :=
  match h.boundTo .route with
  | [] => []
  | ps => [.path (ps.map fun p => (p.ident, captureType p))]

/-- The field of a query parameter; a default makes it an `Option`. -/
def queryField (p : Parameter) : QueryField := ⟨p.ident, p.ty, !p.nullable && p.default.isSome⟩

/-- The query structure of a method, if a parameter comes from the query. -/
def queryStruct (ident : Ident) (h : Handler) : Option QueryStruct :=
  match h.boundTo .query with
  | [] => none
  | ps => some ⟨ident, ps.map queryField⟩

/-- The extractor of the body, for the first parameter that comes from it. -/
def bodyExtractor (h : Handler) : List Extractor :=
  match h.boundTo .body with
  | [] => []
  | p :: _ => [.json p.ident p.ty]

/-! ### Files -/

/-- The files that a parameter takes; one that was declared as no file takes a
collection. -/
def fileShape (p : Parameter) : FileShape :=
  match p.shape with
  | .file shape => shape
  | _ => .collection

/-- How files are taken for a parameter. -/
def fileRead : FileShape → Bool → FileRead
  | .single, false => .require
  | .single, true => .take
  | .sequence, false => .takeAll
  | .sequence, true => .takeAny
  | .collection, false => .rest
  | .collection, true => .restAny

/-- The statement that takes the files of a parameter. -/
def fileBinding (p : Parameter) : FileBinding :=
  ⟨p.ident, p.name, fileRead (fileShape p) p.nullable⟩

/-- Parameters with files in the order in which they are taken: collections
last. -/
def fileOrder (ps : List Parameter) : List Parameter :=
  ps.filter (fileShape · ≠ .collection) ++ ps.filter (fileShape · = .collection)

/-- The statements that take files. -/
def fileBindings (h : Handler) : List FileBinding :=
  (fileOrder (h.boundTo .form)).map fileBinding

/-! ### Arguments -/

/-- The expression for an omitted value; only string literals are converted. -/
def fallback (name text : String) : Except Fault Fallback :=
  match readExpr text with
  | .ok e =>
    match e.exprForm? with
    | some (.literal (.token l)) => .ok (if l.kind = .string then .converted l else .plain e)
    | _ => .ok (.plain e)
  | .error e =>
    .error (.malformed ("default value `" ++ text ++ "` of parameter `" ++ name
      ++ "` is not an expression: " ++ e.message))

/-- The argument for a query parameter. -/
def queryArgument (p : Parameter) : Except Fault Argument :=
  match p.default, p.nullable with
  | some (.literal text), true => (fallback p.name text).map (.fieldOr p.ident)
  | some d, false => (fallback p.name d.expr).map (.fieldUnwrap p.ident)
  | _, _ => .ok (.field p.ident)

/-- The argument for a parameter. -/
def argument (p : Parameter) : Except Fault Argument :=
  match p.binding with
  | .route => .ok (if p.nullable then .wrapped p.ident else .bound p.ident)
  | .body | .form => .ok (.bound p.ident)
  | .query => queryArgument p

/-- The handler function of a method. -/
def handlerFn (h : Handler) : Except Stop HandlerFn := do
  let queryIdent ← identOf (Naming.queryStructName h.name)
  let query := queryStruct queryIdent h
  let files := fileBindings h
  let args ← lift (h.params.mapM argument)
  pure {
    ident := h.ident, name := h.name, query, files, args, async := h.async, reply := h.reply
    extractors :=
      [.service] ++ pathExtractor h ++ (if query.isSome then [.query queryIdent] else [])
        ++ bodyExtractor h ++ (if files.isEmpty then [] else [.multipart]) }

/-! ### Documentation -/

/-- The literal of a default. -/
def literalDefault? : Option DefaultValue → Option String
  | some (.literal text) => some text
  | _ => none

/-- The entry of a parameter. -/
def parameterMeta (p : Parameter) : ParameterMeta :=
  ⟨p.name, p.binding, p.isOptional, literalDefault? p.default⟩

/-- The entry of an endpoint. -/
def endpointMeta (h : Handler) (path : String) : EndpointMeta :=
  ⟨h.name, h.verb, path, h.params.map parameterMeta⟩

/-- A keyword as a generated name. The name of a module may be `try`. -/
def checkKeyword (module : Bool) (i : Ident) : Except Stop Unit :=
  if i.isReserved && !(module && i.name == "try") then
    .error (.fault (.ofSyntax ⟨false, .keyword i.name⟩))
  else .ok ()

end Synthesis

open Synthesis in
/-- The controller of a service, named with the given suffix. -/
def Service.controller (s : Service) (suffix : String) : Except Stop Controller := do
  lift (Service.checkBodies s.handlers)
  let paths ← lift s.planRoutes
  let unitName := Naming.unitName s.name suffix
  let unit ← identOf unitName
  let module ← identOf (Naming.moduleName unitName)
  let handlers ← s.handlers.mapM handlerFn
  checkKeyword true module
  checkKeyword false unit
  pure {
    interface := s.ident, unit, module, routePrefix := s.routePrefix, visibility := s.visibility
    handlers
    endpoints := (s.handlers.zip paths).map fun (h, path) => endpointMeta h path
    routes := (s.handlers.zip paths).map fun (h, path) => ⟨path, h.verb, h.ident⟩ }

end TraitRoutes
