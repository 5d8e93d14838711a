import TraitRoutes.Controller.Printer
import TraitRoutes.Proofs.QuotedValues
import TraitRoutes.Proofs.TypeText

/-!
# The syntax of controllers

What a controller is as source text: for every part of it the language of its texts, which
leaves open where lines end. Only the line of a comment has to end, since code follows. A
handler function, an entry of the documentation and a route each have a text of their own, and
the text of a controller has those of its own, in their order, and no others.

The expressions for omitted values that are no string literals are the texts that they are laid
out as.
-/

namespace TraitRoutes

open Layout (gap line lit)
open Layout.Doc (enclosed written)

/-! ## Forms -/

namespace Code

/-- A path of the web framework. -/
def axum (path : String) : String := "::dynamic_api::__private::axum::" ++ path

/-- The string literals that denote a text. -/
def quoted (text : String) : Language Char :=
  {cs | Literal.IsLexed ⟨.string, String.ofList cs⟩ ∧ Text.stringValue (String.ofList cs) = text}

/-- A call of a function. -/
def call (function : String) (args : List (Language Char)) : Language Char :=
  lit function * enclosed "(" ")" args

/-- A call of a method, behind its receiver. -/
def method (name : String) (args : List (Language Char)) : Language Char :=
  gap * lit ("." ++ name) * enclosed "(" ")" args

/-- A field, behind what has it. -/
def field (name : String) : Language Char := gap * lit ("." ++ name)

/-- A value that is there. -/
def present (value : Language Char) : Language Char := call "::core::option::Option::Some" [value]

/-- A value as a response. -/
def response (value : Language Char) : Language Char :=
  call "::dynamic_api::__private::axum::response::IntoResponse::into_response" [value]

/-- A binding. -/
def binding (pattern : String) (value : Language Char) : Language Char :=
  lit ("let " ++ pattern ++ " = ") * gap * value * lit ";" * line

/-- Lines between braces. -/
def block (lines : Language Char) : Language Char := lit "\x7b" * gap * lines * lit "\x7d"

/-- The pattern of a result that is no error. -/
def ok (pattern : String) : String := "::core::result::Result::Ok(" ++ pattern ++ ")"

/-- An arm of a match. A value on lines of its own stands in braces. -/
def arm (pattern : String) (value : Language Char) : Language Char :=
  lit (pattern ++ " => ") * gap * (gap * value * gap * lit "," + block (value * line))

/-- The arm that answers an error with its response. -/
def rejection : Language Char :=
  lit "::core::result::Result::Err(err) => " *
    block (lit "return " * response (lit "err") * lit ";" * line)

/-- A match with two arms. -/
def matching (value success failure : Language Char) : Language Char :=
  lit "match " * value * gap * block (success * line * (failure * line))

/-- A line of documentation. -/
def doc (text : String) : Language Char := lit ("///" ++ text) * line

/-- A function over the type of the service. -/
def function (head : String) (params : List (Language Char)) (output : String) (interface : Ident)
    (body : Language Char) : Language Char :=
  lit head * enclosed "<" ">" [lit "S"] * enclosed "(" ")" params * lit (" -> " ++ output) * line
    * lit "where" * line
    * lit ("S: " ++ interface.text) * gap * lit "+ ::core::marker::Send" * gap
    * lit "+ ::core::marker::Sync" * gap * lit "+ 'static," * line
    * block body * line

/-- A structure value. -/
def record (path : String) (fields : List (String × Language Char)) : Language Char :=
  lit (path ++ " \x7b") * line
    * (fields.map fun f => lit (f.1 ++ ": ") * f.2 * lit "," * line).prod * lit "\x7d"

/-- A constant. -/
def constant (name ty : String) (value : Language Char) : Language Char :=
  lit ("pub const " ++ name ++ ": " ++ ty ++ " = ") * gap * value * lit ";" * line

end Code

open Code

/-! ## Handlers -/

def Fallback.code : Fallback → Language Char
  | .converted l => call "::core::convert::Into::into" [lit l.text]
  | .plain e => e.code

def Argument.code : Argument → Language Char
  | .bound i => lit i.text
  | .wrapped i => present (lit i.text)
  | .field i => lit "__query" * Code.field i.text
  | .fieldOr i d => lit "__query" * Code.field i.text * method "or" [present d.code]
  | .fieldUnwrap i d => lit "__query" * Code.field i.text * method "unwrap_or" [d.code]

/-- An extractor that is taken apart. -/
def Extractor.unwrapping (wrapper : String) (pattern ty : Language Char) : Language Char :=
  call (axum wrapper) [pattern] * lit (": " ++ axum wrapper) * enclosed "<" ">" [ty]

def Extractor.code : Extractor → Language Char
  | .service => unwrapping "extract::State" (lit "__service") (lit "::std::sync::Arc<S>")
  | .path [(i, ty)] => unwrapping "extract::Path" (lit i.text) ty.code
  | .path captures =>
    unwrapping "extract::Path" (enclosed "(" ")" (captures.map fun c => lit c.1.text))
      (enclosed "(" ")" (captures.map fun c => c.2.code))
  | .query struct => unwrapping "extract::Query" (lit "__query") (lit struct.text)
  | .json i ty => unwrapping "Json" (lit i.text) ty.code
  | .multipart => lit "__multipart: ::dynamic_api::__private::axum::extract::Multipart"

def QueryField.code (f : QueryField) : Language Char :=
  lit ("pub " ++ f.ident.text ++ ": ")
    * (if f.wrapped then lit "::core::option::Option" * enclosed "<" ">" [f.ty.code] else f.ty.code)
    * lit "," * line

def QueryStruct.code (q : QueryStruct) : Language Char :=
  lit "#[derive(::dynamic_api::__private::serde::Deserialize)]" * line
    * lit "#[serde(crate = \"::dynamic_api::__private::serde\")]" * line
    * lit ("pub struct " ++ q.ident.text ++ " ") * block (q.fields.map QueryField.code).prod * line

/-- The files that are taken from the field of the given name. -/
def FileRead.code (name : String) : FileRead → Language Char
  | .require =>
    matching (lit "__files" * method "require" [quoted name]) (arm (ok "file") (lit "file"))
      rejection
  | .take => lit "__files" * method "take" [quoted name]
  | .takeAll => all
  | .takeAny => unlessEmpty all
  | .rest => remaining
  | .restAny => unlessEmpty remaining
where
  all : Language Char := lit "__files" * method "take_all" [quoted name] * method "into_vec" []
  remaining : Language Char := call "::core::mem::take" [lit "&mut __files"]
  unlessEmpty (files : Language Char) : Language Char :=
    present files * method "filter" [lit "|files| !files.is_empty()"]

def FileBinding.code (b : FileBinding) : Language Char :=
  binding b.ident.text (b.read.code b.field)

namespace HandlerFn

/-- The statements that read the form and take files from it. -/
def readingCode (fn : HandlerFn) : Language Char :=
  if fn.files.isEmpty then 1
  else binding "mut __files" (matching
      (call "::dynamic_api::form::read_multipart" [lit "__multipart"] * field "await")
      (arm (ok "files") (lit "files")) rejection)
    * (fn.files.map FileBinding.code).prod

/-- The call of the method, with one argument for each parameter. -/
def callCode (interface : Ident) (fn : HandlerFn) : Language Char :=
  call ("<S as " ++ interface.text ++ ">::" ++ fn.ident.text)
      (lit "&*__service" :: fn.args.map Argument.code)
    * if fn.async then field "await" else 1

/-- The answer without content. -/
def noContent : Language Char := response (lit (axum "http::StatusCode::NO_CONTENT"))

/-- A value as the answer. -/
def json (name : String) : Language Char := response (call (axum "Json") [lit name])

/-- The answer to an error of the method. -/
def errorCode : Option Ty → Language Char
  | none => response (lit "err")
  | some ty =>
    lit "<" * ty.code * lit " as ::dynamic_api::__private::axum::response::IntoResponse>"
      * call "::into_response" [lit "err"]

/-- The arm that answers a success. -/
def successCode : Ty → Language Char
  | .tuple [] _ => arm (ok "()") noContent
  | _ => arm (ok "value") (json "value")

/-- The call of the method and the answer. -/
def answerCode (interface : Ident) (fn : HandlerFn) : Language Char :=
  match fn.reply with
  | .unit => fn.callCode interface * lit ";" * line * noContent * line
  | .value _ => binding "__result" (fn.callCode interface) * json "__result" * line
  | .fallible success err =>
    matching (fn.callCode interface) (successCode success)
        (arm "::core::result::Result::Err(err)" (errorCode err))
      * line

/-- The structure of the query string, if there is one. -/
def queryCode (fn : HandlerFn) : Language Char :=
  match fn.query with
  | some q => doc ("Query string of [`" ++ fn.name ++ "`].") * q.code
  | none => 1

def code (interface : Ident) (fn : HandlerFn) : Language Char :=
  fn.queryCode
    * doc ("Handler forwarding to [`" ++ interface.name ++ "::" ++ fn.name ++ "`].")
    * function ("pub async fn " ++ fn.ident.text) (fn.extractors.map Extractor.code)
      (axum "response::Response") interface (fn.readingCode * fn.answerCode interface)

end HandlerFn

/-! ## Documentation and routes -/

/-- The function that routes a verb. -/
def Verb.routingCode : Verb → String
  | .get => "::dynamic_api::__private::axum::routing::get"
  | .post => "::dynamic_api::__private::axum::routing::post"
  | .put => "::dynamic_api::__private::axum::routing::put"
  | .delete => "::dynamic_api::__private::axum::routing::delete"
  | .patch => "::dynamic_api::__private::axum::routing::patch"
  | .head => "::dynamic_api::__private::axum::routing::head"
  | .options => "::dynamic_api::__private::axum::routing::options"
  | .trace => "::dynamic_api::__private::axum::routing::trace"

/-- A verb in the documentation. -/
def Verb.code : Verb → String
  | .get => "::dynamic_api::HttpMethod::Get"
  | .post => "::dynamic_api::HttpMethod::Post"
  | .put => "::dynamic_api::HttpMethod::Put"
  | .delete => "::dynamic_api::HttpMethod::Delete"
  | .patch => "::dynamic_api::HttpMethod::Patch"
  | .head => "::dynamic_api::HttpMethod::Head"
  | .options => "::dynamic_api::HttpMethod::Options"
  | .trace => "::dynamic_api::HttpMethod::Trace"

/-- Where a parameter comes from, in the documentation. -/
def Binding.code : Binding → String
  | .route => "::dynamic_api::BindingSource::Route"
  | .query => "::dynamic_api::BindingSource::Query"
  | .body => "::dynamic_api::BindingSource::Body"
  | .form => "::dynamic_api::BindingSource::Form"

/-- A text that may be missing. -/
def optionCode : Option String → Language Char
  | some text => present (quoted text)
  | none => lit "::core::option::Option::None"

def ParameterMeta.code (p : ParameterMeta) : Language Char :=
  record "::dynamic_api::ParameterMeta"
    [("name", quoted p.name),
      ("source", lit p.binding.code),
      ("optional", lit (if p.optional then "true" else "false")),
      ("default_value", optionCode p.defaultValue)]

def EndpointMeta.code (e : EndpointMeta) : Language Char :=
  record "::dynamic_api::EndpointMeta"
    [("name", quoted e.name),
      ("method", lit e.verb.code),
      ("path", quoted e.path),
      ("parameters", enclosed "&[" "]" (e.params.map ParameterMeta.code))]

def Route.code (r : Route) : Language Char :=
  method "route" [quoted r.path, call r.verb.routingCode [lit (r.handler.text ++ "::<S>")]]

namespace Controller

/-- The constants of the documentation. -/
def constantsCode (c : Controller) : Language Char :=
  Code.doc " Route prefix shared by every handler."
    * constant "ROUTE_PREFIX" "&'static str" (quoted c.routePrefix)
    * Code.doc " Documentation visibility."
    * constant "API_EXPLORER_SETTINGS" "::dynamic_api::ApiExplorerSettings"
      (record "::dynamic_api::ApiExplorerSettings"
        [("ignore_api", lit (if c.visibility.hidden then "true" else "false")),
          ("group_name", optionCode c.visibility.groupName)])
    * Code.doc " Resolved endpoints, in declaration order."
    * constant "ENDPOINTS" "&'static [::dynamic_api::EndpointMeta]"
      (enclosed "&[" "]" (c.endpoints.map EndpointMeta.code))

/-- The function that builds the router. -/
def routerCode (c : Controller) : Language Char :=
  Code.doc " Build the axum router serving every endpoint of the trait."
    * Code.function "pub fn router" [lit "service: ::std::sync::Arc<S>"] (axum "Router") c.interface
      (Code.call (axum "Router::new") [] * (c.routes.map Route.code).prod
        * method "with_state" [lit "service"] * line)

/-- The lines of the module: the handlers, and the unit with the rest. -/
def linesCode (c : Controller) : Language Char :=
  lit "use super::*;" * line
    * (c.handlers.map (HandlerFn.code c.interface)).prod
    * lit ("/**HTTP controller for [`" ++ c.interface.name ++ "`].\n\nMount it with `"
        ++ c.unit.text ++ "::router(service)`.*/") * line
    * lit "#[derive(Debug, Clone, Copy, Default)]" * line
    * lit ("pub struct " ++ c.unit.text ++ ";") * line
    * lit ("impl " ++ c.unit.text ++ " ") * Code.block (c.constantsCode * c.routerCode) * line

/-- The source file, for a trait in the given module. -/
def code (c : Controller) (space : String) : Language Char :=
  lit "// @generated by dynamic-api-codegen. Do not edit.\n"
    * lit ("// Source: " ++ space ++ "::" ++ c.interface.name ++ "\n\n")
    * Code.doc ("Controller generated from [`" ++ c.interface.name ++ "`].")
    * lit ("pub mod " ++ c.module.text ++ " ") * Code.block c.linesCode * line
    * lit ("pub use " ++ c.module.text ++ "::" ++ c.unit.text ++ ";") * line

end Controller

end TraitRoutes
