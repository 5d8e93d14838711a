import TraitRoutes.Controller.Basic
import TraitRoutes.Layout.Trees
import TraitRoutes.Text.Quoted

/-!
# Printing controllers

Writes a controller as source text. Expressions are laid out as calls, chains of
calls, structures and matches, each with its own way to break over lines;
everything that never breaks is written as plain text.
-/

namespace TraitRoutes.Controller

open Layout Layout.Doc

/-- Where generated code finds its library. -/
def runtime (path : String) : String := "::dynamic_api::" ++ path

/-- Where generated code finds the web framework. -/
def framework (path : String) : String := "::dynamic_api::__private::axum::" ++ path

/-- The conversion of a value into a response. -/
def intoResponse : String := framework "response::IntoResponse"

/-- Braces around a text. -/
def braces (inner : String) : String := "\x7b" ++ inner ++ "\x7d"

/-! ### Expressions -/

/-- A call of something written as a text. -/
def call (callee : String) (args : List (List Doc)) : List Doc :=
  .text callee :: bracketed "(" ")" args

/-- A conversion into a response. -/
def respond (value : List Doc) : List Doc := call (intoResponse ++ "::into_response") [value]

/-- The first part of a chain of calls. -/
def chainStart (s : String) : Doc := cbox (-step) [.text s]

/-- A further part of a chain: a method with its arguments. -/
def chainCall (method : String) (args : List Doc) : List Doc :=
  [zero, .text ("." ++ method), cbox 0 (.text "(" :: args ++ [.text ")"])]

/-- The arguments of a call in a chain. -/
def chainArgs (args : List (List Doc)) : List Doc :=
  if args.isEmpty then [] else [cbox step (zero :: commaList args)]

/-- A further part of a chain: a field. -/
def chainField (field : String) : List Doc := [zero, .text ("." ++ field)]

/-- A chain of calls and fields. -/
def chain (parts : List Doc) : Doc := cbox step parts

/-- The expression for an omitted value, and whether it is written right between
parentheses. -/
def fallbackDoc : Fallback → List Doc × Bool
  | .converted l => (call "::core::convert::Into::into" [[.text l.text]], false)
  | .plain e => ((ofFragment e).plain, (ofFragment e).isBlockLike)

/-- The only argument of a call in a chain. -/
def onlyArg (arg : List Doc × Bool) : List Doc := if arg.2 then arg.1 else chainArgs [arg.1]

/-- An argument of the method. -/
def argumentDoc : Argument → List Doc
  | .bound i => [.text i.text]
  | .wrapped i => call "::core::option::Option::Some" [[.text i.text]]
  | .field i => [chain (chainStart "__query" :: chainField i.text)]
  | .fieldOr i d =>
    let inner := fallbackDoc d
    let some_ := if inner.2 then
        [Doc.text "::core::option::Option::Some("] ++ inner.1 ++ [.text ")"]
      else call "::core::option::Option::Some" [inner.1]
    [chain (chainStart "__query" :: chainField i.text ++ chainCall "or" (chainArgs [some_]))]
  | .fieldUnwrap i d =>
    [chain (chainStart "__query" :: chainField i.text
      ++ chainCall "unwrap_or" (onlyArg (fallbackDoc d)))]

/-! ### Statements -/

/-- A statement on lines of its own. -/
def statement (parts : List Doc) : List Doc := [ibox 0 parts, hard]

/-- A binding. -/
def letStatement (name : String) (value : List Doc) : List Doc :=
  statement (.text ("let " ++ name ++ " = ") :: never :: value ++ [.text ";"])

/-- Lines between braces. -/
def block (lines : List Doc) : List Doc :=
  [.text "\x7b", cbox step (closing (hardIfNonempty :: lines)), .text "\x7d"]

/-- An arm with an expression, which gets braces if it does not fit. -/
def arm (pattern : String) (value : List Doc) : Doc :=
  ibox 0 [.text (pattern ++ " => "), never,
    cbox step (.brk { before := "\x7b" } :: value
      ++ [.brk { offset := -step, after := "\x7d", unbroken := "," }])]

/-- An arm with a block of lines. -/
def blockArm (pattern : String) (lines : List Doc) : Doc :=
  ibox 0 (.text (pattern ++ " => \x7b") :: never ::
    [cbox step (closing (hardIfNonempty :: lines)), .text "\x7d"])

/-- A match. A scrutinee that is a chain lets the brace go to a new line. -/
def matchOn (scrutinee : List Doc) (chained : Bool) (arms : List Doc) : Doc :=
  ibox 0 [.text "match ",
    cbox 0 (scrutinee ++ [if chained then space else .text " "]),
    .text "\x7b", never, cbox step (closing (hardIfNonempty :: arms.flatMap fun a => [a, hard])),
    .text "\x7d"]

/-- The pattern of success. -/
def okPattern (inner : String) : String := "::core::result::Result::Ok(" ++ inner ++ ")"

/-- The pattern of failure. -/
def errPattern : String := "::core::result::Result::Err(err)"

/-- An arm that ends the handler with an error. -/
def rejectArm : Doc :=
  blockArm errPattern (statement (.text "return " :: respond [.text "err"] ++ [.text ";"]))

/-! ### Handlers -/

/-- The statement that reads the form. -/
def readForm : List Doc :=
  letStatement "mut __files" [matchOn
    [chain (cbox (-step) [.text (runtime "form::read_multipart")]
      :: bracketed "(" ")" [[.text "__multipart"]] ++ chainField "await")] true
    [arm (okPattern "files") [.text "files"], rejectArm]]

/-- A chain that starts from the files. -/
def filesChain (parts : List Doc) : Doc := chain (chainStart "__files" :: parts)

/-- A collection, unless it is empty. -/
def nonempty (value : List Doc) : Doc :=
  chain (chainStart "::core::option::Option::Some" :: bracketed "(" ")" [value]
    ++ chainCall "filter" [.text "|files| !files.is_empty()"])

/-- The expression that takes files. -/
def fileExpr (field : String) : FileRead → List Doc
  | .require =>
    [matchOn [filesChain (chainCall "require" (chainArgs [[.text field]]))] true
      [arm (okPattern "file") [.text "file"], rejectArm]]
  | .take => [filesChain (chainCall "take" (chainArgs [[.text field]]))]
  | .takeAll =>
    [filesChain (chainCall "take_all" (chainArgs [[.text field]]) ++ chainCall "into_vec" [])]
  | .takeAny =>
    [nonempty [filesChain (chainCall "take_all" (chainArgs [[.text field]])
      ++ chainCall "into_vec" [])]]
  | .rest => call "::core::mem::take" [[.text "&mut __files"]]
  | .restAny => [nonempty (call "::core::mem::take" [[.text "&mut __files"]])]

/-- The statement that takes files for a parameter. -/
def fileStatement (f : FileBinding) : List Doc :=
  letStatement f.ident.text (fileExpr (Text.quoteText f.field) f.read)

/-- The call of the trait method. -/
def methodCall (interface : Ident) (h : HandlerFn) : List Doc :=
  let callee := "<S as " ++ interface.text ++ ">::" ++ h.ident.text
  let args := bracketed "(" ")" ([.text "&*__service"] :: h.args.map argumentDoc)
  if h.async then [chain (chainStart callee :: args ++ chainField "await")]
  else .text callee :: args

/-- The answer without content. -/
def noContent : List Doc := respond [.text (framework "http::StatusCode::NO_CONTENT")]

/-- A value as an answer in JSON. -/
def jsonAnswer (name : String) : List Doc := respond (call (framework "Json") [[.text name]])

/-- The conversion of an error by its declared type. -/
def errorAnswer : Option Ty → List Doc
  | none => respond [.text "err"]
  | some ty =>
    .text "<" :: ofType false ty ++ .text (" as " ++ intoResponse ++ ">::into_response")
      :: bracketed "(" ")" [[.text "err"]]

/-- Whether a success type is the empty tuple. -/
def isUnit : Ty → Bool
  | .tuple [] _ => true
  | _ => false

/-- The call and the conversion of its result. -/
def answer (interface : Ident) (h : HandlerFn) : List Doc :=
  let result := methodCall interface h
  match h.reply with
  | .unit => statement (result ++ [.text ";"]) ++ statement noContent
  | .value _ => letStatement "__result" result ++ statement (jsonAnswer "__result")
  | .fallible ok err =>
    let success := if isUnit ok then arm (okPattern "()") noContent
      else arm (okPattern "value") (jsonAnswer "value")
    statement [matchOn result h.async [success, arm errPattern (errorAnswer err)]]

/-- A tuple pattern or type. -/
def tuple (elements : List (List Doc)) : List Doc := bracketed "(" ")" elements

/-- An extractor as a parameter: its pattern and its type. -/
def extractorDoc : Extractor → List Doc
  | .service =>
    both "extract::State" [.text "__service"] [.text "::std::sync::Arc<S>"]
  | .path [(i, ty)] => both "extract::Path" [.text i.text] (ofType false ty)
  | .path captures =>
    both "extract::Path" (tuple (captures.map fun c => [.text c.1.text]))
      (tuple (captures.map fun c => ofType false c.2))
  | .query struct => both "extract::Query" [.text "__query"] [.text struct.text]
  | .json i ty => both "Json" [.text i.text] (ofType false ty)
  | .multipart => [.text ("__multipart: " ++ framework "extract::Multipart")]
where
  /-- A type of the framework with one field, taken apart. -/
  both (name : String) (pattern ty : List Doc) : List Doc :=
    call (framework name) [pattern] ++ .text (": " ++ framework name) :: bracketed "<" ">" [ty]

/-- A line of documentation. -/
def docLine (text : String) : List Doc := [.text ("///" ++ text), hard]

/-- The requirement that the service type implements the trait. -/
def serviceBound (interface : Ident) : List Doc :=
  [hardBack, .text "where", hard, .text "S:",
    ibox step [.text (" " ++ interface.text), space, .text "+ ::core::marker::Send", space,
      .text "+ ::core::marker::Sync", space, .text "+ 'static"],
    .text ",", hardBack]

/-- A function over the service type. -/
def function (head name : String) (params : List (List Doc)) (result : String)
    (interface : Ident) (lines : List Doc) : List Doc :=
  [cbox step ([.text (head ++ name)] ++ genericParam
      ++ [.text "(", never, cbox 0 (zero :: commaList params), .text ")",
        cbox (-step) [.text (" -> " ++ result)]]
      ++ serviceBound interface
      ++ .text "\x7b" :: closing (hardIfNonempty :: lines)),
    .text "\x7d", hard]
where
  /-- The service type. -/
  genericParam : List Doc :=
    [.text "<", cbox 0 (zero :: commaList [[.text "S"]]), .text ">"]

/-- A field of a query structure. -/
def fieldDoc (f : QueryField) : List Doc :=
  .text ("pub " ++ f.ident.text ++ ": ")
    :: (if f.wrapped then .text "::core::option::Option" :: bracketed "<" ">" [ofType false f.ty]
      else ofType false f.ty)
    ++ [.text ",", hard]

/-- The structure of a query string. -/
def queryDoc (method : String) (q : QueryStruct) : List Doc :=
  docLine ("Query string of [`" ++ method ++ "`].")
    ++ [.text "#[derive(::dynamic_api::__private::serde::Deserialize)]", hard,
      .text "#[serde(crate = \"::dynamic_api::__private::serde\")]", hard,
      cbox step (closing (.text ("pub struct " ++ q.ident.text ++ " \x7b")
        :: hardIfNonempty :: q.fields.flatMap fieldDoc)),
      .text "\x7d", hard]

/-- A handler with the structure of its query string. -/
def handlerDoc (interface : Ident) (h : HandlerFn) : List Doc :=
  (match h.query with
    | some q => queryDoc h.name q
    | none => [])
    ++ docLine ("Handler forwarding to [`" ++ interface.name ++ "::" ++ h.name ++ "`].")
    ++ function "pub async fn " h.ident.text (h.extractors.map extractorDoc)
      (framework "response::Response") interface
      ((if h.files.isEmpty then [] else readForm) ++ h.files.flatMap fileStatement
        ++ answer interface h)

/-! ### Documentation -/

/-- A structure value, one field to a line. -/
def structDoc (path : String) (fields : List (String × List Doc)) : List Doc :=
  [cbox step (.text (path ++ " \x7b") :: hard :: lines fields), .text "\x7d"]
where
  /-- The fields with a comma behind each. -/
  lines : List (String × List Doc) → List Doc
    | [] => []
    | [(name, value)] => [.text (name ++ ": "), ibox 0 value, .text ",", hardBack]
    | (name, value) :: rest =>
      .text (name ++ ": ") :: ibox 0 value :: .text "," :: hard :: lines rest

/-- A truth value. -/
def boolText (b : Bool) : String := if b then "true" else "false"

/-- An optional text. -/
def optionDoc : Option String → List Doc
  | some value => call "::core::option::Option::Some" [[.text (Text.quoteText value)]]
  | none => [.text "::core::option::Option::None"]

/-- The entry of a parameter. -/
def parameterDoc (p : ParameterMeta) : List Doc :=
  structDoc (runtime "ParameterMeta")
    [("name", [.text (Text.quoteText p.name)]),
      ("source", [.text (runtime ("BindingSource::" ++ p.binding.variantName))]),
      ("optional", [.text (boolText p.optional)]), ("default_value", optionDoc p.defaultValue)]

/-- The entry of an endpoint. -/
def endpointDoc (e : EndpointMeta) : List Doc :=
  structDoc (runtime "EndpointMeta")
    [("name", [.text (Text.quoteText e.name)]),
      ("method", [.text (runtime ("HttpMethod::" ++ e.verb.variantName))]),
      ("path", [.text (Text.quoteText e.path)]),
      ("parameters", bracketed "&[" "]" (e.params.map parameterDoc))]

/-- A constant. -/
def constantDoc (doc name ty : String) (value : List Doc) : List Doc :=
  docLine doc
    ++ [cbox 0 (.text ("pub const " ++ name ++ ": " ++ ty ++ " = ") :: never :: value
      ++ [.text ";"]), hard]

/-- The constants that describe a controller. -/
def metadataDoc (c : Controller) : List Doc :=
  constantDoc " Route prefix shared by every handler." "ROUTE_PREFIX" "&'static str"
      [.text (Text.quoteText c.routePrefix)]
    ++ constantDoc " Documentation visibility." "API_EXPLORER_SETTINGS"
      (runtime "ApiExplorerSettings")
      (structDoc (runtime "ApiExplorerSettings")
        [("ignore_api", [.text (boolText c.visibility.hidden)]),
          ("group_name", optionDoc c.visibility.groupName)])
    ++ constantDoc " Resolved endpoints, in declaration order." "ENDPOINTS"
      ("&'static [" ++ runtime "EndpointMeta" ++ "]")
      (bracketed "&[" "]" (c.endpoints.map endpointDoc))

/-- A route of the router. -/
def routeDoc (r : Route) : List Doc :=
  chainCall "route" (chainArgs [[.text (Text.quoteText r.path)],
    call (framework ("routing::" ++ r.verb.routingName)) [[.text (r.handler.text ++ "::<S>")]]])

/-- The function that builds the router. -/
def routerDoc (c : Controller) : List Doc :=
  docLine " Build the axum router serving every endpoint of the trait."
    ++ function "pub fn " "router" [[.text "service: ::std::sync::Arc<S>"]] (framework "Router")
      c.interface
      (statement [chain (chainStart (framework "Router::new") :: .text "()"
        :: c.routes.flatMap routeDoc ++ chainCall "with_state" (chainArgs [[.text "service"]]))])

/-! ### The file -/

/-- A controller as a document. -/
def doc (c : Controller) : List Doc :=
  let name := c.interface.name
  docLine ("Controller generated from [`" ++ name ++ "`].")
    ++ [cbox step (closing
      ([.text ("pub mod " ++ c.module.text ++ " \x7b"), hardIfNonempty, .text "use super::*;", hard]
        ++ c.handlers.flatMap (handlerDoc c.interface)
        ++ [.text ("/**HTTP controller for [`" ++ name ++ "`].\n\nMount it with `" ++ c.unit.text
            ++ "::router(service)`.*/"), hard,
          .text "#[derive(Debug, Clone, Copy, Default)]", hard,
          .text ("pub struct " ++ c.unit.text ++ ";"), hard,
          cbox step (closing ([.text ("impl " ++ c.unit.text ++ " \x7b"), hardIfNonempty]
            ++ metadataDoc c ++ routerDoc c)),
          .text "\x7d", hard])),
      .text "\x7d", hard,
      .text ("pub use " ++ c.module.text ++ "::" ++ c.unit.text ++ ";"), hard]

/-- The first line of every generated file. -/
def header : String := "// @generated by dynamic-api-codegen. Do not edit."

/-- A controller as source text, for a trait in the given module. -/
def source (c : Controller) (space : String) : String :=
  header ++ "\n// Source: " ++ space ++ "::" ++ c.interface.name ++ "\n\n" ++ Doc.render c.doc

/-- Whether all of a controller can be written. -/
def isWritable (c : Controller) : Bool := Doc.isWritable c.doc

end TraitRoutes.Controller
