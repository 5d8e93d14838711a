import TraitRoutes.Controller.FileReading
import TraitRoutes.Demo.Categories
import TraitRoutes.Demo.Endpoints
import TraitRoutes.Demo.Users
import TraitRoutes.Http.QueryString
import TraitRoutes.Http.Template
import TraitRoutes.Json.Reader

/-!
# The demo application

Three services in memory behind one router. A request is matched by its path
first and by its method second. Its handler then reads the captures, the query
string and the body, in this order, and the first of them that does not fit
rejects the request before a service is called.
-/

namespace TraitRoutes.Demo

open Http (Request Response QueryPairs)

/-- The state of the application. -/
structure App where
  sample : SampleStore := {}
  users : UserStore := {}
  categories : CategoryStore := {}
deriving DecidableEq, Repr

/-! ### Routing -/

/-- Where a request goes. -/
inductive Target where
  | notFound
  | wrongMethod
  | run (operation : Operation) (captures : List String)
deriving DecidableEq, Repr

/-- The operations that are routed. -/
def routed : List Operation := DemoController.all.flatMap DemoController.operations

/-- Whether a method is routed to a verb. What can be got can be asked for without
its content. -/
def answersMethod (verb : Verb) (method : String) : Bool :=
  method == verb.wireName || (method == Verb.wireName .head && verb == .get)

/-- The routed operations whose paths match, with what they capture. -/
def matching (path : String) : List (Operation × List String) :=
  routed.filterMap fun op => (Http.matchPath op.endpoint.path path).map (op, ·)

/-- Where a request goes. -/
def targetOf (method path : String) : Target :=
  match matching path with
  | [] => .notFound
  | found =>
    match found.find? fun e => answersMethod e.1.endpoint.verb method with
    | some (op, captures) => .run op captures
    | none => .wrongMethod

/-! ### Extractors -/

/-- The value of an extractor, or the response that rejects the request. -/
abbrev Extracted := Except Response

/-- Rejects a request that a part of is missing or does not fit. -/
def orReject {α : Type} (status : Nat) : Option α → Extracted α
  | some a => .ok a
  | none => .error (.reject status)

/-- The number that the only capture spells. -/
def captured (read : String → Option Int) : List String → Extracted Int
  | [text] => orReject 400 ((Http.textOf? (Http.percentDecode (Http.bytesOf text))).bind read)
  | _ => .error (.reject 500)

/-- The value of a query field that has to be there. -/
def queryField {α : Type} (request : Request) (name : String) (read : String → Option α) :
    Extracted α :=
  orReject 400 ((Http.readQuery request.query).required? name read)

/-- The value of a query field that may be left out. -/
def queryField? {α : Type} (request : Request) (name : String) (read : String → Option α) :
    Extracted (Option α) :=
  orReject 400 ((Http.readQuery request.query).optional? name read)

/-- Whether the body of a request is announced as JSON. -/
def announcesJson (request : Request) : Bool :=
  ((request.contentType.bind Http.MediaType.ofHeader?).map Http.MediaType.isJson).getD false

/-- The status that a mistake in a body is answered with. -/
def mistakeStatus : JsonReader.Mistake → Nat
  | .malformed => 400
  | .mismatch => 422

/-- The record in the body of a request. -/
def jsonBody {α : Type} (fields : List JsonReader.Field)
    (ofValues : List JsonReader.Value → Option α) (request : Request) : Extracted α :=
  if !announcesJson request then .error (.reject 415)
  else if Http.bodyLimit < request.body.length then .error (.reject Http.BodyError.tooLarge.status)
  else
    match JsonReader.readBody fields request.body with
    | .error e => .error (.reject (mistakeStatus e))
    | .ok values => orReject 422 (ofValues values)

/-- The files in the body of a request. -/
def formBody (request : Request) : Extracted Http.FormFiles :=
  (readUpload (Http.Multipart.fields? request.contentType request.body)).mapError
    FormRejection.response

/-! ### Records in bodies -/

/-- A number of 32 bits in a record. -/
def int32 : JsonReader.Kind := .int (-2147483648) 2147483647

/-- A number of 64 bits in a record. -/
def int64 : JsonReader.Kind := .int (-9223372036854775808) 9223372036854775807

/-- The text of a value that may be missing. -/
def textOption : JsonReader.Value → Option (Option String)
  | .text value => some (some value)
  | .none => some none
  | _ => none

/-- The number of a value that may be missing. -/
def intOption : JsonReader.Value → Option (Option Int)
  | .int value => some (some value)
  | .none => some none
  | _ => none

/-- The truth value of a value that may be missing. -/
def boolOption : JsonReader.Value → Option (Option Bool)
  | .bool value => some (some value)
  | .none => some none
  | _ => none

/-- Reads the draft of an item. -/
def itemDraft : Request → Extracted ItemDraft :=
  jsonBody [.required "name" .text, .required "count" int32] fun
    | [.text name, .int count] => some ⟨name, count⟩
    | _ => none

/-- Reads the update of an item. -/
def itemUpdate : Request → Extracted ItemUpdate :=
  jsonBody [.required "name" .text, .required "enabled" .bool] fun
    | [.text name, .bool enabled] => some ⟨name, enabled⟩
    | _ => none

/-- Reads the name of a user. -/
def userName : Request → Extracted String :=
  jsonBody [.required "name" .text] fun
    | [.text name] => some name
    | _ => none

/-- Reads the draft of a category. -/
def categoryDraft : Request → Extracted CategoryDraft :=
  jsonBody [.required "name" .text, .optional "description" .text, .optional "parent_id" int64,
      .withDefault "sort_order" int32 (.int 0)] fun
    | [.text name, description, parentId, .int sortOrder] => do
      some ⟨name, ← textOption description, ← intOption parentId, sortOrder⟩
    | _ => none

/-- Reads the update of a category. -/
def categoryUpdate : Request → Extracted CategoryUpdate :=
  jsonBody [.optional "name" .text, .optional "description" .text, .optional "sort_order" int32,
      .optional "is_active" .bool] fun
    | [name, description, sortOrder, isActive] => do
      some ⟨← textOption name, ← textOption description, ← intOption sortOrder,
        ← boolOption isActive⟩
    | _ => none

/-! ### Answers -/

/-- An item in a list. -/
def itemJson (i : Item) : JsonValue := .record [("id", .int i.id), ("name", .text i.name)]

/-- A user. -/
def userJson (u : User) : JsonValue := .record [("id", .int u.id), ("name", .text u.name)]

/-- A category. -/
def categoryJson (c : Category) : JsonValue :=
  .record [("id", .int c.id), ("name", .text c.name), ("description", .option .text c.description),
    ("parent_id", .option .int c.parentId), ("sort_order", .int c.sortOrder),
    ("is_active", .bool c.isActive)]

mutual

/-- A node of the tree. -/
def nodeJson : CategoryNode → JsonValue
  | .node id name sortOrder children =>
    .record [("id", .int id), ("name", .text name), ("sort_order", .int sortOrder),
      ("children", .list (nodesJson children))]

/-- Nodes of the tree. -/
def nodesJson : List CategoryNode → List JsonValue
  | [] => []
  | n :: rest => nodeJson n :: nodesJson rest

end

/-- The answer to a service error. -/
def errorResponse (e : ServiceError) : Response :=
  ⟨e.status, .json (.record [("error", .text e.message)])⟩

/-! ### Handlers -/

namespace App

/-- The state with another sample store. -/
def withSample (app : App) (s : SampleStore) : App := { app with sample := s }

/-- The state with another user store. -/
def withUsers (app : App) (s : UserStore) : App := { app with users := s }

/-- The state with another category store. -/
def withCategories (app : App) (s : CategoryStore) : App := { app with categories := s }

/-- Handles a request for an operation of the sample service. -/
def runSample (app : App) (op : SampleOperation) (captures : List String) (request : Request) :
    Extracted (Response × App) := do
  match op with
  | .getWelcomeMessage => return (.ok (.text SampleStore.welcome), app)
  | .getItem =>
    let id ← captured Http.readInt32 captures
    let keyword ← queryField request "keyword" some
    return (.ok (.text (app.sample.describe id keyword)), app)
  | .createItem =>
    let (done, s) := app.sample.create (← itemDraft request)
    return (.ok (.bool done), app.withSample s)
  | .updateItem =>
    let id ← captured Http.readInt32 captures
    let (done, s) := app.sample.update id (← itemUpdate request)
    return (.ok (.bool done), app.withSample s)
  | .deleteItem =>
    let id ← captured Http.readInt32 captures
    let force ← queryField? request "force" Http.readBool
    let (done, s) := app.sample.delete id (force.getD false)
    return (.ok (.bool done), app.withSample s)
  | .getList =>
    let index ← queryField? request "page_index" Http.readInt32
    let size ← queryField? request "page_size" Http.readInt32
    return (.ok (.list ((app.sample.page (index.getD 1) (size.getD 10)).map itemJson)), app)
  | .uploadItemImage =>
    let id ← captured Http.readInt32 captures
    match (← formBody request).require "image" with
    | (.error e, _) => .error (FormRejection.missing e).response
    | (.ok image, _) =>
      let (size, s) := app.sample.upload id image
      return (.ok (.int size), app.withSample s)

/-- Handles a request for an operation of the user service. -/
def runUsers (app : App) (op : UserOperation) (captures : List String) (request : Request) :
    Extracted (Response × App) := do
  match op with
  | .getUser =>
    let id ← captured Http.readInt64 captures
    match app.users.get id with
    | .ok user => return (.ok (userJson user), app)
    | .error e => .error (errorResponse e)
  | .getUsers =>
    let name ← queryField? request "name" some
    return (.ok (.list ((app.users.list name).map userJson)), app)
  | .createUser =>
    match app.users.create (← userName request) with
    | (.ok user, s) => return (.ok (userJson user), app.withUsers s)
    | (.error e, s) => return (errorResponse e, app.withUsers s)
  | .updateUser =>
    let id ← captured Http.readInt64 captures
    match app.users.update id (← userName request) with
    | (.ok (), s) => return (.noContent, app.withUsers s)
    | (.error e, s) => return (errorResponse e, app.withUsers s)
  | .deleteUser =>
    let id ← captured Http.readInt64 captures
    return (.noContent, app.withUsers (app.users.delete id))

/-- Handles a request for an operation of the category service. -/
def runCategories (app : App) (op : CategoryOperation) (captures : List String)
    (request : Request) : Extracted (Response × App) := do
  match op with
  | .getCategoryTree => return (.ok (.list (nodesJson app.categories.tree)), app)
  | .getCategoryById =>
    let id ← captured Http.readInt64 captures
    return (.ok (.option categoryJson (app.categories.category? id)), app)
  | .createCategory =>
    let (id, s) := app.categories.create (← categoryDraft request)
    return (.ok (.int id), app.withCategories s)
  | .updateCategory =>
    let id ← captured Http.readInt64 captures
    let (done, s) := app.categories.update id (← categoryUpdate request)
    return (.ok (.bool done), app.withCategories s)
  | .deleteCategory =>
    let id ← captured Http.readInt64 captures
    let (done, s) := app.categories.delete id
    return (.ok (.bool done), app.withCategories s)
  | .getCategoryProductCount =>
    let id ← captured Http.readInt64 captures
    return (.ok (.int (app.categories.productCount id)), app)
  | .updateCategorySort =>
    let id ← captured Http.readInt64 captures
    let order ← queryField request "sort_order" Http.readInt32
    let (done, s) := app.categories.updateSort id order
    return (.ok (.bool done), app.withCategories s)

/-- Handles a request for an operation. -/
def run (app : App) (op : Operation) (captures : List String) (request : Request) :
    Extracted (Response × App) :=
  match op with
  | .sample op => app.runSample op captures request
  | .user op => app.runUsers op captures request
  | .category op => app.runCategories op captures request

/-- The answer that is sent: without its content if only the head was asked for. -/
def sent (method : String) (r : Response) : Response :=
  if method == Verb.wireName .head then { r with body := .empty } else r

/-- Handles a request. -/
def handle (app : App) (request : Request) : Response × App :=
  match targetOf request.method request.path with
  | .notFound => (⟨404, .empty⟩, app)
  | .wrongMethod => (⟨405, .empty⟩, app)
  | .run op captures =>
    match app.run op captures request with
    | .ok (response, app) => (sent request.method response, app)
    | .error response => (sent request.method response, app)

/-- Handles requests in order. -/
def handleAll (app : App) : List Request → List Response × App
  | [] => ([], app)
  | request :: rest =>
    let (response, app) := app.handle request
    let (more, app) := app.handleAll rest
    (response :: more, app)

end App

end TraitRoutes.Demo
