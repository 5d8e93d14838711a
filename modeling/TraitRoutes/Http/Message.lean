import TraitRoutes.Http.Encoding
import TraitRoutes.Json.Value

/-!
# Requests and responses
-/

namespace TraitRoutes.Http

/-- A request. -/
structure Request where
  method : String
  /-- The path as it was sent, with its escapes. -/
  path : String
  /-- The query string, empty if there is none. -/
  query : String
  contentType : Option String
  body : Bytes
deriving DecidableEq, Repr

/-- Cuts a target behind the scheme and the `://` that it starts with. -/
def afterScheme? (target : List Char) : Option (List Char) :=
  let isSchemeChar (c : Char) : Bool := c.isAlphanum || c == '+' || c == '-' || c == '.'
  match target.takeWhile isSchemeChar, target.dropWhile isSchemeChar with
  | _ :: _, ':' :: '/' :: '/' :: rest => some rest
  | _, _ => none

/-- What a target asks of its host. A target may name the host, behind a scheme;
what then remains is at least a slash. -/
def hostTarget (target : List Char) : List Char :=
  match afterScheme? target with
  | none => target
  | some rest =>
    match rest.dropWhile fun c => c != '/' && c != '?' && c != '#' with
    | '/' :: more => '/' :: more
    | more => '/' :: more

/-- The path and the query string of a target. -/
def splitTarget (target : String) : String × String :=
  let cs := (hostTarget target.toList).takeWhile (· != '#')
  (String.ofList (cs.takeWhile (· != '?')), String.ofList ((cs.dropWhile (· != '?')).drop 1))

/-- The request for a target. -/
def Request.to (method target : String) (contentType : Option String) (body : Bytes) : Request :=
  ⟨method, (splitTarget target).1, (splitTarget target).2, contentType, body⟩

/-- What a response holds. -/
inductive Body where
  | empty
  | json (value : JsonValue)
  | text (content : String)
  /-- A rejection put into words for the reader. -/
  | explanation

/-- A response. -/
structure Response where
  status : Nat
  body : Body

/-- A value as the answer. -/
def Response.ok (value : JsonValue) : Response := ⟨200, .json value⟩

/-- The answer without content. -/
def Response.noContent : Response := ⟨204, .empty⟩

/-- A refusal. -/
def Response.reject (status : Nat) : Response := ⟨status, .explanation⟩

end TraitRoutes.Http
