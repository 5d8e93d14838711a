/-!
# Verbs

The HTTP verbs that a handler can be routed under, and their three spellings.
A verb is recognised in any mixture of upper and lower case ASCII letters.
-/

namespace TraitRoutes

/-- An HTTP verb. -/
inductive Verb where
  | get | post | put | delete | patch | head | options | trace
deriving DecidableEq, Repr, Inhabited

namespace Verb

/-- Every verb. -/
def all : List Verb := [get, post, put, delete, patch, head, options, trace]

/-- The verb as it is sent. -/
def wireName : Verb → String
  | get => "GET"
  | post => "POST"
  | put => "PUT"
  | delete => "DELETE"
  | patch => "PATCH"
  | head => "HEAD"
  | options => "OPTIONS"
  | trace => "TRACE"

/-- The routing function of the verb. -/
def routingName : Verb → String
  | get => "get"
  | post => "post"
  | put => "put"
  | delete => "delete"
  | patch => "patch"
  | head => "head"
  | options => "options"
  | trace => "trace"

/-- The verb as an attribute names it. -/
def variantName : Verb → String
  | get => "Get"
  | post => "Post"
  | put => "Put"
  | delete => "Delete"
  | patch => "Patch"
  | head => "Head"
  | options => "Options"
  | trace => "Trace"

/-- The place of the verb among all of them. -/
def index (v : Verb) : Nat := v.ctorIdx

/-- The verb that a text spells, in any case. -/
def ofName? (text : String) : Option Verb :=
  all.find? fun v => v.wireName.toList == text.toList.map Char.toUpper

/-- The complaint about a text that spells no verb. -/
def unknownMessage (text : String) : String :=
  "unknown HTTP method `" ++ text ++ "`, expected one of: "
    ++ ", ".intercalate (all.map variantName)

end Verb

end TraitRoutes
