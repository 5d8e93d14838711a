import TraitRoutes.Http.Verb
import TraitRoutes.Unicode.LetterCase

/-!
# The verb of a method name

A method that names no verb gets one from the beginning of its name. Case and
underscores do not count, so `get_item` and `GetItem` both begin with `get`.
The vocabularies are tried in order, and a name that begins with none of their
words is posted to.
-/

namespace TraitRoutes.Verb

/-- The words that announce a verb, in the order in which they are tried. -/
def vocabularies : List (List String × Verb) :=
  [(["get", "find", "query", "search", "fetch", "retrieve"], .get),
   (["create", "add", "insert", "post", "submit"], .post),
   (["update", "edit", "modify", "put", "replace"], .put),
   (["delete", "remove", "destroy", "drop"], .delete),
   (["patch", "partialupdate"], .patch)]

/-- The verb of a name that announces none. -/
def fallback : Verb := .post

/-- A method name without underscores, in lower case, character by character. -/
def normalizedName (name : String) : List Char :=
  (name.toList.filter (· != '_')).flatMap Unicode.lowerChar

/-- The verb that a method name announces. -/
def infer (name : String) : Verb :=
  let normalized := normalizedName name
  match vocabularies.find? fun entry => entry.1.any fun w => w.toList.isPrefixOf normalized with
  | some (_, verb) => verb
  | none => fallback

/-- The verb of a method: the one it names, or the one its name announces. -/
def resolve (explicit : Option Verb) (name : String) : Verb := explicit.getD (infer name)

end TraitRoutes.Verb
