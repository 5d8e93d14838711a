import TraitRoutes.Text.Words
import TraitRoutes.Unicode.Blank

/-!
# Names and routes

Every name and route of a controller follows from the names of its trait and
methods. A leading `I` in front of another capital marks an interface and is
left out of the names made from it; the route of a method is its name in lower
case words, without a final `async`.
-/

namespace TraitRoutes.Naming

open Text (snakeCase kebabCase pascalCase)

/-- The characters of a text without the given one at both ends. -/
def trimBoth (c : Char) (cs : List Char) : List Char :=
  ((cs.dropWhile (· == c)).reverse.dropWhile (· == c)).reverse

/-- The characters of a text without the given one at its end. -/
def trimEnd (c : Char) (cs : List Char) : List Char := (cs.reverse.dropWhile (· == c)).reverse

/-- Takes away the interface mark. -/
def stripMarker (name : String) : String :=
  match name.toList with
  | c :: next :: rest =>
    if (c == 'I' || c == 'i') && Unicode.isUpperChar next then String.ofList (next :: rest)
    else name
  | _ => name

/-- The name of the controller of a trait. -/
def unitName (interface suffix : String) : String := stripMarker interface ++ suffix

/-- The name of the module around a controller. -/
def moduleName (unit : String) : String := String.ofList (snakeCase unit.toList)

/-- The prefix of a trait that gives none. -/
def defaultPrefix (interface : String) : String :=
  "/api/" ++ String.ofList (Unicode.lowerText (stripMarker interface).toList)

/-- A prefix as routes use it: one slash in front and none behind, without the
blanks around it. -/
def normalizePrefix (text : String) : String :=
  String.ofList ('/' :: trimBoth '/' (Unicode.trim text.toList))

/-- The last word of a method name that its route leaves out. -/
def asyncEnding : List Char := "-async".toList

/-- The part of a route that names the method. -/
def routeSuffix (method : String) : String :=
  let kebab := kebabCase method.toList
  let stem := kebab.take (kebab.length - asyncEnding.length)
  String.ofList (if asyncEnding.isSuffixOf kebab && !stem.isEmpty then stem else kebab)

/-- A capture of one path segment. -/
def capture (param : String) : String := "/\x7b" ++ param ++ "\x7d"

/-- The route of a method: the prefix, the suffix and a capture for each
parameter. -/
def routeTemplate (pathPrefix suffix : String) (params : List String) : String :=
  let base := trimEnd '/' pathPrefix.toList
  let rooted := match base with
    | [] => []
    | '/' :: _ => base
    | _ => '/' :: base
  String.ofList rooted ++ "/" ++ suffix ++ String.join (params.map capture)

/-- The name of the structure for the query string of a method. -/
def queryStructName (method : String) : String :=
  String.ofList (pascalCase method.toList) ++ "Query"

end TraitRoutes.Naming
