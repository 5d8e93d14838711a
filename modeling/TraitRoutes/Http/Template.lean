/-!
# Route templates

The path of a route, cut at its slashes. A segment in braces captures one segment
of a request path that is not empty; any other matches itself only.
-/

namespace TraitRoutes.Http

/-- A segment of a route. -/
inductive Segment where
  | literal (text : List Char)
  | capture (name : List Char)
deriving DecidableEq, Repr

/-- The segments of a path. -/
def segments : List Char → List (List Char)
  | [] => [[]]
  | c :: rest =>
    if c == '/' then [] :: segments rest
    else
      match segments rest with
      | [] => [[c]]
      | first :: more => (c :: first) :: more

/-- A segment of a route as it is written. -/
def Segment.ofText (text : List Char) : Segment :=
  match text with
  | '\x7b' :: rest => if rest.getLast? == some '\x7d' then .capture rest.dropLast else .literal text
  | _ => .literal text

/-- The route that a path spells. -/
def templateOf (path : String) : List Segment := (segments path.toList).map Segment.ofText

/-- The captured segments of a path that fits a route. -/
def matchSegments : List Segment → List (List Char) → Option (List String)
  | [], [] => some []
  | .literal text :: more, s :: rest => if text == s then matchSegments more rest else none
  | .capture _ :: more, s :: rest =>
    if s.isEmpty then none else (matchSegments more rest).map (String.ofList s :: ·)
  | _, _ => none

/-- Matches the path of a request. -/
def matchPath (template path : String) : Option (List String) :=
  matchSegments (templateOf template) (segments path.toList)

end TraitRoutes.Http
