import TraitRoutes.Fault
import TraitRoutes.Grammar.Reading
import TraitRoutes.Source.Collection

/-!
# The corpus

All traits of a crate, collected file by file, with the names known in it. When
the last file is in, every trait gets the names of all traits that it extends. A
supertrait is looked up by its bare name, and all traits of that name count.
-/

namespace TraitRoutes

/-- A corpus under construction. -/
structure Draft where
  declarations : List Declaration := []
  known : List String := []
  files : List String := []

/-- A finished corpus. -/
structure Corpus where
  declarations : List Declaration
  known : List String
  files : List String

namespace Draft

/-- Adds the items of a file. -/
def addItems (draft : Draft) (path space : String) (items : List Item) : Draft :=
  let found := Collection.ofItems path space items
  ⟨draft.declarations ++ found.declarations, draft.known ++ found.knownNames, draft.files ++ [path]⟩

/-- Adds a source under the namespace of its file. A source that does not parse
adds nothing. -/
def addSource (draft : Draft) (path space text : String) : Except Fault Draft :=
  match readFile text with
  | .error e => .error (.unparsable path e.message)
  | .ok items => .ok (draft.addItems path space items)

end Draft

/-! ### Capabilities -/

/-- The names that a trait of the given name leads to in one step. -/
def stepsFrom (all : List Declaration) (name : String) : List String :=
  (all.filter fun d => d.name == name).flatMap (·.supertraits)

/-- Takes names from a work list until it is empty. A name that was seen before is
skipped; the fuel bounds the number of names taken. -/
def reachRounds (all : List Declaration) : Nat → List String → List String → List String
  | 0, _, seen => seen
  | _ + 1, [], seen => seen
  | fuel + 1, name :: queue, seen =>
    if seen.contains name then reachRounds all fuel queue seen
    else reachRounds all fuel (queue ++ stepsFrom all name) (name :: seen)

/-- Every name that the given names lead to, those included. Each name adds what
it leads to once, so the work list never holds more than all supertraits. -/
def reachable (all : List Declaration) (names : List String) : List String :=
  reachRounds all (names.length + (all.flatMap (·.supertraits)).length + 1) names []

/-- Inserts a text into a list in the order of code points, unless it is there. -/
def insertSorted (text : String) : List String → List String
  | [] => [text]
  | first :: rest =>
    if text < first then text :: first :: rest
    else if text = first then first :: rest
    else first :: insertSorted text rest

/-- The texts of a list, each once, in the order of code points. -/
def sortedSet (texts : List String) : List String := texts.foldr insertSorted []

/-- Finishes a corpus. -/
def Draft.build (draft : Draft) : Corpus :=
  { declarations := draft.declarations.map fun d =>
      { d with capabilities := sortedSet (reachable draft.declarations d.supertraits) }
    known := draft.known ++ draft.declarations.map Declaration.name
    files := draft.files }

namespace Corpus

/-- The first trait declared under a name, as written. -/
def get? (c : Corpus) (name : String) : Option Declaration :=
  c.declarations.find? fun d => d.ident.text == name

/-- Whether a name is declared or imported anywhere. -/
def isKnown (c : Corpus) (name : String) : Bool := c.known.contains name

/-- The traits that extend the marker, in the order of the corpus. The marker is
no candidate itself, and nothing is one where the marker is not known. -/
def candidates (c : Corpus) (marker : String) : List Declaration :=
  if c.isKnown marker then
    c.declarations.filter fun d => d.ident.text != marker && d.capabilities.contains marker
  else []

end Corpus

end TraitRoutes
