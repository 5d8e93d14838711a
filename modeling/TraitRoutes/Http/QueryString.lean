import TraitRoutes.Http.Encoding

/-!
# Query strings

Names with values, joined by `&`. A plus sign is a blank. A field that is given
twice, or with a value that does not fit its type, rejects the request; names
that nothing asks for are passed over.
-/

namespace TraitRoutes.Http

/-- The names of a query string with their values, in order. -/
abbrev QueryPairs := List (String × String)

/-- Cuts bytes at each separator. -/
def splitBytes (separator : UInt8) : Bytes → List Bytes
  | [] => [[]]
  | b :: rest =>
    if b == separator then [] :: splitBytes separator rest
    else
      match splitBytes separator rest with
      | [] => [[b]]
      | piece :: more => (b :: piece) :: more

/-- The text of a name or a value. -/
def formText (bytes : Bytes) : String :=
  String.ofList (decodeLossy (percentDecode (bytes.map fun b => if b == 0x2B then 0x20 else b)))

/-- The pair that stands between separators. -/
def formPair (piece : Bytes) : String × String :=
  (formText (piece.takeWhile (· != 0x3D)), formText ((piece.dropWhile (· != 0x3D)).drop 1))

/-- Reads a query string. -/
def readQuery (text : String) : QueryPairs :=
  ((splitBytes 0x26 (bytesOf text)).filter fun piece => !piece.isEmpty).map formPair

namespace QueryPairs

/-- The values of a name. -/
def valuesOf (pairs : QueryPairs) (name : String) : List String :=
  (pairs.filter (·.1 == name)).map (·.2)

/-- The value of a name that may be missing: `none` rejects the request. -/
def optional? {α : Type} (pairs : QueryPairs) (name : String) (read : String → Option α) :
    Option (Option α) :=
  match pairs.valuesOf name with
  | [] => some none
  | [value] => (read value).map some
  | _ => none

/-- The value of a name that must be there. -/
def required? {α : Type} (pairs : QueryPairs) (name : String) (read : String → Option α) :
    Option α :=
  (pairs.optional? name read).join

end QueryPairs

end TraitRoutes.Http
