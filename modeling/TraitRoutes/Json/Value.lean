/-!
# JSON values

What an application answers with.
-/

namespace TraitRoutes

/-- A JSON value. Numbers are whole. -/
inductive JsonValue where
  | null
  | bool (value : Bool)
  | int (value : Int)
  | text (value : String)
  | list (items : List JsonValue)
  | record (fields : List (String × JsonValue))

namespace JsonValue

/-- A value that may be missing. -/
def option {α : Type} (encode : α → JsonValue) : Option α → JsonValue
  | some a => encode a
  | none => null

end JsonValue

end TraitRoutes
