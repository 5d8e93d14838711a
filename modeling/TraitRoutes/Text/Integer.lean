import TraitRoutes.Token.Scan

/-!
# Integer literals

An integer literal is a sequence of digits, possibly behind a mark for its base
and with underscores among them, and a suffix that names a type. Its value does
not depend on how it is spelled.
-/

namespace TraitRoutes.Text

open Scan (hexValue)

/-- The value of a digit in a base. -/
def digitIn? (base : Nat) (c : Char) : Option Nat :=
  match hexValue c with
  | some d => if d < base then some d else none
  | none => none

/-- Goes on with digits behind a value; what is no digit is left. -/
def digitsFrom (base value : Nat) : List Char → Nat × List Char
  | [] => (value, [])
  | '_' :: rest => digitsFrom base value rest
  | c :: rest =>
    match digitIn? base c with
    | some d => digitsFrom base (value * base + d) rest
    | none => (value, c :: rest)

/-- The value of an integer literal and its suffix. -/
def integerParts (text : String) : Nat × String :=
  let (value, suffix) := match text.toList with
    | '0' :: 'x' :: rest => digitsFrom 16 0 rest
    | '0' :: 'o' :: rest => digitsFrom 8 0 rest
    | '0' :: 'b' :: rest => digitsFrom 2 0 rest
    | cs => digitsFrom 10 0 cs
  (value, String.ofList suffix)

end TraitRoutes.Text
