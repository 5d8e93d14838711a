/-!
# Sets of characters as range tables

A character property of the Unicode standard is a sorted list of inclusive
ranges of code points. Membership walks the list and stops at the first range
that lies behind the character, so ASCII text never reaches the far end.
-/

namespace TraitRoutes.Unicode

/-- A sorted list of inclusive ranges of code points. -/
abbrev Ranges := List (Nat × Nat)

/-- Whether a code point lies in one of the ranges. -/
def Ranges.has : Ranges → Nat → Bool
  | [], _ => false
  | (low, high) :: rest, point =>
    if point < low then false else point ≤ high || Ranges.has rest point

end TraitRoutes.Unicode
