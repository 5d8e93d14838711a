/-!
# White space

The characters of the Unicode property `White_Space`. Trimming a prefix or a
switch value, and the lexer's idea of a gap between tokens, both start here.
-/

namespace TraitRoutes.Unicode

/-- The property `White_Space`. -/
def isBlank (c : Char) : Bool :=
  c == ' ' || ('\t' ≤ c && c ≤ '\r') || c == '\u0085' || c == '\u00a0' || c == '\u1680'
    || ('\u2000' ≤ c && c ≤ '\u200a') || c == '\u2028' || c == '\u2029' || c == '\u202f'
    || c == '\u205f' || c == '\u3000'

/-- The text without its leading blanks. -/
def trimStart (cs : List Char) : List Char := cs.dropWhile isBlank

/-- The text without blanks at either end. -/
def trim (cs : List Char) : List Char :=
  (trimStart (trimStart cs).reverse).reverse

end TraitRoutes.Unicode
