import TraitRoutes.Token.Basic

/-!
# Printing tokens

The plain form of a token sequence: one space between neighbours, none after a
punctuation character that is joined to the next. Round and square brackets
hold their contents tightly, braces with a space on each side.
-/

namespace TraitRoutes.Token

mutual

/-- One token as text. -/
def render : Token → String
  | .group .paren inner => "(" ++ renderFrom false true inner ++ ")"
  | .group .bracket inner => "[" ++ renderFrom false true inner ++ "]"
  | .group .brace inner =>
    "\x7b " ++ renderFrom false true inner ++ (if inner.isEmpty then "\x7d" else " \x7d")
  | .ident i _ => i.text
  | .punct c _ => String.singleton c
  | .literal l => l.text

/-- The tokens that follow one which was `joint` or not; `first` holds at the
start of the sequence. -/
def renderFrom (joint first : Bool) : List Token → String
  | [] => ""
  | t :: rest =>
    let gap := if first || joint then "" else " "
    let next := match t with
      | .punct _ j => j
      | _ => false
    gap ++ t.render ++ renderFrom next false rest

end

/-- A token sequence as text. -/
def renderAll (tokens : List Token) : String := renderFrom false true tokens

end TraitRoutes.Token
