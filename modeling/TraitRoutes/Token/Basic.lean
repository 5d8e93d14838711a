import TraitRoutes.Unicode.IdentChar

/-!
# Tokens

Rust source text is read as a forest of tokens: identifiers, single punctuation
characters, literals, and bracketed groups of further tokens. A punctuation
character knows whether it is joined to the next one, which is how `::` differs
from `: :`. Identifiers carry the place where they were written; nothing else
needs one.
-/

namespace TraitRoutes

/-- A place in a source text. Lines and columns both count from one, and a column
is one character wide. -/
structure Position where
  line : Nat
  column : Nat
deriving DecidableEq, Repr, Inhabited

/-- The first character of a text. -/
def Position.start : Position := ⟨1, 1⟩

/-- Where a text ends that begins here. -/
def Position.after (place : Position) : List Char → Position
  | [] => place
  | c :: rest =>
    if c = '\n' then Position.after ⟨place.line + 1, 1⟩ rest
    else Position.after ⟨place.line, place.column + 1⟩ rest

/-- Whether characters make up an identifier. A digit may not come first, and
neither may anything else that only goes on with one. -/
def Ident.isLegal : List Char → Bool
  | [] => false
  | c :: rest => Unicode.isIdentStart c && rest.all Unicode.isIdentContinue

/-- An identifier, written plainly or as a raw identifier `r#name`. -/
structure Ident where
  raw : Bool
  name : String
  legal : Ident.isLegal name.toList = true := by decide
deriving DecidableEq, Repr

instance : Inhabited Ident := ⟨⟨false, "_", by decide⟩⟩

/-- The identifier as written. -/
def Ident.text (i : Ident) : String := if i.raw then "r#" ++ i.name else i.name

/-- An identifier written without `r#`. -/
def Ident.plain (name : String) (legal : isLegal name.toList = true := by decide) : Ident :=
  ⟨false, name, legal⟩

/-- The three pairs of brackets. -/
inductive Delimiter where
  | paren | bracket | brace
deriving DecidableEq, Repr, Inhabited

/-- What a literal denotes. -/
inductive LiteralKind where
  | string | byteString | cString | byte | char | integer | float
deriving DecidableEq, Repr, Inhabited

/-- A literal, kept as written. -/
structure Literal where
  kind : LiteralKind
  text : String
deriving DecidableEq, Repr, Inhabited

/-- One node of the token forest. -/
inductive Token where
  | group (delimiter : Delimiter) (inner : List Token)
  | ident (name : Ident) (place : Position)
  | punct (char : Char) (joint : Bool)
  | literal (literal : Literal)
deriving Inhabited

namespace Token

/-- A punctuation character that stands alone. -/
def lone (c : Char) : Token := .punct c false

/-- The tokens of an operator: its characters, joined up to the last. -/
def operator : List Char → List Token
  | [] => []
  | [c] => [.punct c false]
  | c :: rest => .punct c true :: operator rest

/-- A word the library writes itself, at no place in particular. -/
def word (name : String) (legal : Ident.isLegal name.toList = true := by decide) : Token :=
  .ident (.plain name legal) .start

/-- The word that stands for no name. -/
def underscore : Token := word "_"

/-- An identifier the library writes itself. -/
def name (i : Ident) : Token := .ident i .start

end Token

mutual

/-- The number of tokens in a tree, the brackets of a group counted once. -/
def Token.count : Token → Nat
  | .group _ inner => Token.countAll inner + 1
  | .ident .. | .punct .. | .literal _ => 1

/-- The number of tokens in a forest. -/
def Token.countAll : List Token → Nat
  | [] => 0
  | t :: rest => t.count + Token.countAll rest

end

end TraitRoutes
