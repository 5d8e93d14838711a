import TraitRoutes.Token.Scan
import TraitRoutes.Text.Quoted

/-!
# From text to tokens

The lexer skips gaps, turns documentation comments into the attributes they
stand for, and matches brackets with a stack of the groups still open. It fails
as a whole on any text that is not a token sequence. Its fuel is the length of
the text: each round after the last reads at least one character.
-/

namespace TraitRoutes

open Scan

/-- The attribute that a documentation comment stands for. -/
def Scan.DocComment.tokens (doc : DocComment) (place : Position) : List Token :=
  .lone '#' :: ((if doc.inner then [.lone '!'] else []) ++
    [.group .bracket
      [.ident (.plain "doc") place, .lone '=',
        .literal ⟨.string, Text.quoteText (String.ofList doc.body)⟩]])

/-- One token that is no group, with the text it was read from. -/
def lexLeaf (place : Position) (cs : List Char) : Option (Token × Split) :=
  match literal cs with
  | some (kind, read) => some (.literal ⟨kind, String.ofList read.1⟩, read)
  | none =>
    match cs with
    | [] => none
    | c :: rest =>
      if startsPunct cs then
        if c == '\'' then
          -- A quote mark opens a lifetime, which no quote mark or hash may close.
          match rawOrPlain rest with
          | none => none
          | some (_, read) =>
            if startsWith read.2 "'" || (startsWith read.2 "#" && !startsWith rest "r#") then none
            else some (.punct c true, ([c], rest))
        else some (.punct c (startsPunct rest), ([c], rest))
      else (ident cs).map fun (name, read) => (.ident name place, read)

/-- The delimiter that a character opens. -/
def opens : Char → Option Delimiter
  | '(' => some .paren
  | '[' => some .bracket
  | '\x7b' => some .brace
  | _ => none

/-- The delimiter that a character closes. -/
def closes : Char → Option Delimiter
  | ')' => some .paren
  | ']' => some .bracket
  | '\x7d' => some .brace
  | _ => none

/-- The rounds of the lexer. `done` holds the tokens of the innermost open group,
latest first, and `outer` the groups around it. -/
def lexRounds : Nat → Position → List (Delimiter × List Token) → List Token → List Char →
    Option (List Token)
  | 0, _, _, _, _ => none
  | fuel + 1, place, outer, done, cs =>
    match gap .between cs with
    | none => none
    | some (blank, cs) =>
      let place := place.after blank
      match docComment cs with
      | some (doc, read) =>
        lexRounds fuel (place.after read.1) outer ((doc.tokens place).reverse ++ done) read.2
      | none =>
        match cs with
        | [] => if outer.isEmpty then some done.reverse else none
        | c :: rest =>
          match opens c with
          | some d => lexRounds fuel (place.after [c]) ((d, done) :: outer) [] rest
          | none =>
            match closes c with
            | some d =>
              match outer with
              | (d', before) :: outer' =>
                if d = d' then
                  lexRounds fuel (place.after [c]) outer' (.group d done.reverse :: before) rest
                else none
              | [] => none
            | none =>
              match lexLeaf place (c :: rest) with
              | none => none
              | some (token, read) =>
                lexRounds fuel (place.after read.1) outer (token :: done) read.2

/-- The tokens of a text that begins at a place, or nothing when it is no token
sequence. -/
def lexAt (place : Position) (cs : List Char) : Option (List Token) :=
  lexRounds (cs.length + 1) place [] [] cs

/-- The tokens of a text. A leading byte order mark is passed over, but has a column of its
own. -/
def lex (text : String) : Option (List Token) :=
  match text.toList with
  | '\ufeff' :: rest => lexAt (Position.start.after ['\ufeff']) rest
  | cs => lexAt .start cs

end TraitRoutes
