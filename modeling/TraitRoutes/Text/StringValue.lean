import TraitRoutes.Token.Scan

/-!
# The value of a string literal

What the text between the quotation marks of a string literal denotes. A line
end is a line feed, however it is written; a backslash before a line end joins
the lines and swallows the blanks that follow. A raw literal denotes what it
holds, and a suffix behind the literal denotes nothing.
-/

namespace TraitRoutes.Text

open Scan (hexValue)

/-- Where the reader of a literal stands. -/
inductive Unescape where
  | plain
  | escape
  | hexHigh
  | hexLow (high : Nat)
  | openCode
  | code (value : Nat)
  /-- In the blanks behind joined lines. -/
  | skip

/-- The character behind a backslash that stands for one character. -/
def shortEscape (c : Char) : Char :=
  if c == 'n' then '\n'
  else if c == 'r' then '\r'
  else if c == 't' then '\t'
  else if c == '0' then '\x00'
  else c

/-- Reads the contents of a literal up to its closing mark. -/
def unescape : Unescape → List Char → List Char
  | _, [] => []
  | .plain, c :: rest =>
    if c == '"' then []
    else if c == '\\' then unescape .escape rest
    -- A carriage return only stands before a line feed.
    else if c == '\r' then unescape .plain rest
    else c :: unescape .plain rest
  | .escape, c :: rest =>
    if c == 'x' then unescape .hexHigh rest
    else if c == 'u' then unescape .openCode rest
    else if c == '\n' || c == '\r' then unescape .skip rest
    else shortEscape c :: unescape .plain rest
  | .hexHigh, c :: rest => unescape (.hexLow ((hexValue c).getD 0)) rest
  | .hexLow high, c :: rest =>
    Char.ofNat (high * 16 + (hexValue c).getD 0) :: unescape .plain rest
  | .openCode, _ :: rest => unescape (.code 0) rest
  | .code value, c :: rest =>
    match hexValue c with
    | some d => unescape (.code (value * 16 + d)) rest
    | none =>
      if c == '_' then unescape (.code value) rest
      else Char.ofNat value :: unescape .plain rest
  | .skip, c :: rest =>
    if Unicode.isBlank c then unescape .skip rest
    else if c == '"' then []
    else if c == '\\' then unescape .escape rest
    else c :: unescape .plain rest

/-- The contents of a raw literal up to a closing mark with `hashes` hash signs. -/
def rawContents (hashes : Nat) : List Char → List Char
  | [] => []
  | c :: rest =>
    if c == '"' && rest.take hashes == List.replicate hashes '#' then []
    else c :: rawContents hashes rest

/-- The text that a string literal denotes. -/
def stringValue (literal : String) : String :=
  match literal.toList with
  | 'r' :: rest =>
    let hashes := (rest.takeWhile (· == '#')).length
    String.ofList (rawContents hashes (rest.drop (hashes + 1)))
  | '"' :: rest => String.ofList (unescape .plain rest)
  | _ => ""

end TraitRoutes.Text
