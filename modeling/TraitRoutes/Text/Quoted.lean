import TraitRoutes.Unicode.Printable

/-!
# Quoted text

How a text is written as a string literal, and what a string literal denotes.
A character is escaped by its short escape if it has one, and by its code point
if it would not print; a single quote needs no escape. A NUL before an octal
digit is spelled out, so that it cannot be misread as a longer escape.
-/

namespace TraitRoutes.Text

/-- The digits of a code point in lower case hexadecimal. -/
def hexDigits (n : Nat) : List Char := Nat.toDigits 16 n

/-- One character inside a string literal. -/
def quoteChar (c : Char) : List Char :=
  if c == '\t' then ['\\', 't']
  else if c == '\r' then ['\\', 'r']
  else if c == '\n' then ['\\', 'n']
  else if c == '"' then ['\\', '"']
  else if c == '\\' then ['\\', '\\']
  else if Unicode.isPrintable c then [c]
  else ['\\', 'u', '\x7b'] ++ hexDigits c.toNat ++ ['\x7d']

/-- The characters between the quotation marks. -/
def quoteChars : List Char → List Char
  | [] => []
  | c :: rest =>
    (if c.toNat = 0 then
      match rest with
      | d :: _ => if '0' ≤ d && d ≤ '7' then ['\\', 'x', '0', '0'] else ['\\', '0']
      | [] => ['\\', '0']
    else quoteChar c) ++ quoteChars rest

/-- The string literal that denotes a text. -/
def quoteText (text : String) : String :=
  String.ofList ('"' :: (quoteChars text.toList ++ ['"']))

/-- The form in which a log shows a text: as a literal, with every NUL short. -/
def quoteDebug (text : String) : String :=
  String.ofList ('"' :: (text.toList.flatMap fun c =>
    if c.toNat = 0 then ['\\', '0'] else quoteChar c) ++ ['"'])

end TraitRoutes.Text
