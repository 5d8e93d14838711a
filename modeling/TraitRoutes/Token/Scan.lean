import TraitRoutes.Unicode.Blank
import TraitRoutes.Unicode.IdentChar
import TraitRoutes.Token.Basic

/-!
# Lexemes

Scanners for the pieces of source text between which the lexer stops: gaps of
blanks and comments, identifiers, numbers, and quoted literals in all their
forms. A scanner returns what it read and what is left; the two joined give back
its input. Quoted text is read by a small automaton, so every scanner is a plain
recursion over the characters.
-/

namespace TraitRoutes.Scan

open Unicode (isBlank isIdentStart isIdentContinue)

/-- What a scanner read, and the rest. -/
abbrev Split := List Char × List Char

/-- Puts a character in front of what was read. -/
def Split.cons (c : Char) (s : Split) : Split := (c :: s.1, s.2)

/-- Puts text in front of what was read. -/
def Split.append (text : List Char) (s : Split) : Split := (text ++ s.1, s.2)

/-- Whether a text begins with the given characters. -/
def startsWith (cs : List Char) (head : String) : Bool := head.toList.isPrefixOf cs

/-! ### Gaps -/

/-- Marks that separate tokens: blanks and the two writing direction marks. -/
def isSpacing (c : Char) : Bool := isBlank c || c == '\u200e' || c == '\u200f'

/-- Where a gap scanner stands: between tokens, in a line comment, or in nested
block comments. -/
inductive Gap where
  | between | line | block (depth : Nat)

/-- A line comment that is not documentation. -/
def startsLineComment (cs : List Char) : Bool :=
  startsWith cs "//" && (!startsWith cs "///" || startsWith cs "////") && !startsWith cs "//!"

/-- A block comment that is not documentation. -/
def startsBlockComment (cs : List Char) : Bool :=
  startsWith cs "/**/"
    || (startsWith cs "/*" && (!startsWith cs "/**" || startsWith cs "/***")
      && !startsWith cs "/*!")

/-- Reads blanks and comments. Fails only in a block comment without an end. -/
def gap : Gap → List Char → Option Split
  | .between, [] => some ([], [])
  | .line, [] => some ([], [])
  | .block _, [] => none
  | .line, c :: rest =>
    (gap (if c == '\n' then .between else .line) rest).map (·.cons c)
  | .block depth, '/' :: '*' :: rest =>
    (gap (.block (depth + 1)) rest).map (·.append ['/', '*'])
  | .block depth, '*' :: '/' :: rest =>
    (gap (if depth ≤ 1 then .between else .block (depth - 1)) rest).map (·.append ['*', '/'])
  | .block depth, c :: rest => (gap (.block depth) rest).map (·.cons c)
  | .between, '/' :: '*' :: rest =>
    if startsBlockComment ('/' :: '*' :: rest) then
      (gap (.block 1) rest).map (·.append ['/', '*'])
    else some ([], '/' :: '*' :: rest)
  | .between, c :: rest =>
    if startsLineComment (c :: rest) then (gap .line rest).map (·.cons c)
    else if isSpacing c then (gap .between rest).map (·.cons c)
    else some ([], c :: rest)

/-! ### Documentation comments -/

/-- The rest of the line. A carriage return before the line feed belongs to the
line end. -/
def line : List Char → Split
  | [] => ([], [])
  | '\n' :: rest => ([], '\n' :: rest)
  | '\r' :: '\n' :: rest => ([], '\r' :: '\n' :: rest)
  | c :: rest => (line rest).cons c

/-- A block comment with the comments nested in it, up to the matching end. -/
def block (depth : Nat) : List Char → Option Split
  | [] => none
  | '/' :: '*' :: rest => (block (depth + 1) rest).map (·.append ['/', '*'])
  | '*' :: '/' :: rest =>
    if depth ≤ 1 then some (['*', '/'], rest)
    else (block (depth - 1) rest).map (·.append ['*', '/'])
  | c :: rest => (block depth rest).map (·.cons c)

/-- Whether every carriage return is followed by a line feed. -/
def returnsPaired : List Char → Bool
  | [] => true
  | '\r' :: '\n' :: rest => returnsPaired rest
  | '\r' :: _ => false
  | _ :: rest => returnsPaired rest

/-- A documentation comment. -/
structure DocComment where
  /-- It documents what encloses it, not what follows. -/
  inner : Bool
  /-- The text between the comment marks. -/
  body : List Char

/-- Reads a documentation comment, with its marks. -/
def docComment (cs : List Char) : Option (DocComment × Split) :=
  let ofLine (inner : Bool) : DocComment × Split :=
    let read := line (cs.drop 3)
    (⟨inner, read.1⟩, read.append (cs.take 3))
  let ofBlock (inner : Bool) : Option (DocComment × Split) :=
    (block 0 cs).map fun read => (⟨inner, (read.1.drop 3).dropLast.dropLast⟩, read)
  let found :=
    if startsWith cs "//!" then some (ofLine true)
    else if startsWith cs "/*!" then ofBlock true
    else if startsWith cs "////" then none
    else if startsWith cs "///" then some (ofLine false)
    else if startsWith cs "/**" && !startsWith cs "/***" then ofBlock false
    else none
  found.filter (returnsPaired ·.1.body)

/-! ### Identifiers -/

/-- An identifier without a raw mark. -/
def identText : List Char → Option Split
  | [] => none
  | c :: rest =>
    if isIdentStart c then
      some (c :: rest.takeWhile isIdentContinue, rest.dropWhile isIdentContinue)
    else none

theorem isLegal_of_identText {cs : List Char} {read : Split} (h : identText cs = some read) :
    Ident.isLegal read.1 = true := by
  cases cs with
  | nil => exact absurd h (by simp [identText])
  | cons c rest =>
      rw [identText] at h
      split at h
      · next hc =>
          obtain rfl := Option.some.inj h
          rw [Ident.isLegal, hc, Bool.true_and]
          exact List.all_takeWhile
      · exact absurd h (by simp)

/-- Prefixes that announce a literal, which no identifier may follow. -/
def literalMarks : List String :=
  ["r\"", "r#\"", "r##", "b\"", "b'", "br\"", "br#", "c\"", "cr\"", "cr#"]

/-- Words that have no raw form. -/
def neverRaw (name : String) : Bool :=
  name == "_" || name == "super" || name == "self" || name == "Self" || name == "crate"

/-- An identifier, raw or plain. -/
def rawOrPlain (cs : List Char) : Option (Ident × Split) :=
  if startsWith cs "r#" then
    match h : identText (cs.drop 2) with
    | none => none
    | some read =>
      let name := String.ofList read.1
      if neverRaw name then none
      else some (⟨true, name, by simpa [name] using isLegal_of_identText h⟩, read.append ['r', '#'])
  else
    match h : identText cs with
    | none => none
    | some read =>
      some (⟨false, String.ofList read.1, by simpa using isLegal_of_identText h⟩, read)

/-- An identifier that is not the beginning of a literal. -/
def ident (cs : List Char) : Option (Ident × Split) :=
  if literalMarks.any (startsWith cs) then none else rawOrPlain cs

/-- The suffix of a literal: an identifier, or nothing. -/
def suffix (cs : List Char) : Split := (identText cs).getD ([], cs)

/-- A literal goes on with its suffix. -/
def withSuffix (read : Split) : Split := (suffix read.2).append read.1

/-! ### Quoted literals -/

/-- Kinds of quoted text; they differ in what they may hold. -/
inductive Quote where
  | text | bytes | cText
deriving DecidableEq

/-- Where a scanner of quoted text stands. -/
inductive Cooked where
  /-- Between characters. -/
  | plain
  /-- After a carriage return. -/
  | carriage
  /-- After a backslash. -/
  | escape
  /-- After `\x`. -/
  | hexHigh
  /-- After `\x` and one digit. -/
  | hexLow (high : Char)
  /-- After `\u`. -/
  | openCode
  /-- Inside the braces of `\u`. -/
  | code (value digits : Nat)
  /-- In the blanks after an escaped line end. -/
  | skip
  /-- After a carriage return in those blanks. -/
  | skipCarriage
deriving DecidableEq

/-- The value of a hexadecimal digit. -/
def hexValue (c : Char) : Option Nat :=
  if c.isDigit then some (c.toNat - '0'.toNat)
  else if 'a' ≤ c && c ≤ 'f' then some (c.toNat - 'a'.toNat + 10)
  else if 'A' ≤ c && c ≤ 'F' then some (c.toNat - 'A'.toNat + 10)
  else none

/-- Whether a code point is a character. -/
def isScalar (n : Nat) : Bool := n < 0xD800 || (0xDFFF < n && n < 0x110000)

/-- Whether quoted text of this kind may hold the character unescaped. -/
def Quote.holds : Quote → Char → Bool
  | .text, _ => true
  | .bytes, c => c.toNat < 128
  | .cText, c => c.toNat != 0

/-- Reads one character of quoted text between characters. -/
def Cooked.between (quote : Quote) (c : Char) : Option Cooked :=
  if c == '\r' then some .carriage
  else if c == '\\' then some .escape
  else if quote.holds c then some .plain
  else none

/-- Reads one character of quoted text; `none` when the text is malformed. -/
def Cooked.step (quote : Quote) : Cooked → Char → Option Cooked
  | .plain, c => Cooked.between quote c
  | .carriage, c => if c == '\n' then some .plain else none
  | .escape, c =>
    if c == 'x' then some .hexHigh
    else if c == 'u' then (if quote = .bytes then none else some .openCode)
    else if c == '0' then (if quote = .cText then none else some .plain)
    else if c == 'n' || c == 'r' || c == 't' || c == '\\' || c == '\'' || c == '"' then some .plain
    else if c == '\n' then some .skip
    else if c == '\r' then some .skipCarriage
    else none
  | .hexHigh, c =>
    if (hexValue c).isSome && (quote ≠ .text || c ≤ '7') then some (.hexLow c) else none
  | .hexLow high, c =>
    if (hexValue c).isSome && !(quote = .cText && high == '0' && c == '0') then some .plain
    else none
  | .openCode, c => if c == '\x7b' then some (.code 0 0) else none
  | .code value digits, c =>
    match hexValue c with
    | some d => if digits < 6 then some (.code (value * 16 + d) (digits + 1)) else none
    | none =>
      if digits = 0 then none
      else if c == '_' then some (.code value digits)
      else if c == '\x7d' && isScalar value && !(quote = .cText && value == 0) then some .plain
      else none
  | .skip, c =>
    if c == ' ' || c == '\t' || c == '\n' then some .skip
    else if c == '\r' then some .skipCarriage
    else Cooked.between quote c
  | .skipCarriage, c => if c == '\n' then some .skip else none

/-- Whether a quotation mark ends the text here. -/
def Cooked.mayEnd : Cooked → Bool
  | .plain | .skip => true
  | _ => false

/-- Reads quoted text up to and with the closing mark. -/
def quoted (quote : Quote) : Cooked → List Char → Option Split
  | _, [] => none
  | state, c :: rest =>
    if c == '"' && state.mayEnd then some ([c], rest)
    else (state.step quote c).bind fun next => (quoted quote next rest).map (·.cons c)

/-- Reads one escape, from the state after its backslash to its end. -/
def escape (quote : Quote) : Cooked → List Char → Option Split
  | _, [] => none
  | state, c :: rest =>
    match state.step quote c with
    | none | some .skip | some .skipCarriage => none
    | some .plain => some ([c], rest)
    | some next => (escape quote next rest).map (·.cons c)

/-- Reads raw text after its opening mark, up to a closing mark with `hashes`
hash signs. -/
def rawText (quote : Quote) (hashes : Nat) : List Char → Option Split
  | [] => none
  | '\r' :: '\n' :: rest => (rawText quote hashes rest).map (·.append ['\r', '\n'])
  | c :: rest =>
    if c == '\r' then none
    else if c == '"' && rest.take hashes == List.replicate hashes '#' then
      some (c :: rest.take hashes, rest.drop hashes)
    else if quote.holds c then (rawText quote hashes rest).map (·.cons c)
    else none

/-- Reads the hash signs and the text of a raw literal. -/
def rawQuoted (quote : Quote) (cs : List Char) : Option Split :=
  let hashes := cs.takeWhile (· == '#')
  match cs.dropWhile (· == '#') with
  | '"' :: rest =>
    if hashes.length ≤ 255 then
      (rawText quote hashes.length rest).map (·.append (hashes ++ ['"']))
    else none
  | _ => none

/-- Reads a single quoted character after its opening mark. -/
def single (quote : Quote) : List Char → Option Split
  | '\\' :: rest => ((escape quote .escape rest).map (·.cons '\\')).bind close
  | c :: rest => if quote.holds c then close ([c], rest) else none
  | [] => none
where
  /-- The closing mark. -/
  close : Split → Option Split
    | (read, '\'' :: rest) => some (read ++ ['\''], rest)
    | _ => none

/-! ### Numbers -/

/-- A digit or a separator between digits. -/
def isDigitOrGap (c : Char) : Bool := c.isDigit || c == '_'

/-- An exponent after its `e`: at most one sign, which no digit precedes, and at
least one digit. -/
def exponent (signed valued : Bool) : List Char → Option Split
  | [] => if valued then some ([], []) else none
  | c :: rest =>
    if c == '+' || c == '-' then
      if valued then some ([], c :: rest)
      else if signed then none
      else (exponent true valued rest).map (·.cons c)
    else if c.isDigit then (exponent signed true rest).map (·.cons c)
    else if c == '_' then (exponent signed valued rest).map (·.cons c)
    else if valued then some ([], c :: rest)
    else none

/-- What may follow the digits and the point of a number: an exponent. Without
one, the number ends before the `e`, provided it has a point. -/
def withExponent (pointed : Bool) (read : Split) : Option Split :=
  match read with
  | (mantissa, e :: rest) =>
    if e == 'e' || e == 'E' then
      match exponent false false rest with
      | some power => some ((power.cons e).append mantissa)
      | none => if pointed then some read else none
    else if pointed then some read else none
  | (_, []) => if pointed then some read else none

/-- The digits of a number with a point or an exponent. -/
def floatDigits : List Char → Option Split
  | [] => none
  | c :: rest =>
    if !c.isDigit then none
    else
      let whole := c :: rest.takeWhile isDigitOrGap
      match rest.dropWhile isDigitOrGap with
      | '.' :: next :: after =>
        if next == '.' || isIdentStart next then none
        else withExponent true
          (whole ++ '.' :: (next :: after).takeWhile isDigitOrGap,
            (next :: after).dropWhile isDigitOrGap)
      | ['.'] => some (whole ++ ['.'], [])
      | after => withExponent false (whole, after)

/-- Digits of a whole number in the given base. A decimal digit beyond the base
is an error, a letter beyond it ends the number. -/
def baseDigits (base : Nat) : List Char → Option Split
  | [] => some ([], [])
  | c :: rest =>
    match hexValue c with
    | some d =>
      if d < base then (baseDigits base rest).map (·.cons c)
      else if c.isDigit then none
      else some ([], c :: rest)
    | none =>
      if c == '_' then (baseDigits base rest).map (·.cons c) else some ([], c :: rest)

/-- The digits of a whole number with the mark of its base. -/
def wholeDigits (cs : List Char) : Option Split :=
  let ofBase (mark : String) (base : Nat) : Option Split :=
    ((baseDigits base (cs.drop mark.length)).filter (·.1.any (· != '_'))).map
      (·.append mark.toList)
  if startsWith cs "0x" then ofBase "0x" 16
  else if startsWith cs "0o" then ofBase "0o" 8
  else if startsWith cs "0b" then ofBase "0b" 2
  else if startsWith cs "_" then none
  else ofBase "" 10

/-- A number goes on with its suffix and must end at a word boundary. -/
def numberEnd (read : Split) : Option Split :=
  let whole := withSuffix read
  match whole.2 with
  | c :: _ => if isIdentContinue c then none else some whole
  | [] => some whole

/-! ### Literals -/

/-- Reads a literal of any kind, with its suffix. -/
def literal (cs : List Char) : Option (LiteralKind × Split) :=
  let cooked (mark : String) (quote : Quote) : Option Split :=
    if startsWith cs mark then
      ((quoted quote .plain (cs.drop mark.length)).map (·.append mark.toList)).map withSuffix
    else none
  let raw (mark : String) (quote : Quote) : Option Split :=
    if startsWith cs mark then
      ((rawQuoted quote (cs.drop mark.length)).map (·.append mark.toList)).map withSuffix
    else none
  let one (mark : String) (quote : Quote) : Option Split :=
    if startsWith cs mark then
      ((single quote (cs.drop mark.length)).map (·.append mark.toList)).map withSuffix
    else none
  ((cooked "\"" .text <|> raw "r" .text).map (LiteralKind.string, ·))
    <|> ((cooked "b\"" .bytes <|> raw "br" .bytes).map (LiteralKind.byteString, ·))
    <|> ((cooked "c\"" .cText <|> raw "cr" .cText).map (LiteralKind.cString, ·))
    <|> ((one "b'" .bytes).map (LiteralKind.byte, ·))
    <|> ((one "'" .text).map (LiteralKind.char, ·))
    <|> (((floatDigits cs).bind numberEnd).map (LiteralKind.float, ·))
    <|> (((wholeDigits cs).bind numberEnd).map (LiteralKind.integer, ·))

/-! ### Punctuation -/

/-- The punctuation characters. -/
def punctuation : List Char := "~!@#$%^&*-=+|;:,<.>/?'".toList

/-- Whether a text begins with a punctuation character that does not open a
comment. -/
def startsPunct : List Char → Bool
  | [] => false
  | c :: rest =>
    !startsWith (c :: rest) "//" && !startsWith (c :: rest) "/*" && punctuation.contains c

end TraitRoutes.Scan
