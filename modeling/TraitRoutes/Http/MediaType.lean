/-!
# Media types

The value of a `Content-Type` header: a type and a subtype with parameters. Its
letters are kept in lower case, those of parameter values aside.
-/

namespace TraitRoutes.Http

/-- A media type. -/
structure MediaType where
  /-- What stands before the slash. -/
  main : List Char
  /-- What stands behind it, up to the parameters. -/
  sub : List Char
  params : List (List Char × List Char)
  /-- The whole in its normal spelling. -/
  text : String
deriving DecidableEq, Repr

namespace MediaType

/-- A character of a word. -/
def isWordChar (c : Char) : Bool :=
  (c.toNat < 128 && c.isAlphanum)
    || ['!', '#', '$', '%', '&', '\'', '*', '+', '-', '.', '^', '_', '\x60', '|', '~'].contains c

/-- A character between quotation marks. -/
def isQuotedChar (c : Char) : Bool := 31 < c.toNat && c.toNat != 127

/-- A word and what follows it. -/
def word (cs : List Char) : List Char × List Char :=
  (cs.takeWhile isWordChar, cs.dropWhile isWordChar)

/-- The value between quotation marks, of which the first has been read. One that
follows at once is part of the value. -/
def quotedValue (cs : List Char) : Option (List Char × List Char) :=
  let (first, rest) := (cs.take 1, cs.drop 1)
  let value := first ++ rest.takeWhile fun c => isQuotedChar c && c != '"'
  match rest.dropWhile fun c => isQuotedChar c && c != '"' with
  | '"' :: after => if first.all isQuotedChar then some (value, after) else none
  | _ => none

/-- The value of a parameter, without quotation marks, and what follows the
separator behind it. -/
def paramValue : List Char → Option (List Char × List Char)
  | '"' :: quoted =>
    match quotedValue quoted with
    | none => none
    | some (value, after) =>
      match after.dropWhile (· == ' ') with
      | [] => some (value, [])
      | ';' :: rest => some (value, rest)
      | _ => none
  | cs =>
    match word cs with
    | (value, []) => some (value, [])
    | (value, ';' :: rest) => if value.isEmpty then none else some (value, rest)
    | _ => none

/-- Characters in lower case. -/
def lower (cs : List Char) : List Char := cs.map Char.toLower

/-- Parameters with their spelling. -/
structure Params where
  list : List (List Char × List Char) := []
  text : List Char := []

/-- Puts a parameter in front, with the blanks before it and the characters that
spell its value. -/
def Params.add (more : Params) (blanks name raw value : List Char) : Params :=
  let isCharset := name == "charset".toList
  let fold (cs : List Char) : List Char := if isCharset then lower cs else cs
  ⟨(name, fold value) :: more.list, blanks ++ name ++ '=' :: fold raw ++ more.text⟩

/-- Reads parameters. The fuel bounds their number. -/
def readParams : Nat → List Char → Option Params
  | 0, _ => none
  | fuel + 1, cs =>
    let blanks := cs.takeWhile (· == ' ')
    match cs.dropWhile (· == ' ') with
    | [] => some ⟨[], blanks⟩
    | cs =>
      match word cs with
      | (name, '=' :: rest) =>
        if name.isEmpty then none
        else
          match paramValue rest with
          | none => none
          | some (value, after) =>
            let raw := rest.take (rest.length - after.length)
            (readParams fuel after).map fun more => more.add blanks (lower name) raw value
      | _ => none

/-- Reads a media type. -/
def read (text : String) : Option MediaType :=
  match word text.toList with
  | (main, '/' :: rest) =>
    if main.isEmpty then none
    else
      let (sub, rest) := word rest
      let plain := lower main ++ '/' :: lower sub
      match rest with
      | [] => some ⟨lower main, lower sub, [], String.ofList plain⟩
      | ';' :: rest =>
        if sub.isEmpty then none
        else
          (readParams (rest.length + 1) rest).map fun params =>
            let spelled := if params.list.isEmpty then plain else plain ++ ';' :: params.text
            ⟨lower main, lower sub, params.list, String.ofList spelled⟩
      | _ => none
  | _ => none

/-- Whether a character may stand in a header that is read as text: only those of
ASCII that can be seen, blanks and tabs. -/
def isHeaderChar (c : Char) : Bool := c == '\t' || (0x20 ≤ c.toNat && c.toNat ≤ 0x7E)

/-- Reads the value of a header as a media type. -/
def ofHeader? (value : String) : Option MediaType :=
  if value.toList.all isHeaderChar then read value else none

/-- The subtype without its suffix, and the suffix: what stands behind the last
plus sign, unless the subtype starts with it. -/
def splitSuffix (sub : List Char) : List Char × Option (List Char) :=
  let suffix := (sub.reverse.takeWhile (· != '+')).reverse
  let stem := sub.take (sub.length - suffix.length - 1)
  if stem.isEmpty then (sub, none) else (stem, some suffix)

/-- Whether a media type announces JSON. -/
def isJson (m : MediaType) : Bool :=
  m.main == "application".toList
    && ((splitSuffix m.sub).1 == "json".toList || (splitSuffix m.sub).2 == some "json".toList)

/-- The boundary of a form in parts. -/
def boundary? (m : MediaType) : Option (List Char) :=
  if m.main == "multipart".toList && (splitSuffix m.sub).1 == "form-data".toList then
    m.params.lookup "boundary".toList
  else none

end MediaType

end TraitRoutes.Http
