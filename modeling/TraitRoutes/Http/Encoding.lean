/-!
# Bytes and text

What travels in a request is bytes. Percent escapes stand for single bytes, so
they are resolved before the bytes are read as UTF-8. A path must be valid UTF-8
then; in a query string, what is not is replaced, one mark for each longest start
of a character that breaks off.
-/

namespace TraitRoutes.Http

/-- Bytes of a message. -/
abbrev Bytes := List UInt8

/-- The bytes of a text. -/
def bytesOf (text : String) : Bytes := text.toUTF8.data.toList

/-- The text of bytes that are valid UTF-8. -/
def textOf? (bytes : Bytes) : Option String := String.fromUTF8? ⟨bytes.toArray⟩

/-! ### Text from any bytes -/

/-- Stands for what is no character. -/
def replacement : Char := '\ufffd'

/-- Whether a byte lies in a range. -/
def isWithin (low high : UInt8) (b : UInt8) : Bool := low ≤ b && b ≤ high

/-- Whether a byte goes on with a character. -/
def isContinuation (b : UInt8) : Bool := isWithin 0x80 0xBF b

/-- Whether `second` may follow `first` in a character of three bytes. -/
def startsThree (first second : UInt8) : Bool :=
  if first == 0xE0 then isWithin 0xA0 0xBF second
  else if first == 0xED then isWithin 0x80 0x9F second
  else isWithin 0xE1 0xEF first && isContinuation second

/-- Whether `second` may follow `first` in a character of four bytes. -/
def startsFour (first second : UInt8) : Bool :=
  if first == 0xF0 then isWithin 0x90 0xBF second
  else if first == 0xF4 then isWithin 0x80 0x8F second
  else isWithin 0xF1 0xF3 first && isContinuation second

/-- The character that the low bits of bytes make up. -/
def charOf (lead : Nat) (more : List UInt8) : Char :=
  Char.ofNat (more.foldl (fun n b => n * 64 + b.toNat % 64) lead)

/-- Bytes as characters, with a mark for what is none. -/
def decodeLossy : Bytes → List Char
  | [] => []
  | [a] => [if a < 0x80 then Char.ofNat a.toNat else replacement]
  | a :: b :: rest =>
    if a < 0x80 then Char.ofNat a.toNat :: decodeLossy (b :: rest)
    else if isWithin 0xC2 0xDF a && isContinuation b then
      charOf (a.toNat % 32) [b] :: decodeLossy rest
    else if startsThree a b then
      match rest with
      | c :: more =>
        if isContinuation c then charOf (a.toNat % 16) [b, c] :: decodeLossy more
        else replacement :: decodeLossy (c :: more)
      | [] => [replacement]
    else if startsFour a b then
      match rest with
      | c :: d :: more =>
        if isContinuation c then
          if isContinuation d then charOf (a.toNat % 8) [b, c, d] :: decodeLossy more
          else replacement :: decodeLossy (d :: more)
        else replacement :: decodeLossy (c :: d :: more)
      | [c] => if isContinuation c then [replacement] else replacement :: decodeLossy [c]
      | [] => [replacement]
    else replacement :: decodeLossy (b :: rest)

/-! ### Percent escapes -/

/-- The value of a hexadecimal digit. -/
def hexValue? (b : UInt8) : Option Nat :=
  if isWithin 0x30 0x39 b then some (b.toNat - 0x30)
  else if isWithin 0x41 0x46 b then some (b.toNat - 0x37)
  else if isWithin 0x61 0x66 b then some (b.toNat - 0x57)
  else none

/-- The bytes with each percent escape resolved. A percent sign without two
digits stands for itself. -/
def percentDecode : Bytes → Bytes
  | 0x25 :: high :: low :: rest =>
    match hexValue? high, hexValue? low with
    | some h, some l => UInt8.ofNat (h * 16 + l) :: percentDecode rest
    | _, _ => 0x25 :: percentDecode (high :: low :: rest)
  | b :: rest => b :: percentDecode rest
  | [] => []

/-! ### Numbers -/

/-- The number that digits spell, after what was read before them. -/
def digitsValue? (value : Nat) : List Char → Option Nat
  | [] => some value
  | c :: rest => if c.isDigit then digitsValue? (value * 10 + (c.toNat - 48)) rest else none

/-- The number that a text spells, with a sign or without, if it lies in a range. -/
def readInt (low high : Int) (text : String) : Option Int :=
  let magnitude? (digits : List Char) : Option Nat :=
    if digits.isEmpty then none else digitsValue? 0 digits
  let value? : Option Int :=
    match text.toList with
    | '-' :: digits => (magnitude? digits).map fun n => -(n : Int)
    | '+' :: digits => (magnitude? digits).map fun n => (n : Int)
    | digits => (magnitude? digits).map fun n => (n : Int)
  value?.bind fun n => if low ≤ n && n ≤ high then some n else none

/-- A number of 32 bits. -/
def readInt32 (text : String) : Option Int := readInt (-2147483648) 2147483647 text

/-- A number of 64 bits. -/
def readInt64 (text : String) : Option Int :=
  readInt (-9223372036854775808) 9223372036854775807 text

/-- A truth value. -/
def readBool (text : String) : Option Bool :=
  if text == "true" then some true else if text == "false" then some false else none

end TraitRoutes.Http
