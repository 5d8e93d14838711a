import TraitRoutes.Http.Encoding

/-!
# Reading JSON records

Reads a record of known fields from the bytes of a body, from left to right and
no further than the first mistake. A mistake in the JSON itself and a value of
the wrong kind are answered differently, so it matters which of them comes first.
A record may also be written as a list of its values. Unknown fields are skipped,
whatever they hold.
-/

namespace TraitRoutes.JsonReader

open Http (Bytes bytesOf textOf? hexValue?)

/-- Why a record was not read. -/
inductive Mistake where
  /-- It is not JSON. -/
  | malformed
  /-- It is JSON that does not fit. -/
  | mismatch
deriving DecidableEq, Repr

/-- Bytes without leading white space. -/
def skipSpace (bytes : Bytes) : Bytes :=
  bytes.dropWhile fun b => b == 0x20 || b == 0x0A || b == 0x09 || b == 0x0D

/-- Reads a fixed word. -/
def readWord (word : String) (bytes : Bytes) : Except Mistake Bytes :=
  let expected := bytesOf word
  if expected.isPrefixOf bytes then .ok (bytes.drop expected.length) else .error .malformed

/-! ### Strings -/

/-- The number that four hexadecimal digits spell. -/
def hexFour? (a b c d : UInt8) : Option Nat :=
  match hexValue? a, hexValue? b, hexValue? c, hexValue? d with
  | some a, some b, some c, some d => some (((a * 16 + b) * 16 + c) * 16 + d)
  | _, _, _, _ => none

/-- What the character behind a backslash stands for. -/
def shortEscape? (b : UInt8) : Option UInt8 :=
  match b with
  | 0x22 => some 0x22
  | 0x5C => some 0x5C
  | 0x2F => some 0x2F
  | 0x62 => some 0x08
  | 0x66 => some 0x0C
  | 0x6E => some 0x0A
  | 0x72 => some 0x0D
  | 0x74 => some 0x09
  | _ => none

/-- Whether a number is the first half of a pair that makes one character. -/
def isHighHalf (n : Nat) : Bool := 0xD800 ≤ n && n ≤ 0xDBFF

/-- Whether a number is the second half of a pair. -/
def isLowHalf (n : Nat) : Bool := 0xDC00 ≤ n && n ≤ 0xDFFF

/-- The character that two halves make. -/
def joinHalves (high low : Nat) : Nat := 0x10000 + (high - 0xD800) * 0x400 + (low - 0xDC00)

/-- The bytes of a character by its number. -/
def encode (n : Nat) : Bytes := bytesOf (String.singleton (Char.ofNat n))

/-- Reads the bytes of a string up to the quotation mark that ends it. The bytes
before are gathered backwards. -/
def readStringBytes (before : Bytes) : Bytes → Except Mistake (Bytes × Bytes)
  | 0x22 :: rest => .ok (before.reverse, rest)
  | 0x5C :: 0x75 :: a :: b :: c :: d :: 0x5C :: 0x75 :: e :: f :: g :: h :: rest =>
    match hexFour? a b c d with
    | none => .error .malformed
    | some n =>
      if isHighHalf n then
        match hexFour? e f g h with
        | none => .error .malformed
        | some m =>
          if isLowHalf m then
            readStringBytes ((encode (joinHalves n m)).reverse ++ before) rest
          else .error .malformed
      else if isLowHalf n then .error .malformed
      else
        readStringBytes ((encode n).reverse ++ before)
          (0x5C :: 0x75 :: e :: f :: g :: h :: rest)
  | 0x5C :: 0x75 :: a :: b :: c :: d :: rest =>
    match hexFour? a b c d with
    | none => .error .malformed
    | some n =>
      if isHighHalf n || isLowHalf n then .error .malformed
      else readStringBytes ((encode n).reverse ++ before) rest
  | 0x5C :: b :: rest =>
    match shortEscape? b with
    | some c => readStringBytes (c :: before) rest
    | none => .error .malformed
  | b :: rest =>
    if b < 0x20 || b == 0x5C then .error .malformed else readStringBytes (b :: before) rest
  | [] => .error .malformed

/-- Reads a string behind its first quotation mark. -/
def readString (bytes : Bytes) : Except Mistake (String × Bytes) := do
  let (content, rest) ← readStringBytes [] bytes
  match textOf? content with
  | some text => .ok (text, rest)
  | none => .error .malformed

/-- Skips a string behind its first quotation mark. Its bytes may be any. -/
def skipString : Bytes → Except Mistake Bytes
  | 0x22 :: rest => .ok rest
  | 0x5C :: 0x75 :: a :: b :: c :: d :: rest =>
    if (hexFour? a b c d).isSome then skipString rest else .error .malformed
  | 0x5C :: b :: rest => if (shortEscape? b).isSome then skipString rest else .error .malformed
  | b :: rest => if b < 0x20 || b == 0x5C then .error .malformed else skipString rest
  | [] => .error .malformed

/-! ### Numbers -/

/-- A number as it is written: the digits of its integer part, those behind the
point, and the exponent. -/
structure Numeral where
  negative : Bool
  whole : List UInt8
  fraction : Option (List UInt8)
  exponent : Option Int

/-- Whether a byte is a digit. -/
def isDigit (b : UInt8) : Bool := Http.isWithin 0x30 0x39 b

/-- The number that digits spell. -/
def digitsValue (digits : List UInt8) : Nat :=
  digits.foldl (fun n b => n * 10 + (b.toNat - 48)) 0

/-- Reads digits, of which there must be one. -/
def readDigits (bytes : Bytes) : Except Mistake (List UInt8 × Bytes) :=
  let digits := bytes.takeWhile isDigit
  if digits.isEmpty then .error .malformed else .ok (digits, bytes.dropWhile isDigit)

/-- Reads the digits behind a point, if there is one. -/
def readFraction : Bytes → Except Mistake (Option (List UInt8) × Bytes)
  | 0x2E :: rest => (readDigits rest).map fun (digits, rest) => (some digits, rest)
  | bytes => .ok (none, bytes)

/-- Reads an exponent, if there is one. -/
def readExponent : Bytes → Except Mistake (Option Int × Bytes)
  | b :: rest =>
    if b == 0x65 || b == 0x45 then
      match rest with
      | 0x2D :: more =>
        (readDigits more).map fun (digits, rest) => (some (-(digitsValue digits : Int)), rest)
      | 0x2B :: more =>
        (readDigits more).map fun (digits, rest) => (some (digitsValue digits : Int), rest)
      | more => (readDigits more).map fun (digits, rest) => (some (digitsValue digits : Int), rest)
    else .ok (none, b :: rest)
  | [] => .ok (none, [])

/-- Reads a number. A zero may not come before another digit. -/
def readNumeral (bytes : Bytes) : Except Mistake (Numeral × Bytes) := do
  let (negative, bytes) := match bytes with
    | 0x2D :: rest => (true, rest)
    | bytes => (false, bytes)
  let (whole, rest) ← readDigits bytes
  if whole.head? == some 0x30 && 1 < whole.length then .error .malformed
  else
    let (fraction, rest) ← readFraction rest
    let (exponent, rest) ← readExponent rest
    .ok (⟨negative, whole, fraction, exponent⟩, rest)

/-- A number as digits that fit into 64 bits, and a power of ten. -/
structure Scaled where
  digits : Nat
  power : Int

/-- Puts a digit behind the digits, if they still fit then. -/
def Scaled.push? (s : Scaled) (digit : UInt8) : Option Nat :=
  let digits := s.digits * 10 + (digit.toNat - 48)
  if digits < Nat.pow 2 64 then some digits else none

/-- Takes in the digits before the point. From the first that does not fit on, each
only raises the power. -/
def Scaled.addWhole (s : Scaled) : List UInt8 → Scaled
  | [] => s
  | d :: rest =>
    match s.push? d with
    | some digits => Scaled.addWhole ⟨digits, s.power⟩ rest
    | none => ⟨s.digits, s.power + rest.length + 1⟩

/-- Takes in the digits behind the point, up to the first that does not fit. -/
def Scaled.addFraction (s : Scaled) : List UInt8 → Scaled
  | [] => s
  | d :: rest =>
    match s.push? d with
    | some digits => Scaled.addFraction ⟨digits, s.power - 1⟩ rest
    | none => s

/-- The digits and the power of ten of a numeral. -/
def Numeral.scaled (n : Numeral) : Scaled :=
  let s := ((Scaled.mk 0 0).addWhole n.whole).addFraction (n.fraction.getD [])
  ⟨s.digits, s.power + n.exponent.getD 0⟩

/-- A number rounded to the 53 bits that a floating point number keeps, from the
middle to the even side. -/
def roundToFloat (n : Nat) : Nat :=
  let unit := Nat.pow 2 (n.log2 - 52)
  let (kept, left) := (n / unit, n % unit)
  let up := unit < 2 * left || (unit == 2 * left && kept % 2 == 1)
  (if up then kept + 1 else kept) * unit

/-- The least magnitude that no floating point number of 64 bits is near to. -/
def floatLimit : Nat := Nat.pow 2 1024 - Nat.pow 2 970

/-- The largest power of ten that is a floating point number of 64 bits. -/
def powerLimit : Int := 308

/-- Whether a number is too large for a floating point number of 64 bits. The
digits and the power of ten are rounded before they are multiplied. -/
def Numeral.overflows (n : Numeral) : Bool :=
  let s := n.scaled
  if s.digits = 0 || s.power < 0 then false
  else if powerLimit < s.power then true
  else floatLimit ≤ roundToFloat s.digits * roundToFloat (Nat.pow 10 s.power.toNat)

/-- The whole number that a numeral is, if it is written as one and fits into 64
bits. Minus zero is none. -/
def Numeral.int? (n : Numeral) : Option Int :=
  match n.fraction, n.exponent with
  | none, none =>
    let value := digitsValue n.whole
    if n.negative then if value = 0 || Nat.pow 2 63 < value then none else some (-(value : Int))
    else if Nat.pow 2 64 ≤ value then none else some value
  | _, _ => none

/-! ### Skipping -/

mutual

/-- Skips a value. The fuel bounds the steps. -/
def skipValue : Nat → Bytes → Except Mistake Bytes
  | 0, _ => .error .malformed
  | fuel + 1, bytes =>
    match skipSpace bytes with
    | 0x22 :: rest => skipString rest
    | 0x5B :: rest =>
      match skipSpace rest with
      | 0x5D :: rest => .ok rest
      | rest => skipItems fuel rest
    | 0x7B :: rest =>
      match skipSpace rest with
      | 0x7D :: rest => .ok rest
      | rest => skipMembers fuel rest
    | 0x6E :: rest => readWord "ull" rest
    | 0x74 :: rest => readWord "rue" rest
    | 0x66 :: rest => readWord "alse" rest
    | rest => (readNumeral rest).map (·.2)

/-- Skips the items of a list that is not empty. -/
def skipItems : Nat → Bytes → Except Mistake Bytes
  | 0, _ => .error .malformed
  | fuel + 1, bytes => do
    match skipSpace (← skipValue fuel bytes) with
    | 0x2C :: rest => skipItems fuel rest
    | 0x5D :: rest => .ok rest
    | _ => .error .malformed

/-- Skips the members of a record that is not empty. -/
def skipMembers : Nat → Bytes → Except Mistake Bytes
  | 0, _ => .error .malformed
  | fuel + 1, bytes => do
    match skipSpace bytes with
    | 0x22 :: rest =>
      match skipSpace (← skipString rest) with
      | 0x3A :: rest =>
        match skipSpace (← skipValue fuel rest) with
        | 0x2C :: rest => skipMembers fuel rest
        | 0x7D :: rest => .ok rest
        | _ => .error .malformed
      | _ => .error .malformed
    | _ => .error .malformed

end

/-! ### Fields -/

/-- What a field holds. -/
inductive Kind where
  | text
  | int (low high : Int)
  | bool
  /-- A value or `null`. -/
  | option (kind : Kind)

/-- The value of a field. -/
inductive Value where
  | text (value : String)
  | int (value : Int)
  | bool (value : Bool)
  | none
deriving DecidableEq, Repr

/-- A field of a record. -/
structure Field where
  name : String
  kind : Kind
  /-- The value if the field is left out. -/
  omitted : Option Value
  /-- The value if a list of values ends before it. -/
  cutOff : Option Value

/-- A field that must be there. -/
def Field.required (name : String) (kind : Kind) : Field := ⟨name, kind, none, none⟩

/-- A field that may be left out or be `null`. -/
def Field.optional (name : String) (kind : Kind) : Field := ⟨name, .option kind, some .none, none⟩

/-- A field with a value of its own if it is left out. -/
def Field.withDefault (name : String) (kind : Kind) (value : Value) : Field :=
  ⟨name, kind, some value, some value⟩

/-- The mistake of a value of the wrong kind, unless the value is malformed. A
list or a record is not looked into. -/
def misfit (bytes : Bytes) : Mistake :=
  let check (read : Except Mistake Unit) : Mistake :=
    match read with
    | .ok _ => .mismatch
    | .error e => e
  match bytes with
  | 0x22 :: rest => check ((readString rest).map fun _ => ())
  | 0x5B :: _ | 0x7B :: _ => .mismatch
  | 0x6E :: rest => check ((readWord "ull" rest).map fun _ => ())
  | 0x74 :: rest => check ((readWord "rue" rest).map fun _ => ())
  | 0x66 :: rest => check ((readWord "alse" rest).map fun _ => ())
  | rest =>
    match readNumeral rest with
    | .ok (n, _) => if n.int?.isNone && n.overflows then .malformed else .mismatch
    | .error e => e

/-- Whether a number stands at the front of bytes. -/
def startsNumber : Bytes → Bool
  | b :: _ => b == 0x2D || isDigit b
  | [] => false

/-- Reads the value of a field. -/
def readKind : Kind → Bytes → Except Mistake (Value × Bytes)
  | .text, bytes =>
    match skipSpace bytes with
    | 0x22 :: rest => (readString rest).map fun (text, rest) => (.text text, rest)
    | rest => .error (misfit rest)
  | .int low high, bytes =>
    let bytes := skipSpace bytes
    if startsNumber bytes then
      match readNumeral bytes with
      | .error e => .error e
      | .ok (n, rest) =>
        match n.int? with
        | some value =>
          if low ≤ value && value ≤ high then .ok (.int value, rest) else .error .mismatch
        | none => .error (misfit bytes)
    else .error (misfit bytes)
  | .bool, bytes =>
    match skipSpace bytes with
    | 0x74 :: rest => (readWord "rue" rest).map fun rest => (.bool true, rest)
    | 0x66 :: rest => (readWord "alse" rest).map fun rest => (.bool false, rest)
    | rest => .error (misfit rest)
  | .option kind, bytes =>
    match skipSpace bytes with
    | 0x6E :: rest => (readWord "ull" rest).map fun rest => (.none, rest)
    | rest => readKind kind rest

/-! ### Records -/

/-- The values of fields, where those that were left out have one. -/
def complete : List Field → List (Option Value) → Except Mistake (List Value)
  | f :: fs, v :: vs =>
    match v.or f.omitted with
    | some value => (complete fs vs).map (value :: ·)
    | none => .error .mismatch
  | _, _ => .ok []

/-- Reads a member behind the quotation mark of its name, into the values read so
far. -/
def readMember (fuel : Nat) (fields : List Field) (values : List (Option Value)) (bytes : Bytes) :
    Except Mistake (List (Option Value) × Bytes) := do
  let (name, rest) ← readString bytes
  let position := fields.findIdx fun f => f.name == name
  let colon (bytes : Bytes) : Except Mistake Bytes :=
    match skipSpace bytes with
    | 0x3A :: rest => .ok rest
    | _ => .error .malformed
  match fields[position]?, values[position]? with
  | some _, some (some _) => .error .mismatch
  | some field, _ =>
    let (value, rest) ← readKind field.kind (← colon rest)
    .ok (values.set position (some value), rest)
  | none, _ =>
    let rest ← skipValue fuel (← colon rest)
    .ok (values, rest)

/-- Reads members up to the end of the record. -/
def readMembers (fields : List Field) :
    Nat → List (Option Value) → Bytes → Except Mistake (List Value × Bytes)
  | 0, _, _ => .error .malformed
  | fuel + 1, values, bytes => do
    let (values, rest) ← readMember fuel fields values bytes
    match skipSpace rest with
    | 0x7D :: rest => (complete fields values).map (·, rest)
    | 0x2C :: rest =>
      match skipSpace rest with
      | 0x22 :: rest => readMembers fields fuel values rest
      | _ => .error .malformed
    | _ => .error .malformed

/-- Reads the values of fields from a list, up to its end. -/
def readItems : List Field → Bool → Bytes → Except Mistake (List Value × Bytes)
  | [], _, bytes =>
    match skipSpace bytes with
    | 0x5D :: rest => .ok ([], rest)
    | _ => .error .malformed
  | field :: fields, first, bytes => do
    match skipSpace bytes with
    | 0x5D :: rest =>
      match field.cutOff with
      | some value =>
        (readItems fields first (0x5D :: rest)).map fun (values, rest) => (value :: values, rest)
      | none => .error .mismatch
    | rest =>
      let rest ←
        if first then pure rest
        else
          match rest with
          | 0x2C :: rest =>
            match skipSpace rest with
            | 0x5D :: _ => Except.error .malformed
            | rest => pure rest
          | _ => Except.error .malformed
      let (value, rest) ← readKind field.kind rest
      (readItems fields false rest).map fun (values, rest) => (value :: values, rest)

/-- Reads a record. -/
def readRecord (fields : List Field) (bytes : Bytes) : Except Mistake (List Value × Bytes) :=
  match skipSpace bytes with
  | 0x7B :: rest =>
    match skipSpace rest with
    | 0x7D :: rest => (complete fields (fields.map fun _ => none)).map (·, rest)
    | 0x22 :: rest => readMembers fields (rest.length + 1) (fields.map fun _ => none) rest
    | _ => .error .malformed
  | 0x5B :: rest => readItems fields true rest
  | rest => .error (misfit rest)

/-- Reads a record that nothing follows. -/
def readBody (fields : List Field) (bytes : Bytes) : Except Mistake (List Value) := do
  let (values, rest) ← readRecord fields bytes
  if (skipSpace rest).isEmpty then .ok values else .error .malformed

end TraitRoutes.JsonReader
