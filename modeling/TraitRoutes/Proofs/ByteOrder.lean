import Mathlib.Data.String.Basic

/-!
# Texts in the order of their bytes

Texts are compared character by character, and their bytes come in the same order. The
encoding of a character says in its first byte how many bytes there are, and more bytes
are for greater characters. Of two encodings of one length the bytes are the digits of
the characters to base 64, the first digit in front of a mark that is the same for both,
so the order is that of numbers by their digits.
-/

namespace TraitRoutes.Text

/-- The bytes of a text. -/
def utf8 (text : String) : List UInt8 := text.toUTF8.data.toList

theorem utf8_eq (text : String) : utf8 text = text.toList.flatMap String.utf8EncodeChar := by
  rw [utf8, String.toUTF8, ← String.utf8Encode_toList, List.utf8Encode, List.data_toByteArray,
    List.toList_toArray]

theorem ofNat_lt_iff {m n : Nat} (hm : m < 256) (hn : n < 256) :
    UInt8.ofNat m < UInt8.ofNat n ↔ m < n := by
  rw [UInt8.lt_iff_toNat_lt, UInt8.toNat_ofNat_of_lt' hm, UInt8.toNat_ofNat_of_lt' hn]

theorem ofNat_inj {m n : Nat} (hm : m < 256) (hn : n < 256) :
    UInt8.ofNat m = UInt8.ofNat n ↔ m = n := by
  rw [← UInt8.toNat_inj, UInt8.toNat_ofNat_of_lt' hm, UInt8.toNat_ofNat_of_lt' hn]

theorem lt_by_digit {m n : Nat} (h : m < n) :
    m / 64 < n / 64 ∨ m / 64 = n / 64 ∧ m % 64 < n % 64 := by
  omega

/-- Numbers in the order of their digits, of which there are four. -/
theorem lt_by_digits {m n : Nat} (h : m < n) :
    m / 262144 < n / 262144 ∨
      m / 262144 = n / 262144 ∧ (m / 4096 % 64 < n / 4096 % 64 ∨
        m / 4096 % 64 = n / 4096 % 64 ∧ (m / 64 % 64 < n / 64 % 64 ∨
          m / 64 % 64 = n / 64 % 64 ∧ m % 64 < n % 64)) := by
  have hshift : ∀ k : Nat, k / 64 / 64 = k / 4096 ∧ k / 4096 / 64 = k / 262144 := by omega
  have hm := hshift m
  have hn := hshift n
  rcases lt_by_digit h with h | h
  · rcases lt_by_digit h with h | h
    · rw [hm.1, hn.1] at h
      rcases lt_by_digit h with h | h <;> omega
    · omega
  · omega

/-- The bytes of a smaller character come first, whatever follows. -/
theorem encode_lt {c d : Char} (h : c < d) (rest rest' : List UInt8) :
    String.utf8EncodeChar c ++ rest < String.utf8EncodeChar d ++ rest' := by
  have hlt : c.val.toNat < d.val.toNat := UInt32.lt_iff_toNat_lt.mp (Char.lt_def.mp h)
  have hmax : d.val.toNat < 0x110000 := by
    rcases d.valid with h | h <;> omega
  rw [String.utf8EncodeChar.eq_1, String.utf8EncodeChar.eq_1]
  generalize c.val.toNat = m at *
  generalize d.val.toNat = n at *
  have hdigits := lt_by_digits hlt
  -- the first of four bytes has room for three bits, and all are used
  have hm : m / 262144 % 8 = m / 262144 := by omega
  have hn : n / 262144 % 8 = n / 262144 := by omega
  split_ifs <;> try omega
  all_goals
    simp (disch := omega) only [List.cons_append, List.nil_append, List.cons_lt_cons_iff,
      ofNat_lt_iff, ofNat_inj]
  all_goals omega

theorem utf8_lt {text text' : String} (h : text < text') : utf8 text < utf8 text' := by
  rw [String.lt_iff_toList_lt] at h
  rw [utf8_eq, utf8_eq]
  generalize text.toList = cs at h
  generalize text'.toList = ds at h
  induction cs generalizing ds with
  | nil =>
      cases ds with
      | nil => exact absurd h (List.not_lt_nil _)
      | cons d ds =>
          rw [List.flatMap_nil, List.flatMap_cons]
          obtain ⟨b, bs, hbytes⟩ :=
            List.exists_cons_of_ne_nil (String.utf8EncodeChar_ne_nil (c := d))
          rw [hbytes]
          exact List.nil_lt_cons _ _
  | cons c cs ih =>
      cases ds with
      | nil => exact absurd h (List.not_lt_nil _)
      | cons d ds =>
          rw [List.flatMap_cons, List.flatMap_cons]
          rcases List.cons_lt_cons_iff.mp h with hlt | ⟨rfl, hlt⟩
          · exact encode_lt hlt _ _
          · exact List.append_left_lt (ih ds hlt)

end TraitRoutes.Text
