import TraitRoutes.Proofs.LexedLiterals
import TraitRoutes.Text.StringValue

/-!
# Quoted texts denote themselves

The printer quotes a text and the compiler reads the literal again. Each character stands behind
the quotation mark as itself or as an escape, and the reader is back where it was when it has
read that, with the character it came from. The one escape that depends on what follows is the
short one of a NUL.
-/

namespace TraitRoutes.Text

open Scan (hexValue)

theorem unescape_digit {d : Nat} (hd : d < 16) (value : Nat) (rest : List Char) :
    unescape (.code value) (Nat.digitChar d :: rest) = unescape (.code (value * 16 + d)) rest := by
  have hvalue : ∀ d < 16, hexValue (Nat.digitChar d) = some d := by decide
  rw [unescape, hvalue d hd]

theorem unescape_toDigits (n : Nat) (rest : List Char) :
    unescape (.code 0) (Nat.toDigits 16 n ++ rest) = unescape (.code n) rest := by
  induction n using Nat.strongRecOn generalizing rest with
  | ind n ih =>
      by_cases hlt : n < 16
      · rw [Nat.toDigits_of_lt_base hlt, List.singleton_append, unescape_digit hlt, Nat.zero_mul,
          Nat.zero_add]
      · have hle : 16 ≤ n := Nat.not_lt.mp hlt
        rw [Nat.toDigits_of_base_le (by decide) hle, List.append_assoc, ih (n / 16) (by omega),
          List.singleton_append, unescape_digit (Nat.mod_lt n (by decide)), Nat.div_add_mod']

theorem unescape_code (c : Char) (rest : List Char) :
    unescape .plain (['\\', 'u', '\x7b'] ++ hexDigits c.toNat ++ ['\x7d'] ++ rest)
      = c :: unescape .plain rest := by
  have hclose : hexValue '\x7d' = none := by decide
  have hopen : ∀ cs, unescape .plain (['\\', 'u', '\x7b'] ++ cs) = unescape (.code 0) cs :=
    fun cs => rfl
  rw [List.append_assoc, List.append_assoc, hopen, hexDigits, unescape_toDigits,
    List.singleton_append, unescape, hclose]
  simp [Char.ofNat_toNat]

theorem unescape_quoteChar (c : Char) (rest : List Char) :
    unescape .plain (quoteChar c ++ rest) = c :: unescape .plain rest := by
  unfold quoteChar
  split_ifs with htab hreturn hline hquote hescape hprint
  · rw [beq_iff_eq.mp htab]; rfl
  · rw [beq_iff_eq.mp hreturn]; rfl
  · rw [beq_iff_eq.mp hline]; rfl
  · rw [beq_iff_eq.mp hquote]; rfl
  · rw [beq_iff_eq.mp hescape]; rfl
  · rw [List.singleton_append, unescape, if_neg hquote, if_neg hescape, if_neg hreturn]
  · exact unescape_code c rest

theorem unescape_quoteChars (cs rest : List Char) :
    unescape .plain (quoteChars cs ++ '"' :: rest) = cs := by
  induction cs with
  | nil => rfl
  | cons c more ih =>
      rw [quoteChars.eq_def]
      dsimp only
      rw [List.append_assoc]
      split
      · next hnul =>
          have hc : c = '\x00' := Char.toNat_inj.mp hnul
          have hshort : ∀ cs, unescape .plain (['\\', '0'] ++ cs) = c :: unescape .plain cs := by
            intro cs
            rw [hc]
            rfl
          have hlong : ∀ cs,
              unescape .plain (['\\', 'x', '0', '0'] ++ cs) = c :: unescape .plain cs := by
            intro cs
            rw [hc]
            rfl
          split
          · split
            · rw [hlong, ih]
            · rw [hshort, ih]
          · rw [hshort, ih]
      · rw [unescape_quoteChar, ih]

/-- A quoted text denotes that text. -/
theorem stringValue_quoteText (text : String) : stringValue (quoteText text) = text := by
  rw [stringValue, quoteText, String.toList_ofList]
  change String.ofList (unescape .plain (quoteChars text.toList ++ ['"'])) = text
  rw [unescape_quoteChars, String.ofList_toList]

end TraitRoutes.Text
