import Mathlib.Data.List.DropRight
import Mathlib.Data.List.TakeWhile

/-!
# Spans of a text

A text falls apart where the characters of a kind end. The characters of the kind in front and
the rest are determined by this: the rest begins with none, or is empty. From both ends, what is
between the characters of the kind has none at either end, and it is all that is left of a text
when they are taken away.
-/

namespace TraitRoutes

/-! ## Characters in front -/

theorem head?_dropWhile_not (p : Char → Bool) (cs : List Char) :
    ∀ c ∈ (cs.dropWhile p).head?, p c = false := by
  intro c hc
  have hnot := List.head?_dropWhile_not p cs
  rw [Option.mem_def.mp hc] at hnot
  simpa using hnot

/-- A text falls into the characters in front that pass and a rest that begins with none. -/
theorem exists_span (p : Char → Bool) (cs : List Char) :
    ∃ front rest, cs = front ++ rest ∧ (∀ c ∈ front, p c = true) ∧
      ∀ c ∈ rest.head?, p c = false :=
  ⟨cs.takeWhile p, cs.dropWhile p, List.takeWhile_append_dropWhile.symm,
    List.all_eq_true.mp List.all_takeWhile, head?_dropWhile_not p cs⟩

theorem span_append {p : Char → Bool} {front rest : List Char}
    (hfront : ∀ c ∈ front, p c = true) (hrest : ∀ c ∈ rest.head?, p c = false) :
    (front ++ rest).takeWhile p = front ∧ (front ++ rest).dropWhile p = rest := by
  rw [List.takeWhile_append_of_pos hfront, List.dropWhile_append_of_pos hfront]
  cases rest with
  | nil => exact ⟨List.append_nil front, rfl⟩
  | cons c more =>
      have hc : ¬ p c = true := by simp [hrest c rfl]
      rw [List.takeWhile_cons_of_neg hc, List.dropWhile_cons_of_neg hc]
      exact ⟨List.append_nil front, rfl⟩

/-- A text without a mark ends where what follows begins with the mark. -/
theorem span_before {mark : Char} {cs more : List Char} (hcs : mark ∉ cs)
    (hmore : ∀ c ∈ more.head?, c = mark) :
    (cs ++ more).takeWhile (· != mark) = cs ∧ (cs ++ more).dropWhile (· != mark) = more :=
  span_append (fun _ hc => bne_iff_ne.mpr fun heq => hcs (heq ▸ hc))
    fun c hc => bne_eq_false_iff_eq.mpr (hmore c hc)

/-! ## Characters behind -/

theorem getLast?_rdropWhile_not (p : Char → Bool) (cs : List Char) :
    ∀ c ∈ (cs.rdropWhile p).getLast?, p c = false := by
  rw [List.rdropWhile, List.getLast?_reverse]
  exact head?_dropWhile_not p cs.reverse

theorem exists_rspan (p : Char → Bool) (cs : List Char) :
    ∃ back, cs = cs.rdropWhile p ++ back ∧ ∀ c ∈ back, p c = true :=
  ⟨cs.rtakeWhile p, List.rdropWhile_append_rtakeWhile.symm,
    fun _ hc => List.mem_rtakeWhile_imp hc⟩

/-! ## Characters at both ends -/

/-- A text without the characters of a kind at both ends. -/
def strip (p : Char → Bool) (cs : List Char) : List Char := (cs.dropWhile p).rdropWhile p

/-- A text has no character of a kind at either end. -/
structure Bare (p : Char → Bool) (cs : List Char) : Prop where
  head : ∀ c ∈ cs.head?, p c = false
  last : ∀ c ∈ cs.getLast?, p c = false

variable {p : Char → Bool} {c : Char} {cs front back : List Char}

theorem Bare.cons (hc : p c = false) (hlast : ∀ d ∈ cs.getLast?, p d = false) :
    Bare p (c :: cs) := by
  refine ⟨fun d hd => Option.some.inj hd ▸ hc, fun d hd => ?_⟩
  rw [List.getLast?_cons] at hd
  cases hcs : cs.getLast? with
  | none =>
      rw [hcs] at hd
      exact Option.some.inj hd ▸ hc
  | some last =>
      rw [hcs] at hd
      exact Option.some.inj hd ▸ hlast last hcs

theorem Bare.concat (hhead : ∀ d ∈ cs.head?, p d = false) (hc : p c = false) :
    Bare p (cs ++ [c]) := by
  refine ⟨fun d hd => ?_, fun d hd => ?_⟩
  · cases cs with
    | nil => exact Option.some.inj hd ▸ hc
    | cons first cs => exact hhead d hd
  · rw [List.getLast?_concat] at hd
    exact Option.some.inj hd ▸ hc

/-- What is taken away is of the kind. -/
theorem exists_strip (p : Char → Bool) (cs : List Char) :
    ∃ front back, cs = front ++ strip p cs ++ back ∧ (∀ c ∈ front, p c = true) ∧
      ∀ c ∈ back, p c = true := by
  obtain ⟨back, hsplit, hback⟩ := exists_rspan p (cs.dropWhile p)
  refine ⟨cs.takeWhile p, back, ?_, List.all_eq_true.mp List.all_takeWhile, hback⟩
  rw [strip, List.append_assoc, ← hsplit, List.takeWhile_append_dropWhile]

theorem bare_strip (p : Char → Bool) (cs : List Char) : Bare p (strip p cs) where
  head := by
    obtain ⟨more, hmore⟩ : strip p cs <+: cs.dropWhile p := List.rdropWhile_prefix p _
    intro c hc
    refine head?_dropWhile_not p cs c ?_
    rw [← hmore, List.head?_append, Option.mem_def.mp hc]
    rfl
  last := getLast?_rdropWhile_not p _

/-- What is bare is all that is left, whatever of the kind was around it. -/
theorem strip_around (hcs : Bare p cs) (hfront : ∀ c ∈ front, p c = true)
    (hback : ∀ c ∈ back, p c = true) : strip p (front ++ cs ++ back) = cs := by
  by_cases hnil : cs = []
  · have hall : ∀ c ∈ front ++ cs ++ back, p c = true := by
      intro c hc
      simp only [hnil, List.append_nil, List.mem_append] at hc
      exact hc.elim (hfront c) (hback c)
    rw [strip, List.dropWhile_eq_nil_iff.mpr hall, hnil]
    rfl
  · have hhead : ∀ c ∈ (cs ++ back).head?, p c = false := by
      rw [List.head?_append_of_ne_nil _ hnil]
      exact hcs.head
    have hlast : ∀ c ∈ cs.reverse.head?, p c = false := by
      rw [List.head?_reverse]
      exact hcs.last
    rw [strip, List.append_assoc, (span_append hfront hhead).2, List.rdropWhile,
      List.reverse_append,
      (span_append (fun c hc => hback c (List.mem_reverse.mp hc)) hlast).2,
      List.reverse_reverse]

theorem strip_append (cs : List Char) (hfront : ∀ c ∈ front, p c = true)
    (hback : ∀ c ∈ back, p c = true) : strip p (front ++ cs ++ back) = strip p cs := by
  obtain ⟨front', back', hsplit, hfront', hback'⟩ := exists_strip p cs
  have hwhole : front ++ cs ++ back = (front ++ front') ++ strip p cs ++ (back' ++ back) := by
    conv_lhs => rw [hsplit]
    simp only [List.append_assoc]
  rw [hwhole]
  exact strip_around (bare_strip p cs) (List.forall_mem_append.mpr ⟨hfront, hfront'⟩)
    (List.forall_mem_append.mpr ⟨hback', hback⟩)

theorem strip_eq_self (hcs : Bare p cs) : strip p cs = cs := by
  have hstrip := strip_around hcs (List.forall_mem_nil _) (List.forall_mem_nil _)
  rwa [List.nil_append, List.append_nil] at hstrip

theorem strip_cons (hc : p c = true) (cs : List Char) :
    strip p (c :: cs) = strip p cs := by
  have hstrip := strip_append cs (List.forall_mem_singleton.mpr hc) (List.forall_mem_nil _)
  rwa [List.append_nil] at hstrip

theorem strip_concat (hc : p c = true) (cs : List Char) :
    strip p (cs ++ [c]) = strip p cs :=
  strip_append cs (List.forall_mem_nil _) (List.forall_mem_singleton.mpr hc)

theorem length_strip_le (p : Char → Bool) (cs : List Char) : (strip p cs).length ≤ cs.length := by
  obtain ⟨front, back, hsplit, -, -⟩ := exists_strip p cs
  have hlength := congrArg List.length hsplit
  simp only [List.length_append] at hlength
  omega

/-- What is left begins with the first character that is not of the kind. -/
theorem head?_strip_iff (hc : p c = false) :
    (strip p cs).head? = some c ↔
      ∃ front rest, (∀ d ∈ front, p d = true) ∧ cs = front ++ c :: rest := by
  constructor
  · intro hhead
    obtain ⟨front, back, hsplit, hfront, -⟩ := exists_strip p cs
    obtain ⟨rest, hrest⟩ := List.head?_eq_some_iff.mp hhead
    rw [hrest] at hsplit
    exact ⟨front, rest ++ back, hfront, by rw [hsplit, List.append_assoc, List.cons_append]⟩
  · rintro ⟨front, rest, hfront, rfl⟩
    obtain ⟨back, hsplit, hback⟩ := exists_rspan p rest
    have hbare : Bare p (c :: rest.rdropWhile p) := .cons hc (getLast?_rdropWhile_not p rest)
    have hstrip := strip_around hbare hfront hback
    rw [List.append_assoc, List.cons_append, ← hsplit] at hstrip
    rw [hstrip, List.head?_cons]

/-- What is left ends with the last character that is not of the kind. -/
theorem getLast?_strip_iff (hc : p c = false) :
    (strip p cs).getLast? = some c ↔
      ∃ rest back, (∀ d ∈ back, p d = true) ∧ cs = rest ++ c :: back := by
  constructor
  · intro hlast
    obtain ⟨front, back, hsplit, -, hback⟩ := exists_strip p cs
    obtain ⟨rest, hrest⟩ := List.getLast?_eq_some_iff.mp hlast
    rw [hrest] at hsplit
    exact ⟨front ++ rest, back, hback, by simp [hsplit]⟩
  · rintro ⟨rest, back, hback, rfl⟩
    obtain ⟨front, more, rfl, hfront, hmore⟩ := exists_span p rest
    have hbare : Bare p (more ++ [c]) := .concat hmore hc
    have hstrip := strip_around hbare hfront hback
    rw [List.append_assoc, List.append_assoc, List.singleton_append, ← List.append_assoc] at hstrip
    rw [hstrip, List.getLast?_concat]

end TraitRoutes
