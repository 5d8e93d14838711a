import TraitRoutes.Proofs.IdentifierCase
import TraitRoutes.Proofs.QuotedText

/-!
# The text of a literal

A literal is kept as the text that the lexer took for it. Read alone, that text is the same
literal again, whatever it was cut out of.

A quoted literal ends with a mark of its own. A number ends where the next character cannot go on
with it, and when it is cut there, all that the scanner looked at behind it is a suffix, and an
exponent which the suffix turned out not to be.
-/

namespace TraitRoutes.Scan

open Unicode (isIdentStart isIdentContinue isIdentContinue_of_start forall_ascii)

/-! ## Numbers -/

theorem toNat_lt_of_isDigit {c : Char} (hc : c.isDigit = true) : c.toNat < 128 := by
  have hnine := (Bool.and_eq_true_iff.mp hc).2
  simp only [decide_eq_true_eq] at hnine
  have hle : c.toNat ≤ 57 := hnine
  omega

theorem isIdentContinue_of_isDigit {c : Char} (hc : c.isDigit = true) :
    isIdentContinue c = true := by
  have hascii : ∀ c : Char, c.toNat < 128 → c.isDigit = true → isIdentContinue c = true :=
    forall_ascii (by decide)
  exact hascii c (toNat_lt_of_isDigit hc) hc

theorem isIdentContinue_of_hexValue {c : Char} {d : Nat} (hc : hexValue c = some d) :
    isIdentContinue c = true := by
  have hascii : ∀ c : Char, c.toNat < 128 → (hexValue c).isSome = true →
      isIdentContinue c = true := forall_ascii (by decide)
  refine hascii c ?_ (by rw [hc]; rfl)
  have hbound : ∀ top : Char, c ≤ top → top.toNat < 128 → c.toNat < 128 := by
    intro top hle htop
    exact Nat.lt_of_le_of_lt hle htop
  unfold hexValue at hc
  split at hc
  · next hdigit => exact toNat_lt_of_isDigit hdigit
  · split at hc
    · next hlower =>
        rw [Bool.and_eq_true, decide_eq_true_eq, decide_eq_true_eq] at hlower
        exact hbound 'f' hlower.2 (by decide)
    · split at hc
      · next hupper =>
          rw [Bool.and_eq_true, decide_eq_true_eq, decide_eq_true_eq] at hupper
          exact hbound 'F' hupper.2 (by decide)
      · cases hc

/-- The text begins as `rest` does, or with nothing that goes on with a word. -/
def Replaces (other rest : List Char) : Prop :=
  ∀ c ∈ other.head?, c ∈ rest.head? ∨ isIdentContinue c = false

/-- Behind what the scanner reads here, it looks at one character only, for more of a word. -/
def Maximal (scan : List Char → Option Split) (cs : List Char) : Prop :=
  ∀ ⦃read rest : List Char⦄, scan cs = some (read, rest) →
    cs = read ++ rest ∧ ∀ other, Replaces other rest → scan (read ++ other) = some (read, other)

theorem replaces_takeWhile (cs : List Char) : Replaces (cs.takeWhile isIdentContinue) cs := by
  intro c hc
  cases cs with
  | nil => cases hc
  | cons d rest =>
      rw [List.takeWhile_cons] at hc
      split at hc
      · exact .inl hc
      · cases hc

theorem Replaces.append {rest other : List Char}
    (hother : ∀ c ∈ other.head?, isIdentContinue c = false) : Replaces (rest ++ other) rest := by
  intro c hc
  cases rest with
  | nil => exact .inr (hother c hc)
  | cons d rest => exact .inl hc

section Scanner

variable {scan scan' : List Char → Option Split} {c : Char} {cs : List Char}

theorem maximal_of_none (h : scan cs = none) : Maximal scan cs := by
  intro read rest hread
  rw [h] at hread
  cases hread

theorem maximal_of_stop (hend : scan [] = some ([], []))
    (hsame : ∀ d ∈ cs.head?, ∀ more, scan (d :: more) = some ([], d :: more))
    (hout : ∀ {d : Char} {more : List Char}, isIdentContinue d = false →
      scan (d :: more) = some ([], d :: more)) : Maximal scan cs := by
  have hstop : ∀ other, Replaces other cs → scan other = some ([], other) := by
    intro other hother
    cases other with
    | nil => exact hend
    | cons d more => exact (hother d rfl).elim (hsame d · more) hout
  intro read rest hread
  rw [hstop cs fun c hc => .inl hc] at hread
  obtain ⟨rfl, rfl⟩ := Prod.mk.inj (Option.some.inj hread)
  exact ⟨rfl, hstop⟩

theorem maximal_cons (h : ∀ more, scan (c :: more) = (scan' more).map (·.cons c))
    (hscan : Maximal scan' cs) : Maximal scan (c :: cs) := by
  intro read rest hread
  rw [h] at hread
  obtain ⟨more, hmore, rfl⟩ := map_cons_eq_some hread
  obtain ⟨rfl, hother⟩ := hscan hmore
  refine ⟨rfl, fun other hreplaces => ?_⟩
  rw [List.cons_append, h, hother other hreplaces]
  rfl

end Scanner

theorem not_digit_of_not_continue {c : Char} (hc : isIdentContinue c = false) :
    hexValue c = none ∧ c.isDigit = false ∧ (c == '_') = false := by
  refine ⟨?_, ?_, ?_⟩
  · cases hvalue : hexValue c with
    | none => rfl
    | some d =>
        rw [isIdentContinue_of_hexValue hvalue] at hc
        cases hc
  · refine Bool.eq_false_iff.mpr fun h => ?_
    rw [isIdentContinue_of_isDigit h] at hc
    cases hc
  · refine beq_eq_false_iff_ne.mpr ?_
    rintro rfl
    exact absurd hc (by decide)

theorem exponent_maximal (signed valued : Bool) (cs : List Char) :
    Maximal (exponent signed valued) cs := by
  have hstop : ∀ {signed : Bool} {c : Char} {more : List Char}, c.isDigit = false →
      (c == '_') = false → exponent signed true (c :: more) = some ([], c :: more) := by
    intro signed c more hdigit hgap
    rw [exponent, hdigit, hgap]
    split <;> rfl
  have hout : ∀ {signed : Bool} {c : Char} {more : List Char}, isIdentContinue c = false →
      exponent signed true (c :: more) = some ([], c :: more) := by
    intro signed c more hc
    obtain ⟨-, hdigit, hgap⟩ := not_digit_of_not_continue hc
    exact hstop hdigit hgap
  fun_induction exponent signed valued cs with
  | case1 signed => exact maximal_of_stop rfl (fun _ h => nomatch h) hout
  | case2 signed valued hvalued => exact maximal_of_none (if_neg hvalued)
  | case3 signed c rest hsign =>
      refine maximal_of_stop rfl (fun d hd more => ?_) hout
      obtain rfl := Option.some.inj hd
      rw [exponent, if_pos hsign, if_pos rfl]
  | case4 valued c rest hsign hvalued =>
      refine maximal_of_none ?_
      rw [exponent, if_pos hsign, if_neg hvalued, if_pos rfl]
  | case5 signed valued c rest hsign hvalued hsigned ih =>
      refine maximal_cons (fun more => ?_) ih
      rw [exponent, if_pos hsign, if_neg hvalued, if_neg hsigned]
  | case6 signed valued c rest hsign hdigit ih =>
      refine maximal_cons (fun more => ?_) ih
      rw [exponent, if_neg hsign, if_pos hdigit]
  | case7 signed valued c rest hsign hdigit hgap ih =>
      refine maximal_cons (fun more => ?_) ih
      rw [exponent, if_neg hsign, if_neg hdigit, if_pos hgap]
  | case8 signed c rest hsign hdigit hgap =>
      refine maximal_of_stop rfl (fun d hd more => ?_) hout
      obtain rfl := Option.some.inj hd
      exact hstop (Bool.eq_false_iff.mpr hdigit) (Bool.eq_false_iff.mpr hgap)
  | case9 signed valued c rest hsign hdigit hgap hvalued =>
      refine maximal_of_none ?_
      rw [exponent, if_neg hsign, if_neg hdigit, if_neg hgap, if_neg hvalued]

theorem baseDigits_maximal (base : Nat) (cs : List Char) : Maximal (baseDigits base) cs := by
  have hout : ∀ {c : Char} {more : List Char}, isIdentContinue c = false →
      baseDigits base (c :: more) = some ([], c :: more) := by
    intro c more hc
    obtain ⟨hvalue, -, hgap⟩ := not_digit_of_not_continue hc
    simp [baseDigits, hvalue, hgap]
  fun_induction baseDigits base cs with
  | case1 => exact maximal_of_stop rfl (fun _ h => nomatch h) hout
  | case2 c rest d hvalue hbelow ih =>
      refine maximal_cons (fun more => ?_) ih
      simp [baseDigits, hvalue, hbelow]
  | case3 c rest d hvalue hbelow hdigit =>
      refine maximal_of_none ?_
      simp [baseDigits, hvalue, hbelow, hdigit]
  | case4 c rest d hvalue hbelow hdigit =>
      refine maximal_of_stop rfl (fun e he more => ?_) hout
      obtain rfl := Option.some.inj he
      simp [baseDigits, hvalue, hbelow, hdigit]
  | case5 c rest hvalue hgap ih =>
      refine maximal_cons (fun more => ?_) ih
      simp [baseDigits, hvalue, hgap]
  | case6 c rest hvalue hgap =>
      refine maximal_of_stop rfl (fun e he more => ?_) hout
      obtain rfl := Option.some.inj he
      simp [baseDigits, hvalue, hgap]

theorem baseDigits_continue {base : Nat} {cs : List Char} :
    ∀ {read rest : List Char}, baseDigits base cs = some (read, rest) →
      ∀ c ∈ read, isIdentContinue c = true := by
  fun_induction baseDigits base cs with
  | case1 => rintro read rest h c hc; cases h; cases hc
  | case2 c cs d hvalue hbelow ih =>
      intro read rest h
      obtain ⟨more, hmore, rfl⟩ := map_cons_eq_some h
      exact List.forall_mem_cons.mpr ⟨isIdentContinue_of_hexValue hvalue, ih hmore⟩
  | case3 => nofun
  | case4 => rintro read rest h c hc; cases h; cases hc
  | case5 c cs hvalue hgap ih =>
      intro read rest h
      obtain ⟨more, hmore, rfl⟩ := map_cons_eq_some h
      obtain rfl := beq_iff_eq.mp hgap
      exact List.forall_mem_cons.mpr ⟨by decide, ih hmore⟩
  | case6 => rintro read rest h c hc; cases h; cases hc

/-! ### The end of a number -/

/-- No digit stands behind a number, so what goes on with it is a suffix. -/
def EndsNumber (rest : List Char) : Prop :=
  ∀ c ∈ rest.head?, isIdentContinue c = true → isIdentStart c = true

theorem numberEnd_eq_some_iff {read rest text left : List Char} :
    numberEnd (read, rest) = some (text, left) ↔
      EndsNumber rest ∧ text = read ++ rest.takeWhile isIdentContinue ∧
        left = rest.dropWhile isIdentContinue := by
  have hsplit : ∀ {a b : List Char}, some (a, b) = some (text, left) ↔ text = a ∧ left = b := by
    intro a b
    rw [Option.some.injEq, Prod.mk.injEq, eq_comm, @eq_comm _ b]
  cases rest with
  | nil =>
      change some (read ++ [], []) = some (text, left) ↔ _
      rw [hsplit]
      have hends : EndsNumber [] := fun c h => absurd h (Option.not_mem_none c)
      exact (and_iff_right hends).symm
  | cons c rest =>
      by_cases hstart : isIdentStart c = true
      · have hcontinue := isIdentContinue_of_start hstart
        have hends : EndsNumber (c :: rest) := by
          intro d hd _
          rwa [← Option.some.inj hd]
        rw [and_iff_right hends, List.takeWhile_cons_of_pos hcontinue,
          List.dropWhile_cons_of_pos hcontinue, ← hsplit, numberEnd, withSuffix, suffix, identText,
          if_pos hstart, Option.getD_some]
        dsimp only [Split.append]
        split
        · next d more hleft =>
            have hd : isIdentContinue d = false :=
              head?_dropWhile_not isIdentContinue rest d (by rw [hleft]; rfl)
            rw [if_neg (by simp [hd]), hleft]
        · rfl
      · have hnumber : numberEnd (read, c :: rest)
            = if isIdentContinue c then none else some (read ++ [], c :: rest) := by
          rw [numberEnd, withSuffix, suffix, identText, if_neg hstart, Option.getD_none]
          rfl
        rw [hnumber]
        split
        · next hcontinue =>
            exact iff_of_false (Option.some_ne_none _).symm fun h =>
              absurd (h.1 c rfl hcontinue) hstart
        · next hcontinue =>
            have hends : EndsNumber (c :: rest) := by
              intro d hd hd'
              rw [← Option.some.inj hd] at hd'
              exact absurd hd' hcontinue
            rw [and_iff_right hends, List.takeWhile_cons_of_neg hcontinue,
              List.dropWhile_cons_of_neg hcontinue, hsplit]

/-! ### Numbers with a point or an exponent -/

/-- Reads an exponent with its `e`. -/
def power? : List Char → Option Split
  | [] => none
  | e :: rest =>
    if e == 'e' || e == 'E' then (exponent false false rest).map (·.cons e) else none

theorem power?_maximal (cs : List Char) : Maximal power? cs := by
  cases cs with
  | nil => exact maximal_of_none rfl
  | cons e rest =>
      by_cases he : (e == 'e' || e == 'E') = true
      · exact maximal_cons (fun more => if_pos he) (exponent_maximal false false rest)
      · exact maximal_of_none (if_neg he)

/-- What is no exponent does not become one where the word ends. -/
theorem power?_takeWhile {cs : List Char} (h : power? cs = none) :
    power? (cs.takeWhile isIdentContinue) = none := by
  cases hcut : power? (cs.takeWhile isIdentContinue) with
  | none => rfl
  | some found =>
      obtain ⟨hread, hmaximal⟩ := power?_maximal _ hcut
      have hwhole : found.1 ++ (found.2 ++ cs.dropWhile isIdentContinue) = cs := by
        rw [← List.append_assoc, ← hread, List.takeWhile_append_dropWhile]
      have hfound := hmaximal (found.2 ++ cs.dropWhile isIdentContinue)
        (Replaces.append (head?_dropWhile_not isIdentContinue cs))
      rw [hwhole, h] at hfound
      cases hfound

theorem withExponent_eq (pointed : Bool) (mantissa after : List Char) :
    withExponent pointed (mantissa, after) =
      match power? after with
      | some power => some (power.append mantissa)
      | none => if pointed then some (mantissa, after) else none := by
  cases after with
  | nil => rfl
  | cons e rest =>
      rw [withExponent, power?]
      by_cases he : (e == 'e' || e == 'E') = true
      · rw [if_pos he, if_pos he]
        cases exponent false false rest <;> rfl
      · rw [if_neg he, if_neg he]

theorem withExponent_cut {pointed : Bool} {mantissa after read rest : List Char}
    (h : withExponent pointed (mantissa, after) = some (read, rest)) :
    ∃ power, read = mantissa ++ power ∧ after = power ++ rest ∧
      withExponent pointed (mantissa, power ++ rest.takeWhile isIdentContinue)
        = some (read, rest.takeWhile isIdentContinue) := by
  rw [withExponent_eq] at h
  split at h
  · next power hpower =>
      obtain ⟨rfl, rfl⟩ := Prod.mk.inj (Option.some.inj h)
      obtain ⟨hafter, hmaximal⟩ := power?_maximal after hpower
      refine ⟨power.1, rfl, hafter, ?_⟩
      rw [withExponent_eq, hmaximal _ (replaces_takeWhile power.2)]
      rfl
  · next hpower =>
      split at h
      · next hpointed =>
          obtain ⟨rfl, rfl⟩ := Prod.mk.inj (Option.some.inj h)
          refine ⟨[], (List.append_nil mantissa).symm, rfl, ?_⟩
          rw [List.nil_append, withExponent_eq, power?_takeWhile hpower]
          exact if_pos hpointed
      · cases h

/-- Reads on behind the digits in front of the point. -/
def floatBehind (whole : List Char) : List Char → Option Split
  | '.' :: next :: after =>
    if next == '.' || isIdentStart next then none
    else withExponent true
      (whole ++ '.' :: (next :: after).takeWhile isDigitOrGap,
        (next :: after).dropWhile isDigitOrGap)
  | ['.'] => some (whole ++ ['.'], [])
  | after => withExponent false (whole, after)

theorem floatDigits_of_not_isDigit {c : Char} (hc : ¬ c.isDigit = true) (rest : List Char) :
    floatDigits (c :: rest) = none := by
  rw [floatDigits, if_pos (by simpa using hc)]

theorem floatDigits_append {c : Char} (hc : c.isDigit = true) {digits after : List Char}
    (hdigits : ∀ d ∈ digits, isDigitOrGap d = true)
    (hafter : ∀ d ∈ after.head?, isDigitOrGap d = false) :
    floatDigits (c :: (digits ++ after)) = floatBehind (c :: digits) after := by
  obtain ⟨htake, hdrop⟩ := span_append hdigits hafter
  rw [floatDigits, if_neg (by simp [hc]), htake, hdrop]
  rfl

theorem floatBehind_of_ne_point {whole after : List Char} (h : ∀ c ∈ after.head?, c ≠ '.') :
    floatBehind whole after = withExponent false (whole, after) := by
  unfold floatBehind
  split
  · exact absurd rfl (h '.' rfl)
  · exact absurd rfl (h '.' rfl)
  · rfl

theorem floatBehind_point (whole : List Char) {next : Char} {fraction behind : List Char}
    (hfraction : ∀ d ∈ fraction, isDigitOrGap d = true)
    (hbehind : ∀ d ∈ behind.head?, isDigitOrGap d = false)
    (hnext : (fraction ++ behind).head? = some next) :
    floatBehind whole ('.' :: (fraction ++ behind)) =
      if next == '.' || isIdentStart next then none
      else withExponent true (whole ++ '.' :: fraction, behind) := by
  obtain ⟨htake, hdrop⟩ := span_append hfraction hbehind
  obtain ⟨more, hmore⟩ := List.head?_eq_some_iff.mp hnext
  rw [hmore] at htake hdrop ⊢
  rw [floatBehind, htake, hdrop]

theorem head?_of_append_takeWhile {p : Char → Bool} {front rest : List Char} {c : Char}
    (h : c ∈ (front ++ rest.takeWhile p).head?) : c ∈ (front ++ rest).head? := by
  have hwhole : front ++ rest = front ++ rest.takeWhile p ++ rest.dropWhile p := by
    rw [List.append_assoc, List.takeWhile_append_dropWhile]
  rw [hwhole, List.head?_append, Option.mem_def.mp h]
  rfl

theorem floatBehind_cut {whole after read rest : List Char}
    (h : floatBehind whole after = some (read, rest)) :
    ∃ more, read = whole ++ more ∧ after = more ++ rest ∧
      floatBehind whole (more ++ rest.takeWhile isIdentContinue)
        = some (read, rest.takeWhile isIdentContinue) := by
  by_cases hpoint : ∃ text, after = '.' :: text
  · obtain ⟨text, rfl⟩ := hpoint
    obtain ⟨fraction, behind, rfl, hfraction, hbehind⟩ := exists_span isDigitOrGap text
    cases hnext : (fraction ++ behind).head? with
    | none =>
        rw [List.head?_eq_none_iff.mp hnext] at h ⊢
        obtain ⟨rfl, rfl⟩ := Prod.mk.inj (Option.some.inj h)
        exact ⟨['.'], rfl, rfl, rfl⟩
    | some next =>
        rw [floatBehind_point whole hfraction hbehind hnext] at h
        split at h
        · cases h
        · next hstart =>
            obtain ⟨power, rfl, rfl, hcut⟩ := withExponent_cut h
            refine ⟨'.' :: (fraction ++ power), by simp, by simp, ?_⟩
            rw [List.cons_append, List.append_assoc]
            cases hkept : (fraction ++ (power ++ rest.takeWhile isIdentContinue)).head? with
            | none =>
                simp only [List.head?_eq_none_iff, List.append_eq_nil_iff] at hkept
                obtain ⟨rfl, rfl, hleft⟩ := hkept
                rw [hleft]
                simp [floatBehind]
            | some d =>
                -- The cut leaves the character behind the point as it is.
                rw [← List.append_assoc] at hkept hnext
                obtain rfl := Option.some.inj ((head?_of_append_takeWhile hkept).symm.trans hnext)
                rw [List.append_assoc] at hkept
                rw [floatBehind_point whole hfraction
                  (fun c hc => hbehind c (head?_of_append_takeWhile hc)) hkept, if_neg hstart, hcut]
  · have hne : ∀ c ∈ after.head?, c ≠ '.' := by
      rintro c hc rfl
      exact hpoint (List.head?_eq_some_iff.mp hc)
    rw [floatBehind_of_ne_point hne] at h
    obtain ⟨power, rfl, rfl, hcut⟩ := withExponent_cut h
    exact ⟨power, rfl, rfl, by
      rw [floatBehind_of_ne_point fun c hc => hne c (head?_of_append_takeWhile hc), hcut]⟩

theorem floatDigits_cut {cs read rest : List Char} (h : floatDigits cs = some (read, rest)) :
    cs = read ++ rest ∧ floatDigits (read ++ rest.takeWhile isIdentContinue)
      = some (read, rest.takeWhile isIdentContinue) := by
  cases cs with
  | nil => cases h
  | cons c cs =>
      by_cases hc : c.isDigit = true
      · obtain ⟨digits, after, rfl, hdigits, hafter⟩ := exists_span isDigitOrGap cs
        rw [floatDigits_append hc hdigits hafter] at h
        obtain ⟨more, rfl, rfl, hcut⟩ := floatBehind_cut h
        refine ⟨by simp, ?_⟩
        rw [List.cons_append, List.cons_append, List.append_assoc, floatDigits_append hc hdigits
          fun d hd => hafter d (head?_of_append_takeWhile hd), hcut]
        rfl
      · rw [floatDigits_of_not_isDigit hc] at h
        cases h

theorem isSome_numberEnd (read rest : List Char) :
    (numberEnd (read, rest)).isSome = true ↔ EndsNumber rest := by
  rw [Option.isSome_iff_exists]
  constructor
  · rintro ⟨⟨text, left⟩, h⟩
    exact (numberEnd_eq_some_iff.mp h).1
  · exact fun h => ⟨(_, _), numberEnd_eq_some_iff.mpr ⟨h, rfl, rfl⟩⟩

/-- A word that is a number with an exponent is one in front of anything that goes on with no
word. -/
theorem isSome_floatDigits_append {word rest : List Char}
    (hword : ∀ c ∈ word, isIdentContinue c = true)
    (hrest : ∀ c ∈ rest.head?, isIdentContinue c = false)
    (h : ((floatDigits word).bind numberEnd).isSome = true) :
    ((floatDigits (word ++ rest)).bind numberEnd).isSome = true := by
  obtain ⟨found, hfound⟩ := Option.isSome_iff_exists.mp h
  obtain ⟨⟨read, left⟩, hread, hnumber⟩ := Option.bind_eq_some_iff.mp hfound
  have hend := (isSome_numberEnd read left).mp (by rw [hnumber]; rfl)
  cases word with
  | nil => cases hread
  | cons c word =>
      have hc : c.isDigit = true := by
        by_contra hc
        rw [floatDigits_of_not_isDigit hc] at hread
        cases hread
      obtain ⟨digits, after, rfl, hdigits, hafter⟩ := exists_span isDigitOrGap word
      have hpoint : ∀ d ∈ after.head?, d ≠ '.' := by
        rintro d hd rfl
        have hmem : '.' ∈ c :: (digits ++ after) :=
          List.mem_cons_of_mem _ (List.mem_append_right _ (List.mem_of_mem_head? hd))
        exact absurd (hword '.' hmem) (by decide)
      rw [floatDigits_append hc hdigits hafter, floatBehind_of_ne_point hpoint,
        withExponent_eq] at hread
      split at hread
      · next power hpower =>
          obtain ⟨-, rfl⟩ := Prod.mk.inj (Option.some.inj hread)
          obtain ⟨rfl, hmaximal⟩ := power?_maximal after hpower
          have hlonger := hmaximal (power.2 ++ rest) (Replaces.append hrest)
          have hfront : ∀ d ∈ (power.1 ++ (power.2 ++ rest)).head?,
              d ∈ (power.1 ++ power.2).head? := by
            intro d hd
            cases hfirst : power.1 ++ power.2 with
            | nil => rw [hfirst] at hpower; cases hpower
            | cons e more =>
                rw [← List.append_assoc, hfirst] at hd
                exact hd
          rw [List.cons_append, List.append_assoc, List.append_assoc,
            floatDigits_append hc hdigits fun d hd => hafter d (hfront d hd),
            floatBehind_of_ne_point fun d hd => hpoint d (hfront d hd), withExponent_eq, hlonger,
            Option.bind_some]
          refine (isSome_numberEnd _ _).mpr fun d hd hcontinue => ?_
          rcases Replaces.append hrest d hd with hleft | hout
          · exact hend d hleft hcontinue
          · rw [hout] at hcontinue
            cases hcontinue
      · cases hread

/-! ### Whole numbers -/

/-- Reads the digits of a base behind its mark. -/
def markedDigits (mark : String) (base : Nat) (cs : List Char) : Option Split :=
  ((baseDigits base (cs.drop mark.length)).filter (·.1.any (· != '_'))).map (·.append mark.toList)

theorem wholeDigits_eq (cs : List Char) : wholeDigits cs =
    if startsWith cs "0x" then markedDigits "0x" 16 cs
    else if startsWith cs "0o" then markedDigits "0o" 8 cs
    else if startsWith cs "0b" then markedDigits "0b" 2 cs
    else if startsWith cs "_" then none
    else markedDigits "" 10 cs := rfl

theorem markedDigits_cut {mark : String} {base : Nat} {cs read rest : List Char}
    (hmark : startsWith cs mark = true) (hword : mark.toList.all isIdentContinue = true)
    (h : markedDigits mark base cs = some (read, rest)) :
    cs = read ++ rest ∧ (∀ c ∈ read, isIdentContinue c = true) ∧
      startsWith (read ++ rest.takeWhile isIdentContinue) mark = true ∧
      markedDigits mark base (read ++ rest.takeWhile isIdentContinue)
        = some (read, rest.takeWhile isIdentContinue) := by
  obtain ⟨behind, rfl⟩ := startsWith_iff.mp hmark
  unfold markedDigits at h
  rw [drop_mark] at h
  obtain ⟨digits, hdigits, rfl⟩ := map_append_eq_some h
  obtain ⟨hbase, hany⟩ := Option.filter_eq_some_iff.mp hdigits
  obtain ⟨rfl, hmaximal⟩ := baseDigits_maximal base behind hbase
  refine ⟨(List.append_assoc ..).symm, ?_, ?_, ?_⟩
  · intro c hc
    exact (List.mem_append.mp hc).elim (List.all_eq_true.mp hword c) (baseDigits_continue hbase c)
  · rw [List.append_assoc]
    exact startsWith_iff.mpr (List.prefix_append ..)
  · rw [markedDigits, List.append_assoc, drop_mark, hmaximal _ (replaces_takeWhile rest),
      Option.filter_some, if_pos hany]
    rfl

theorem isDigit_of_hexValue {c : Char} {d : Nat} (h : hexValue c = some d) (hd : d < 10) :
    c.isDigit = true := by
  unfold hexValue at h
  split at h
  · assumption
  · split at h
    · rw [← Option.some.inj h] at hd
      omega
    · split at h
      · rw [← Option.some.inj h] at hd
        omega
      · cases h

/-- A decimal number that no separator opens starts with a digit. -/
theorem isDigit_of_markedDigits {cs read rest : List Char} (hgap : startsWith cs "_" = false)
    (h : markedDigits "" 10 cs = some (read, rest)) : ∀ c ∈ cs.head?, c.isDigit = true := by
  intro c hc
  obtain ⟨more, rfl⟩ := List.head?_eq_some_iff.mp hc
  obtain ⟨digits, hdigits, -⟩ := map_append_eq_some h
  obtain ⟨hbase, hany⟩ := Option.filter_eq_some_iff.mp hdigits
  change baseDigits 10 (c :: more) = _ at hbase
  rw [baseDigits] at hbase
  split at hbase
  · next d hvalue =>
      by_cases hbelow : d < 10
      · exact isDigit_of_hexValue hvalue hbelow
      · rw [if_neg hbelow] at hbase
        split at hbase
        · cases hbase
        · obtain ⟨rfl, -⟩ := Prod.mk.inj (Option.some.inj hbase)
          cases hany
  · split at hbase
    · next hc =>
        rw [beq_iff_eq.mp hc] at hgap
        cases hgap
    · obtain ⟨rfl, -⟩ := Prod.mk.inj (Option.some.inj hbase)
      cases hany

theorem wholeDigits_cut {cs read rest : List Char} (h : wholeDigits cs = some (read, rest)) :
    cs = read ++ rest ∧ (∀ c ∈ read, isIdentContinue c = true) ∧
      (∀ c ∈ cs.head?, c.isDigit = true) ∧
      wholeDigits (read ++ rest.takeWhile isIdentContinue)
        = some (read, rest.takeWhile isIdentContinue) := by
  -- A mark that the whole text does not begin with, what is cut from it does not either.
  have hcut : ∀ {mark : String}, cs = read ++ rest → ¬ startsWith cs mark = true →
      ¬ startsWith (read ++ rest.takeWhile isIdentContinue) mark = true := by
    rintro mark rfl hmark hstarts
    refine hmark (startsWith_iff.mpr ((startsWith_iff.mp hstarts).trans ?_))
    exact (List.prefix_append_right_inj read).mpr (List.takeWhile_prefix _)
  have hzero : ∀ {mark : String} {c : Char}, mark.toList = ['0', c] → startsWith cs mark = true →
      ∀ c ∈ cs.head?, c.isDigit = true := by
    intro mark d hmark hstarts c hc
    obtain ⟨more, rfl⟩ := startsWith_iff.mp hstarts
    rw [hmark] at hc
    rw [← Option.some.inj hc]
    decide
  rw [wholeDigits_eq] at h
  split at h
  · next hhex =>
      obtain ⟨hcs, hword, hmark, hdigits⟩ := markedDigits_cut hhex (by decide) h
      exact ⟨hcs, hword, hzero rfl hhex, by rw [wholeDigits_eq, if_pos hmark, hdigits]⟩
  split at h
  · next hhex hoctal =>
      obtain ⟨hcs, hword, hmark, hdigits⟩ := markedDigits_cut hoctal (by decide) h
      refine ⟨hcs, hword, hzero rfl hoctal, ?_⟩
      rw [wholeDigits_eq, if_neg (hcut hcs hhex), if_pos hmark, hdigits]
  split at h
  · next hhex hoctal hbinary =>
      obtain ⟨hcs, hword, hmark, hdigits⟩ := markedDigits_cut hbinary (by decide) h
      refine ⟨hcs, hword, hzero rfl hbinary, ?_⟩
      rw [wholeDigits_eq, if_neg (hcut hcs hhex), if_neg (hcut hcs hoctal), if_pos hmark, hdigits]
  split at h
  · cases h
  · next hhex hoctal hbinary hgap =>
      obtain ⟨hcs, hword, -, hdigits⟩ :=
        markedDigits_cut (show startsWith cs "" = true from rfl) (by decide) h
      refine ⟨hcs, hword, isDigit_of_markedDigits (Bool.eq_false_iff.mpr hgap) h, ?_⟩
      rw [wholeDigits_eq, if_neg (hcut hcs hhex), if_neg (hcut hcs hoctal),
        if_neg (hcut hcs hbinary), if_neg (hcut hcs hgap), hdigits]

/-! ### Numbers -/

/-- Reads a number of any kind. -/
def number (cs : List Char) : Option (LiteralKind × Split) :=
  (((floatDigits cs).bind numberEnd).map (LiteralKind.float, ·))
    <|> (((wholeDigits cs).bind numberEnd).map (LiteralKind.integer, ·))

theorem number_eq_some_iff {cs text rest : List Char} {kind : LiteralKind} :
    number cs = some (kind, (text, rest)) ↔
      kind = .float ∧ (floatDigits cs).bind numberEnd = some (text, rest) ∨
      kind = .integer ∧ (floatDigits cs).bind numberEnd = none ∧
        (wholeDigits cs).bind numberEnd = some (text, rest) := by
  unfold number
  generalize (floatDigits cs).bind numberEnd = float
  generalize (wholeDigits cs).bind numberEnd = whole
  cases float with
  | some found => simp [eq_comm]
  | none => cases whole <;> simp [eq_comm]

theorem numberEnd_takeWhile {read rest : List Char} (h : EndsNumber rest) :
    numberEnd (read, rest.takeWhile isIdentContinue)
      = some (read ++ rest.takeWhile isIdentContinue, []) := by
  have hall := List.all_eq_true.mp (List.all_takeWhile (p := isIdentContinue) (l := rest))
  rw [numberEnd_eq_some_iff, List.takeWhile_eq_self_iff.mpr hall,
    List.dropWhile_eq_nil_iff.mpr hall]
  refine ⟨fun c hc => h c ?_, rfl, rfl⟩
  have hfront : c ∈ ([] ++ rest.takeWhile isIdentContinue).head? := hc
  exact head?_of_append_takeWhile hfront

/-- The text of a number is that number, and starts with a digit. -/
theorem number_cut {cs text rest : List Char} {kind : LiteralKind}
    (h : number cs = some (kind, (text, rest))) :
    number text = some (kind, (text, [])) ∧ ∃ c more, text = c :: more ∧ c.isDigit = true := by
  rcases number_eq_some_iff.mp h with ⟨rfl, hfloat⟩ | ⟨rfl, hfloat, hwhole⟩
  · obtain ⟨⟨read, left⟩, hread, hnumber⟩ := Option.bind_eq_some_iff.mp hfloat
    obtain ⟨hend, rfl, -⟩ := numberEnd_eq_some_iff.mp hnumber
    obtain ⟨-, hcut⟩ := floatDigits_cut hread
    refine ⟨number_eq_some_iff.mpr (.inl ⟨rfl, ?_⟩), ?_⟩
    · rw [hcut, Option.bind_some, numberEnd_takeWhile hend]
    · generalize read ++ left.takeWhile isIdentContinue = text at hcut
      cases text with
      | nil => cases hcut
      | cons c more =>
          refine ⟨c, more, rfl, ?_⟩
          by_contra hc
          rw [floatDigits_of_not_isDigit hc] at hcut
          cases hcut
  · obtain ⟨⟨read, left⟩, hread, hnumber⟩ := Option.bind_eq_some_iff.mp hwhole
    obtain ⟨hend, rfl, -⟩ := numberEnd_eq_some_iff.mp hnumber
    obtain ⟨rfl, hword, -, hcut⟩ := wholeDigits_cut hread
    refine ⟨number_eq_some_iff.mpr (.inr ⟨rfl, ?_, ?_⟩), ?_⟩
    · by_contra hsome
      have hall : ∀ c ∈ read ++ left.takeWhile isIdentContinue, isIdentContinue c = true :=
        fun c hc => (List.mem_append.mp hc).elim (hword c)
          (List.all_eq_true.mp List.all_takeWhile c)
      have hlonger := isSome_floatDigits_append hall (head?_dropWhile_not isIdentContinue left)
        (Option.isSome_iff_ne_none.mpr hsome)
      rw [List.append_assoc, List.takeWhile_append_dropWhile, hfloat] at hlonger
      cases hlonger
    · rw [hcut, Option.bind_some, numberEnd_takeWhile hend]
    · obtain ⟨-, -, hdigit, -⟩ := wholeDigits_cut hcut
      generalize read ++ left.takeWhile isIdentContinue = text at hcut hdigit
      cases text with
      | nil => cases hcut
      | cons c more => exact ⟨c, more, rfl, hdigit c rfl⟩

/-! ## Literals -/

theorem literal_eq (cs : List Char) : literal cs = (quotedLiteral cs).or (number cs) := by
  have hcons : ∀ {p : QuotedForm → Option (LiteralKind × Split)} {f : QuotedForm}
      {l : List QuotedForm}, (f :: l).findSome? p = (p f).or (l.findSome? p) := by
    intro p f l
    rw [List.findSome?_cons]
    cases p f <;> rfl
  unfold quotedLiteral quotedForms number literal
  simp only [hcons, List.findSome?_nil, Option.orElse_eq_orElse, Option.orElse_eq_or,
    Option.map_or, Option.or_assoc, Option.none_or]
  rfl

/-- A literal is the one that its text is. -/
theorem literal_cut {cs text rest : List Char} {kind : LiteralKind}
    (h : literal cs = some (kind, (text, rest))) : literal text = some (kind, (text, [])) := by
  rw [literal_eq, Option.or_eq_some_iff] at h
  rw [literal_eq]
  rcases h with h | ⟨-, h⟩
  · rw [quotedLiteral_cut h, Option.some_or]
  · obtain ⟨hnumber, c, more, rfl, hc⟩ := number_cut h
    rw [quotedLiteral_of_isDigit hc, Option.none_or, hnumber]

end TraitRoutes.Scan
