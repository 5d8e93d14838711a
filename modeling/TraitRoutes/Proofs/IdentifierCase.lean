import TraitRoutes.Token.Basic
import TraitRoutes.Unicode.LetterCase

/-!
# Letter case of identifiers

What may stand in an identifier may stand there in lower case and in upper case,
and what may start one becomes something that starts one. Neither is true of
characters in general: the case tables know circled letters, which no identifier
has, and the mark that writes an iota below a letter, whose capital is a letter
of its own. So the argument goes through the tables. A run of the case tables
maps characters to others the same distances apart, and it is enough to find one
range that holds all of the images, or to see that the ranges hold none of the
characters; only a run with gaps between its images is checked one by one.
-/

namespace TraitRoutes.Unicode

/-! ## Ranges -/

namespace Ranges

/-- Whether one range holds all code points from `low` to `high`. -/
def covers : Ranges → Nat → Nat → Bool
  | [], _, _ => false
  | (a, b) :: rest, low, high => a.ble low && (high.ble b || covers rest low high)

/-- Whether no range holds a code point from `low` to `high`. -/
def misses : Ranges → Nat → Nat → Bool
  | [], _, _ => true
  | (a, b) :: rest, low, high => high.blt a || (b.blt low && misses rest low high)

theorem has_of_covers {low high n : Nat} (hlow : low ≤ n) (hhigh : n ≤ high) :
    ∀ {t : Ranges}, t.covers low high = true → t.has n = true := by
  intro t
  induction t with
  | nil => intro h; cases h
  | cons r rest ih =>
      intro h
      simp only [covers, Bool.and_eq_true, Bool.or_eq_true, Nat.ble_eq] at h
      rw [has, if_neg (by omega)]
      rcases h.2 with hb | hrest
      · simp [show n ≤ r.2 by omega]
      · simp [ih hrest]

theorem not_has_of_misses {low high n : Nat} (hlow : low ≤ n) (hhigh : n ≤ high) :
    ∀ {t : Ranges}, t.misses low high = true → t.has n = false := by
  intro t
  induction t with
  | nil => intro _; rfl
  | cons r rest ih =>
      intro h
      simp only [misses, Bool.and_eq_true, Bool.or_eq_true, Nat.blt_eq] at h
      rw [has]
      split
      · rfl
      · rcases h with ha | ⟨hb, hrest⟩
        · omega
        · simp [show ¬ n ≤ r.2 by omega, ih hrest]

theorem exists_of_has {n : Nat} :
    ∀ {t : Ranges}, t.has n = true → ∃ r ∈ t, r.1 ≤ n ∧ n ≤ r.2 := by
  intro t
  induction t with
  | nil => intro h; cases h
  | cons r rest ih =>
      intro h
      rw [has] at h
      split at h
      · cases h
      · rcases Bool.or_eq_true_iff.mp h with hr | hrest
        · exact ⟨r, List.mem_cons_self, by omega, of_decide_eq_true hr⟩
        · obtain ⟨s, hs, hn⟩ := ih hrest
          exact ⟨s, List.mem_cons_of_mem _ hs, hn⟩

end Ranges

theorem CaseRun.exists_of_find {n image : Nat} :
    ∀ {runs : List CaseRun}, CaseRun.find runs n = some image →
      ∃ run ∈ runs, run.first ≤ n ∧ n ≤ run.last ∧ (n - run.first) % run.step = 0 ∧
        image = run.image + (n - run.first) := by
  intro runs
  induction runs with
  | nil => intro h; cases h
  | cons run rest ih =>
      intro h
      rw [CaseRun.find] at h
      split at h
      · cases h
      · split at h
        · next hrun =>
            simp only [Bool.and_eq_true, decide_eq_true_eq, beq_iff_eq] at hrun
            exact ⟨run, List.mem_cons_self, by omega, hrun.1, hrun.2, (Option.some.inj h).symm⟩
        · obtain ⟨r, hr, hn⟩ := ih h
          exact ⟨r, List.mem_cons_of_mem _ hr, hn⟩

/-! ## Identifier characters by the tables -/

/-- A code point of a range without surrogates is that of a character. -/
theorem toNat_ofNat_of_has {t : Ranges} {n : Nat}
    (ht : ∀ r ∈ t, r.2 < 0xD800 ∨ 0xDFFF < r.1 ∧ r.2 < 0x110000) (h : t.has n = true) :
    (Char.ofNat n).toNat = n := by
  obtain ⟨r, hr, hn⟩ := Ranges.exists_of_has h
  have hvalid : n.isValidChar := by
    have := ht r hr
    unfold Nat.isValidChar
    omega
  rw [Char.ofNat, dif_pos hvalid]
  rfl

theorem toNat_ofNat_of_xidStart {n : Nat} (h : xidStart.has n = true) :
    (Char.ofNat n).toNat = n :=
  toNat_ofNat_of_has (by decide +kernel) h

theorem toNat_ofNat_of_xidContinueOnly {n : Nat} (h : xidContinueOnly.has n = true) :
    (Char.ofNat n).toNat = n :=
  toNat_ofNat_of_has (by decide +kernel) h

/-- What can be checked of every code point of ASCII. -/
theorem forall_ascii {p : Char → Prop} (h : ∀ n < 128, p (Char.ofNat n)) :
    ∀ c, c.toNat < 128 → p c := by
  intro c hc
  have hp := h c.toNat hc
  rwa [Char.ofNat_toNat] at hp

theorem isIdentStart_of_xidStart {c : Char} (h : xidStart.has c.toNat = true) :
    isIdentStart c = true := by
  have hascii : ∀ c : Char, c.toNat < 128 → xidStart.has c.toNat = true →
      isIdentStart c = true := forall_ascii (by decide)
  by_cases hlt : c.toNat < 128
  · exact hascii c hlt h
  · rw [isIdentStart, if_neg hlt, h]

theorem isIdentContinue_of_start {c : Char} (h : isIdentStart c = true) :
    isIdentContinue c = true := by
  unfold isIdentStart at h
  unfold isIdentContinue
  split at h
  · next hlt =>
      rw [if_pos hlt, Char.isAlphanum]
      rcases Bool.or_eq_true_iff.mp h with ha | hu
      · simp [ha]
      · simp [hu]
  · next hge =>
      rw [if_neg hge, h, Bool.true_or]

theorem isIdentContinue_of_xidContinueOnly {c : Char}
    (h : xidContinueOnly.has c.toNat = true) : isIdentContinue c = true := by
  have hascii : ∀ c : Char, c.toNat < 128 → xidContinueOnly.has c.toNat = true →
      isIdentContinue c = true := forall_ascii (by decide)
  by_cases hlt : c.toNat < 128
  · exact hascii c hlt h
  · rw [isIdentContinue, if_neg hlt, h, Bool.or_true]

/-- Beyond ASCII, the tables decide. -/
theorem xid_of_isIdentContinue {c : Char} (hge : ¬ c.toNat < 128)
    (h : isIdentContinue c = true) :
    xidStart.has c.toNat = true ∨ xidContinueOnly.has c.toNat = true := by
  rw [isIdentContinue, if_neg hge] at h
  exact Bool.or_eq_true_iff.mp h

/-! ## The case tables -/

namespace CaseRun

/-- Whether the images of a run may all start an identifier. -/
def startsNames (run : CaseRun) : Bool :=
  let width := run.last - run.first
  xidStart.covers run.image (run.image + width)
    || (List.range (width + 1)).all fun i =>
      i % run.step != 0 || xidStart.covers (run.image + i) (run.image + i)

/-- Whether no identifier has a character of the run. -/
def outsideNames (run : CaseRun) : Bool :=
  xidStart.misses run.first run.last && xidContinueOnly.misses run.first run.last

theorem xidStart_of_startsNames {run : CaseRun} {n : Nat} (h : run.startsNames = true)
    (hfirst : run.first ≤ n) (hlast : n ≤ run.last)
    (hstep : (n - run.first) % run.step = 0) :
    xidStart.has (run.image + (n - run.first)) = true := by
  rcases Bool.or_eq_true_iff.mp h with hall | heach
  · exact Ranges.has_of_covers (by omega) (by omega) hall
  · have hi := List.all_eq_true.mp heach (n - run.first) (List.mem_range.mpr (by omega))
    rcases Bool.or_eq_true_iff.mp hi with hgap | hcovers
    · simp [hstep] at hgap
    · exact Ranges.has_of_covers (Nat.le_refl _) (Nat.le_refl _) hcovers

theorem not_xid_of_outsideNames {run : CaseRun} {n : Nat} (h : run.outsideNames = true)
    (hfirst : run.first ≤ n) (hlast : n ≤ run.last) :
    xidStart.has n = false ∧ xidContinueOnly.has n = false := by
  obtain ⟨hstart, hcontinue⟩ := Bool.and_eq_true_iff.mp h
  exact ⟨Ranges.not_has_of_misses hfirst hlast hstart,
    Ranges.not_has_of_misses hfirst hlast hcontinue⟩

/-- A run of identifier characters has images that may start an identifier. -/
theorem isIdentStart_image {runs : List CaseRun} {c : Char} {image : Nat}
    (hruns : ∀ run ∈ runs, (run.startsNames || run.outsideNames) = true)
    (hge : ¬ c.toNat < 128) (hc : isIdentContinue c = true)
    (h : find runs c.toNat = some image) : isIdentStart (Char.ofNat image) = true := by
  obtain ⟨run, hrun, hfirst, hlast, hstep, rfl⟩ := exists_of_find h
  rcases Bool.or_eq_true_iff.mp (hruns run hrun) with hnames | houtside
  · have hhas := xidStart_of_startsNames hnames hfirst hlast hstep
    exact isIdentStart_of_xidStart (by rwa [toNat_ofNat_of_xidStart hhas])
  · obtain ⟨hstart, hcontinue⟩ := not_xid_of_outsideNames houtside hfirst hlast
    rcases xid_of_isIdentContinue hge hc with hx | hx
    · rw [hstart] at hx
      cases hx
    · rw [hcontinue] at hx
      cases hx

end CaseRun

theorem lowerRuns_keep : ∀ run ∈ lowerRuns, (run.startsNames || run.outsideNames) = true := by
  decide +kernel

theorem upperRuns_keep : ∀ run ∈ upperRuns, (run.startsNames || run.outsideNames) = true := by
  decide +kernel

/-- Whether the characters of the code points make up an identifier. -/
def spellsName : List Nat → Bool
  | [] => false
  | n :: rest =>
    xidStart.covers n n && rest.all fun m => xidStart.covers m m || xidContinueOnly.covers m m

theorem isLegal_of_spellsName {ns : List Nat} (h : spellsName ns = true) :
    Ident.isLegal (ns.map Char.ofNat) = true := by
  cases ns with
  | nil => cases h
  | cons n rest =>
      obtain ⟨hn, hrest⟩ := Bool.and_eq_true_iff.mp h
      have hhas := Ranges.has_of_covers (Nat.le_refl n) (Nat.le_refl n) hn
      have hstart : isIdentStart (Char.ofNat n) = true :=
        isIdentStart_of_xidStart (by rwa [toNat_ofNat_of_xidStart hhas])
      rw [List.map_cons, Ident.isLegal, hstart, Bool.true_and, List.all_map]
      refine List.all_eq_true.mpr fun m hm => ?_
      rcases Bool.or_eq_true_iff.mp (List.all_eq_true.mp hrest m hm) with hs | hc
      · have hhas := Ranges.has_of_covers (Nat.le_refl m) (Nat.le_refl m) hs
        exact isIdentContinue_of_start
          (isIdentStart_of_xidStart (by rwa [toNat_ofNat_of_xidStart hhas]))
      · have hhas := Ranges.has_of_covers (Nat.le_refl m) (Nat.le_refl m) hc
        exact isIdentContinue_of_xidContinueOnly
          (by rwa [toNat_ofNat_of_xidContinueOnly hhas])

theorem upperExpansions_keep :
    ∀ e ∈ upperExpansions, xidStart.covers e.1 e.1 = true ∧ spellsName e.2 = true := by
  decide +kernel

theorem expansion_of_lookup {n : Nat} {images : List Nat}
    (h : upperExpansions.lookup n = some images) : (n, images) ∈ upperExpansions := by
  obtain ⟨before, after, hsplit, -⟩ := List.lookup_eq_some_iff.mp h
  rw [hsplit]
  exact List.mem_append_right before List.mem_cons_self

/-! ## Single characters -/

/-- In lower case, a character of an identifier stays what it is or becomes an
identifier. -/
theorem lowerChar_cases {c : Char} (hc : isIdentContinue c = true) :
    lowerChar c = [c] ∨ Ident.isLegal (lowerChar c) = true := by
  have hascii : ∀ c : Char, c.toNat < 128 → isIdentContinue c = true →
      lowerChar c = [c] ∨ Ident.isLegal (lowerChar c) = true := forall_ascii (by decide)
  by_cases hlt : c.toNat < 128
  · exact hascii c hlt hc
  · rw [lowerChar, if_neg hlt]
    split
    · exact .inr (by decide)
    · split
      · next image himage =>
          have := CaseRun.isIdentStart_image lowerRuns_keep hlt hc himage
          exact .inr (by simp [Ident.isLegal, this])
      · exact .inl rfl

/-- The same in upper case. -/
theorem upperChar_cases {c : Char} (hc : isIdentContinue c = true) :
    upperChar c = [c] ∨ Ident.isLegal (upperChar c) = true := by
  have hascii : ∀ c : Char, c.toNat < 128 → isIdentContinue c = true →
      upperChar c = [c] ∨ Ident.isLegal (upperChar c) = true := forall_ascii (by decide)
  by_cases hlt : c.toNat < 128
  · exact hascii c hlt hc
  · rw [upperChar, if_neg hlt]
    split
    · next images himages =>
        exact .inr (isLegal_of_spellsName (upperExpansions_keep _ (expansion_of_lookup himages)).2)
    · split
      · next image himage =>
          have := CaseRun.isIdentStart_image upperRuns_keep hlt hc himage
          exact .inr (by simp [Ident.isLegal, this])
      · exact .inl rfl

/-- What may not start an identifier has no capital, but for the iota below a
letter. -/
theorem upperChar_of_not_isIdentStart {c : Char} (hc : isIdentContinue c = true)
    (hstart : isIdentStart c = false) (hiota : c.toNat ≠ 0x345) : upperChar c = [c] := by
  have hascii : ∀ c : Char, c.toNat < 128 → isIdentContinue c = true →
      isIdentStart c = false → upperChar c = [c] := forall_ascii (by decide)
  have hruns : ∀ run ∈ upperRuns, xidContinueOnly.misses run.first run.last = true ∨
      run.first = 0x345 ∧ run.last = 0x345 := by
    decide +kernel
  by_cases hlt : c.toNat < 128
  · exact hascii c hlt hc hstart
  · have hnot : ¬ xidStart.has c.toNat = true := by
      intro h
      rw [isIdentStart_of_xidStart h] at hstart
      cases hstart
    have honly := (xid_of_isIdentContinue hlt hc).resolve_left hnot
    rw [upperChar, if_neg hlt]
    split
    · next images himages =>
        have hcovers := (upperExpansions_keep _ (expansion_of_lookup himages)).1
        exact absurd (Ranges.has_of_covers (Nat.le_refl _) (Nat.le_refl _) hcovers) hnot
    · split
      · next image himage =>
          obtain ⟨run, hrun, hfirst, hlast, -, -⟩ := CaseRun.exists_of_find himage
          rcases hruns run hrun with hmisses | ⟨hf, hl⟩
          · rw [Ranges.not_has_of_misses hfirst hlast hmisses] at honly
            cases honly
          · omega
      · rfl

/-- A capital in an identifier may start one. -/
theorem isIdentStart_of_isUpperChar {c : Char} (hc : isIdentContinue c = true)
    (hupper : isUpperChar c = true) : isIdentStart c = true := by
  have hruns : ∀ run ∈ lowerRuns, xidContinueOnly.misses run.first run.last = true := by
    decide +kernel
  have honly : ∀ r ∈ upperOnly, xidContinueOnly.misses r.1 r.2 = true := by decide +kernel
  by_cases hlt : c.toNat < 128
  · rw [isUpperChar, if_pos hlt] at hupper
    have halpha : (c.isUpper || c.isLower) = true := by rw [hupper, Bool.true_or]
    rw [isIdentStart, if_pos hlt]
    exact Bool.or_eq_true_iff.mpr (.inl halpha)
  · rcases xid_of_isIdentContinue hlt hc with hx | hx
    · exact isIdentStart_of_xidStart hx
    · rw [isUpperChar, if_neg hlt] at hupper
      rcases Bool.or_eq_true_iff.mp hupper with hmarked | hrun
      · rcases Bool.or_eq_true_iff.mp hmarked with hdot | hrange
        · rw [eq_of_beq hdot]
          decide
        · obtain ⟨r, hr, hfirst, hlast⟩ := Ranges.exists_of_has hrange
          rw [Ranges.not_has_of_misses hfirst hlast (honly r hr)] at hx
          cases hx
      · obtain ⟨image, himage⟩ := Option.isSome_iff_exists.mp (Bool.and_eq_true_iff.mp hrun).1
        obtain ⟨run, hr, hfirst, hlast, -, -⟩ := CaseRun.exists_of_find himage
        rw [Ranges.not_has_of_misses hfirst hlast (hruns run hr)] at hx
        cases hx

end TraitRoutes.Unicode
