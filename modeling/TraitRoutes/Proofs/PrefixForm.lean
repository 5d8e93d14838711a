import TraitRoutes.Proofs.RoutePlanning

/-!
# The form of a prefix

A prefix is brought into a form with one slash in front and none behind: the blanks around
it are taken away, and then the slashes around what is left of it. Each is done once and in
this order, so blanks outside of the slashes go and blanks within them stay.

A blank that stays at the end has nothing behind it any more, so it goes when the form is
formed again; one that stays in front is kept by the slash before it. Hence a form is formed
into itself exactly if no blank stays at the end. And texts that differ only in the blanks
and slashes around them have one form, which is that of the text without any, as long as no
blank stays; a text in which one does has another form.
-/

namespace TraitRoutes.Naming

/-! ## Forms -/

def isSlash (c : Char) : Bool := c == '/'

/-- A slash or a blank. -/
def isPadding (c : Char) : Bool := isSlash c || Unicode.isBlank c

/-- Texts differ at most in blanks and slashes around them. -/
def SameInside (p q : String) : Prop :=
  ∃ inside front back front' back' : List Char,
    p.toList = front ++ inside ++ back ∧ q.toList = front' ++ inside ++ back' ∧
      (front ++ back ++ (front' ++ back')).all isPadding = true

/-- Apart from the blanks around it, a text begins with slashes and a blank behind them. -/
def HidesBefore (p : String) : Prop :=
  ∃ (slashes rest : List Char) (blank : Char), (∀ c ∈ slashes, c = '/') ∧
    Unicode.isBlank blank = true ∧ Unicode.trim p.toList = slashes ++ blank :: rest

/-- Apart from the blanks around it, a text ends with slashes and a blank in front of them. -/
def HidesBehind (p : String) : Prop :=
  ∃ (rest slashes : List Char) (blank : Char), (∀ c ∈ slashes, c = '/') ∧
    Unicode.isBlank blank = true ∧ Unicode.trim p.toList = rest ++ blank :: slashes

/-- What the form of a text has behind its slash. -/
def formed (p : String) : List Char := strip isSlash (Unicode.trim p.toList)

variable {p q : String}

theorem normalizePrefix_eq (p : String) : normalizePrefix p = String.ofList ('/' :: formed p) := rfl

theorem normalizePrefix_eq_iff : normalizePrefix p = normalizePrefix q ↔ formed p = formed q := by
  rw [normalizePrefix_eq, normalizePrefix_eq, String.ofList_inj, List.cons.injEq,
    and_iff_right rfl]

theorem not_isSlash_of_isBlank {c : Char} (h : Unicode.isBlank c = true) : isSlash c = false := by
  rw [isSlash, beq_eq_false_iff_ne]
  rintro rfl
  exact absurd h (by decide)

theorem hidesBefore_iff :
    HidesBefore p ↔ ∃ c, (formed p).head? = some c ∧ Unicode.isBlank c = true := by
  constructor
  · rintro ⟨slashes, rest, c, hslashes, hc, htrim⟩
    exact ⟨c, (head?_strip_iff (not_isSlash_of_isBlank hc)).mpr
      ⟨slashes, rest, fun d hd => beq_iff_eq.mpr (hslashes d hd), htrim⟩, hc⟩
  · rintro ⟨c, hhead, hc⟩
    obtain ⟨slashes, rest, hslashes, htrim⟩ :=
      (head?_strip_iff (not_isSlash_of_isBlank hc)).mp hhead
    exact ⟨slashes, rest, c, fun d hd => eq_of_beq (hslashes d hd), hc, htrim⟩

theorem hidesBehind_iff :
    HidesBehind p ↔ ∃ c, (formed p).getLast? = some c ∧ Unicode.isBlank c = true := by
  constructor
  · rintro ⟨rest, slashes, c, hslashes, hc, htrim⟩
    exact ⟨c, (getLast?_strip_iff (not_isSlash_of_isBlank hc)).mpr
      ⟨rest, slashes, fun d hd => beq_iff_eq.mpr (hslashes d hd), htrim⟩, hc⟩
  · rintro ⟨c, hlast, hc⟩
    obtain ⟨rest, slashes, hslashes, htrim⟩ :=
      (getLast?_strip_iff (not_isSlash_of_isBlank hc)).mp hlast
    exact ⟨rest, slashes, c, fun d hd => eq_of_beq (hslashes d hd), hc, htrim⟩

instance : DecidablePred HidesBefore := fun p =>
  decidable_of_iff ((formed p).head?.any Unicode.isBlank = true)
    ((Option.any_eq_true _ _).trans hidesBefore_iff.symm)

instance : DecidablePred HidesBehind := fun p =>
  decidable_of_iff ((formed p).getLast?.any Unicode.isBlank = true)
    ((Option.any_eq_true _ _).trans hidesBehind_iff.symm)

theorem formed_normalizePrefix (p : String) :
    formed (normalizePrefix p) = strip isSlash (Unicode.trim ('/' :: formed p)) := by
  rw [formed, normalizePrefix_eq, String.toList_ofList]

theorem formed_again_of_not_hides (h : ¬ HidesBehind p) : formed (normalizePrefix p) = formed p := by
  rw [hidesBehind_iff] at h
  have hbare : Bare Unicode.isBlank ('/' :: formed p) :=
    .cons (by decide) fun last hlast =>
      eq_false_of_ne_true fun hblank => h ⟨last, hlast, hblank⟩
  have htrim : Unicode.trim ('/' :: formed p) = '/' :: formed p := strip_eq_self hbare
  have hslash : Bare isSlash (formed p) := bare_strip isSlash _
  rw [formed_normalizePrefix, htrim, strip_cons rfl, strip_eq_self hslash]

/-- A blank at the end of a form goes when it is formed again, so that it gets shorter. -/
theorem length_formed_again (h : HidesBehind p) :
    (formed (normalizePrefix p)).length < (formed p).length := by
  obtain ⟨blank, hlast, hblank⟩ := hidesBehind_iff.mp h
  obtain ⟨rest, hrest⟩ := List.getLast?_eq_some_iff.mp hlast
  have htrim : Unicode.trim ('/' :: formed p) = Unicode.trim ('/' :: rest) := by
    rw [hrest]
    exact strip_concat hblank ('/' :: rest)
  -- What is trimmed still begins with the slash, and that goes as well.
  obtain ⟨more, hmore⟩ : ∃ more, Unicode.trim ('/' :: rest) = '/' :: more :=
    List.head?_eq_some_iff.mp
      ((head?_strip_iff (by decide)).mpr ⟨[], rest, List.forall_mem_nil _, rfl⟩)
  have hle : ('/' :: more).length ≤ ('/' :: rest).length := by
    rw [← hmore]
    exact length_strip_le Unicode.isBlank _
  have hformed := length_strip_le isSlash more
  rw [formed_normalizePrefix, htrim, hmore, strip_cons rfl, hrest, List.length_append,
    List.length_singleton]
  simp only [List.length_cons] at hle
  omega

theorem strip_eq_of_sameInside (h : SameInside p q) :
    strip isPadding p.toList = strip isPadding q.toList := by
  obtain ⟨inside, front, back, front', back', hp, hq, hpadding⟩ := h
  simp only [List.all_append, Bool.and_eq_true, List.all_eq_true] at hpadding
  obtain ⟨⟨hfront, hback⟩, hfront', hback'⟩ := hpadding
  rw [hp, hq, strip_append inside hfront hback, strip_append inside hfront' hback']

/-- Nothing is left around the inside of a text, unless a blank stays within the slashes. -/
theorem formed_eq_strip_iff :
    formed p = strip isPadding p.toList ↔ ¬ HidesBefore p ∧ ¬ HidesBehind p := by
  have hblank : ∀ c, isPadding c = false → Unicode.isBlank c = false :=
    fun c hc => (Bool.or_eq_false_iff.mp hc).2
  rw [hidesBefore_iff, hidesBehind_iff]
  constructor
  · intro h
    have hbare := bare_strip isPadding p.toList
    rw [← h] at hbare
    refine ⟨?_, ?_⟩
    · rintro ⟨c, hc, htrue⟩
      rw [hblank c (hbare.head c hc)] at htrue
      cases htrue
    · rintro ⟨c, hc, htrue⟩
      rw [hblank c (hbare.last c hc)] at htrue
      cases htrue
  · rintro ⟨hbefore, hbehind⟩
    obtain ⟨front, back, htext, hfront, hback⟩ := exists_strip Unicode.isBlank p.toList
    obtain ⟨front', back', htrim, hfront', hback'⟩ :=
      exists_strip isSlash (Unicode.trim p.toList)
    have hslash := bare_strip isSlash (Unicode.trim p.toList)
    have hbare : Bare isPadding (formed p) := by
      refine ⟨fun c hc => Bool.or_eq_false_iff.mpr ⟨hslash.head c hc, ?_⟩,
        fun c hc => Bool.or_eq_false_iff.mpr ⟨hslash.last c hc, ?_⟩⟩
      · exact eq_false_of_ne_true fun htrue => hbefore ⟨c, hc, htrue⟩
      · exact eq_false_of_ne_true fun htrue => hbehind ⟨c, hc, htrue⟩
    have hwhole : p.toList = (front ++ front') ++ formed p ++ (back' ++ back) := by
      conv_lhs => rw [htext, show strip Unicode.isBlank p.toList = _ from htrim]
      simp only [formed, List.append_assoc]
    rw [hwhole]
    refine (strip_around hbare (List.forall_mem_append.mpr ⟨fun c hc => ?_, fun c hc => ?_⟩)
      (List.forall_mem_append.mpr ⟨fun c hc => ?_, fun c hc => ?_⟩)).symm
    · exact Bool.or_eq_true_iff.mpr (.inr (hfront c hc))
    · exact Bool.or_eq_true_iff.mpr (.inl (hfront' c hc))
    · exact Bool.or_eq_true_iff.mpr (.inl (hback' c hc))
    · exact Bool.or_eq_true_iff.mpr (.inr (hback c hc))

/-- The form of a prefix has one slash in front and none behind. It is formed into itself
exactly if the prefix has no blank in front of the slashes at its end. Of two prefixes that
differ only in blanks and slashes around them, one of which has no blank within its slashes,
the forms are the same exactly if the other one has none there either. -/
theorem normalizePrefix_forms (p : String) :
    IsNormal (normalizePrefix p) ∧
      (normalizePrefix (normalizePrefix p) = normalizePrefix p ↔ ¬ HidesBehind p) ∧
      ∀ q, SameInside p q → ¬ HidesBefore q → ¬ HidesBehind q →
        (normalizePrefix p = normalizePrefix q ↔ ¬ HidesBefore p ∧ ¬ HidesBehind p) := by
  refine ⟨isNormal_normalizePrefix p, ?_, fun q hsame hbefore hbehind => ?_⟩
  · rw [normalizePrefix_eq_iff]
    constructor
    · intro hagain hhides
      have hlt := length_formed_again hhides
      rw [hagain] at hlt
      exact Nat.lt_irrefl _ hlt
    · exact formed_again_of_not_hides
  · rw [normalizePrefix_eq_iff, formed_eq_strip_iff.mpr ⟨hbefore, hbehind⟩,
      ← strip_eq_of_sameInside hsame, formed_eq_strip_iff]

/-- A blank behind the slashes in front stays for good. -/
theorem normalizePrefix_forms_indented :
    SameInside "/ api" "api" ∧ (¬ HidesBefore "api" ∧ ¬ HidesBehind "api") ∧
      IsNormal (normalizePrefix "/ api") ∧
      normalizePrefix (normalizePrefix "/ api") = normalizePrefix "/ api" ∧
      normalizePrefix "/ api" ≠ normalizePrefix "api" := by
  obtain ⟨hnormal, hagain, hsame⟩ := normalizePrefix_forms "/ api"
  have hinside : SameInside "/ api" "api" :=
    ⟨"api".toList, "/ ".toList, [], [], [], by decide, by decide, by decide⟩
  have hbefore : ¬ HidesBefore "api" := by decide
  have hbehind : ¬ HidesBehind "api" := by decide
  refine ⟨hinside, ⟨hbefore, hbehind⟩, hnormal, hagain.mpr (by decide), fun heq => ?_⟩
  exact ((hsame "api" hinside hbefore hbehind).mp heq).1 (by decide)

/-- A blank in front of the slashes at the end stays, and goes the next time. -/
theorem not_forall_normalizePrefix :
    (¬ ∀ p, normalizePrefix (normalizePrefix p) = normalizePrefix p) ∧
      ¬ ∀ p q, SameInside p q → normalizePrefix p = normalizePrefix q := by
  constructor
  · intro h
    exact absurd (h "api /") (by decide)
  · intro h
    have hinside : SameInside "api /" "api" :=
      ⟨"api".toList, [], " /".toList, [], [], by decide, by decide, by decide⟩
    exact absurd (h _ _ hinside) (by decide)

end TraitRoutes.Naming
