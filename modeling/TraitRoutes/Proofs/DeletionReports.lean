import TraitRoutes.Proofs.StoredRecords

/-!
# What deletions report

The answer of a deletion should say whether it took the record of the number away. The
sample service looks for the record first, and then takes it away or refuses. It takes
away only the first record of the number, which is enough, because a number has no second
one in any state that calls lead to.

The category service keeps what is not to go and compares the lengths, so its answer says
whether anything went at all. With a category goes what hangs directly below its number,
and that is a number the client made up, so there may be no category of it. Then the
children go alone, and the answer is that of a deletion. In all other cases the answer is
right: if there is a category of the number it goes, and if there is none and nothing hangs
below the number then nothing goes.
-/

namespace TraitRoutes.Demo

variable {α : Type} {number : α → Int} {bound : Nat} {earlier later : List α} {id : Int}

/-- The answer of a deletion is true: it says whether a record of the number was there and is
gone, and if it is negative nothing has changed. -/
structure ReportsRemoval (number : α → Int) (id : Int) (earlier later : List α) (answer : Bool) :
    Prop where
  removed : answer = true ↔ id ∈ earlier.map number ∧ id ∉ later.map number
  refused : answer = false → later = earlier
  missing : id ∉ earlier.map number → answer = false

/-- Without its first record a number is free. -/
theorem Numbered.not_mem_eraseP (h : Numbered number bound earlier) :
    id ∉ (earlier.eraseP (number · == id)).map number := by
  have herase : (earlier.eraseP (number · == id)).map number = (earlier.map number).erase id := by
    rw [List.erase_eq_eraseP', List.eraseP_map]
    rfl
  rw [herase]
  exact h.nodup.not_mem_erase

theorem find?_number_eq_none_iff :
    earlier.find? (number · == id) = none ↔ id ∉ earlier.map number := by
  simp [List.find?_eq_none]

theorem SampleStore.delete_reports {s : SampleStore} (h : Numbered Item.id bound s.items)
    (id : Int) (force : Bool) :
    ReportsRemoval Item.id id s.items (s.delete id force).2.items (s.delete id force).1 := by
  unfold delete
  cases hfound : s.item? id with
  | none =>
      have hmissing : id ∉ s.items.map Item.id := find?_number_eq_none_iff.mp hfound
      exact ⟨by simp [hmissing], fun _ => rfl, fun _ => rfl⟩
  | some item =>
      have hmem : id ∈ s.items.map Item.id := by
        by_contra hmissing
        rw [item?, find?_number_eq_none_iff.mpr hmissing] at hfound
        cases hfound
      by_cases hrefuses : (item.enabled && !force) = true
      · simp only [hrefuses, if_true]
        exact ⟨by simp, fun _ => rfl, fun _ => rfl⟩
      · simp only [hrefuses]
        exact ⟨by simp [hmem, h.not_mem_eraseP], by simp, fun hmissing => absurd hmem hmissing⟩

namespace CategoryStore

variable {s : CategoryStore} {c : Category}

theorem mem_delete_iff :
    c ∈ (s.delete id).2.categories ↔ c ∈ s.categories ∧ c.id ≠ id ∧ c.parentId ≠ some id := by
  simp [delete, List.mem_filter]

/-- A deletion says whether anything went: a category of the number, or one below it. -/
theorem delete_answers_iff :
    (s.delete id).1 = true ↔ ∃ c ∈ s.categories, c.id = id ∨ c.parentId = some id := by
  rw [delete, bne_iff_ne, Ne, List.length_filter_eq_length_iff]
  simp only [Bool.and_eq_true, bne_iff_ne, not_forall, ← not_or, not_not, exists_prop]

theorem delete_refused (h : (s.delete id).1 = false) : (s.delete id).2 = s := by
  rw [delete, bne_eq_false_iff_eq, List.length_filter_eq_length_iff] at h
  rw [delete, List.filter_eq_self.mpr h]

theorem not_mem_delete : id ∉ (s.delete id).2.categories.map Category.id := by
  intro h
  obtain ⟨c, hc, hid⟩ := List.mem_map.mp h
  exact (mem_delete_iff.mp hc).2.1 hid

/-- The answer is that of a removal, unless there are categories below a number that no
category has. -/
theorem delete_reports_iff :
    ReportsRemoval Category.id id s.categories (s.delete id).2.categories (s.delete id).1 ↔
      id ∈ s.categories.map Category.id ∨ ∀ c ∈ s.categories, c.parentId ≠ some id := by
  constructor
  · intro h
    by_contra hneither
    obtain ⟨hmissing, hbelow⟩ := not_or.mp hneither
    push Not at hbelow
    obtain ⟨c, hc, hparent⟩ := hbelow
    have hfalse := h.missing hmissing
    rw [delete_answers_iff.mpr ⟨c, hc, .inr hparent⟩] at hfalse
    cases hfalse
  · intro h
    have hanswer : (s.delete id).1 = true ↔ id ∈ s.categories.map Category.id := by
      rw [delete_answers_iff, List.mem_map]
      constructor
      · rintro ⟨c, hc, hid | hparent⟩
        · exact ⟨c, hc, hid⟩
        · exact List.mem_map.mp (h.resolve_right fun hnone => hnone c hc hparent)
      · rintro ⟨c, hc, hid⟩
        exact ⟨c, hc, .inl hid⟩
    refine ⟨?_, fun hfalse => by rw [delete_refused hfalse], fun hmissing => ?_⟩
    · rw [hanswer, and_iff_left not_mem_delete]
    · rwa [← hanswer, Bool.not_eq_true] at hmissing

end CategoryStore

/-- In every state that calls lead to, the sample service answers a deletion with `true` if
the item was there and is gone, and else leaves the items as they are. The category service
answers with `true` if there is a category of the number or one that hangs below it, and
else leaves the categories as they are. This is the answer that it should give, unless no
category has the number and one hangs below it. No number that was given exceeds the length of
the run, so none is too large for a machine unless the run is too long. -/
theorem deletions_report (calls : List Call) (id : Int) (force : Bool) :
    let items := (App.ofCalls calls).sample
    let s := (App.ofCalls calls).categories
    (∀ i ∈ items.items, i.id ≤ calls.length) ∧ (∀ c ∈ s.categories, c.id ≤ calls.length) ∧
      ReportsRemoval Item.id id items.items (items.delete id force).2.items
        (items.delete id force).1 ∧
      ((s.delete id).1 = true ↔ ∃ c ∈ s.categories, c.id = id ∨ c.parentId = some id) ∧
      ((s.delete id).1 = false → (s.delete id).2 = s) ∧
      (ReportsRemoval Category.id id s.categories (s.delete id).2.categories (s.delete id).1 ↔
        id ∈ s.categories.map Category.id ∨ ∀ c ∈ s.categories, c.parentId ≠ some id) := by
  intro items s
  have hnumbered := App.ofCalls_numbered calls
  exact ⟨hnumbered.sample.bounded, hnumbered.categories.bounded,
    SampleStore.delete_reports hnumbered.sample id force, CategoryStore.delete_answers_iff,
    CategoryStore.delete_refused, CategoryStore.delete_reports_iff⟩

/-- A category that hangs below a number without a category. -/
def strayCall : Call := .category (.create ⟨"stray", none, some 99, 0⟩)

/-- A deletion of a number that no category has takes away what hangs below it, and answers
as if there had been one. -/
theorem not_forall_deletions_report :
    ¬ ∀ (calls : List Call) (id : Int) (force : Bool),
      let items := (App.ofCalls calls).sample
      let s := (App.ofCalls calls).categories
      ReportsRemoval Item.id id items.items (items.delete id force).2.items
          (items.delete id force).1 ∧
        ReportsRemoval Category.id id s.categories (s.delete id).2.categories (s.delete id).1 := by
  intro h
  have hfalse := (h [strayCall] 99 false).2.missing (by decide)
  exact absurd hfalse (by decide)

end TraitRoutes.Demo
