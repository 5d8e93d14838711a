import TraitRoutes.Proofs.CategoryTrees
import TraitRoutes.Proofs.DeletionReports

/-!
# Categories that a deletion leaves behind

With a category a deletion takes away what hangs directly below it, so that nothing is left
below a number that is gone. But the children are categories as well, and what hangs below
them is left. So it has lost its parent, and with it everything further down has lost its
place in the tree.

Both show in the way up from a category. The categories that go are the one of the number
and its children, and on a way up a child of the number is what comes last before it. So a
way up is left over as a whole if it does not lead past the number. A category that is left
over loses its parent exactly if the number is two steps above it, and its place in the tree
exactly if the number is any number of steps above it. The deletion keeps all families that
are left over together exactly if nothing that is left over has the number two steps above
it: further down there is nothing then either.
-/

namespace TraitRoutes.Demo

variable {all : List Category} {bound k : Nat} {id : Int} {s : CategoryStore} {c : Category}

/-- The number that a category hangs below is that of a category. -/
def HasParent (all : List Category) (c : Category) : Prop := ∃ p ∈ all, c.parentId = some p.id

instance : Decidable (HasParent all c) :=
  inferInstanceAs (Decidable (∃ p ∈ all, c.parentId = some p.id))

namespace CategoryStore

/-- A category has its place in the tree. -/
def Lists (s : CategoryStore) (c : Category) : Prop := c.place ∈ placesOf none s.tree

/-- What is left of a store has the parents that it had, and the places in the tree. -/
structure KeepsFamilies (s left : CategoryStore) : Prop where
  parents : ∀ c ∈ left.categories, HasParent s.categories c → HasParent left.categories c
  places : ∀ c ∈ left.categories, s.Lists c → left.Lists c

theorem lists_iff_rooted (distinct : Numbered Category.id bound s.categories)
    (hc : c ∈ s.categories) : s.Lists c ↔ Rooted s.categories c := by
  rw [Lists, mem_placesOf_iff (grows_tree distinct)]
  constructor
  · rintro ⟨d, ⟨k, hk⟩, hplace⟩
    obtain rfl := place_inj distinct hk.mem hc hplace
    exact ⟨k, hk⟩
  · rintro ⟨k, hk⟩
    exact ⟨c, ⟨k, hk⟩, rfl⟩

/-! ## Ways up past a deletion -/

/-- The way up from a category that did not lead past the number is left over. -/
theorem hangs_delete {parent : Option Int} (h : Hangs s.categories parent k c)
    (hleft : c ∈ (s.delete id).2.categories)
    (habove : ∀ j, ¬ Hangs s.categories (some id) j c) :
    Hangs (s.delete id).2.categories parent k c := by
  induction h with
  | directly _ step => exact .directly hleft step
  | @deeper k p c above mem step ih =>
      have hp : p ∈ (s.delete id).2.categories := by
        refine mem_delete_iff.mpr ⟨above.mem, fun hid => ?_, fun hparent => ?_⟩
        · exact habove 0 (.directly mem (hid ▸ step))
        · exact habove 1 (.deeper (.directly above.mem hparent) mem step)
      exact .deeper (ih hp fun j hj => habove (j + 1) (.deeper hj mem step)) hleft step

theorem hangs_of_delete {parent : Option Int} (h : Hangs (s.delete id).2.categories parent k c) :
    Hangs s.categories parent k c := by
  induction h with
  | directly mem step => exact .directly (mem_delete_iff.mp mem).1 step
  | deeper _ mem step ih => exact .deeper ih (mem_delete_iff.mp mem).1 step

/-- A way to the top that is left over did not lead past the number. -/
theorem not_hangs_of_delete (distinct : Numbered Category.id bound s.categories)
    (h : Hangs (s.delete id).2.categories none k c) :
    ∀ j, ¬ Hangs s.categories (some id) j c := by
  induction h with
  | directly _ step =>
      intro j hj
      cases hj with
      | directly _ step' => exact Option.some_ne_none _ (step'.symm.trans step)
      | deeper _ _ step' => exact Option.some_ne_none _ (step'.symm.trans step)
  | @deeper k p c above mem step ih =>
      intro j hj
      cases hj with
      | directly _ step' => exact (mem_delete_iff.mp mem).2.2 step'
      | @deeper j p' _ above' _ step' =>
          have hid := Option.some.inj (step'.symm.trans step)
          obtain rfl := distinct.eq_of_number above'.mem (mem_delete_iff.mp above.mem).1 hid
          exact ih j above'

theorem rooted_delete_iff (distinct : Numbered Category.id bound s.categories)
    (hleft : c ∈ (s.delete id).2.categories) :
    Rooted (s.delete id).2.categories c ↔
      Rooted s.categories c ∧ ∀ j, ¬ Hangs s.categories (some id) j c := by
  constructor
  · rintro ⟨k, hk⟩
    exact ⟨⟨k, hangs_of_delete hk⟩, not_hangs_of_delete distinct hk⟩
  · rintro ⟨⟨k, hk⟩, habove⟩
    exact ⟨k, hangs_delete hk hleft habove⟩

/-- A category that is left over loses its parent exactly if that was a child of the number. -/
theorem hasParent_delete_iff (distinct : Numbered Category.id bound s.categories)
    (hleft : c ∈ (s.delete id).2.categories) (hparent : HasParent s.categories c) :
    HasParent (s.delete id).2.categories c ↔ ¬ Hangs s.categories (some id) 1 c := by
  obtain ⟨hc, -, hbelow⟩ := mem_delete_iff.mp hleft
  constructor
  · rintro ⟨p, hp, step⟩ htwo
    obtain ⟨hp, -, hchild⟩ := mem_delete_iff.mp hp
    cases htwo with
    | @deeper _ p' _ above _ step' =>
        have hid := Option.some.inj (step'.symm.trans step)
        obtain rfl := distinct.eq_of_number above.mem hp hid
        cases above with
        | directly _ hchild' => exact hchild hchild'
  · intro htwo
    obtain ⟨p, hp, step⟩ := hparent
    refine ⟨p, mem_delete_iff.mpr ⟨hp, fun hid => ?_, fun hchild => ?_⟩, step⟩
    · exact hbelow (hid ▸ step)
    · exact htwo (.deeper (.directly hp hchild) hc step)

/-- If the number is above something that is left over, it is two steps above something that
is left over. -/
theorem not_hangs_of_two
    (htwo : ∀ d ∈ (s.delete id).2.categories, ¬ Hangs s.categories (some id) 1 d)
    (h : Hangs s.categories (some id) k c) : c ∉ (s.delete id).2.categories := by
  induction h with
  | directly _ step => exact fun hleft => (mem_delete_iff.mp hleft).2.2 step
  | @deeper k p c above mem step ih =>
      intro hleft
      refine ih (mem_delete_iff.mpr ⟨above.mem, fun hid => ?_, fun hchild => ?_⟩)
      · exact (mem_delete_iff.mp hleft).2.2 (hid ▸ step)
      · exact htwo c hleft (.deeper (.directly above.mem hchild) mem step)

end CategoryStore

/-- In every state that calls lead to, a deletion leaves a category without the parent that
it had exactly if the number is two steps above it, and takes it out of the tree exactly if
the number is any number of steps above it; nothing comes into the tree. So what is left
over keeps its parents and its places exactly if the number is two steps above nothing that
is left over. No category has a number above the length of the run. -/
theorem delete_keeps_families_iff (calls : List Call) (id : Int) :
    let s := (App.ofCalls calls).categories
    let left := (s.delete id).2
    (∀ c ∈ s.categories, c.id ≤ calls.length) ∧
      (∀ c ∈ left.categories, HasParent s.categories c →
        (HasParent left.categories c ↔ ¬ Hangs s.categories (some id) 1 c)) ∧
      (∀ c ∈ left.categories,
        left.Lists c ↔ s.Lists c ∧ ∀ k, ¬ Hangs s.categories (some id) k c) ∧
      (s.KeepsFamilies left ↔ ∀ c ∈ left.categories, ¬ Hangs s.categories (some id) 1 c) := by
  intro s left
  have distinct : Numbered Category.id calls.length s.categories :=
    (App.ofCalls_numbered calls).categories
  have hparents : ∀ c ∈ left.categories, HasParent s.categories c →
      (HasParent left.categories c ↔ ¬ Hangs s.categories (some id) 1 c) :=
    fun c hc => CategoryStore.hasParent_delete_iff distinct hc
  have hlists : ∀ c ∈ left.categories,
      (left.Lists c ↔ s.Lists c ∧ ∀ k, ¬ Hangs s.categories (some id) k c) := by
    intro c hc
    rw [CategoryStore.lists_iff_rooted (distinct.removes (CategoryStore.delete_removes id)) hc,
      CategoryStore.lists_iff_rooted distinct (CategoryStore.mem_delete_iff.mp hc).1,
      CategoryStore.rooted_delete_iff distinct hc]
  refine ⟨distinct.bounded, hparents, hlists, fun h c hc htwo => ?_,
    fun htwo => ⟨fun c hc hparent => ?_, fun c hc hlisted => ?_⟩⟩
  · have hparent : HasParent s.categories c := by
      cases htwo with
      | deeper above _ step => exact ⟨_, above.mem, step⟩
    exact (hparents c hc hparent).mp (h.parents c hc hparent) htwo
  · exact (hparents c hc hparent).mpr (htwo c hc)
  · exact (hlists c hc).mpr ⟨hlisted, fun k hk => CategoryStore.not_hangs_of_two htwo hk hc⟩

/-- Three categories, each below the one before. -/
def chainCalls : List Call :=
  [.category (.create ⟨"top", none, none, 0⟩), .category (.create ⟨"middle", none, some 1, 0⟩),
    .category (.create ⟨"bottom", none, some 2, 0⟩)]

/-- The last of the three. -/
def bottom : Category := ⟨3, "bottom", none, some 2, 0, true⟩

theorem bottom_hangs : Hangs (App.ofCalls chainCalls).categories.categories (some 1) 1 bottom :=
  .deeper (.directly (c := ⟨2, "middle", none, some 1, 0, true⟩) (by decide) rfl) (by decide) rfl

/-- A deletion at the top of a chain takes its second category away as well, and leaves the
third one behind, without a parent and outside the tree. -/
theorem delete_keeps_families_iff_chain :
    let s := (App.ofCalls chainCalls).categories
    let left := (s.delete 1).2
    bottom ∈ left.categories ∧ HasParent s.categories bottom ∧
      ¬ HasParent left.categories bottom ∧ ¬ left.Lists bottom ∧ ¬ s.KeepsFamilies left := by
  intro s left
  obtain ⟨-, hparents, hlists, hkeeps⟩ := delete_keeps_families_iff chainCalls 1
  have hleft : bottom ∈ left.categories := by decide
  have hparent : HasParent s.categories bottom := by decide
  exact ⟨hleft, hparent, fun h => (hparents bottom hleft hparent).mp h bottom_hangs,
    fun h => ((hlists bottom hleft).mp h).2 1 bottom_hangs,
    fun h => hkeeps.mp h bottom hleft bottom_hangs⟩

/-- Deletions do not keep the families that are left over together. -/
theorem not_forall_keepsFamilies :
    ¬ ∀ (calls : List Call) (id : Int),
      let s := (App.ofCalls calls).categories
      s.KeepsFamilies (s.delete id).2 := by
  intro h
  have hparent := (h chainCalls 1).parents bottom (by decide) (by decide)
  exact absurd hparent (by decide)

end TraitRoutes.Demo
