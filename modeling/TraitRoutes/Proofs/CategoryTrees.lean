import Mathlib.Data.List.Perm.Subperm
import TraitRoutes.Proofs.StoredRecords

/-!
# The category tree

What a category hangs below is a number that the client made up. It may be that of
no category, of a later one, of the category itself, or of one that hangs below it,
and the recursion that makes the tree follows these numbers without looking where
it has been. It comes to an end all the same, and the fuel that it runs on here is
never what ends it.

The reason is that it starts from categories without a parent. In a reachable state
a number has one category, so the way up from a category is determined, and one that
leads to the top leads there in a number of steps that is fixed, the depth. The
categories on this way have all depths below it, hence differ, and a way from the
top is no longer than the store. A cycle has no way to the top, so the recursion
never gets into one, and neither does it come to a category twice: two ways down to
it would be two ways up from it.
-/

namespace TraitRoutes.Demo

variable {all : List Category} {bound : Nat}

/-- The recursion below a parent comes to an end, with the given nodes. -/
inductive Grows (all : List Category) : Option Int → List CategoryNode → Prop where
  | sorted {parent : Option Int} {children : Category → List CategoryNode}
      (below : ∀ c ∈ all, c.parentId = parent → Grows all (some c.id) (children c)) :
      Grows all parent (((all.filter (·.parentId == parent)).map fun c =>
        .node c.id c.name c.sortOrder (children c)).mergeSort CategoryNode.le)

/-- The way up from a category leads to a parent, past the given number of categories. -/
inductive Hangs (all : List Category) (parent : Option Int) : Nat → Category → Prop where
  | directly {c : Category} (mem : c ∈ all) (step : c.parentId = parent) : Hangs all parent 0 c
  | deeper {k : Nat} {p c : Category} (above : Hangs all parent k p) (mem : c ∈ all)
      (step : c.parentId = some p.id) : Hangs all parent (k + 1) c

/-- The way up from a category leads to one without a parent. -/
def Rooted (all : List Category) (c : Category) : Prop := ∃ depth, Hangs all none depth c

/-- What is listed of a category, and what it is listed below. -/
structure CategoryPlace where
  parent : Option Int
  id : Int
  name : String
  sortOrder : Int

def Category.place (c : Category) : CategoryPlace := ⟨c.parentId, c.id, c.name, c.sortOrder⟩

mutual

/-- The places in a node below a parent. -/
def CategoryNode.places (parent : Option Int) : CategoryNode → List CategoryPlace
  | .node id name order children => ⟨parent, id, name, order⟩ :: placesOf (some id) children

/-- The places in nodes below a parent. -/
def placesOf (parent : Option Int) : List CategoryNode → List CategoryPlace
  | [] => []
  | n :: rest => n.places parent ++ placesOf parent rest

end

mutual

/-- The children of a node, and those of each node below it. -/
def CategoryNode.families : CategoryNode → List (List CategoryNode)
  | .node _ _ _ children => children :: familiesOf children

/-- The children of each of the nodes and of each node below them. -/
def familiesOf : List CategoryNode → List (List CategoryNode)
  | [] => []
  | n :: rest => n.families ++ familiesOf rest

end

/-- A node comes in front of another one by its place, and with the same place by its
number. -/
def CategoryNode.Precedes (a b : CategoryNode) : Prop :=
  a.sortOrder < b.sortOrder ∨ a.sortOrder = b.sortOrder ∧ a.id < b.id

/-! ## Ways up -/

namespace Hangs

variable {k m n : Nat} {parent parent' : Option Int} {c d : Category}

theorem mem (h : Hangs all parent k c) : c ∈ all := by
  cases h with
  | directly mem _ => exact mem
  | deeper _ mem _ => exact mem

theorem trans (hd : Hangs all (some c.id) k d) (hc : Hangs all parent m c) :
    Hangs all parent (m + k + 1) d := by
  induction hd with
  | directly mem step => exact .deeper hc mem step
  | deeper _ mem step ih => exact .deeper ih mem step

/-- Seen from above, a category hangs directly below the parent or below a child of it. -/
theorem cases_top (h : Hangs all parent k d) :
    d.parentId = parent ∨ ∃ c ∈ all, c.parentId = parent ∧ ∃ j, Hangs all (some c.id) j d := by
  induction h with
  | directly _ step => exact .inl step
  | @deeper k p d above mem step ih =>
      rcases ih with hp | ⟨c, hc, hparent, j, hj⟩
      · exact .inr ⟨p, above.mem, hp, 0, .directly mem step⟩
      · exact .inr ⟨c, hc, hparent, j + 1, .deeper hj mem step⟩

/-- As many steps up from a category lead to one number. -/
theorem parent_unique (distinct : Numbered Category.id bound all) (h : Hangs all parent k c)
    (h' : Hangs all parent' k c) : parent = parent' := by
  induction h with
  | directly _ step =>
      cases h' with
      | directly _ step' => exact step.symm.trans step'
  | deeper above _ step ih =>
      cases h' with
      | deeper above' _ step' =>
          have hid := Option.some.inj (step.symm.trans step')
          obtain rfl := distinct.eq_of_number above.mem above'.mem hid
          exact ih above'

theorem depth_unique (distinct : Numbered Category.id bound all) (h : Hangs all none m c)
    (h' : Hangs all none n c) : m = n := by
  induction h generalizing n with
  | directly _ step =>
      cases h' with
      | directly => rfl
      | deeper _ _ step' =>
          rw [step] at step'
          cases step'
  | deeper above _ step ih =>
      cases h' with
      | directly _ step' =>
          rw [step] at step'
          cases step'
      | deeper above' _ step' =>
          have hid := Option.some.inj (step.symm.trans step')
          obtain rfl := distinct.eq_of_number above.mem above'.mem hid
          rw [ih above']

/-- The categories on a way up to the top are as many as its length says, and differ. -/
theorem exists_way (distinct : Numbered Category.id bound all) (h : Hangs all none n c) :
    ∃ way : List Category, way.Nodup ∧ way ⊆ all ∧ way.length = n + 1 ∧
      ∀ p ∈ way, ∃ m ≤ n, Hangs all none m p := by
  induction h with
  | @directly c mem step =>
      refine ⟨[c], List.nodup_singleton _, List.cons_subset.mpr ⟨mem, List.nil_subset _⟩, rfl, fun p hp => ?_⟩
      rw [List.mem_singleton.mp hp]
      exact ⟨0, Nat.le_refl _, .directly mem step⟩
  | @deeper n p c above mem step ih =>
      obtain ⟨way, hnodup, hsubset, hlength, hdepths⟩ := ih
      have hc : Hangs all none (n + 1) c := .deeper above mem step
      have hfresh : c ∉ way := by
        intro hmem
        obtain ⟨m, hm, hdepth⟩ := hdepths c hmem
        have heq := hc.depth_unique distinct hdepth
        omega
      refine ⟨c :: way, List.nodup_cons.mpr ⟨hfresh, hnodup⟩,
        List.cons_subset.mpr ⟨mem, hsubset⟩, ?_, fun q hq => ?_⟩
      · rw [List.length_cons, hlength]
      · rcases List.mem_cons.mp hq with rfl | hq
        · exact ⟨n + 1, Nat.le_refl _, hc⟩
        · obtain ⟨m, hm, hdepth⟩ := hdepths q hq
          exact ⟨m, Nat.le_succ_of_le hm, hdepth⟩

theorem lt_length (distinct : Numbered Category.id bound all) (h : Hangs all none n c) :
    n < all.length := by
  obtain ⟨way, hnodup, hsubset, hlength, -⟩ := h.exists_way distinct
  have hle := (List.subperm_of_subset hnodup hsubset).length_le
  omega

end Hangs

/-! ## The recursion comes to an end -/

/-- Below a category on the way from the top there is fuel for every category that is not on
the way. -/
theorem grows_subtree (distinct : Numbered Category.id bound all) :
    ∀ {fuel n : Nat} {c : Category}, Hangs all none n c → n + fuel = all.length →
      Grows all (some c.id) (CategoryStore.subtree all fuel (some c.id)) := by
  intro fuel
  induction fuel with
  | zero =>
      intro n c hc hfuel
      have hlt := hc.lt_length distinct
      omega
  | succ fuel ih =>
      intro n c hc hfuel
      rw [CategoryStore.subtree]
      exact .sorted fun d hd hparent => ih (.deeper hc hd hparent) (by omega)

theorem grows_tree {s : CategoryStore} (distinct : Numbered Category.id bound s.categories) :
    Grows s.categories none s.tree := by
  rw [CategoryStore.tree, CategoryStore.subtree]
  exact .sorted fun c hc hparent => grows_subtree distinct (.directly hc hparent) (Nat.zero_add _)

theorem Grows.unique {parent : Option Int} {nodes nodes' : List CategoryNode}
    (h : Grows all parent nodes) (h' : Grows all parent nodes') : nodes = nodes' := by
  induction h generalizing nodes' with
  | @sorted parent children below ih =>
      cases h' with
      | @sorted _ children' below' =>
          have hnodes : ∀ c ∈ all.filter (·.parentId == parent),
              CategoryNode.node c.id c.name c.sortOrder (children c)
                = .node c.id c.name c.sortOrder (children' c) := by
            intro c hc
            obtain ⟨hmem, hparent⟩ := List.mem_filter.mp hc
            rw [ih c hmem (eq_of_beq hparent) (below' c hmem (eq_of_beq hparent))]
          rw [List.map_congr_left hnodes]

/-! ## What the tree holds -/

theorem placesOf_eq_flatMap (parent : Option Int) (nodes : List CategoryNode) :
    placesOf parent nodes = nodes.flatMap (·.places parent) := by
  induction nodes with
  | nil => rfl
  | cons n rest ih => rw [placesOf, ih, List.flatMap_cons]

theorem familiesOf_eq_flatMap (nodes : List CategoryNode) :
    familiesOf nodes = nodes.flatMap CategoryNode.families := by
  induction nodes with
  | nil => rfl
  | cons n rest ih => rw [familiesOf, ih, List.flatMap_cons]

/-- The order of the nodes aside, the places below a parent are those of its children, each
with the places below it. -/
theorem placesOf_sorted {parent : Option Int} (children : Category → List CategoryNode) :
    (placesOf parent (((all.filter (·.parentId == parent)).map fun c =>
        .node c.id c.name c.sortOrder (children c)).mergeSort CategoryNode.le)).Perm
      ((all.filter (·.parentId == parent)).flatMap fun c =>
        c.place :: placesOf (some c.id) (children c)) := by
  rw [placesOf_eq_flatMap]
  refine ((List.mergeSort_perm _ _).flatMap_right _).trans (.of_eq ?_)
  rw [List.flatMap_map]
  refine List.flatMap_congr fun c hc => ?_
  have hparent : c.parentId = parent := eq_of_beq (List.mem_filter.mp hc).2
  rw [CategoryNode.places, Category.place, hparent]

/-- The category is the other one or hangs below it. -/
def Within (all : List Category) (c d : Category) : Prop :=
  d = c ∨ ∃ k, Hangs all (some c.id) k d

theorem Within.mem {c d : Category} (h : Within all c d) (hc : c ∈ all) : d ∈ all := by
  rcases h with rfl | ⟨k, hk⟩
  · exact hc
  · exact hk.mem

/-- Categories of one depth have nothing in common. -/
theorem Within.unique {n : Nat} {c c' d : Category} (distinct : Numbered Category.id bound all)
    (hc : Hangs all none n c) (hc' : Hangs all none n c') (h : Within all c d)
    (h' : Within all c' d) : c = c' := by
  rcases h with rfl | ⟨k, hk⟩ <;> rcases h' with rfl | ⟨k', hk'⟩
  · rfl
  · have hdepth := (hk'.trans hc').depth_unique distinct hc
    omega
  · have hdepth := (hk.trans hc).depth_unique distinct hc'
    omega
  · have hdepth := (hk.trans hc).depth_unique distinct (hk'.trans hc')
    obtain rfl : k = k' := by omega
    have hid := Option.some.inj (hk.parent_unique distinct hk')
    exact distinct.eq_of_number hc.mem hc'.mem hid

theorem within_child_iff {parent : Option Int} {d : Category} :
    (∃ k, Hangs all parent k d) ↔ ∃ c ∈ all, c.parentId = parent ∧ Within all c d := by
  constructor
  · rintro ⟨k, hk⟩
    rcases hk.cases_top with hparent | ⟨c, hc, hparent, hbelow⟩
    · exact ⟨d, hk.mem, hparent, .inl rfl⟩
    · exact ⟨c, hc, hparent, .inr hbelow⟩
  · rintro ⟨c, hc, hparent, rfl | ⟨k, hk⟩⟩
    · exact ⟨0, .directly hc hparent⟩
    · exact ⟨_, hk.trans (.directly hc hparent)⟩

/-- Below a parent stand the categories that hang below it. -/
theorem mem_placesOf_iff {parent : Option Int} {nodes : List CategoryNode} {x : CategoryPlace}
    (h : Grows all parent nodes) :
    x ∈ placesOf parent nodes ↔ ∃ d, (∃ k, Hangs all parent k d) ∧ d.place = x := by
  induction h with
  | @sorted parent children below ih =>
      have hchild : ∀ c ∈ all, c.parentId = parent →
          (x ∈ c.place :: placesOf (some c.id) (children c) ↔
            ∃ d, Within all c d ∧ d.place = x) := by
        intro c hc hparent
        rw [List.mem_cons, ih c hc hparent]
        constructor
        · rintro (rfl | ⟨d, hd, rfl⟩)
          · exact ⟨c, .inl rfl, rfl⟩
          · exact ⟨d, .inr hd, rfl⟩
        · rintro ⟨d, rfl | hd, rfl⟩
          · exact .inl rfl
          · exact .inr ⟨d, hd, rfl⟩
      rw [(placesOf_sorted children).mem_iff, List.mem_flatMap]
      constructor
      · rintro ⟨c, hc, hx⟩
        obtain ⟨hmem, hparent⟩ := List.mem_filter.mp hc
        obtain ⟨d, hd, rfl⟩ := (hchild c hmem (eq_of_beq hparent)).mp hx
        exact ⟨d, within_child_iff.mpr ⟨c, hmem, eq_of_beq hparent, hd⟩, rfl⟩
      · rintro ⟨d, hd, rfl⟩
        obtain ⟨c, hmem, hparent, hwithin⟩ := within_child_iff.mp hd
        refine ⟨c, List.mem_filter.mpr ⟨hmem, beq_iff_eq.mpr hparent⟩, ?_⟩
        exact (hchild c hmem hparent).mpr ⟨d, hwithin, rfl⟩

theorem place_inj (distinct : Numbered Category.id bound all) {c d : Category} (hc : c ∈ all)
    (hd : d ∈ all) (h : c.place = d.place) : c = d :=
  distinct.eq_of_number hc hd (congrArg CategoryPlace.id h)

/-- Below a parent on the way from the top no category stands twice. -/
theorem nodup_placesOf {parent : Option Int} {nodes : List CategoryNode}
    (distinct : Numbered Category.id bound all) (h : Grows all parent nodes) :
    ∀ {n : Nat}, (∀ c ∈ all, c.parentId = parent → Hangs all none n c) →
      (placesOf parent nodes).Nodup := by
  induction h with
  | @sorted parent children below ih =>
      intro n hdepth
      have hchild : ∀ c ∈ all, c.parentId = parent → ∀ x,
          x ∈ c.place :: placesOf (some c.id) (children c) →
            ∃ d, Within all c d ∧ d ∈ all ∧ d.place = x := by
        intro c hc hparent x hx
        rcases List.mem_cons.mp hx with rfl | hx
        · exact ⟨c, .inl rfl, hc, rfl⟩
        · obtain ⟨d, hd, rfl⟩ := (mem_placesOf_iff (below c hc hparent)).mp hx
          have hwithin : Within all c d := .inr hd
          exact ⟨d, hwithin, hwithin.mem hc, rfl⟩
      rw [(placesOf_sorted children).nodup_iff, List.nodup_flatMap]
      constructor
      · intro c hc
        obtain ⟨hmem, hparent⟩ := List.mem_filter.mp hc
        have hc' := hdepth c hmem (eq_of_beq hparent)
        refine List.nodup_cons.mpr ⟨fun hself => ?_, ?_⟩
        · obtain ⟨d, ⟨k, hk⟩, hplace⟩ :=
            (mem_placesOf_iff (below c hmem (eq_of_beq hparent))).mp hself
          obtain rfl := place_inj distinct hk.mem hmem hplace
          have heq := (hk.trans hc').depth_unique distinct hc'
          omega
        · exact ih c hmem (eq_of_beq hparent) fun d hd hstep => .deeper hc' hd hstep
      · have hne : (all.filter (·.parentId == parent)).Pairwise (· ≠ ·) :=
          (List.Nodup.of_map _ distinct.nodup).filter _
        refine hne.imp_of_mem fun {c c'} hc hc' hneq => ?_
        obtain ⟨hmem, hparent⟩ := List.mem_filter.mp hc
        obtain ⟨hmem', hparent'⟩ := List.mem_filter.mp hc'
        intro x hx hx'
        obtain ⟨d, hd, hdmem, rfl⟩ := hchild c hmem (eq_of_beq hparent) x hx
        obtain ⟨d', hd', hdmem', hplace⟩ := hchild c' hmem' (eq_of_beq hparent') _ hx'
        obtain rfl := place_inj distinct hdmem' hdmem hplace
        exact hneq (hd.unique distinct (hdepth c hmem (eq_of_beq hparent))
          (hdepth c' hmem' (eq_of_beq hparent')) hd')

/-! ## Siblings -/

namespace CategoryNode

theorem precedes_of_le {a b : CategoryNode} (hle : le a b = true)
    (hid : a.id ≠ b.id) : a.Precedes b := by
  rw [le, Bool.or_eq_true, Bool.and_eq_true, decide_eq_true_eq, beq_iff_eq,
    decide_eq_true_eq] at hle
  rcases hle with hlt | ⟨heq, hle⟩
  · exact .inl hlt
  · exact .inr ⟨heq, by omega⟩

theorem le_trans (a b c : CategoryNode) (hab : le a b = true) (hbc : le b c = true) :
    le a c = true := by
  simp only [le, Bool.or_eq_true, Bool.and_eq_true, decide_eq_true_eq, beq_iff_eq] at *
  omega

theorem le_total (a b : CategoryNode) : (le a b || le b a) = true := by
  simp only [le, Bool.or_eq_true, Bool.and_eq_true, decide_eq_true_eq, beq_iff_eq]
  omega

/-- Sorted nodes of different numbers stand in strict order. -/
theorem pairwise_precedes {nodes : List CategoryNode} (h : (nodes.map CategoryNode.id).Nodup) :
    (nodes.mergeSort le).Pairwise Precedes := by
  have hids : ((nodes.mergeSort le).map CategoryNode.id).Nodup :=
    (((List.mergeSort_perm nodes le).map _).nodup_iff).mpr h
  have hle : (nodes.mergeSort le).Pairwise fun a b => le a b = true :=
    List.pairwise_mergeSort le_trans le_total nodes
  rw [List.Nodup, List.pairwise_map] at hids
  exact (hle.and hids).imp fun h => precedes_of_le h.1 h.2

end CategoryNode

theorem pairwise_families {parent : Option Int} {nodes : List CategoryNode}
    (distinct : Numbered Category.id bound all) (h : Grows all parent nodes) :
    ∀ siblings ∈ nodes :: familiesOf nodes, siblings.Pairwise CategoryNode.Precedes := by
  induction h with
  | @sorted parent children below ih =>
      intro siblings hsiblings
      rcases List.mem_cons.mp hsiblings with rfl | hbelow
      · refine CategoryNode.pairwise_precedes ?_
        rw [List.map_map]
        exact distinct.nodup.sublist (List.filter_sublist.map _)
      · rw [familiesOf_eq_flatMap, ((List.mergeSort_perm _ _).flatMap_right _).mem_iff,
          List.flatMap_map, List.mem_flatMap] at hbelow
        obtain ⟨c, hc, hmem⟩ := hbelow
        obtain ⟨hall, hparent⟩ := List.mem_filter.mp hc
        exact ih c hall (eq_of_beq hparent) siblings hmem

/-! ## The tree -/

open Classical in
/-- In every state that calls lead to, the recursion from the top comes to an end, with the
tree. The tree has a place for each category from which the parents lead to one without a
parent, and for no other, one place for each and below its parent; and siblings stand in the
order of their places and numbers. -/
theorem tree_holds_rooted (calls : List Call) :
    let s := (App.ofCalls calls).categories
    (∀ nodes, Grows s.categories none nodes ↔ nodes = s.tree) ∧
      (placesOf none s.tree).Perm ((s.categories.filter fun c => Rooted s.categories c).map
        Category.place) ∧
      ∀ siblings ∈ s.tree :: familiesOf s.tree, siblings.Pairwise CategoryNode.Precedes := by
  intro s
  have distinct : Numbered Category.id calls.length s.categories :=
    (App.ofCalls_numbered calls).categories
  have hgrows : Grows s.categories none s.tree := grows_tree distinct
  refine ⟨fun nodes => ⟨fun h => h.unique hgrows, fun h => h ▸ hgrows⟩, ?_,
    pairwise_families distinct hgrows⟩
  have hplaces : ((s.categories.filter fun c => Rooted s.categories c).map
      Category.place).Nodup := by
    have hall : (s.categories.filter fun c => Rooted s.categories c).Nodup :=
      (List.Nodup.of_map _ distinct.nodup).filter _
    refine hall.map_on fun c hc d hd heq => ?_
    exact place_inj distinct (List.mem_filter.mp hc).1 (List.mem_filter.mp hd).1 heq
  refine (List.perm_ext_iff_of_nodup
    (nodup_placesOf distinct hgrows fun c hc hparent => .directly hc hparent) hplaces).mpr ?_
  intro x
  rw [mem_placesOf_iff hgrows, List.mem_map]
  refine exists_congr fun d => and_congr_left fun _ => ?_
  rw [List.mem_filter, decide_eq_true_eq]
  exact ⟨fun hd => ⟨hd.choose_spec.mem, hd⟩, fun hd => hd.2⟩

end TraitRoutes.Demo
