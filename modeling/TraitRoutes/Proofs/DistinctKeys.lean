import Mathlib.Data.List.Nodup

/-!
# Lists told apart by a key

Parameters are told apart by their names, and so is what a handler binds for them.
In a list without two elements of one key, whoever searches by the key of an
element finds that element, from either end, and finds nothing else.
-/

namespace TraitRoutes

variable {α β : Type} [BEq β] [LawfulBEq β] (key : α → β) {xs : List α} {x : α}

theorem find?_key (distinct : (xs.map key).Nodup) (hx : x ∈ xs) :
    xs.find? (fun y => key y == key x) = some x := by
  cases hfind : xs.find? (fun y => key y == key x) with
  | none =>
      have hno := List.find?_eq_none.mp hfind x hx
      simp at hno
  | some y =>
      have hkey : key y = key x := by simpa using List.find?_some hfind
      rw [List.inj_on_of_nodup_map distinct (List.mem_of_find?_eq_some hfind) hx hkey]

theorem find?_key_reverse (distinct : (xs.map key).Nodup) (hx : x ∈ xs) :
    xs.reverse.find? (fun y => key y == key x) = some x := by
  refine find?_key key ?_ (List.mem_reverse.mpr hx)
  rw [List.map_reverse]
  exact List.nodup_reverse.mpr distinct

theorem filter_key (distinct : (xs.map key).Nodup) (hx : x ∈ xs) :
    xs.filter (fun y => key y == key x) = [x] := by
  induction xs with
  | nil => cases hx
  | cons y rest ih =>
      obtain ⟨hfresh, hrest⟩ := List.nodup_cons.mp distinct
      rw [List.filter_cons]
      rcases List.mem_cons.mp hx with rfl | hx
      · have hnone : rest.filter (fun y => key y == key x) = [] := by
          refine List.filter_eq_nil_iff.mpr fun z hz hkey => hfresh ?_
          rw [← eq_of_beq hkey]
          exact List.mem_map_of_mem hz
        rw [if_pos BEq.rfl, hnone]
      · have hne : ¬ (key y == key x) = true := by
          intro hkey
          rw [eq_of_beq hkey] at hfresh
          exact hfresh (List.mem_map_of_mem hx)
        rw [if_neg hne, ih hrest hx]

/-- What was made from an element is found by the key that it has from there. -/
theorem filter_map_key {γ : Type} {f : α → γ} {madeKey : γ → β}
    (hkey : ∀ y, madeKey (f y) = key y) (distinct : (xs.map key).Nodup) (hx : x ∈ xs) :
    (xs.map f).filter (fun z => madeKey z == key x) = [f x] := by
  rw [List.filter_map, Function.comp_def]
  simp only [hkey]
  rw [filter_key key distinct hx, List.map_singleton]

end TraitRoutes
