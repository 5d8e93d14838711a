import Mathlib.Data.List.Perm.Basic
import TraitRoutes.Attributes.Helper
import TraitRoutes.Proofs.GeneratedNames
import TraitRoutes.Proofs.Sequencing

/-!
# What helper attributes say

A helper attribute that was read stood once, so whatever holds of an attribute of its
name holds of the one that was read. The entries of a list of defaults come sorted by
their names, which is another order and nothing else, and no two of them have one name.
-/

namespace TraitRoutes

namespace Ident

theorem name_ne_raw (i : Ident) (name : String) : i.name ≠ "r#" ++ name := by
  intro h
  have hmem : '#' ∈ i.name.toList := by
    rw [h, String.toList_append]
    simp
  exact absurd (List.all_eq_true.mp (all_of_isLegal i.legal) _ hmem) (by decide)

theorem eq_of_raw_of_name {i j : Ident} (hraw : i.raw = j.raw) (hname : i.name = j.name) :
    i = j := by
  cases i
  cases j
  cases hraw
  cases hname
  rfl

theorem text_inj {i j : Ident} (h : i.text = j.text) : i = j := by
  rw [text, text] at h
  cases hi : i.raw <;> cases hj : j.raw <;> simp only [hi, hj, if_true, if_false,
    Bool.false_eq_true] at h
  · exact eq_of_raw_of_name (hi.trans hj.symm) h
  · exact absurd h (i.name_ne_raw _)
  · exact absurd h.symm (j.name_ne_raw _)
  · exact eq_of_raw_of_name (hi.trans hj.symm) (String.append_right_inj _ |>.mp h)

end Ident

namespace Helper

variable {h : Helper} {attrs : List Attribute}

/-- What a helper says was read from the only attribute of its name, or there is none. -/
theorem read_ok {α : Type} {missing value : α} {read : List Token → Except SyntaxError α}
    (hread : (do
      match ← find? h attrs with
      | none => pure missing
      | some a => read (← arguments a)) = Except.ok value) :
    (attrs.filter h.isNamed = [] ∧ value = missing) ∨
      ∃ a ts, attrs.filter h.isNamed = [a] ∧ arguments a = .ok ts ∧ read ts = .ok value := by
  obtain ⟨found, hfound, hread⟩ := bind_ok_iff.mp hread
  unfold find? at hfound
  split at hfound
  · next hnone =>
      obtain rfl := Except.ok.inj hfound
      exact .inl ⟨hnone, (Except.ok.inj hread).symm⟩
  · next a hone =>
      obtain rfl := Except.ok.inj hfound
      obtain ⟨ts, hts, hread⟩ := bind_ok_iff.mp hread
      exact .inr ⟨a, ts, hone, hts, hread⟩
  · cases hfound

theorem verbIn_ok {explicit : Option Verb} (hverb : verbIn attrs = .ok explicit) :
    (attrs.filter httpMethod.isNamed = [] ∧ explicit = none) ∨
      ∃ a ts verb, attrs.filter httpMethod.isNamed = [a] ∧ arguments a = .ok ts ∧
        readVerb ts = .ok verb ∧ explicit = some verb := by
  rcases read_ok hverb with hnone | ⟨a, ts, hone, hts, hread⟩
  · exact .inl hnone
  · cases hverb : readVerb ts with
    | error e => rw [hverb] at hread; cases hread
    | ok verb =>
        rw [hverb] at hread
        exact .inr ⟨a, ts, verb, hone, hts, hverb, (Except.ok.inj hread).symm⟩

theorem defaultsIn_ok {defaults : List DefaultEntry} (hdefaults : defaultsIn attrs = .ok defaults) :
    (attrs.filter defaultValue.isNamed = [] ∧ defaults = []) ∨
      ∃ a ts, attrs.filter defaultValue.isNamed = [a] ∧ arguments a = .ok ts ∧
        DefaultEntry.parse ts = .ok defaults :=
  read_ok hdefaults

end Helper

/-! ## Lists of defaults -/

namespace DefaultEntry

/-- The name of an entry as written. -/
def key (e : DefaultEntry) : String := e.name.text

theorem insert_perm (e : DefaultEntry) (es : List DefaultEntry) : (insert e es).Perm (e :: es) := by
  induction es with
  | nil => exact .refl _
  | cons first rest ih =>
      rw [insert]
      split
      · exact .refl _
      · exact (ih.cons first).trans (.swap e first rest)

theorem foldr_insert_perm (es : List DefaultEntry) : (es.foldr insert []).Perm es := by
  induction es with
  | nil => exact .refl _
  | cons e rest ih => exact (insert_perm e _).trans (ih.cons e)

theorem nodup_of_firstRepeated? {es : List DefaultEntry} :
    ∀ {seen : List String}, firstRepeated? seen es = none →
      (es.map key).Nodup ∧ ∀ e ∈ es, key e ∉ seen := by
  induction es with
  | nil => exact fun _ => ⟨.nil, by simp⟩
  | cons e rest ih =>
      intro seen h
      rw [firstRepeated?] at h
      split at h
      · cases h
      · next hfresh =>
          obtain ⟨hnodup, hseen⟩ := ih h
          rw [List.contains_iff_mem] at hfresh
          refine ⟨List.nodup_cons.mpr ⟨fun hmem => ?_, hnodup⟩, fun f hf => ?_⟩
          · obtain ⟨f, hf, heq⟩ := List.mem_map.mp hmem
            exact hseen f hf (heq ▸ List.mem_cons_self)
          · rcases List.mem_cons.mp hf with rfl | hf
            · exact hfresh
            · exact fun hmem => hseen f hf (List.mem_cons_of_mem _ hmem)

/-- A list of defaults has the entries that were read, each name once. -/
theorem parse_ok {ts : List Token} {es : List DefaultEntry} (h : parse ts = .ok es) :
    ∃ entries, readAll ts = .ok entries ∧ es.Perm entries ∧ (es.map key).Nodup := by
  obtain ⟨entries, hentries, h⟩ := bind_ok_iff.mp h
  split at h
  · cases h
  · next hfresh =>
      obtain rfl := Except.ok.inj h
      have hperm := foldr_insert_perm entries
      exact ⟨entries, hentries, hperm,
        ((hperm.map key).nodup_iff).mpr (nodup_of_firstRepeated? hfresh).1⟩

theorem firstRepeated?_eq_none {es : List DefaultEntry} :
    ∀ {seen : List String}, (es.map key).Nodup → (∀ e ∈ es, key e ∉ seen) →
      firstRepeated? seen es = none := by
  induction es with
  | nil => intros; rfl
  | cons e rest ih =>
      intro seen distinct fresh
      rw [List.map_cons, List.nodup_cons] at distinct
      have hfresh := fresh e List.mem_cons_self
      rw [← List.contains_iff_mem] at hfresh
      rw [firstRepeated?, show e.name.text = key e from rfl, if_neg hfresh]
      refine ih distinct.2 fun f hf hseen => ?_
      rcases List.mem_cons.mp hseen with heq | hseen
      · exact distinct.1 (heq ▸ List.mem_map_of_mem hf)
      · exact fresh f (List.mem_cons_of_mem e hf) hseen

theorem parse_of_readAll {ts : List Token} {entries : List DefaultEntry}
    (h : readAll ts = .ok entries) (distinct : (entries.map key).Nodup) :
    ∃ es, parse ts = .ok es ∧ es.Perm entries := by
  refine ⟨entries.foldr insert [], bind_ok_iff.mpr ⟨entries, h, ?_⟩, foldr_insert_perm entries⟩
  rw [firstRepeated?_eq_none distinct fun e _ => List.not_mem_nil]
  rfl

end DefaultEntry

end TraitRoutes
