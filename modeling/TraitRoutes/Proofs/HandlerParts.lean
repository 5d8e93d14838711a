import TraitRoutes.Proofs.Interruption

/-!
# The parts of a handler function

The extractors of a function and its query structure are made from the parameters of
one binding each. Where there is no such parameter the part is missing, so whatever is
read off the part is read off these parameters, with nothing to say about the empty
case. The body is the exception: only the first of its parameters is extracted, and it
takes the check of bodies to know that there is no second one.
-/

namespace TraitRoutes

open Synthesis

variable {h : Handler} {p : Parameter}

/-- The type of uploaded files. -/
def Ident.formFile : Ident := .plain "FormFile"

theorem mem_boundTo {b : Binding} : p ∈ h.boundTo b ↔ p ∈ h.params ∧ p.binding = b := by
  simp [Handler.boundTo]

/-- A body is read by nothing, or once and then there is no form. -/
theorem body_cases (hbody : h.checkBody = .ok ()) :
    h.boundTo .body = [] ∨ (∃ p, h.boundTo .body = [p]) ∧ h.boundTo .form = [] := by
  rw [Handler.checkBody] at hbody
  split at hbody
  · cases hbody
  · next hfew =>
      split at hbody
      · cases hbody
      · next hform =>
          cases hb : h.boundTo .body with
          | nil => exact .inl rfl
          | cons p rest =>
              cases rest with
              | cons q more => simp [hb] at hfew
              | nil => simpa [hb] using hform

/-! ## Arguments -/

/-- There is one argument for each parameter, in their order. -/
theorem forall₂_argument {fn : HandlerFn} (hfn : handlerFn h = .ok fn) :
    List.Forall₂ (fun p a => argument p = .ok a) h.params fn.args := by
  obtain ⟨i, args, -, hargs, rfl⟩ := handlerFn_ok_iff.mp hfn
  exact forall₂_of_mapM_ok hargs

theorem map_fallback_ok {name text : String} {f : Fallback → Argument} {a : Argument}
    (ha : (fallback name text).map f = .ok a) :
    ∃ d, fallback name text = .ok d ∧ a = f d := by
  cases hd : fallback name text with
  | error e => rw [hd] at ha; cases ha
  | ok d =>
      rw [hd] at ha
      exact ⟨d, rfl, (Except.ok.inj ha).symm⟩

/-! ## Structures and statements -/

theorem isSome_queryStruct {i : Ident} :
    (queryStruct i h).isSome = !(h.boundTo .query).isEmpty := by
  unfold queryStruct
  split
  · next hnil => rw [hnil]; rfl
  · next hne =>
      rw [List.isEmpty_eq_false_iff.mpr hne]
      rfl

theorem queryStruct_eq_some {i : Ident} {q : QueryStruct} (hq : queryStruct i h = some q) :
    q = ⟨i, (h.boundTo .query).map queryField⟩ := by
  unfold queryStruct at hq
  split at hq
  · cases hq
  · exact (Option.some.inj hq).symm

/-- Files are taken for the same parameters in another order. -/
theorem fileOrder_perm (ps : List Parameter) : (fileOrder ps).Perm ps := by
  have hsplit := List.filter_append_perm (fileShape · ≠ .collection) ps
  have hrest : (fun p => !decide (fileShape p ≠ .collection))
      = fun p => decide (fileShape p = .collection) := by
    funext p
    by_cases hp : fileShape p = .collection <;> simp [hp]
  rwa [hrest] at hsplit

theorem isEmpty_fileBindings : (fileBindings h).isEmpty = (h.boundTo .form).isEmpty := by
  rw [fileBindings, List.isEmpty_map, (fileOrder_perm _).isEmpty_eq]

/-! ## Extractors -/

section Extractors

variable {α : Type} {f : Extractor → List α}

theorem flatMap_pathExtractor {g : Parameter → α}
    (hf : ∀ ps : List Parameter,
      f (.path (ps.map fun p => (p.ident, captureType p))) = ps.map g) :
    (pathExtractor h).flatMap f = (h.boundTo .route).map g := by
  unfold pathExtractor
  split
  · next hnil => rw [hnil]; rfl
  · rw [List.flatMap_singleton, hf]

theorem flatMap_queryExtractor {i : Ident} {g : Parameter → α}
    (hf : ∀ q, queryStruct i h = some q → f (.query i) = (h.boundTo .query).map g) :
    (if (queryStruct i h).isSome then [Extractor.query i] else []).flatMap f
      = (h.boundTo .query).map g := by
  cases hq : queryStruct i h with
  | some q => exact (List.flatMap_singleton _ _).trans (hf q hq)
  | none =>
      have hempty := isSome_queryStruct (h := h) (i := i)
      rw [hq, Option.isSome_none, Bool.false_eq, Bool.not_eq_false', List.isEmpty_iff] at hempty
      rw [hempty]
      rfl

theorem flatMap_bodyExtractor {g : Parameter → α} (hbody : h.checkBody = .ok ())
    (hf : ∀ p : Parameter, f (.json p.ident p.ty) = [g p]) :
    (bodyExtractor h).flatMap f = (h.boundTo .body).map g := by
  unfold bodyExtractor
  rcases body_cases hbody with hb | ⟨⟨p, hb⟩, -⟩
  · rw [hb]
    rfl
  · rw [hb]
    exact (List.flatMap_singleton _ _).trans (hf p)

end Extractors

end TraitRoutes
