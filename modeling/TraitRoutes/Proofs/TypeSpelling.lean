import Mathlib.Logic.Relation
import TraitRoutes.Proofs.RenderedServices
import TraitRoutes.Proofs.ResolvedMethods

/-!
# Types and their spellings

A type can be written in many ways: a path may begin further up in the tree of modules, and
parentheses may stand around anything. Two spellings of one type have one shape.

A single step of respelling changes one path or one pair of parentheses, somewhere along the
last segments of a type. What the classification asks of a type is the last name of its path
and the argument behind it, and a step keeps the name and at most takes a step in the argument.
So the answer is the same after each step, and an equivalence that is generated by steps adds
nothing to prove.

Registered names come in at one place only, behind everything that decides on files.
-/

namespace TraitRoutes

/-! ## Spellings -/

namespace Ty

/-- A step from one spelling of a type to another. -/
inductive Respells : Ty → Ty → Prop
  /-- A path begins further up. -/
  | outward {leading leading' : Bool} {more front : List Segment} {last : Segment} :
      Respells (.path (.mk leading (front ++ [last])))
        (.path (.mk leading' (more ++ front ++ [last])))
  | enclosed {t : Ty} : Respells t (.paren t)
  | inside {t u : Ty} (step : Respells t u) : Respells (.paren t) (.paren u)
  /-- The step is in an argument of the last segment. -/
  | argument {leading turbofish trailing : Bool} {front : List Segment} {wrapper : Ident}
      {before behind : List GenericArg} {t u : Ty} (step : Respells t u) :
      Respells
        (.path (.mk leading
          (front ++ [.mk wrapper (.angle turbofish (before ++ .type t :: behind) trailing)])))
        (.path (.mk leading
          (front ++ [.mk wrapper (.angle turbofish (before ++ .type u :: behind) trailing)])))

/-- The types are spellings of one another. -/
abbrev SameSpelled : Ty → Ty → Prop := Relation.EqvGen Respells

variable {t u : Ty}

theorem lastName?_path {leading : Bool} {front : List Segment} {last : Segment} :
    (Ty.path (.mk leading (front ++ [last]))).lastName? = some last.ident.text := by
  rw [lastName?, path?, Option.bind_some, Path.last?, Path.segments, List.getLast?_concat]
  rfl

theorem lastName?_of_respells (step : Respells t u) : t.lastName? = u.lastName? := by
  induction step with
  | outward => rw [lastName?_path, lastName?_path]
  | enclosed => rfl
  | inside _ ih => exact ih
  | argument => rw [lastName?_path, lastName?_path]; rfl

/-- The argument of a segment, if it has just this one, and a name. -/
def segmentArgument? (wrapper : String) : Segment → Option Ty
  | .mk ident (.angle _ [.type inner] _) => if ident.text == wrapper then some inner else none
  | _ => none

theorem argumentOf?_path (wrapper : String) {leading : Bool} {front : List Segment}
    {last : Segment} :
    (Ty.path (.mk leading (front ++ [last]))).argumentOf? wrapper
      = segmentArgument? wrapper last := by
  rw [argumentOf?, path?, Option.bind_some, Path.last?, Path.segments, List.getLast?_concat]
  unfold segmentArgument?
  obtain ⟨i, args⟩ := last
  split
  · next hlast => cases hlast; rfl
  · next hother =>
      split
      · next hlast => cases hlast; exact absurd rfl (hother _ _ _ _)
      · rfl

theorem segmentArgument?_of_many {wrapper : String} {i : Ident} {turbofish trailing : Bool}
    {args : List GenericArg} (many : args.length ≠ 1) :
    segmentArgument? wrapper (.mk i (.angle turbofish args trailing)) = none := by
  unfold segmentArgument?
  split
  · next hone => cases hone; exact absurd rfl many
  · rfl

/-- Behind a step, a wrapper has the argument that it had, or a step further. -/
theorem argumentOf?_of_respells (step : Respells t u) (wrapper : String) :
    (t.argumentOf? wrapper = none ∧ u.argumentOf? wrapper = none) ∨
      ∃ a b, t.argumentOf? wrapper = some a ∧ u.argumentOf? wrapper = some b ∧
        (a = b ∨ Respells a b) := by
  have same : ∀ {found : Option Ty}, (found = none ∧ found = none) ∨
      ∃ a b, found = some a ∧ found = some b ∧ (a = b ∨ Respells a b) := by
    intro found
    cases found with
    | none => exact .inl ⟨rfl, rfl⟩
    | some a => exact .inr ⟨a, a, rfl, rfl, .inl rfl⟩
  induction step with
  | outward => rw [argumentOf?_path, argumentOf?_path]; exact same
  | enclosed => exact same
  | inside _ ih => exact ih
  | @argument leading turbofish trailing front i before behind t u step _ =>
      rw [argumentOf?_path, argumentOf?_path]
      by_cases one : before = [] ∧ behind = []
      · obtain ⟨rfl, rfl⟩ := one
        rw [List.nil_append, List.nil_append, segmentArgument?, segmentArgument?]
        split
        · exact .inr ⟨t, u, rfl, rfl, .inr step⟩
        · exact .inl ⟨rfl, rfl⟩
      · have many : ∀ t : Ty, (before ++ GenericArg.type t :: behind).length ≠ 1 := by
          intro t hone
          rw [List.length_append, List.length_cons] at hone
          exact one ⟨List.length_eq_zero_iff.mp (by omega), List.length_eq_zero_iff.mp (by omega)⟩
        rw [segmentArgument?_of_many (many t), segmentArgument?_of_many (many u)]
        exact .inl ⟨rfl, rfl⟩

theorem fileShape_of_respells (step : Respells t u) :
    FileShape.ofType? t = FileShape.ofType? u := by
  rw [FileShape.ofType?, FileShape.ofType?, lastName?_of_respells step]
  rcases argumentOf?_of_respells step "Vec" with ⟨ht, hu⟩ | ⟨a, b, ht, hu, hab⟩
  · rw [ht, hu]
  · rw [ht, hu]
    rcases hab with rfl | deeper
    · rfl
    · dsimp only
      rw [lastName?_of_respells deeper]

end Ty

namespace TypeShape

variable {o o' : Options} {t u : Ty}

open Ty (Respells SameSpelled)

theorem ofInner_of_respells (o : Options) (step : Respells t u) : ofInner o t = ofInner o u := by
  rw [ofInner, ofInner, Ty.fileShape_of_respells step, Ty.lastName?_of_respells step]

theorem classify_of_respells (o : Options) (step : Respells t u) : classify o t = classify o u := by
  rw [classify, classify, Ty.optionInner?, Ty.optionInner?]
  rcases Ty.argumentOf?_of_respells step "Option" with ⟨ht, hu⟩ | ⟨a, b, ht, hu, hab⟩
  · rw [ht, hu]
    exact ofInner_of_respells o step
  · rw [ht, hu]
    rcases hab with rfl | deeper
    · rfl
    · exact ofInner_of_respells o deeper

theorem classify_of_sameSpelled (o : Options) (same : SameSpelled t u) :
    classify o t = classify o u := by
  induction same with
  | rel t u step => exact classify_of_respells o step
  | refl t => rfl
  | symm t u _ ih => exact ih.symm
  | trans t u v _ _ first second => exact first.trans second

/-! ## Options of types -/

theorem classify_of_isOption (o : Options) (option : t.IsOption u) :
    classify o t = ofInner o u := by
  rw [classify, Ty.optionInner?_eq_some_iff.mpr option, Option.getD_some]

theorem classify_of_not_isOption (o : Options) (single : ¬ ∃ inner, t.IsOption inner) :
    classify o t = ofInner o t := by
  have hnone : t.optionInner? = none := by
    cases hinner : t.optionInner? with
    | none => rfl
    | some inner => exact absurd ⟨inner, Ty.optionInner?_eq_some_iff.mp hinner⟩ single
  rw [classify, hnone, Option.getD_none]

/-! ## Registered names -/

theorem isSimpleName_mono (more : o.simpleTypes ⊆ o'.simpleTypes) {name : String}
    (simple : o.isSimpleName name = true) : o'.isSimpleName name = true := by
  rw [Options.isSimpleName, Bool.or_eq_true] at simple ⊢
  refine simple.imp_right fun registered => ?_
  rw [List.contains_iff_mem] at registered ⊢
  exact more registered

theorem ofInner_eq_file_iff (t : Ty) (files : FileShape) :
    ofInner o t = .file files ↔ FileShape.ofType? t = some files := by
  rw [ofInner]
  cases FileShape.ofType? t with
  | some shape => simp
  | none =>
      cases t.lastName? with
      | none => simp
      | some name =>
          dsimp only
          split <;> simp

/-- Further names leave a shape as it is, or turn a complex one into a simple one. -/
theorem ofInner_mono (more : o.simpleTypes ⊆ o'.simpleTypes) (t : Ty) :
    ofInner o' t = ofInner o t ∨ ofInner o t = .complex ∧ ofInner o' t = .simple := by
  rw [ofInner, ofInner]
  cases FileShape.ofType? t with
  | some shape => exact .inl rfl
  | none =>
      cases t.lastName? with
      | none => exact .inl rfl
      | some name =>
          dsimp only
          by_cases simple : o.isSimpleName name = true
          · rw [if_pos simple, if_pos (isSimpleName_mono more simple)]
            exact .inl rfl
          · rw [if_neg simple]
            split
            · exact .inr ⟨rfl, rfl⟩
            · exact .inl rfl

/-- The shape of a type does not depend on its spelling, an `Option` that is the only one does
not show, and of registered names all that can come is that a complex type gets simple. -/
theorem classify_depends_on_type (o : Options) :
    (∀ t u : Ty, t.SameSpelled u → classify o t = classify o u) ∧
      (∀ t inner : Ty, t.IsOption inner → (¬ ∃ deeper, inner.IsOption deeper) →
        classify o t = classify o inner) ∧
      ∀ o' : Options, o.simpleTypes ⊆ o'.simpleTypes → ∀ t : Ty,
        (∀ files, classify o t = .file files ↔ classify o' t = .file files) ∧
          (classify o' t = classify o t ∨ classify o t = .complex ∧ classify o' t = .simple) := by
  refine ⟨fun t u same => classify_of_sameSpelled o same, fun t inner option single => ?_,
    fun o' more t => ⟨fun files => ?_, ofInner_mono more _⟩⟩
  · rw [classify_of_isOption o option, classify_of_not_isOption o single]
  · rw [classify, classify, ofInner_eq_file_iff, ofInner_eq_file_iff]

/-- `Vec<FormFile>`. -/
def uploads : Ty :=
  .path (.mk false [.mk (.spelled "Vec") (.angle false [.type (.named (.spelled "FormFile"))] false)])

/-- `Option<Vec<FormFile>>`. -/
def maybeUploads : Ty :=
  .path (.mk false [.mk (.spelled "Option") (.angle false [.type uploads] false)])

/-- `(std::option::Option<(Vec<FormFile>)>)`. -/
def spelledUploads : Ty :=
  .paren (.path (.mk false [.mk (.spelled "std") .none, .mk (.spelled "option") .none,
    .mk (.spelled "Option") (.angle false [.type (.paren uploads)] false)]))

theorem maybeUploads_sameSpelled : maybeUploads.SameSpelled spelledUploads := by
  refine .trans _ _ _ (.rel _ _ (@Ty.Respells.argument _ _ _ [] _ [] [] _ _ .enclosed)) ?_
  exact .trans _ _ _
    (.rel _ _ (@Ty.Respells.outward _ _ [.mk (.spelled "std") .none, .mk (.spelled "option") .none]
      [] _)) (.rel _ _ .enclosed)

theorem not_isOption_uploads : ¬ ∃ inner, uploads.IsOption inner := by
  rintro ⟨inner, option⟩
  have hinner : uploads.optionInner? = none := rfl
  rw [Ty.optionInner?_eq_some_iff.mpr option] at hinner
  cases hinner

theorem classify_depends_on_type_uploads :
    maybeUploads.SameSpelled spelledUploads ∧
      classify {} maybeUploads = classify {} spelledUploads ∧
      maybeUploads.IsOption uploads ∧ (¬ ∃ inner, uploads.IsOption inner) ∧
      classify {} maybeUploads = classify {} uploads ∧
      classify { simpleTypes := ["Vec"] } maybeUploads = .file .sequence := by
  have same := maybeUploads_sameSpelled
  have option : maybeUploads.IsOption uploads := Ty.optionInner?_eq_some_iff.mp rfl
  have single := not_isOption_uploads
  obtain ⟨spelling, peeling, registering⟩ := classify_depends_on_type {}
  exact ⟨same, spelling _ _ same, option, single, peeling _ _ option single,
    ((registering { simpleTypes := ["Vec"] } (List.nil_subset _) maybeUploads).1 .sequence).mp rfl⟩

end TypeShape

end TraitRoutes
