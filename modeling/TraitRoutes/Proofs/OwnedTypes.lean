import TraitRoutes.Proofs.ResolvedMethods

/-!
# Owned types

A handler takes its values out of a request and gives its result to a response, so it
has no use for a reference or for a type that is only known by its bounds. Resolution
refuses such a type where it stands alone. It does not look any further, while the
binding of a parameter looks through parentheses and one `Option`, and the reply through
`Result`: whatever stands behind these gets through. So a service has owned types
exactly if no method conceals another type in this way, and for every way there is a
trait that does.
-/

namespace TraitRoutes

open Resolution (isReference isImplTrait resultTypes? replyOf)

/-! ## Types -/

namespace Ty

/-- The type borrows or is only known by its bounds, parentheses aside. -/
inductive Unowned : Ty → Prop
  | reference {lifetime : Option Ident} {mutable : Bool} {elem : Ty} :
      Unowned (.reference lifetime mutable elem)
  | implTrait {bounds : List Bound} {trailing : Bool} : Unowned (.implTrait bounds trailing)
  | paren {t : Ty} (unowned : Unowned t) : Unowned (.paren t)

/-- The type is a `Result` with the success type. -/
def HasSuccess (t ok : Ty) : Prop := ∃ err, resultTypes? t = some (ok, err)

/-- The type is unowned where nothing looks at it: in parentheses, or in the part that is
looked for. -/
inductive Conceals (part : Ty → Ty → Prop) : Ty → Prop
  | paren {t : Ty} (unowned : Unowned t) : Conceals part (.paren t)
  | inside {t inner : Ty} (isPart : part t inner) (unowned : Unowned inner) : Conceals part t

variable {t : Ty}

theorem unowned_iff (hreference : isReference t = false) (himpl : isImplTrait t = false) :
    Unowned t ↔ ∃ u, t = .paren u ∧ Unowned u := by
  constructor
  · intro h
    cases h with
    | reference => cases hreference
    | implTrait => cases himpl
    | paren h => exact ⟨_, rfl, h⟩
  · rintro ⟨u, rfl, h⟩
    exact .paren h

theorem conceals_iff (part : Ty → Ty → Prop) (hreference : isReference t = false)
    (himpl : isImplTrait t = false) :
    Conceals part t ↔ Unowned t ∨ ∃ inner, part t inner ∧ Unowned inner := by
  constructor
  · intro h
    cases h with
    | paren unowned => exact .inl (.paren unowned)
    | inside isPart unowned => exact .inr ⟨_, isPart, unowned⟩
  · rintro (unowned | ⟨inner, isPart, unowned⟩)
    · obtain ⟨u, rfl, hu⟩ := (unowned_iff hreference himpl).mp unowned
      exact .paren hu
    · exact .inside isPart unowned

theorem not_unowned_of_resultTypes? {ok : Ty} {err : Option Ty}
    (h : resultTypes? t = some (ok, err)) : ¬ Unowned t := by
  rintro (_ | _ | _) <;> cases h

theorem not_conceals_of_isUnit (hunit : Resolution.isUnit t = true) :
    ¬ Conceals HasSuccess t := by
  intro h
  cases h with
  | paren => cases hunit
  | inside isPart =>
      obtain ⟨err, fallible⟩ := isPart
      cases t with
      | tuple => cases fallible
      | _ => cases hunit

end Ty

/-! ## Services -/

/-- Neither the type of the parameter nor what an `Option` wraps is unowned. -/
structure Parameter.Owned (p : Parameter) : Prop where
  declared : ¬ p.ty.Unowned
  inner : ∀ inner, p.ty.IsOption inner → ¬ inner.Unowned

/-- The value that becomes a response is owned. -/
def Reply.Owned : Reply → Prop
  | .unit => True
  | .value ty => ¬ ty.Unowned
  | .fallible ok _ => ¬ ok.Unowned

/-- All types that a handler takes and gives are owned. -/
structure Handler.Owned (h : Handler) : Prop where
  params : ∀ p ∈ h.params, p.Owned
  reply : h.reply.Owned

/-- No type that a handler takes or gives is a reference or known by its bounds as it
stands. -/
structure Handler.Checked (h : Handler) : Prop where
  params : ∀ p ∈ h.params, isReference p.ty = false ∧ isImplTrait p.ty = false
  value : ∀ ty, h.reply = .value ty → isReference ty = false ∧ isImplTrait ty = false

/-- The method conceals an unowned type in a parameter or in its result. -/
def Method.Conceals (m : Method) : Prop :=
  (∃ input ∈ m.sig.inputs, input.ty.Conceals Ty.IsOption) ∨
    ∃ ty, m.sig.output = some ty ∧ ty.Conceals Ty.HasSuccess

namespace Resolution

variable {o : Options} {method interface : String}

theorem checked_of_parameter {verb : Verb} {defaults left : List DefaultEntry} {input : Input}
    {p : Parameter} (h : parameter o method verb defaults input = .ok (p, left)) :
    p.ty = input.ty ∧ isReference p.ty = false ∧ isImplTrait p.ty = false := by
  obtain ⟨i, -, hreference, himpl, -, rfl, -⟩ := parameter_ok_iff.mp h
  exact ⟨rfl, hreference, himpl⟩

theorem owned_iff_of_parameter {verb : Verb} {defaults left : List DefaultEntry} {input : Input}
    {p : Parameter} (h : parameter o method verb defaults input = .ok (p, left)) :
    p.Owned ↔ ¬ input.ty.Conceals Ty.IsOption := by
  obtain ⟨hty, hreference, himpl⟩ := checked_of_parameter h
  rw [← hty, Ty.conceals_iff _ hreference himpl, not_or, not_exists]
  constructor
  · intro owned
    exact ⟨owned.declared, fun inner h => owned.inner inner h.1 h.2⟩
  · rintro ⟨hdeclared, hinner⟩
    exact ⟨hdeclared, fun inner option unowned => hinner inner ⟨option, unowned⟩⟩

/-- The checks on a result: a value has passed them, and nothing else is a value. -/
theorem replyOf_some_ok {ty : Ty} {reply : Reply} (h : replyOf method (some ty) = .ok reply) :
    (isUnit ty = true ∧ reply = .unit) ∨
      isReference ty = false ∧ isImplTrait ty = false ∧
        ((∃ ok err, resultTypes? ty = some (ok, err) ∧ reply = .fallible ok err) ∨
          resultTypes? ty = none ∧ reply = .value ty) := by
  rw [replyOf] at h
  split at h
  · next hunit => exact .inl ⟨hunit, (Except.ok.inj h).symm⟩
  split at h
  · cases h
  next himpl =>
  split at h
  · cases h
  next hreference =>
  refine .inr ⟨Bool.eq_false_iff.mpr hreference, Bool.eq_false_iff.mpr himpl, ?_⟩
  split at h
  · next ok err hresult => exact .inl ⟨ok, err, hresult, (Except.ok.inj h).symm⟩
  · next hresult => exact .inr ⟨hresult, (Except.ok.inj h).symm⟩

theorem owned_iff_of_replyOf {output : Option Ty} {reply : Reply}
    (h : replyOf method output = .ok reply) :
    reply.Owned ↔ ¬ ∃ ty, output = some ty ∧ ty.Conceals Ty.HasSuccess := by
  cases output with
  | none =>
      obtain rfl := Except.ok.inj h
      simp [Reply.Owned]
  | some ty =>
      have hsome : (∃ u, some ty = some u ∧ u.Conceals Ty.HasSuccess) ↔
          ty.Conceals Ty.HasSuccess := by
        simp
      rw [hsome]
      rcases replyOf_some_ok h with ⟨hunit, rfl⟩ | ⟨hreference, himpl, hreply⟩
      · exact iff_of_true trivial (Ty.not_conceals_of_isUnit hunit)
      · rw [Ty.conceals_iff _ hreference himpl]
        -- A type with a success type is a path, so nothing else of it can be unowned.
        rcases hreply with ⟨ok, err, hresult, rfl⟩ | ⟨hresult, rfl⟩
        · simp [Reply.Owned, Ty.HasSuccess, hresult, Ty.not_unowned_of_resultTypes? hresult]
        · simp [Reply.Owned, Ty.HasSuccess, hresult]

theorem checked_of_replyOf {output : Option Ty} {ty : Ty}
    (h : replyOf method output = .ok (.value ty)) :
    isReference ty = false ∧ isImplTrait ty = false := by
  cases output with
  | none => cases h
  | some t =>
      rcases replyOf_some_ok h with ⟨-, hreply⟩ | ⟨hreference, himpl, hreply⟩
      · cases hreply
      · rcases hreply with ⟨ok, err, -, hreply⟩ | ⟨-, hreply⟩
        · cases hreply
        · cases hreply
          exact ⟨hreference, himpl⟩

theorem checked_of_handler {m : Method} {h : Handler} (hm : handler o interface m = .ok h) :
    h.Checked := by
  obtain ⟨reply, explicit, defaults, ps, -, hreply, -, -, hps, rfl⟩ := handler_ok_iff.mp hm
  refine ⟨fun p hp => ?_, ?_⟩
  · obtain ⟨input, -, before, after, hparameter⟩ :=
      exists_of_forall₂_right (forall₂_of_parameters hps) hp
    exact (checked_of_parameter hparameter).2
  · rintro ty rfl
    exact checked_of_replyOf hreply

theorem owned_iff_of_handler {m : Method} {h : Handler} (hm : handler o interface m = .ok h) :
    h.Owned ↔ ¬ m.Conceals := by
  obtain ⟨reply, explicit, defaults, ps, -, hreply, -, -, hps, rfl⟩ := handler_ok_iff.mp hm
  have hparams : (∀ p ∈ ps, p.Owned) ↔ ∀ input ∈ m.sig.inputs,
      ¬ input.ty.Conceals Ty.IsOption :=
    forall_mem_iff_of_forall₂ (forall₂_of_parameters hps) fun input p ⟨_, _, hp⟩ =>
      owned_iff_of_parameter hp
  rw [Method.Conceals, not_or, ← owned_iff_of_replyOf hreply, not_exists]
  simp only [not_and]
  rw [← hparams]
  exact ⟨fun owned => ⟨owned.params, owned.reply⟩, fun ⟨params, reply⟩ => ⟨params, reply⟩⟩

end Resolution

/-- A service that was resolved is owned but for what its methods conceal. -/
theorem resolve_owned_iff {o : Options} {d : Declaration} {s : Service}
    (resolved : d.resolve o = .ok s) :
    List.Forall₂ (fun m h => h.Checked ∧ (h.Owned ↔ ¬ m.Conceals)) d.methods s.handlers := by
  obtain ⟨-, hhandlers⟩ := Declaration.handlers_of_resolve resolved
  exact hhandlers.imp fun m h hm =>
    ⟨Resolution.checked_of_handler hm, Resolution.owned_iff_of_handler hm⟩

def Ty.optionalReference : Ty :=
  .path (.mk false [.mk (.spelled "Option") (.angle false
    [.type (.reference (some (.spelled "static")) false (.named (.spelled "str")))] false)])

/-- A trait with a reference inside an `Option`. -/
def borrower : Declaration :=
  .named (.spelled "IItems")
    [.named [] (.spelled "find") [.named (.spelled "name") .optionalReference]]

theorem borrower_conceals : ∀ m ∈ borrower.methods, m.Conceals := by
  intro m hm
  obtain rfl := List.mem_singleton.mp hm
  exact .inl ⟨_, List.mem_singleton_self _, .inside (Ty.optionInner?_eq_some_iff.mp rfl) .reference⟩

theorem borrower_resolved : ∃ s h, borrower.resolve {} = .ok s ∧ h ∈ s.handlers := by
  have hrun : borrower.rendersTo (fun s => s.handlers.length == 1) = true := by decide +kernel
  obtain ⟨s, a, hs, -, hlength⟩ := Declaration.exists_of_rendersTo hrun
  obtain ⟨h, hh⟩ := List.length_eq_one_iff.mp (beq_iff_eq.mp hlength)
  exact ⟨s, h, hs, hh ▸ List.mem_singleton_self h⟩

theorem resolve_owned_iff_borrower :
    ∃ s h, borrower.resolve {} = .ok s ∧ h ∈ s.handlers ∧ h.Checked ∧ ¬ h.Owned := by
  obtain ⟨s, h, hs, hh⟩ := borrower_resolved
  obtain ⟨m, hm, checked, howned⟩ := exists_of_forall₂_right (resolve_owned_iff hs) hh
  exact ⟨s, h, hs, hh, checked, fun owned => howned.mp owned (borrower_conceals m hm)⟩

/-- Not every service that was resolved is owned. -/
theorem not_forall_owned :
    ¬ ∀ (d : Declaration) (s : Service), d.resolve {} = .ok s → ∀ h ∈ s.handlers, h.Owned := by
  intro hall
  obtain ⟨s, h, hs, hh⟩ := borrower_resolved
  have owned := hall borrower s hs h hh
  obtain ⟨-, hhandlers⟩ := Declaration.handlers_of_resolve hs
  obtain ⟨m, hm, hhandler⟩ := exists_of_forall₂_right hhandlers hh
  exact (Resolution.owned_iff_of_handler hhandler).mp owned (borrower_conceals m hm)

end TraitRoutes
