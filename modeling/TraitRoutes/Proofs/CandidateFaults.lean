import TraitRoutes.Proofs.Batch

/-!
# Faults of candidates

A fault that ends a pass comes from reading sources and writing controllers. What a
candidate can fail with is put together here from what each check of it can fail
with: a computation fails in a way if all its steps do.
-/

namespace TraitRoutes

/-- Every error of a computation is of a kind. -/
def FailsWith {α ε : Type} (kind : ε → Prop) (x : Except ε α) : Prop :=
  ∀ e, x = .error e → kind e

namespace FailsWith

variable {α β ε δ : Type} {kind : ε → Prop}

theorem ok (a : α) : FailsWith kind (.ok a) := nofun

theorem error {e : ε} (h : kind e) : FailsWith kind (.error e : Except ε α) := by
  intro e' he'
  rw [← Except.error.inj he']
  exact h

theorem bind {x : Except ε α} {f : α → Except ε β} (hx : FailsWith kind x)
    (hf : ∀ a, FailsWith kind (f a)) : FailsWith kind (x >>= f) := by
  intro e he
  rcases bind_error_iff.mp he with he | ⟨a, -, he⟩
  · exact hx e he
  · exact hf a e he

theorem mapError {x : Except δ α} {f : δ → ε} (hf : ∀ d, kind (f d)) :
    FailsWith kind (x.mapError f) := by
  intro e he
  obtain ⟨d, -, rfl⟩ := mapError_error_iff.mp he
  exact hf d

theorem map {x : Except ε α} {f : α → β} (hx : FailsWith kind x) : FailsWith kind (x.map f) :=
  fun e he => hx e (map_error_iff.mp he)

theorem mapM {xs : List α} {f : α → Except ε β} (hf : ∀ a, FailsWith kind (f a)) :
    FailsWith kind (xs.mapM f) := by
  intro e he
  obtain ⟨-, a, -, -, -, ha⟩ := mapM_error_iff.mp he
  exact hf a e ha

end FailsWith

/-- The fault concerns one candidate only. -/
def Fault.IsLocal (fault : Fault) : Prop := fault.isFatal = false

/-- If it is a fault that keeps a controller from being generated, it is local. -/
def Stop.IsLocal (stop : Stop) : Prop := ∀ fault, stop = .fault fault → fault.IsLocal

/-! ## Resolution -/

namespace Resolution

theorem ofSyntax_local {α : Type} (x : Except SyntaxError α) :
    FailsWith Fault.IsLocal (x.mapError .ofSyntax) :=
  .mapError fun _ => rfl

theorem checkGenerics_local (g : Generics) : FailsWith Fault.IsLocal (checkGenerics g) := by
  unfold checkGenerics
  split
  · exact .error rfl
  split
  · exact .error rfl
  · exact .ok _

theorem header_local (d : Declaration) : FailsWith Fault.IsLocal (header d) := by
  have hvisibility : FailsWith Fault.IsLocal
      ((Helper.visibilityIn d.attrs).mapError fun e => .attributeArgs e.message) :=
    .mapError fun _ => rfl
  exact (checkGenerics_local _).bind fun _ => (ofSyntax_local _).bind fun _ =>
    hvisibility.bind fun _ => .ok _

theorem checkSignature_local (method : String) (sig : Signature) :
    FailsWith Fault.IsLocal (checkSignature method sig) := by
  unfold checkSignature
  split
  · exact .error rfl
  split
  · exact .error rfl
  split
  · exact .ok _
  · exact .error rfl

theorem replyOf_local (method : String) (output : Option Ty) :
    FailsWith Fault.IsLocal (replyOf method output) := by
  unfold replyOf
  split
  · exact .ok _
  split
  · exact .ok _
  split
  · exact .error rfl
  split
  · exact .error rfl
  split
  · exact .ok _
  · exact .ok _

theorem plainName_local (method : String) (p : Pattern) :
    FailsWith Fault.IsLocal (plainName method p) := by
  unfold plainName
  split
  · exact .ok _
  · exact .error rfl

theorem parameter_local (o : Options) (method : String) (verb : Verb)
    (defaults : List DefaultEntry) (input : Input) :
    FailsWith Fault.IsLocal (parameter o method verb defaults input) := by
  refine (plainName_local _ _).bind fun name => ?_
  dsimp only
  split
  · exact .error rfl
  split
  · exact .error rfl
  split
  · exact .error rfl
  · exact .ok _

theorem parameters_local (o : Options) (method : String) (verb : Verb) (inputs : List Input) :
    ∀ defaults, FailsWith Fault.IsLocal (parameters o method verb defaults inputs) := by
  induction inputs with
  | nil => exact fun defaults => .ok _
  | cons input rest ih =>
      intro defaults
      rw [parameters]
      exact (parameter_local _ _ _ _ _).bind fun _ => (ih _).bind fun _ => .ok _

theorem handler_local (o : Options) (interface : String) (m : Method) :
    FailsWith Fault.IsLocal (handler o interface m) := by
  refine (checkSignature_local _ _).bind fun _ => (replyOf_local _ _).bind fun _ =>
    (ofSyntax_local _).bind fun _ => (ofSyntax_local _).bind fun _ =>
    (parameters_local _ _ _ _ _).bind ?_
  rintro ⟨params, left⟩
  cases left with
  | nil => exact .ok _
  | cons e more => exact .error rfl

theorem handlers_local {o : Options} {interface : String} {ms : List Method} {fault : Fault} :
    (handlers o interface ms).2 = some fault → fault.IsLocal := by
  induction ms with
  | nil => exact nofun
  | cons m rest ih =>
      rw [handlers]
      split
      · next e he =>
          intro h
          obtain rfl := Option.some.inj h
          exact handler_local o interface m _ he
      · exact ih

end Resolution

theorem Declaration.resolve_local (o : Options) (d : Declaration) :
    FailsWith Fault.IsLocal (d.resolve o) := by
  unfold Declaration.resolve Declaration.resolution
  split
  · next e he => exact .error (Resolution.header_local d e he)
  · dsimp only
    split
    · next e he => exact .error (Resolution.handlers_local he)
    · exact .ok _

/-! ## Rendering -/

theorem Synthesis.lift_local {α : Type} {x : Except Fault α} (h : FailsWith Fault.IsLocal x) :
    FailsWith Stop.IsLocal (lift x) := by
  intro stop hstop fault hfault
  obtain ⟨fault', herror, rfl⟩ := mapError_error_iff.mp hstop
  obtain rfl := Stop.fault.inj hfault
  exact h _ herror

theorem Synthesis.identOf_local (name : String) : FailsWith Stop.IsLocal (identOf name) := by
  unfold identOf
  split
  · exact .ok _
  · refine .error fun fault hfault => ?_
    cases hfault

theorem Synthesis.checkKeyword_local (module : Bool) (i : Ident) :
    FailsWith Stop.IsLocal (checkKeyword module i) := by
  unfold checkKeyword
  split
  · refine .error fun fault hfault => ?_
    obtain rfl := Stop.fault.inj hfault
    rfl
  · exact .ok _

theorem Synthesis.argument_local (p : Parameter) : FailsWith Fault.IsLocal (argument p) := by
  have hfallback : ∀ name text, FailsWith Fault.IsLocal (fallback name text) := by
    intro name text
    unfold fallback
    split
    · split <;> exact .ok _
    · exact .error rfl
  unfold argument
  split
  · exact .ok _
  · exact .ok _
  · exact .ok _
  · unfold queryArgument
    split
    · exact (hfallback _ _).map
    · exact (hfallback _ _).map
    · exact .ok _

theorem Synthesis.handlerFn_local (h : Handler) : FailsWith Stop.IsLocal (handlerFn h) :=
  (identOf_local _).bind fun _ =>
    (lift_local (FailsWith.mapM argument_local)).bind fun _ => .ok _

namespace Service

theorem checkBodies_local (hs : List Handler) : FailsWith Fault.IsLocal (checkBodies hs) := by
  induction hs with
  | nil => exact .ok _
  | cons h rest ih =>
      have hbody : FailsWith Fault.IsLocal h.checkBody := by
        unfold Handler.checkBody
        dsimp only
        split
        · exact .error rfl
        split
        · exact .error rfl
        · exact .ok _
      exact hbody.bind fun _ => ih

theorem planFrom_local (routePrefix : String) (hs : List Handler) :
    ∀ seen, FailsWith Fault.IsLocal (planFrom routePrefix seen hs) := by
  induction hs with
  | nil => exact fun seen => .ok _
  | cons h rest ih =>
      intro seen
      rw [planFrom]
      split
      · exact .error rfl
      · exact (ih _).bind fun _ => .ok _

theorem render_local (s : Service) (suffix : String) :
    FailsWith Stop.IsLocal (s.render suffix) := by
  have hcontroller : FailsWith Stop.IsLocal (s.controller suffix) :=
    (Synthesis.lift_local (checkBodies_local _)).bind fun _ =>
    (Synthesis.lift_local (planFrom_local _ _ _)).bind fun _ =>
    (Synthesis.identOf_local _).bind fun _ => (Synthesis.identOf_local _).bind fun _ =>
    (FailsWith.mapM Synthesis.handlerFn_local).bind fun _ =>
    (Synthesis.checkKeyword_local _ _).bind fun _ =>
    (Synthesis.checkKeyword_local _ _).bind fun _ => .ok _
  refine hcontroller.bind fun c => ?_
  dsimp only
  split
  · exact .ok _
  · exact .error nofun

end Service

/-- Whatever keeps a candidate from its controller is reported of it and ends no pass. -/
theorem Settles.isLocal {o : Options} {before : Ledger} {d : Declaration} {fault : Fault}
    (h : Settles o before d (.refused fault)) : fault.IsLocal := by
  rcases h with (h | ⟨s, -, h⟩) | ⟨a, owner, -, -, rfl⟩
  · exact d.resolve_local o fault h
  · exact s.render_local _ _ h fault rfl
  · rfl

end TraitRoutes
