import TraitRoutes.Proofs.Sequencing
import TraitRoutes.Service.Resolution

/-!
# What a resolved service is

A service that was resolved goes with its declaration method by method and parameter
by parameter, in order. What is known of a parameter follows from its type, its name
and the verb; only a parameter of the query string can have a default. Every later
statement about resolved services is drawn from these and not from the way they were
computed.
-/

namespace TraitRoutes

/-- The parameter is what an input resolves to. -/
structure Parameter.OfInput (o : Options) (verb : Verb) (input : Input) (p : Parameter) :
    Prop where
  name : input.pattern.name = some p.ident
  ty : p.ty = input.ty
  shape : p.shape = .classify o p.ty
  binding : p.binding = .resolve p.shape p.ident.text verb
  nullable : p.nullable = p.ty.optionInner?.isSome
  default : p.default.isSome = true → p.binding = .query

/-- The handler is what a method resolves to. -/
structure Handler.OfMethod (o : Options) (m : Method) (h : Handler) : Prop where
  ident : h.ident = m.sig.ident
  params : List.Forall₂ (Parameter.OfInput o h.verb) m.sig.inputs h.params

/-- The service is what a declaration resolves to. -/
structure Service.OfDeclaration (o : Options) (d : Declaration) (s : Service) : Prop where
  ident : s.ident = d.ident
  space : s.space = d.space
  handlers : List.Forall₂ (Handler.OfMethod o) d.methods s.handlers

namespace Resolution

variable {o : Options}

theorem plainName_ok_iff {method : String} {pattern : Pattern} {i : Ident} :
    plainName method pattern = .ok i ↔ pattern.name = some i ∧ pattern.elaborate = false := by
  unfold plainName
  constructor
  · intro h
    split at h
    · next hname helaborate => exact ⟨hname.trans (congrArg some (Except.ok.inj h)), helaborate⟩
    · cases h
  · rintro ⟨hname, helaborate⟩
    rw [hname, helaborate]

/-- What a parameter resolves to, and what is left of the defaults. -/
theorem parameter_ok_iff {method : String} {verb : Verb} {defaults left : List DefaultEntry}
    {input : Input} {p : Parameter} :
    parameter o method verb defaults input = .ok (p, left) ↔
      ∃ i, plainName method input.pattern = .ok i ∧ isReference input.ty = false ∧
        isImplTrait input.ty = false ∧
        ((takeDefault i.text defaults).1.isSome = true →
          Binding.resolve (.classify o input.ty) i.text verb = .query) ∧
        p = ⟨i, input.ty, .classify o input.ty, .resolve (.classify o input.ty) i.text verb,
          input.ty.optionInner?.isSome,
          (takeDefault i.text defaults).1.map fun e => .ofLiteral e.literal⟩ ∧
        left = (takeDefault i.text defaults).2 := by
  unfold parameter
  simp only [bind_ok_iff]
  constructor
  · rintro ⟨i, hi, h⟩
    split at h
    · cases h
    next hreference =>
    split at h
    · cases h
    next himpl =>
    split at h
    · cases h
    next hdefault =>
    obtain ⟨rfl, rfl⟩ := Prod.mk.inj (Except.ok.inj h)
    refine ⟨i, hi, Bool.eq_false_iff.mpr hreference, Bool.eq_false_iff.mpr himpl, fun hsome => ?_,
      rfl, rfl⟩
    rw [hsome, Bool.true_and, bne_iff_ne, not_not] at hdefault
    exact hdefault
  · rintro ⟨i, hi, hreference, himpl, hdefault, rfl, rfl⟩
    refine ⟨i, hi, ?_⟩
    rw [if_neg (by simp [hreference]), if_neg (by simp [himpl]), if_neg ?_]
    · rfl
    · intro hrefused
      obtain ⟨hsome, hne⟩ := Bool.and_eq_true_iff.mp hrefused
      rw [hdefault hsome] at hne
      cases hne

theorem ofInput_of_parameter {method : String} {verb : Verb} {defaults left : List DefaultEntry}
    {input : Input} {p : Parameter}
    (h : parameter o method verb defaults input = .ok (p, left)) :
    p.OfInput o verb input := by
  obtain ⟨i, hi, -, -, hdefault, rfl, -⟩ := parameter_ok_iff.mp h
  refine ⟨(plainName_ok_iff.mp hi).1, rfl, rfl, rfl, rfl, fun hsome => hdefault ?_⟩
  rwa [Option.isSome_map] at hsome

/-- Each parameter is resolved with what the ones before it left of the defaults. -/
theorem parameters_cons_ok_iff {method : String} {verb : Verb}
    {defaults left : List DefaultEntry} {input : Input} {rest : List Input}
    {ps : List Parameter} :
    parameters o method verb defaults (input :: rest) = .ok (ps, left) ↔
      ∃ p mid qs, parameter o method verb defaults input = .ok (p, mid) ∧
        parameters o method verb mid rest = .ok (qs, left) ∧ ps = p :: qs := by
  rw [parameters, bind_ok_iff]
  constructor
  · rintro ⟨⟨p, mid⟩, hp, h⟩
    obtain ⟨⟨qs, left'⟩, hqs, h⟩ := bind_ok_iff.mp h
    obtain ⟨rfl, rfl⟩ := Prod.mk.inj (Except.ok.inj h)
    exact ⟨p, mid, qs, hp, hqs, rfl⟩
  · rintro ⟨p, mid, qs, hp, hqs, rfl⟩
    exact ⟨(p, mid), hp, bind_ok_iff.mpr ⟨(qs, left), hqs, rfl⟩⟩

/-- Each parameter was resolved with some of the defaults. -/
theorem forall₂_of_parameters {method : String} {verb : Verb} {inputs : List Input} :
    ∀ {defaults left : List DefaultEntry} {ps : List Parameter},
      parameters o method verb defaults inputs = .ok (ps, left) →
      List.Forall₂ (fun input p => ∃ before after,
        parameter o method verb before input = .ok (p, after)) inputs ps := by
  induction inputs with
  | nil =>
      intro defaults left ps h
      obtain ⟨rfl, -⟩ := Prod.mk.inj (Except.ok.inj h)
      exact .nil
  | cons input rest ih =>
      intro defaults left ps h
      obtain ⟨p, mid, qs, hp, hqs, rfl⟩ := parameters_cons_ok_iff.mp h
      exact .cons ⟨defaults, mid, hp⟩ (ih hqs)

theorem ofInput_of_parameters {method : String} {verb : Verb} {inputs : List Input}
    {defaults left : List DefaultEntry} {ps : List Parameter}
    (h : parameters o method verb defaults inputs = .ok (ps, left)) :
    List.Forall₂ (Parameter.OfInput o verb) inputs ps :=
  (forall₂_of_parameters h).imp fun _ _ ⟨_, _, hp⟩ => ofInput_of_parameter hp

/-- How a handler is put together: every check has passed, and no default is left. -/
theorem handler_ok_iff {interface : String} {m : Method} {h : Handler} :
    handler o interface m = .ok h ↔
      ∃ reply explicit defaults params, checkSignature m.sig.ident.text m.sig = .ok () ∧
        replyOf m.sig.ident.text m.sig.output = .ok reply ∧ Helper.verbIn m.attrs = .ok explicit ∧
        Helper.defaultsIn m.attrs = .ok defaults ∧
        parameters o m.sig.ident.text (.resolve explicit m.sig.ident.text) defaults m.sig.inputs
          = .ok (params, []) ∧
        h = ⟨interface, m.sig.ident, m.sig.async, reply, .resolve explicit m.sig.ident.text,
          params⟩ := by
  unfold handler
  simp only [bind_ok_iff, mapError_ok_iff]
  constructor
  · rintro ⟨_, hsig, reply, hreply, explicit, hexplicit, defaults, hdefaults, ⟨ps, left⟩, hps, h⟩
    dsimp only at h
    split at h
    · cases h
    · obtain rfl := Except.ok.inj h
      exact ⟨reply, explicit, defaults, ps, hsig, hreply, hexplicit, hdefaults, hps, rfl⟩
  · rintro ⟨reply, explicit, defaults, ps, hsig, hreply, hexplicit, hdefaults, hps, rfl⟩
    exact ⟨(), hsig, reply, hreply, explicit, hexplicit, defaults, hdefaults, (ps, []), hps, rfl⟩

theorem ofMethod_of_handler {interface : String} {m : Method} {h : Handler}
    (hm : handler o interface m = .ok h) : h.OfMethod o m := by
  obtain ⟨reply, explicit, defaults, ps, -, -, -, -, hps, rfl⟩ := handler_ok_iff.mp hm
  exact ⟨rfl, ofInput_of_parameters hps⟩

/-- Without a fault, every method has a handler. -/
theorem forall₂_of_handlers {interface : String} {ms : List Method} :
    ∀ {hs : List Handler}, handlers o interface ms = (hs, none) →
      List.Forall₂ (fun m h => handler o interface m = .ok h) ms hs := by
  induction ms with
  | nil =>
      intro hs h
      obtain ⟨rfl, -⟩ := Prod.mk.inj h
      exact .nil
  | cons m rest ih =>
      intro hs h
      rw [handlers] at h
      split at h
      · cases (Prod.mk.inj h).2
      · next first hfirst =>
          obtain ⟨rfl, hfault⟩ := Prod.mk.inj h
          exact .cons hfirst (ih (Prod.ext rfl hfault))

theorem handlers_of_forall₂ {o : Options} {interface : String} {ms : List Method}
    {hs : List Handler} (h : List.Forall₂ (fun m h => handler o interface m = .ok h) ms hs) :
    handlers o interface ms = (hs, none) := by
  induction h with
  | nil => rfl
  | cons hm _ ih => rw [handlers, hm, ih]

end Resolution

/-- How a service is put together from the header of the trait and its methods. -/
theorem Declaration.of_resolve {o : Options} {d : Declaration} {s : Service}
    (h : d.resolve o = .ok s) :
    ∃ hs routePrefix visibility, Resolution.header d = .ok (routePrefix, visibility) ∧
      List.Forall₂ (fun m h => Resolution.handler o d.name m = .ok h) d.methods hs ∧
      s = ⟨d.ident, d.space, hs, routePrefix, visibility, d.capabilities, d.location⟩ := by
  rw [resolve, resolution] at h
  split at h
  · cases h
  · next routePrefix visibility hheader =>
      dsimp only at h
      split at h
      · cases h
      · next hfault =>
          obtain rfl := Except.ok.inj h
          exact ⟨_, routePrefix, visibility, hheader,
            Resolution.forall₂_of_handlers (Prod.ext rfl hfault), rfl⟩

theorem Declaration.resolve_of_handlers {o : Options} {d : Declaration} {hs : List Handler}
    {routePrefix : String} {visibility : Visibility}
    (header : Resolution.header d = .ok (routePrefix, visibility))
    (handlers : List.Forall₂ (fun m h => Resolution.handler o d.name m = .ok h) d.methods hs) :
    d.resolve o = .ok ⟨d.ident, d.space, hs, routePrefix, visibility, d.capabilities,
      d.location⟩ := by
  rw [resolve, resolution, header]
  dsimp only
  rw [Resolution.handlers_of_forall₂ handlers]

theorem Declaration.handlers_of_resolve {o : Options} {d : Declaration} {s : Service}
    (h : d.resolve o = .ok s) :
    s.ident = d.ident ∧
      List.Forall₂ (fun m h => Resolution.handler o d.name m = .ok h) d.methods s.handlers := by
  obtain ⟨hs, routePrefix, visibility, -, hhs, rfl⟩ := of_resolve h
  exact ⟨rfl, hhs⟩

/-- The prefix of a resolved service: the one it is given, in normal form, or the one made
from its name. -/
theorem Declaration.routePrefix_of_resolve {o : Options} {d : Declaration} {s : Service}
    (resolved : d.resolve o = .ok s) :
    (∃ text, Helper.prefixIn d.attrs = .ok (some text) ∧
        s.routePrefix = Naming.normalizePrefix text) ∨
      Helper.prefixIn d.attrs = .ok none ∧ s.routePrefix = Naming.defaultPrefix d.name := by
  obtain ⟨hs, routePrefix, visibility, hheader, -, rfl⟩ := Declaration.of_resolve resolved
  unfold Resolution.header at hheader
  obtain ⟨-, -, hheader⟩ := bind_ok_iff.mp hheader
  obtain ⟨explicit, hexplicit, hheader⟩ := bind_ok_iff.mp hheader
  obtain ⟨_, -, hheader⟩ := bind_ok_iff.mp hheader
  obtain ⟨rfl, -⟩ := Prod.mk.inj (Except.ok.inj hheader)
  rw [mapError_ok_iff] at hexplicit
  cases explicit with
  | some text => exact .inl ⟨text, hexplicit, rfl⟩
  | none => exact .inr ⟨hexplicit, rfl⟩

/-- What a declaration resolves to goes with it. -/
theorem Declaration.ofDeclaration_of_resolve {o : Options} {d : Declaration} {s : Service}
    (h : d.resolve o = .ok s) : s.OfDeclaration o d := by
  obtain ⟨hs, routePrefix, visibility, -, hhs, rfl⟩ := of_resolve h
  exact ⟨rfl, rfl, hhs.imp fun m h hm => Resolution.ofMethod_of_handler hm⟩

theorem Handler.idents_of_ofMethod {o : Options} {ms : List Method} {hs : List Handler}
    (h : List.Forall₂ (Handler.OfMethod o) ms hs) :
    hs.map Handler.ident = ms.map fun m => m.sig.ident := by
  induction h with
  | nil => rfl
  | cons hm _ ih => rw [List.map_cons, List.map_cons, hm.ident, ih]

theorem Parameter.exists_ofInput {o : Options} {ms : List Method} {hs : List Handler}
    (hall : List.Forall₂ (Handler.OfMethod o) ms hs) {h : Handler} (hh : h ∈ hs)
    {p : Parameter} (hp : p ∈ h.params) : ∃ input, p.OfInput o h.verb input := by
  obtain ⟨m, -, hm⟩ := exists_of_forall₂_right hall hh
  obtain ⟨input, -, hinput⟩ := exists_of_forall₂_right hm.params hp
  exact ⟨input, hinput⟩

end TraitRoutes
