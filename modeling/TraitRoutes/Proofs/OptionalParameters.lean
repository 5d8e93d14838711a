import TraitRoutes.Proofs.ResolvedMethods
import TraitRoutes.Proofs.Wiring

/-!
# Optional parameters

The documentation calls a parameter optional if it is declared as an `Option` or has a
default, wherever it comes from. What a request may leave out is decided by the part of
the handler that reads the parameter: a field of the query structure may be missing if
it is an `Option`, and files may be missing unless one is required. The two agree on the
query string and the form. A capture of the route and the body are never missing, and
an `Option` around them, which the binding looks through, only changes how the value is
passed on. So the documentation promises too much for these, and for nothing else,
since a default is only found on a parameter from the query string.
-/

namespace TraitRoutes

open Synthesis

namespace HandlerFn

/-- A request may leave the parameter out: the field for it is an `Option`, or the files
for it are taken without one being required. -/
inductive MayOmit (fn : HandlerFn) (p : Parameter) : Prop
  | query {q : QueryStruct} {wrapped : Bool} (binding : p.binding = .query)
      (struct : fn.query = some q) (extracted : .query q.ident ∈ fn.extractors)
      (field : ⟨p.ident, p.ty, wrapped⟩ ∈ q.fields)
      (optional : wrapped = true ∨ ∃ inner, p.ty.IsOption inner)
  | form {read : FileRead} (binding : p.binding = .form)
      (statement : ⟨p.ident, p.name, read⟩ ∈ fn.files) (lenient : read ≠ .require)

/-- A request has to bring the parameter: it is a segment of the route or the body. -/
inductive Demands (fn : HandlerFn) (p : Parameter) : Prop
  | capture {captures : List (Ident × Ty)} {ty : Ty} (binding : p.binding = .route)
      (extracted : .path captures ∈ fn.extractors) (place : (p.ident, ty) ∈ captures)
  | body (binding : p.binding = .body) (extracted : .json p.ident p.ty ∈ fn.extractors)

variable {fn : HandlerFn} {p : Parameter}

theorem MayOmit.binding (h : fn.MayOmit p) : p.binding = .query ∨ p.binding = .form := by
  cases h with
  | query binding => exact .inl binding
  | form binding => exact .inr binding

theorem Demands.binding (h : fn.Demands p) : p.binding = .route ∨ p.binding = .body := by
  cases h with
  | capture binding => exact .inl binding
  | body binding => exact .inr binding

theorem MayOmit.not_demands (h : fn.MayOmit p) : ¬ fn.Demands p := by
  intro demands
  rcases h.binding with hb | hb <;> rcases demands.binding with hb' | hb' <;> rw [hb] at hb' <;>
    cases hb'

/-- The documentation of a parameter: it is called optional without need for a request to
bring it, but for an `Option` that a request has to bring nevertheless. -/
structure Documents (fn : HandlerFn) (p : Parameter) (doc : ParameterMeta) : Prop where
  name : doc.name = p.name
  binding : doc.binding = p.binding
  optional : doc.optional = true ↔ (∃ inner, p.ty.IsOption inner) ∨ p.default.isSome = true
  omitted : (doc.optional = true → fn.MayOmit p) ↔ ¬ (fn.Demands p ∧ ∃ inner, p.ty.IsOption inner)

end HandlerFn

section Function

variable {h : Handler} {fn : HandlerFn} {p : Parameter}

theorem mayOmit_of_query (hfn : handlerFn h = .ok fn) (hp : p ∈ h.boundTo .query)
    (hnull : p.nullable = true ↔ ∃ inner, p.ty.IsOption inner)
    (optional : p.isOptional = true) : fn.MayOmit p := by
  obtain ⟨q, hq, hextracted, hfields⟩ := query_of_query hfn hp
  have hfield : queryField p ∈ q.fields := hfields ▸ List.mem_map_of_mem hp
  refine .query (mem_boundTo.mp hp).2 hq hextracted hfield ?_
  cases hnullable : p.nullable with
  | true => exact .inr (hnull.mp hnullable)
  | false =>
      rw [Parameter.isOptional, hnullable, Bool.false_or] at optional
      exact .inl (by rw [optional]; rfl)

theorem mayOmit_of_form (hfn : handlerFn h = .ok fn) (hp : p ∈ h.boundTo .form)
    (nullable : p.nullable = true) : fn.MayOmit p := by
  have hstatement : fileBinding p ∈ fn.files := by
    rw [files_eq hfn]
    exact List.mem_map_of_mem ((fileOrder_perm _).mem_iff.mpr hp)
  refine .form (mem_boundTo.mp hp).2 hstatement ?_
  rw [nullable]
  cases fileShape p <;> exact nofun

theorem demands_of_route (hfn : handlerFn h = .ok fn) (hp : p ∈ h.boundTo .route) :
    fn.Demands p :=
  .capture (mem_boundTo.mp hp).2 (path_of_route hfn hp) (List.mem_map_of_mem hp)

theorem demands_of_body (hfn : handlerFn h = .ok fn) (hbody : h.checkBody = .ok ())
    (hp : p ∈ h.boundTo .body) : fn.Demands p :=
  .body (mem_boundTo.mp hp).2 (json_of_body hfn hbody hp)

theorem documents_of_handlerFn (hfn : handlerFn h = .ok fn) (hbody : h.checkBody = .ok ())
    (hp : p ∈ h.params) {o : Options} {input : Input} (resolves : p.Resolves o input) :
    fn.Documents p (parameterMeta p) := by
  have hoptional : p.isOptional = true ↔
      (∃ inner, p.ty.IsOption inner) ∨ p.default.isSome = true := by
    rw [Parameter.isOptional, Bool.or_eq_true, resolves.nullable]
  refine ⟨rfl, rfl, hoptional, ?_⟩
  change (p.isOptional = true → fn.MayOmit p) ↔ _
  constructor
  · rintro homitted ⟨demands, option⟩
    exact (homitted (hoptional.mpr (.inl option))).not_demands demands
  · intro hnot optional
    -- Without a default, which only the query string has, the parameter is an `Option`.
    have hoption : p.binding ≠ .query → ∃ inner, p.ty.IsOption inner := fun hne =>
      (hoptional.mp optional).resolve_right fun hdefault => hne (resolves.default hdefault)
    cases hb : p.binding with
    | query => exact mayOmit_of_query hfn (mem_boundTo.mpr ⟨hp, hb⟩) resolves.nullable optional
    | form =>
        have option := hoption (by simp [hb])
        exact mayOmit_of_form hfn (mem_boundTo.mpr ⟨hp, hb⟩) (resolves.nullable.mpr option)
    | route =>
        have demands := demands_of_route hfn (mem_boundTo.mpr ⟨hp, hb⟩)
        exact absurd ⟨demands, hoption (by simp [hb])⟩ hnot
    | body =>
        have demands := demands_of_body hfn hbody (mem_boundTo.mpr ⟨hp, hb⟩)
        exact absurd ⟨demands, hoption (by simp [hb])⟩ hnot

end Function

/-! ## Services -/

theorem Declaration.resolves_of_mem {o : Options} {d : Declaration} {s : Service}
    (resolved : d.resolve o = .ok s) {h : Handler} (hh : h ∈ s.handlers) {p : Parameter}
    (hp : p ∈ h.params) : ∃ input, p.Resolves o input := by
  obtain ⟨-, hhandlers⟩ := handlers_of_resolve resolved
  obtain ⟨m, -, hm⟩ := exists_of_forall₂_right hhandlers hh
  obtain ⟨input, -, resolves⟩ :=
    exists_of_forall₂_right (Resolution.resolves_of_handler hm).params hp
  exact ⟨input, resolves⟩

/-- The documentation of a service that is rendered has an entry for each method and in it
one for each parameter, which calls a parameter optional that a request may leave out, and
also each `Option` from the route or the body. -/
theorem render_documents {o : Options} {d : Declaration} {s : Service} {suffix : String}
    {a : Artifact} (resolved : d.resolve o = .ok s) (rendered : s.render suffix = .ok a) :
    ∃ c, s.controller suffix = .ok c ∧ a.source = c.source s.space ∧
      List.Forall₂ (Handler.OfMethod o) d.methods s.handlers ∧
      c.endpoints.length = s.handlers.length ∧
      ∀ (k : Nat) (h : Handler), s.handlers[k]? = some h →
        ∃ fn e, c.handlers[k]? = some fn ∧ c.endpoints[k]? = some e ∧
          List.Forall₂ fn.Documents h.params e.params := by
  obtain ⟨c, hc, hsource, hof⟩ := Service.controller_of_render rendered
  refine ⟨c, hc, hsource, (Declaration.ofDeclaration_of_resolve resolved).handlers, ?_,
    fun k h hk => ?_⟩
  · rw [hof.endpoints, List.length_map]
  · have hh := List.mem_of_getElem? hk
    obtain ⟨fn, hfn, hmade⟩ := getElem?_of_forall₂ hof.handlers hk
    refine ⟨fn, endpointMeta h (h.route s.routePrefix), hfn, ?_, ?_⟩
    · rw [hof.endpoints, List.getElem?_map, hk]
      rfl
    · rw [endpointMeta, List.forall₂_map_right_iff, List.forall₂_same]
      intro p hp
      obtain ⟨input, resolves⟩ := Declaration.resolves_of_mem resolved hh hp
      exact documents_of_handlerFn hmade (hof.bodies h hh) hp resolves

/-- A trait with an optional key. -/
def seeker : Declaration :=
  .named (.spelled "IItems")
    [.named [] (.spelled "get_item") [.named (.spelled "id") (.optional (.spelled "i64"))]]

theorem seeker_rendered :
    ∃ s a h p, seeker.resolve {} = .ok s ∧ s.render "Controller" = .ok a ∧
      s.handlers[0]? = some h ∧ h.params = [p] ∧ p.binding = .route ∧ p.nullable = true := by
  have hrun : seeker.rendersTo (fun s => s.handlers.map (fun h =>
      h.params.map fun p => (p.binding, p.nullable)) == [[(.route, true)]]) = true := by
    decide +kernel
  obtain ⟨s, a, hs, ha, hcheck⟩ := Declaration.exists_of_rendersTo hrun
  obtain ⟨h, hh, hparams⟩ := List.map_eq_singleton_iff.mp (beq_iff_eq.mp hcheck)
  obtain ⟨p, hp, hpair⟩ := List.map_eq_singleton_iff.mp hparams
  obtain ⟨hroute, hnullable⟩ := Prod.mk.inj hpair
  exact ⟨s, a, h, p, hs, ha, by rw [hh]; rfl, hp, hroute, hnullable⟩

theorem not_mayOmit_of_route {fn : HandlerFn} {p : Parameter} (hroute : p.binding = .route) :
    ¬ fn.MayOmit p := by
  intro h
  rcases h.binding with hb | hb <;> rw [hroute] at hb <;> cases hb

theorem render_documents_seeker :
    ∃ s a c fn e p doc, seeker.resolve {} = .ok s ∧ s.render "Controller" = .ok a ∧
      s.controller "Controller" = .ok c ∧ c.handlers[0]? = some fn ∧ c.endpoints[0]? = some e ∧
      e.params = [doc] ∧ doc.name = p.name ∧ doc.optional = true ∧ fn.Demands p ∧
      ¬ fn.MayOmit p := by
  obtain ⟨s, a, h, p, hs, ha, hh, hp, hroute, hnullable⟩ := seeker_rendered
  obtain ⟨c, hc, -, -, -, hdocuments⟩ := render_documents hs ha
  obtain ⟨fn, e, hfn, he, hall⟩ := hdocuments 0 h hh
  obtain ⟨input, resolves⟩ := Declaration.resolves_of_mem hs (List.mem_of_getElem? hh)
    (hp ▸ List.mem_singleton_self p)
  rw [hp] at hall
  obtain ⟨doc, rest, documents, hnil, heq⟩ := List.forall₂_cons_left_iff.mp hall
  rw [List.forall₂_nil_left_iff.mp hnil] at heq
  have optional := documents.optional.mpr (.inl (resolves.nullable.mp hnullable))
  have hnot : ¬ fn.MayOmit p := not_mayOmit_of_route hroute
  refine ⟨s, a, c, fn, e, p, doc, hs, ha, hc, hfn, he, heq, documents.name, optional, ?_, hnot⟩
  by_contra hfree
  exact hnot (documents.omitted.mpr (fun ⟨demands, _⟩ => hfree demands) optional)

/-- Not every parameter that is called optional may be left out. -/
theorem not_forall_optional_mayOmit :
    ¬ ∀ (d : Declaration) (s : Service) (a : Artifact) (c : Controller),
      d.resolve {} = .ok s → s.render "Controller" = .ok a → s.controller "Controller" = .ok c →
      ∀ (k j : Nat) (h : Handler) (fn : HandlerFn) (e : EndpointMeta) (p : Parameter)
        (doc : ParameterMeta), s.handlers[k]? = some h → c.handlers[k]? = some fn →
        c.endpoints[k]? = some e → h.params[j]? = some p → e.params[j]? = some doc →
        doc.optional = true → fn.MayOmit p := by
  intro hall
  obtain ⟨s, a, h, p, hs, ha, hh, hp, hroute, hnullable⟩ := seeker_rendered
  obtain ⟨c, hc, -, hof⟩ := Service.controller_of_render ha
  obtain ⟨fn, hfn, -⟩ := getElem?_of_forall₂ hof.handlers hh
  have he : c.endpoints[0]? = some (endpointMeta h (h.route s.routePrefix)) := by
    rw [hof.endpoints, List.getElem?_map, hh]
    rfl
  have hdoc : (endpointMeta h (h.route s.routePrefix)).params[0]? = some (parameterMeta p) := by
    rw [endpointMeta, hp]
    rfl
  have optional : (parameterMeta p).optional = true := by
    change p.isOptional = true
    rw [Parameter.isOptional, hnullable, Bool.true_or]
  exact not_mayOmit_of_route hroute
    (hall seeker s a c hs ha hc 0 0 h fn _ p _ hh hfn he (by rw [hp]; rfl) hdoc optional)

end TraitRoutes
