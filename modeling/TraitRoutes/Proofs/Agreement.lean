import TraitRoutes.Proofs.ControllerText
import TraitRoutes.Proofs.HandlerParts
import TraitRoutes.Proofs.RenderedDefaults

/-!
# Functions, routes and documentation agree

A controller says three times what its methods are: in the functions, in the routes of
the router and in the entries of the documentation. Each of the three is made from the
handlers of the service by itself, and the two last are given the planned routes
alongside. They agree because nothing is left out or moved on the way, so the place in
the list is the same everywhere, and because what the documentation says of a parameter
is decided by the same data as what the function does with it.

All of it is in the text: what is generated lies in the syntax of the controller, which has
the functions, the routes and the entries in their order, and no others.

This is a statement about services of any origin. Only for defaults it takes something
more: the documentation shows every literal default, but a function applies one only to
a parameter of the query string, so no other parameter may have one.
-/

namespace TraitRoutes

open Synthesis
open Layout (lit)

/-! ## What a function does -/

/-- What an extractor of a function makes available, with the part of the request that
it is read from. -/
def HandlerFn.extracts (fn : HandlerFn) : Extractor → List (Binding × Ident)
  | .service => []
  | .path captures => captures.map fun c => (.route, c.1)
  | .query struct =>
    (fn.query.toList.filter fun q => q.ident = struct).flatMap fun q =>
      q.fields.map fun f => (.query, f.ident)
  | .json i _ => [(.body, i)]
  | .multipart => fn.files.map fun b => (.form, b.ident)

/-- Everything that a function extracts from a request. -/
def HandlerFn.extracted (fn : HandlerFn) : List (Binding × Ident) :=
  fn.extractors.flatMap fn.extracts

namespace Argument

/-- The identifier of the value that is passed. -/
def ident : Argument → Ident
  | bound i | wrapped i | field i | fieldOr i _ | fieldUnwrap i _ => i

/-- Whether the value is a field of the query string. -/
def isField : Argument → Bool
  | field _ | fieldOr .. | fieldUnwrap .. => true
  | bound _ | wrapped _ => false

/-- What is passed for an omitted value. -/
def fallback? : Argument → Option Fallback
  | fieldOr _ d | fieldUnwrap _ d => some d
  | bound _ | wrapped _ | field _ => none

end Argument

/-- The expression is written as the text itself, or as its conversion. -/
def Fallback.Writes (d : Fallback) (text : String) : Prop :=
  d.code = lit text ∨ d.code = Code.call "::core::convert::Into::into" [lit text]

/-- An omitted value is replaced by the expression that a text spells. A literal is written as
that text. -/
def Argument.Applies (a : Argument) (p : Parameter) (text : String) : Prop :=
  ∃ d, a.fallback? = some d ∧ fallback p.name text = .ok d ∧
    ∀ l : DefaultLiteral, l.IsLexed → l.text = text → d.Writes text

/-! ## Agreement -/

/-- The entry of a parameter says what the argument for it does. -/
structure Parameter.Documented (p : Parameter) (m : ParameterMeta) (a : Argument) : Prop where
  name : m.name = p.name
  ident : a.ident = p.ident
  source : a.isField = true ↔ m.binding = .query
  /-- A literal default is applied. -/
  literal : (p.default.isSome = true → p.binding = .query) →
    ∀ text, m.defaultValue = some text → a.Applies p text
  /-- Nothing else is, but for the default of a type. -/
  omitted : m.defaultValue = none → a.fallback? = none ∨
    p.default = some .zero ∧ a.Applies p DefaultValue.zeroExpr

/-- A function, a route and an entry of the documentation all are those of the handler,
below the given prefix. -/
structure Handler.Agrees (h : Handler) (routePrefix : String) (fn : HandlerFn) (r : Route)
    (e : EndpointMeta) : Prop where
  function : fn.ident = h.ident
  target : r.handler = h.ident
  name : e.name = h.name
  route : r.path = h.route routePrefix
  path : e.path = r.path
  routing : Verb.ofName? r.verb.routingName = some h.verb
  variant : Verb.ofName? e.verb.variantName = some h.verb
  /-- Every parameter is extracted once, from where the documentation has it. -/
  extracted : fn.extracted.Perm
    ((h.params.zip e.params).map fun entry => (entry.2.binding, entry.1.ident))
  params : e.params.length = h.params.length
  args : fn.args.length = h.params.length
  documented : ∀ (k : Nat) (p : Parameter), h.params[k]? = some p → ∃ m a, e.params[k]? = some m ∧
    fn.args[k]? = some a ∧ p.Documented m a

/-! ## Verbs -/

theorem Verb.ofName?_routingName (v : Verb) : ofName? v.routingName = some v := by
  cases v <;> decide

theorem Verb.ofName?_variantName (v : Verb) : ofName? v.variantName = some v := by
  cases v <;> decide

/-! ## Parameters -/

/-- The expression of a literal is written as its text. -/
theorem DefaultLiteral.writes_fallback (l : DefaultLiteral) : l.fallback.Writes l.text := by
  have hplain : (Fallback.plain (.mk l.node l.tokens)).code = lit l.text := by
    obtain ⟨parts, hparts, hjoin⟩ := Layout.ofNode_literal l
    rw [← hjoin, ← Layout.Doc.written_texts, ← hparts]
    rfl
  unfold DefaultLiteral.fallback Fallback.ofExpr
  split
  · next v hform =>
      split
      · have htext : v.text = l.text := by
          cases l with
          | number minuses n =>
              cases minuses with
              | zero =>
                  cases hform
                  exact (String.empty_append).symm
              | succ minuses => cases hform
          | quoted n =>
              cases hform
              rfl
          | truth b => cases hform
        exact .inr (by rw [← htext]; rfl)
      · exact .inl hplain
  · exact .inl hplain

section Parameters

variable {p : Parameter} {a : Argument}

theorem applies_of_fallback {text : String} {d : Fallback} (hd : fallback p.name text = .ok d)
    (ha : a.fallback? = some d) : a.Applies p text := by
  refine ⟨d, ha, hd, ?_⟩
  rintro l lexed rfl
  obtain rfl := Except.ok.inj ((DefaultLiteral.fallback_text lexed p.name).symm.trans hd)
  exact l.writes_fallback

theorem literalDefault?_eq_some {d : Option DefaultValue} {text : String} :
    literalDefault? d = some text ↔ d = some (.literal text) := by
  unfold literalDefault?
  split
  · next t => simp
  · next hno =>
      constructor
      · intro h
        cases h
      · rintro rfl
        exact absurd rfl (hno text)

/-- What is passed for a query parameter, by its default. A default of the type is only
applied where the field is an added `Option`. -/
theorem queryArgument_cases (ha : queryArgument p = .ok a) :
    a.ident = p.ident ∧ a.isField = true ∧
      (∀ text, p.default = some (.literal text) → a.Applies p text) ∧
      (a.fallback? = none ∨ ∃ d, p.default = some d ∧ a.Applies p d.expr) := by
  unfold queryArgument at ha
  split at ha
  · next text hdefault _ =>
      obtain ⟨d, hd, rfl⟩ := map_fallback_ok ha
      have happlies : (Argument.fieldOr p.ident d).Applies p text := applies_of_fallback hd rfl
      refine ⟨rfl, rfl, fun text' htext => ?_, .inr ⟨_, hdefault, happlies⟩⟩
      rw [hdefault] at htext
      cases htext
      exact happlies
  · next e hdefault _ =>
      obtain ⟨d, hd, rfl⟩ := map_fallback_ok ha
      have happlies : (Argument.fieldUnwrap p.ident d).Applies p e.expr :=
        applies_of_fallback hd rfl
      refine ⟨rfl, rfl, fun text htext => ?_, .inr ⟨_, hdefault, happlies⟩⟩
      rw [hdefault] at htext
      cases htext
      exact happlies
  · next hliteral hplain =>
      obtain rfl := Except.ok.inj ha
      -- A literal is taken by one of the branches before, whatever the type is.
      refine ⟨rfl, rfl, fun text htext => ?_, .inl rfl⟩
      cases hnullable : p.nullable with
      | true => exact absurd hnullable (hliteral text htext)
      | false => exact absurd hnullable (hplain _ htext)

/-- What is passed for a parameter that comes from somewhere else. -/
theorem argument_cases (ha : argument p = .ok a) (hb : p.binding ≠ .query) :
    a.ident = p.ident ∧ a.isField = false ∧ a.fallback? = none := by
  unfold argument at ha
  split at ha
  · obtain rfl := Except.ok.inj ha
    split <;> exact ⟨rfl, rfl, rfl⟩
  · obtain rfl := Except.ok.inj ha
    exact ⟨rfl, rfl, rfl⟩
  · obtain rfl := Except.ok.inj ha
    exact ⟨rfl, rfl, rfl⟩
  · next hquery => exact absurd hquery hb

/-- The entry of a parameter is made from the same data as the argument for it. -/
theorem documented_of_argument (ha : argument p = .ok a) :
    p.Documented (parameterMeta p) a := by
  by_cases hb : p.binding = .query
  · have hquery : queryArgument p = .ok a := by
      rw [argument, hb] at ha
      exact ha
    obtain ⟨hident, hfield, hliteral, homitted⟩ := queryArgument_cases hquery
    refine ⟨rfl, hident, iff_of_true hfield hb, fun _ text htext => ?_, fun hnone => ?_⟩
    · exact hliteral text (literalDefault?_eq_some.mp htext)
    · rcases homitted with hnothing | ⟨d, hdefault, happlies⟩
      · exact .inl hnothing
      · cases d with
        | zero => exact .inr ⟨hdefault, happlies⟩
        | literal text =>
            have htext := literalDefault?_eq_some.mpr hdefault
            rw [show literalDefault? p.default = none from hnone] at htext
            cases htext
  · obtain ⟨hident, hfield, hnothing⟩ := argument_cases ha hb
    refine ⟨rfl, hident, iff_of_false (by simp [hfield]) hb, fun honly text htext => ?_,
      fun _ => .inl hnothing⟩
    have hdefault := literalDefault?_eq_some.mp htext
    exact absurd (honly (by rw [hdefault]; rfl)) hb

end Parameters

/-! ## Extraction -/

section Extraction

variable {h : Handler} {fn : HandlerFn}

/-- Every parameter has one binding. -/
theorem boundTo_perm (ps : List Parameter) :
    (ps.filter (·.binding = .route) ++ ps.filter (·.binding = .query)
      ++ ps.filter (·.binding = .body) ++ ps.filter (·.binding = .form)).Perm ps := by
  induction ps with
  | nil => exact .refl _
  | cons p rest ih =>
      cases hb : p.binding <;>
        simp only [List.filter_cons, hb, reduceCtorEq, decide_true, decide_false,
          Bool.false_eq_true, if_true, if_false]
      case route => exact ih.cons p
      case query => exact ((List.perm_middle.append_right _).append_right _).trans (ih.cons p)
      case body => exact (List.perm_middle.append_right _).trans (ih.cons p)
      case form => exact List.perm_middle.trans (ih.cons p)

theorem map_boundTo (b : Binding) :
    (h.boundTo b).map (fun p => (b, p.ident))
      = (h.boundTo b).map fun p => (p.binding, p.ident) :=
  List.map_congr_left fun p hp => by rw [(mem_boundTo.mp hp).2]

theorem extracts_path (fn : HandlerFn) :
    (pathExtractor h).flatMap fn.extracts
      = (h.boundTo .route).map fun p => (p.binding, p.ident) := by
  rw [← map_boundTo]
  exact flatMap_pathExtractor fun ps => List.map_map

theorem extracts_query {fn : HandlerFn} {i : Ident} (hquery : fn.query = queryStruct i h) :
    (if (queryStruct i h).isSome then [Extractor.query i] else []).flatMap fn.extracts
      = (h.boundTo .query).map fun p => (p.binding, p.ident) := by
  rw [← map_boundTo]
  refine flatMap_queryExtractor fun q hq => ?_
  rw [HandlerFn.extracts, hquery, hq, queryStruct_eq_some hq]
  simp [queryField]

theorem extracts_body (fn : HandlerFn) (hbody : h.checkBody = .ok ()) :
    (bodyExtractor h).flatMap fn.extracts
      = (h.boundTo .body).map fun p => (p.binding, p.ident) := by
  rw [← map_boundTo]
  exact flatMap_bodyExtractor hbody fun p => rfl

/-- Files are extracted in the order in which they are taken. -/
theorem extracts_form {fn : HandlerFn} (hfiles : fn.files = fileBindings h) :
    ((if (fileBindings h).isEmpty then [] else [Extractor.multipart]).flatMap fn.extracts).Perm
      ((h.boundTo .form).map fun p => (p.binding, p.ident)) := by
  have heq : (if (fileBindings h).isEmpty then [] else [Extractor.multipart]).flatMap fn.extracts
      = (fileOrder (h.boundTo .form)).map fun p => (.form, p.ident) := by
    have hmap : fn.files.map (fun b => (Binding.form, b.ident))
        = (fileOrder (h.boundTo .form)).map fun p => (.form, p.ident) := by
      rw [hfiles, fileBindings, List.map_map]
      rfl
    rw [← hmap, ← hfiles]
    cases hb : fn.files with
    | nil => rfl
    | cons b rest =>
        rw [List.isEmpty_cons, if_neg Bool.false_ne_true, List.flatMap_singleton,
          HandlerFn.extracts, hb]
  rw [heq, ← map_boundTo]
  exact (fileOrder_perm _).map _

/-- Every parameter is extracted once, from where it is bound to. -/
theorem extracted_perm (hfn : handlerFn h = .ok fn) (hbody : h.checkBody = .ok ()) :
    fn.extracted.Perm (h.params.map fun p => (p.binding, p.ident)) := by
  refine List.Perm.trans ?_ ((boundTo_perm h.params).map _)
  obtain ⟨i, args, -, -, rfl⟩ := handlerFn_ok_iff.mp hfn
  rw [HandlerFn.extracted]
  simp only [List.flatMap_append, List.map_append, extracts_path, extracts_body _ hbody]
  rw [extracts_query rfl]
  exact List.Perm.append_left _ (extracts_form rfl)

end Extraction

/-! ## Services -/

/-- What is made for a handler agrees with it. -/
theorem agrees_of_handlerFn {h : Handler} {fn : HandlerFn} (hfn : handlerFn h = .ok fn)
    (hbody : h.checkBody = .ok ()) (routePrefix : String) :
    h.Agrees routePrefix fn ⟨h.route routePrefix, h.verb, h.ident⟩
      (endpointMeta h (h.route routePrefix)) := by
  have hargs := forall₂_argument hfn
  refine {
    function := ?_, target := rfl, name := rfl, route := rfl, path := rfl
    routing := h.verb.ofName?_routingName, variant := h.verb.ofName?_variantName
    extracted := ?_, params := List.length_map _, args := hargs.length_eq.symm
    documented := fun k p hp => ?_ }
  · obtain ⟨i, args, -, -, rfl⟩ := handlerFn_ok_iff.mp hfn
    rfl
  · rw [endpointMeta, ← List.map_prod_left_eq_zip, List.map_map]
    exact extracted_perm hfn hbody
  · obtain ⟨a, ha, harg⟩ := getElem?_of_forall₂ hargs hp
    exact ⟨parameterMeta p, a, by rw [endpointMeta, List.getElem?_map, hp]; rfl, ha,
      documented_of_argument harg⟩

/-- A service that is rendered is written as a controller with one function, one route and one
entry for each handler, in their order, and they agree. -/
theorem render_agrees {s : Service} {suffix : String} {a : Artifact}
    (rendered : s.render suffix = .ok a) :
    ∃ c, s.controller suffix = .ok c ∧ a.source.toList ∈ c.code s.space ∧
      c.handlers.length = s.handlers.length ∧ c.routes.length = s.handlers.length ∧
      c.endpoints.length = s.handlers.length ∧
      ∀ (k : Nat) (h : Handler), s.handlers[k]? = some h →
        ∃ fn r e, c.handlers[k]? = some fn ∧ c.routes[k]? = some r ∧
          c.endpoints[k]? = some e ∧ h.Agrees s.routePrefix fn r e := by
  obtain ⟨c, hc, hsource, hof⟩ := Service.controller_of_render rendered
  refine ⟨c, hc, hsource ▸ c.source_mem s.space, hof.handlers.length_eq.symm, ?_, ?_,
    fun k h hk => ?_⟩
  · rw [hof.routes, List.length_map]
  · rw [hof.endpoints, List.length_map]
  · obtain ⟨fn, hfn, hmade⟩ := getElem?_of_forall₂ hof.handlers hk
    refine ⟨fn, _, _, hfn, ?_, ?_, agrees_of_handlerFn hmade
      (hof.bodies h (List.mem_of_getElem? hk)) s.routePrefix⟩
    · rw [hof.routes, List.getElem?_map, hk]
      rfl
    · rw [hof.endpoints, List.getElem?_map, hk]
      rfl

/-- A service with a default of each kind, a capture, and a method that takes a body. -/
def catalogue : Service where
  ident := .plain "ICatalogue"
  space := "crate"
  routePrefix := "/api/catalogue"
  visibility := {}
  capabilities := ["DynamicController"]
  location := ⟨"src/lib.rs", 1, 1⟩
  handlers := [
    { interface := "ICatalogue", ident := .plain "list", async := true, reply := .unit
      verb := .get
      params := [
        ⟨.plain "page", .named (.plain "i32"), .simple, .query, false, some (.literal "1")⟩,
        ⟨.plain "shop_id", .named (.plain "i64"), .simple, .route, false, none⟩,
        ⟨.plain "size", .named (.plain "i32"), .simple, .query, false, some .zero⟩] },
    { interface := "ICatalogue", ident := .plain "store", async := true, reply := .unit
      verb := .put
      params := [⟨.plain "item", .named (.plain "Item"), .complex, .body, false, none⟩] }]

theorem render_agrees_catalogue :
    ∃ a c, catalogue.render "Controller" = .ok a ∧ catalogue.controller "Controller" = .ok c ∧
      a.source.toList ∈ c.code "crate" ∧ c.routes.length = 2 ∧
      (∀ h ∈ catalogue.handlers, ∀ p ∈ h.params, p.default.isSome = true → p.binding = .query) ∧
      ∀ (k : Nat) (h : Handler), catalogue.handlers[k]? = some h →
        ∃ fn r e, c.handlers[k]? = some fn ∧ c.routes[k]? = some r ∧
          c.endpoints[k]? = some e ∧ h.Agrees catalogue.routePrefix fn r e := by
  have hrun : (catalogue.render "Controller").toOption.isSome = true := by decide +kernel
  cases ha : catalogue.render "Controller" with
  | error stop => rw [ha] at hrun; cases hrun
  | ok a =>
      obtain ⟨c, hc, htext, -, hroutes, -, hagrees⟩ := render_agrees ha
      exact ⟨a, c, rfl, hc, htext, hroutes, by decide, hagrees⟩

end TraitRoutes
