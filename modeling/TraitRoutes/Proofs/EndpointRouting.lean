import TraitRoutes.Proofs.RenderedServices
import TraitRoutes.Proofs.RequestEffects

/-!
# Endpoints and routing

The controllers of the demo are generated from three traits, and each has a table of its
endpoints beside its router. The tables say what is routed: a request goes to the handler
of the endpoint whose template fits its path, if the method is the verb of that endpoint.

A template fits a path segment by segment, a literal only itself and a capture anything
that is not empty. So two templates that both fit some path agree wherever both have a
literal. No two templates of the demo do, hence the path alone decides which endpoint is
meant, and the order in which the routers are merged does not matter.
-/

namespace TraitRoutes

/-! ## Templates -/

namespace Http

/-- The segments of a path fit a template, and are captured by it, one by one. -/
inductive Fits : List Segment → List (List Char) → List String → Prop
  | nil : Fits [] [] []
  | literal (text : List Char) {template : List Segment} {found : List (List Char)}
      {captures : List String} (more : Fits template found captures) :
      Fits (.literal text :: template) (text :: found) captures
  | capture (name : List Char) {s : List Char} {template : List Segment}
      {found : List (List Char)} {captures : List String} (some : s ≠ [])
      (more : Fits template found captures) :
      Fits (.capture name :: template) (s :: found) (String.ofList s :: captures)

theorem matchSegments_eq_some_iff {template : List Segment} :
    ∀ {found : List (List Char)} {captures : List String},
      matchSegments template found = some captures ↔ Fits template found captures := by
  induction template with
  | nil =>
      intro found captures
      constructor
      · intro h
        cases found with
        | nil =>
            obtain rfl := Option.some.inj h
            exact .nil
        | cons s rest => cases h
      · rintro ⟨⟩
        rfl
  | cons segment template ih =>
      intro found captures
      constructor
      · intro h
        cases found with
        | nil => cases segment <;> cases h
        | cons s found =>
            cases segment with
            | literal text =>
                rw [matchSegments] at h
                split at h
                · next heq =>
                    rw [← eq_of_beq heq]
                    exact .literal text (ih.mp h)
                · cases h
            | capture name =>
                rw [matchSegments] at h
                split at h
                · cases h
                · next hsome =>
                    obtain ⟨captures, hcaptures, rfl⟩ := Option.map_eq_some_iff.mp h
                    exact .capture name (fun heq => hsome (List.isEmpty_iff.mpr heq))
                      (ih.mp hcaptures)
      · intro h
        cases h with
        | literal text more =>
            rw [matchSegments, if_pos (beq_self_eq_true text)]
            exact ih.mpr more
        | capture name hsome more =>
            rw [matchSegments, if_neg (fun heq => hsome (List.isEmpty_iff.mp heq)), ih.mpr more]
            rfl

theorem Fits.unique {template : List Segment} {found : List (List Char)}
    {captures captures' : List String} (h : Fits template found captures)
    (h' : Fits template found captures') : captures = captures' :=
  Option.some.inj
    ((matchSegments_eq_some_iff.mpr h).symm.trans (matchSegments_eq_some_iff.mpr h'))

/-- One segment of a path may be fit by both. -/
def Segment.meets : Segment → Segment → Bool
  | .literal text, .literal text' => text == text'
  | .literal text, .capture _ | .capture _, .literal text => !text.isEmpty
  | .capture _, .capture _ => true

/-- One path may be fit by both templates. -/
def meet : List Segment → List Segment → Bool
  | [], [] => true
  | s :: template, s' :: template' => s.meets s' && meet template template'
  | _, _ => false

theorem meet_of_fits {template : List Segment} {found : List (List Char)}
    {captures : List String} (h : Fits template found captures) :
    ∀ {template' : List Segment} {captures' : List String},
      Fits template' found captures' → meet template template' = true := by
  induction h with
  | nil =>
      rintro template' captures' ⟨⟩
      rfl
  | literal text _ ih =>
      rintro template' captures' h'
      cases h' with
      | literal _ more => exact Bool.and_eq_true_iff.mpr ⟨beq_self_eq_true text, ih more⟩
      | capture _ hsome more =>
          refine Bool.and_eq_true_iff.mpr ⟨?_, ih more⟩
          rw [Segment.meets, List.isEmpty_eq_false_iff.mpr hsome]
          rfl
  | capture name hsome _ ih =>
      rintro template' captures' h'
      cases h' with
      | literal _ more =>
          refine Bool.and_eq_true_iff.mpr ⟨?_, ih more⟩
          rw [Segment.meets, List.isEmpty_eq_false_iff.mpr hsome]
          rfl
      | capture _ _ more => exact Bool.and_eq_true_iff.mpr ⟨rfl, ih more⟩

end Http

/-! ## The traits of the demo -/

namespace Demo

/-- An attribute with the given arguments in parentheses. -/
def attributeOf (name : String) (args : List Token) : Attribute :=
  ⟨false, [.spelled name], .list .paren args⟩

/-- An attribute for the verb of a method. -/
def verbOf (verb : String) : Attribute := attributeOf "http_method" [.name (.spelled verb)]

/-- The type of a name. -/
def typeOf (name : String) : Ty := .named (.spelled name)

/-- The type `wrapper<args>`. -/
def typeOver (wrapper : String) (args : List Ty) : Ty :=
  .path (.mk false [.mk (.spelled wrapper) (.angle false (args.map .type) false)])

/-- A method with its parameters and its result. -/
def methodOf (attrs : List Attribute) (name : String) (inputs : List (String × Ty))
    (output : Option Ty) : Method :=
  let m := Method.named attrs (.spelled name) (inputs.map fun i => .named (.spelled i.1) i.2)
  { m with sig := { m.sig with output := output } }

/-- A trait with the given prefix and settings in a module of the services. -/
def traitOf (name module routePrefix : String) (settings : List Attribute)
    (methods : List Method) : Declaration :=
  { Declaration.named (.spelled name) methods with
    space := "crate::services::" ++ module
    attrs := ⟨false, [.spelled "async_trait"], .word⟩
      :: attributeOf "route_prefix" [.literal ⟨.string, "\"" ++ routePrefix ++ "\""⟩] :: settings
    location := ⟨"src/services/" ++ module ++ ".rs", 1, 1⟩ }

/-- The settings of a trait: whether to leave it out of the documentation, and its group. -/
def settingsOf (ignored : Bool) (group : String) : Attribute :=
  attributeOf "api_explorer_settings" [
    .name (.spelled "ignore_api"), .lone '=', .name (.spelled (toString ignored)), .lone ',',
    .name (.spelled "group_name"), .lone '=', .literal ⟨.string, "\"" ++ group ++ "\""⟩]

/-- The trait of the sample service. Its comments are left out. -/
def sampleTrait : Declaration :=
  traitOf "ISampleService" "sample" "/api/sample" [settingsOf false "Sample Service"] [
    methodOf [] "get_welcome_message" [] (typeOf "String"),
    methodOf [verbOf "Get"] "get_item_async"
      [("id", typeOf "i32"), ("keyword", typeOf "String")] (typeOf "String"),
    methodOf [verbOf "Post"] "create_item_async" [("model", typeOf "SampleCreateModel")]
      (typeOf "bool"),
    methodOf [verbOf "Put"] "update_item_async"
      [("id", typeOf "i32"), ("model", typeOf "SampleUpdateModel")] (typeOf "bool"),
    methodOf [verbOf "Delete", attributeOf "default_value" [
        .name (.spelled "force"), .lone '=', .name (.spelled "false")]] "delete_item_async"
      [("id", typeOf "i32"), ("force", typeOf "bool")] (typeOf "bool"),
    methodOf [verbOf "Get", attributeOf "default_value" [
        .name (.spelled "page_index"), .lone '=', .literal ⟨.integer, "1"⟩, .lone ',',
        .name (.spelled "page_size"), .lone '=', .literal ⟨.integer, "10"⟩]] "get_list_async"
      [("page_index", typeOf "i32"), ("page_size", typeOf "i32")]
      (typeOver "Vec" [typeOf "SampleListItem"]),
    methodOf [] "upload_item_image" [("item_id", typeOf "i32"), ("image", typeOf "FormFile")]
      (typeOf "usize")]

/-- The trait of the user service. -/
def userTrait : Declaration :=
  traitOf "IUserService" "user" "/api/user/test" [] [
    methodOf [] "get_user_async" [("id", typeOf "i64")]
      (typeOver "Result" [typeOf "UserDto", typeOf "ServiceError"]),
    methodOf [] "get_users_async" [("name", typeOver "Option" [typeOf "String"])]
      (typeOver "Vec" [typeOf "UserDto"]),
    methodOf [] "create_user_async" [("dto", typeOf "CreateUserDto")]
      (typeOver "Result" [typeOf "UserDto", typeOf "ServiceError"]),
    methodOf [] "update_user_async" [("id", typeOf "i64"), ("dto", typeOf "UpdateUserDto")]
      (typeOver "Result" [.tuple [] false, typeOf "ServiceError"]),
    methodOf [] "delete_user_async" [("id", typeOf "i64")] none]

/-- The trait of the category service. -/
def categoryTrait : Declaration :=
  traitOf "ICategoryService" "category" "api/categories" [settingsOf true "Category Service"] [
    methodOf [verbOf "Get"] "get_category_tree_async" []
      (typeOver "Vec" [typeOf "CategoryTreeDto"]),
    methodOf [verbOf "Get"] "get_category_by_id_async" [("id", typeOf "i64")]
      (typeOver "Option" [typeOf "CategoryDto"]),
    methodOf [verbOf "Post"] "create_category_async" [("dto", typeOf "CreateCategoryDto")]
      (typeOf "i64"),
    methodOf [verbOf "Put"] "update_category_async"
      [("id", typeOf "i64"), ("dto", typeOf "UpdateCategoryDto")] (typeOf "bool"),
    methodOf [verbOf "Delete"] "delete_category_async" [("id", typeOf "i64")] (typeOf "bool"),
    methodOf [verbOf "Get"] "get_category_product_count_async" [("id", typeOf "i64")]
      (typeOf "i32"),
    methodOf [verbOf "Put"] "update_category_sort_async"
      [("id", typeOf "i64"), ("sort_order", typeOf "i32")] (typeOf "bool")]

/-! ## What is generated from them -/

/-- The controller, as the demo has it, is the one that is generated from the trait. -/
structure DemoController.GeneratedFrom (dc : DemoController) (d : Declaration) (c : Controller) :
    Prop where
  generated : ∃ s, d.resolve {} = .ok s ∧ s.controller "Controller" = .ok c
  routePrefix : c.routePrefix = dc.routePrefix
  visibility : c.visibility = dc.visibility
  endpoints : c.endpoints = dc.endpoints
  /-- Every endpoint has a route for its verb and path, to the handler of its name. -/
  routes : c.routes.map (fun r => (r.handler.name, r.verb, r.path))
    = c.endpoints.map fun e => (e.name, e.verb, e.path)

/-- Whether the trait gets the controller that the demo has. -/
def DemoController.isGeneratedFrom (dc : DemoController) (d : Declaration) : Bool :=
  match d.resolve {} with
  | .error _ => false
  | .ok s =>
    match s.controller "Controller" with
    | .error _ => false
    | .ok c =>
      c.endpoints == dc.endpoints && c.routePrefix == dc.routePrefix
        && c.visibility == dc.visibility

/-- The routes of a controller are those of its endpoints. -/
theorem routes_of_ofService {s : Service} {suffix : String} {c : Controller}
    (h : c.OfService s suffix) :
    c.routes.map (fun r => (r.handler.name, r.verb, r.path))
      = c.endpoints.map fun e => (e.name, e.verb, e.path) := by
  rw [h.routes, h.endpoints, List.map_map, List.map_map]
  rfl

theorem DemoController.exists_generated {dc : DemoController} {d : Declaration}
    (h : dc.isGeneratedFrom d = true) : ∃ c, dc.GeneratedFrom d c := by
  unfold isGeneratedFrom at h
  split at h
  · cases h
  next s hs =>
  split at h
  · cases h
  next c hc =>
  obtain ⟨h, hvisibility⟩ := Bool.and_eq_true_iff.mp h
  obtain ⟨hendpoints, hroute⟩ := Bool.and_eq_true_iff.mp h
  exact ⟨c, ⟨s, hs, hc⟩, eq_of_beq hroute, eq_of_beq hvisibility, eq_of_beq hendpoints,
    routes_of_ofService (Service.ofService_of_controller hc)⟩

/-- The controllers of the demo with their traits. -/
def generatedFrom : List (DemoController × Declaration) :=
  [(.sample, sampleTrait), (.user, userTrait), (.category, categoryTrait)]

theorem exists_controllers :
    ∃ cs : List Controller,
      List.Forall₂ (fun x c => x.1.GeneratedFrom x.2 c) generatedFrom cs := by
  have hsample : DemoController.sample.isGeneratedFrom sampleTrait = true := by decide +kernel
  have huser : DemoController.user.isGeneratedFrom userTrait = true := by decide +kernel
  have hcategory : DemoController.category.isGeneratedFrom categoryTrait = true := by
    decide +kernel
  obtain ⟨c, hc⟩ := DemoController.exists_generated hsample
  obtain ⟨c', hc'⟩ := DemoController.exists_generated huser
  obtain ⟨c'', hc''⟩ := DemoController.exists_generated hcategory
  exact ⟨[c, c', c''], .cons hc (.cons hc' (.cons hc'' .nil))⟩

/-! ## Requests -/

/-- The template of a route fits a path, with the given captures. -/
def TemplateFits (template path : String) (captures : List String) : Prop :=
  Http.Fits (Http.templateOf template) (Http.segments path.toList) captures

/-- A route for the verb is asked by the method. `HEAD` counts as `GET`. -/
def Answers (verb : Verb) (method : String) : Prop :=
  method = verb.wireName ∨ method = "HEAD" ∧ verb = .get

theorem answersMethod_iff {verb : Verb} {method : String} :
    answersMethod verb method = true ↔ Answers verb method := by
  rw [answersMethod, Bool.or_eq_true_iff, Bool.and_eq_true_iff, beq_iff_eq, beq_iff_eq, beq_iff_eq]
  rfl

theorem mem_routed (op : Operation) : op ∈ routed := by
  rcases op with op | op | op <;> cases op <;> decide

theorem mem_matching {op : Operation} {path : String} {captures : List String} :
    (op, captures) ∈ matching path ↔ TemplateFits op.endpoint.path path captures := by
  rw [matching, List.mem_filterMap]
  constructor
  · rintro ⟨op', -, h⟩
    obtain ⟨captures', hmatch, heq⟩ := Option.map_eq_some_iff.mp h
    obtain ⟨rfl, rfl⟩ := Prod.mk.inj heq
    exact Http.matchSegments_eq_some_iff.mp hmatch
  · intro hfits
    refine ⟨op, mem_routed op, ?_⟩
    rw [Http.matchPath, Http.matchSegments_eq_some_iff.mpr hfits]
    rfl

theorem eq_of_meet : ∀ op ∈ routed, ∀ op' ∈ routed,
    Http.meet (Http.templateOf op.endpoint.path) (Http.templateOf op'.endpoint.path) = true →
      op = op' := by
  decide +kernel

/-- A path is fit by the template of one operation only, and in one way. -/
theorem eq_of_templateFits {op op' : Operation} {path : String} {captures captures' : List String}
    (h : TemplateFits op.endpoint.path path captures)
    (h' : TemplateFits op'.endpoint.path path captures') : op = op' ∧ captures = captures' := by
  obtain rfl := eq_of_meet op (mem_routed op) op' (mem_routed op') (Http.meet_of_fits h h')
  exact ⟨rfl, h.unique h'⟩

variable {method path : String} {op : Operation} {captures : List String}

theorem matching_eq_nil_iff :
    matching path = [] ↔
      ∀ (op : Operation) (captures : List String), ¬ TemplateFits op.endpoint.path path captures := by
  rw [List.eq_nil_iff_forall_not_mem]
  constructor
  · intro h op captures hfits
    exact h (op, captures) (mem_matching.mpr hfits)
  · rintro h ⟨op, captures⟩ hmem
    exact h op captures (mem_matching.mp hmem)

theorem targetOf_of_ne_nil (h : matching path ≠ []) :
    targetOf method path =
      match (matching path).find? fun e => answersMethod e.1.endpoint.verb method with
      | some (op, captures) => .run op captures
      | none => .wrongMethod := by
  unfold targetOf
  split
  · next hnil => exact absurd hnil h
  · rfl

/-- What is found among the matching operations is the only one there is. -/
theorem find?_matching (hfits : TemplateFits op.endpoint.path path captures) :
    (matching path).find? (fun e => answersMethod e.1.endpoint.verb method)
      = if answersMethod op.endpoint.verb method then some (op, captures) else none := by
  have hmem := mem_matching.mpr hfits
  have honly : ∀ e ∈ matching path, e = (op, captures) := by
    rintro ⟨op', captures'⟩ he
    obtain ⟨rfl, rfl⟩ := eq_of_templateFits (mem_matching.mp he) hfits
    rfl
  split
  · next hanswers =>
      cases hfind : (matching path).find? fun e => answersMethod e.1.endpoint.verb method with
      | none => exact absurd hanswers (List.find?_eq_none.mp hfind _ hmem)
      | some e => rw [honly e (List.mem_of_find?_eq_some hfind)]
  · next hanswers =>
      refine List.find?_eq_none.mpr fun e he => ?_
      rw [honly e he]
      exact hanswers

theorem targetOf_of_fits (hfits : TemplateFits op.endpoint.path path captures) :
    targetOf method path =
      if answersMethod op.endpoint.verb method then .run op captures else .wrongMethod := by
  rw [targetOf_of_ne_nil fun hnil => matching_eq_nil_iff.mp hnil op captures hfits,
    find?_matching hfits]
  cases answersMethod op.endpoint.verb method <;> rfl

theorem targetOf_eq_run_iff :
    targetOf method path = .run op captures ↔
      TemplateFits op.endpoint.path path captures ∧ Answers op.endpoint.verb method := by
  constructor
  · intro h
    obtain ⟨op', captures', hfits⟩ : ∃ op' captures',
        TemplateFits (Operation.endpoint op').path path captures' := by
      by_contra hnone
      have hnil : matching path = [] :=
        matching_eq_nil_iff.mpr fun op captures hfits => hnone ⟨op, captures, hfits⟩
      rw [targetOf, hnil] at h
      cases h
    rw [targetOf_of_fits hfits] at h
    split at h
    · next hanswers =>
        cases h
        exact ⟨hfits, answersMethod_iff.mp hanswers⟩
    · cases h
  · rintro ⟨hfits, hanswers⟩
    rw [targetOf_of_fits hfits, if_pos (answersMethod_iff.mpr hanswers)]

/-- What the handler of an operation answers. -/
def App.answer (app : App) (op : Operation) (captures : List String) (request : Http.Request) :
    Http.Response × App :=
  match app.run op captures request with
  | .ok (response, app) => (sent request.method response, app)
  | .error response => (sent request.method response, app)

/-- What becomes of a request by the tables and the routers of the controllers. -/
structure RoutedBy (cs : List Controller) (request : Http.Request) : Prop where
  /-- It is for the operation whose endpoint fits its path and is asked by its method. -/
  endpoint : ∀ op captures, targetOf request.method request.path = .run op captures ↔
    op.endpoint ∈ cs.flatMap Controller.endpoints ∧
      TemplateFits op.endpoint.path request.path captures ∧
      Answers op.endpoint.verb request.method
  /-- There is a route to the handler of that name. -/
  route : ∀ op captures, targetOf request.method request.path = .run op captures ↔
    ∃ r ∈ cs.flatMap Controller.routes, r.handler.name = op.endpoint.name ∧
      TemplateFits r.path request.path captures ∧ Answers r.verb request.method
  answer : ∀ op captures, targetOf request.method request.path = .run op captures →
    ∀ app : App, app.handle request = app.answer op captures request
  /-- Otherwise no service is called: every state gives the same answer and is left as it is. -/
  unknown : (∀ e ∈ cs.flatMap Controller.endpoints, ∀ captures,
      ¬ TemplateFits e.path request.path captures) →
    ∀ app : App, app.handle request = (⟨404, .empty⟩, app)
  refused : ∀ e ∈ cs.flatMap Controller.endpoints, ∀ captures,
    TemplateFits e.path request.path captures → ¬ Answers e.verb request.method →
      ∀ app : App, app.handle request = (⟨405, .empty⟩, app)

section Generated

variable {xs : List (DemoController × Declaration)} {cs : List Controller}
  (h : List.Forall₂ (fun x c => x.1.GeneratedFrom x.2 c) xs cs)
include h

theorem flatMap_endpoints :
    cs.flatMap Controller.endpoints = xs.flatMap fun x => x.1.endpoints := by
  induction h with
  | nil => rfl
  | cons hc _ ih => rw [List.flatMap_cons, List.flatMap_cons, hc.endpoints, ih]

theorem flatMap_routes :
    (cs.flatMap Controller.routes).map (fun r => (r.handler.name, r.verb, r.path))
      = (cs.flatMap Controller.endpoints).map fun e => (e.name, e.verb, e.path) := by
  induction h with
  | nil => rfl
  | cons hc _ ih =>
      rw [List.flatMap_cons, List.flatMap_cons, List.map_append, List.map_append, hc.routes, ih]

end Generated

section Routing

variable {cs : List Controller}
  (h : List.Forall₂ (fun x c => x.1.GeneratedFrom x.2 c) generatedFrom cs)
include h

theorem endpoints_of_generated :
    cs.flatMap Controller.endpoints = routed.map Operation.endpoint :=
  flatMap_endpoints h

theorem mem_endpoints {e : EndpointMeta} :
    e ∈ cs.flatMap Controller.endpoints ↔ ∃ op : Operation, op.endpoint = e := by
  rw [endpoints_of_generated h, List.mem_map]
  exact exists_congr fun op => and_iff_right (mem_routed op)

omit h in
theorem eq_of_name {op op' : Operation} (hname : op.endpoint.name = op'.endpoint.name) :
    op = op' := by
  have distinct : (routed.map fun op => op.endpoint.name).Nodup := by decide +kernel
  exact List.inj_on_of_nodup_map distinct (mem_routed op) (mem_routed op') hname

/-- The route to the handler of an endpoint is for its verb and its path. -/
theorem exists_route_iff {op : Operation} {p : Verb → String → Prop} :
    (∃ r ∈ cs.flatMap Controller.routes, r.handler.name = op.endpoint.name ∧ p r.verb r.path) ↔
      p op.endpoint.verb op.endpoint.path := by
  have hkeys := flatMap_routes h
  constructor
  · rintro ⟨r, hr, hname, hp⟩
    have hkey := List.mem_map_of_mem (f := fun r : Route => (r.handler.name, r.verb, r.path)) hr
    rw [hkeys] at hkey
    obtain ⟨e, he, heq⟩ := List.mem_map.mp hkey
    obtain ⟨op', rfl⟩ := (mem_endpoints h).mp he
    obtain ⟨hename, heq⟩ := Prod.mk.inj heq
    obtain ⟨hverb, hpath⟩ := Prod.mk.inj heq
    obtain rfl := eq_of_name (hename.trans hname)
    rwa [hverb, hpath]
  · intro hp
    have hkey := List.mem_map_of_mem (f := fun e : EndpointMeta => (e.name, e.verb, e.path))
      ((mem_endpoints h).mpr ⟨op, rfl⟩)
    rw [← hkeys] at hkey
    obtain ⟨r, hr, heq⟩ := List.mem_map.mp hkey
    obtain ⟨hname, heq⟩ := Prod.mk.inj heq
    obtain ⟨hverb, hpath⟩ := Prod.mk.inj heq
    exact ⟨r, hr, hname, by rwa [hverb, hpath]⟩

theorem routedBy_of_generated (request : Http.Request) : RoutedBy cs request where
  endpoint op captures := by
    rw [targetOf_eq_run_iff]
    exact (and_iff_right ((mem_endpoints h).mpr ⟨op, rfl⟩)).symm
  route op captures := by
    rw [targetOf_eq_run_iff, exists_route_iff h
      (p := fun verb path => TemplateFits path request.path captures ∧ Answers verb request.method)]
  answer op captures htarget app := by
    rw [App.handle, htarget]
    rfl
  unknown hnone app := by
    have hnil : matching request.path = [] := matching_eq_nil_iff.mpr fun op captures =>
      hnone _ ((mem_endpoints h).mpr ⟨op, rfl⟩) captures
    rw [App.handle, targetOf, hnil]
  refused e he captures hfits hanswers app := by
    obtain ⟨op, rfl⟩ := (mem_endpoints h).mp he
    rw [App.handle, targetOf_of_fits hfits,
      if_neg fun hmethod => hanswers (answersMethod_iff.mp hmethod)]

/-- No two entries of the tables have templates that fit one path. -/
theorem pairwise_of_generated :
    (cs.flatMap Controller.endpoints).Pairwise fun e e' => ∀ path captures captures',
      TemplateFits e.path path captures → ¬ TemplateFits e'.path path captures' := by
  have distinct : routed.Nodup := by decide
  rw [endpoints_of_generated h, List.pairwise_map]
  exact distinct.imp fun hne path captures captures' hfits hfits' =>
    hne (eq_of_templateFits hfits hfits').1

end Routing

/-- The endpoints of the controllers that are generated for the demo say what its router does.
A path is fit by the template of one entry at most, and a request goes to the handler of an
endpoint if and only if the template fits its path and the verb is asked by its method, which
is also what the generated routes say. Where no template fits the answer is 404, and where one
does but the method asks for another verb it is 405, without a call of a service. -/
theorem endpoints_decide_routing :
    ∃ cs : List Controller,
      List.Forall₂ (fun x c => x.1.GeneratedFrom x.2 c) generatedFrom cs ∧
      ((cs.flatMap Controller.endpoints).Pairwise fun e e' => ∀ path captures captures',
        TemplateFits e.path path captures → ¬ TemplateFits e'.path path captures') ∧
      ∀ request : Http.Request, RoutedBy cs request := by
  obtain ⟨cs, h⟩ := exists_controllers
  exact ⟨cs, h, pairwise_of_generated h, routedBy_of_generated h⟩

/-- A request without a body. -/
def bare (method path query : String) : Http.Request := ⟨method, path, query, none, []⟩

/-- The head of an item is asked for, its route is asked by another method, and an item
without a number is asked for. -/
theorem endpoints_decide_routing_item :
    (∀ app : App, app.handle (bare "HEAD" "/api/sample/get-item/7" "keyword=a")
      = app.answer (.sample .getItem) ["7"] (bare "HEAD" "/api/sample/get-item/7" "keyword=a")) ∧
    (∀ app : App, app.handle (bare "PATCH" "/api/sample/get-item/7" "") = (⟨405, .empty⟩, app)) ∧
    ∀ app : App, app.handle (bare "GET" "/api/sample/get-item/" "") = (⟨404, .empty⟩, app) := by
  obtain ⟨cs, h, -, hrouted⟩ := endpoints_decide_routing
  have hfits : TemplateFits "/api/sample/get-item/\x7bid\x7d" "/api/sample/get-item/7" ["7"] :=
    Http.matchSegments_eq_some_iff.mp (by decide +kernel)
  have hmem := (mem_endpoints h).mpr ⟨.sample .getItem, rfl⟩
  refine ⟨?_, ?_, ?_⟩
  · refine (hrouted _).answer _ _ (((hrouted _).endpoint _ _).mpr ⟨hmem, hfits, ?_⟩)
    exact .inr ⟨rfl, rfl⟩
  · refine (hrouted _).refused _ hmem _ hfits fun hanswers => ?_
    exact absurd (answersMethod_iff.mpr hanswers) (by decide)
  · refine (hrouted _).unknown fun e he captures hfits => ?_
    obtain ⟨op, rfl⟩ := (mem_endpoints h).mp he
    have hnone : ∀ op ∈ routed, Http.matchPath op.endpoint.path "/api/sample/get-item/" = none := by
      decide +kernel
    have hsome : Http.matchPath op.endpoint.path "/api/sample/get-item/" = some captures :=
      Http.matchSegments_eq_some_iff.mpr hfits
    rw [hnone op (mem_routed op)] at hsome
    cases hsome

end Demo

end TraitRoutes
