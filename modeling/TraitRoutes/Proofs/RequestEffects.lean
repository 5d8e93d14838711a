import TraitRoutes.Proofs.Sequencing
import TraitRoutes.Proofs.StoredRecords

/-!
# What a request does to the stores

A handler reads everything that it needs of a request before it calls its service,
so a request that does not fit is answered before anything changes. What is left is
one call of one service, and a call that the service refuses leaves its store as
it is.

Which service it is, and whether its operation may change a store at all, depends on
the method and the path alone. A route begins with the prefix of its controller as
literal segments, a path is its segments joined by slashes, and no prefix of a
controller begins with that of another one.
-/

namespace TraitRoutes.Demo

open Http (Request Response)

def SampleCall.operation : SampleCall → SampleOperation
  | .create _ => .createItem
  | .update _ _ => .updateItem
  | .delete _ _ => .deleteItem
  | .upload _ _ => .uploadItemImage

def UserCall.operation : UserCall → UserOperation
  | .create _ => .createUser
  | .update _ _ => .updateUser
  | .delete _ => .deleteUser

def CategoryCall.operation : CategoryCall → CategoryOperation
  | .create _ => .createCategory
  | .update _ _ => .updateCategory
  | .updateSort _ _ => .updateCategorySort
  | .delete _ => .deleteCategory

/-- The operation whose handler makes a call. -/
def Call.operation : Call → Operation
  | .sample call => .sample call.operation
  | .user call => .user call.operation
  | .category call => .category call.operation

namespace App

theorem ok_lt (value : JsonValue) : (Response.ok value).status < 400 := by
  show 200 < 400
  omega

theorem noContent_lt : Response.noContent.status < 400 := by
  show 204 < 400
  omega

variable {app app' : App} {captures : List String} {request : Request} {response : Response}

theorem runSample_cases {op : SampleOperation}
    (h : app.runSample op captures request = .ok (response, app')) :
    app' = app ∨ response.status < 400 ∧
      ∃ call : Call, call.operation = .sample op ∧ app' = app.after call := by
  cases op with
  | getWelcomeMessage =>
      obtain ⟨rfl, rfl⟩ := Prod.mk.inj (Except.ok.inj h)
      exact .inl rfl
  | getItem =>
      obtain ⟨id, -, h⟩ := bind_ok_iff.mp h
      obtain ⟨keyword, -, h⟩ := bind_ok_iff.mp h
      obtain ⟨rfl, rfl⟩ := Prod.mk.inj (Except.ok.inj h)
      exact .inl rfl
  | createItem =>
      obtain ⟨draft, -, h⟩ := bind_ok_iff.mp h
      obtain ⟨rfl, rfl⟩ := Prod.mk.inj (Except.ok.inj h)
      exact .inr ⟨ok_lt _, .sample (.create draft), rfl, rfl⟩
  | updateItem =>
      obtain ⟨id, -, h⟩ := bind_ok_iff.mp h
      obtain ⟨u, -, h⟩ := bind_ok_iff.mp h
      obtain ⟨rfl, rfl⟩ := Prod.mk.inj (Except.ok.inj h)
      exact .inr ⟨ok_lt _, .sample (.update id u), rfl, rfl⟩
  | deleteItem =>
      obtain ⟨id, -, h⟩ := bind_ok_iff.mp h
      obtain ⟨force, -, h⟩ := bind_ok_iff.mp h
      obtain ⟨rfl, rfl⟩ := Prod.mk.inj (Except.ok.inj h)
      exact .inr ⟨ok_lt _, .sample (.delete id (force.getD false)), rfl, rfl⟩
  | getList =>
      obtain ⟨index, -, h⟩ := bind_ok_iff.mp h
      obtain ⟨size, -, h⟩ := bind_ok_iff.mp h
      obtain ⟨rfl, rfl⟩ := Prod.mk.inj (Except.ok.inj h)
      exact .inl rfl
  | uploadItemImage =>
      obtain ⟨id, -, h⟩ := bind_ok_iff.mp h
      obtain ⟨form, -, h⟩ := bind_ok_iff.mp h
      dsimp only at h
      split at h
      · cases h
      · next image _ _ =>
          obtain ⟨rfl, rfl⟩ := Prod.mk.inj (Except.ok.inj h)
          exact .inr ⟨ok_lt _, .sample (.upload id image), rfl, rfl⟩

theorem runUsers_cases {op : UserOperation}
    (h : app.runUsers op captures request = .ok (response, app')) :
    app' = app ∨ response.status < 400 ∧
      ∃ call : Call, call.operation = .user op ∧ app' = app.after call := by
  cases op with
  | getUser =>
      obtain ⟨id, -, h⟩ := bind_ok_iff.mp h
      split at h
      · obtain ⟨rfl, rfl⟩ := Prod.mk.inj (Except.ok.inj h)
        exact .inl rfl
      · cases h
  | getUsers =>
      obtain ⟨name, -, h⟩ := bind_ok_iff.mp h
      obtain ⟨rfl, rfl⟩ := Prod.mk.inj (Except.ok.inj h)
      exact .inl rfl
  | createUser =>
      obtain ⟨name, -, h⟩ := bind_ok_iff.mp h
      have hafter : app.after (.user (.create name)) = app.withUsers (app.users.create name).2 := rfl
      rcases hcreate : app.users.create name with ⟨e | user, s⟩ <;> rw [hcreate] at h hafter
      · obtain ⟨-, rfl⟩ := Prod.mk.inj (Except.ok.inj h)
        have hsame := UserStore.create_refused (congrArg Prod.fst hcreate)
        rw [hcreate] at hsame
        exact .inl (congrArg app.withUsers hsame)
      · obtain ⟨rfl, rfl⟩ := Prod.mk.inj (Except.ok.inj h)
        exact .inr ⟨ok_lt _, _, rfl, hafter.symm⟩
  | updateUser =>
      obtain ⟨id, -, h⟩ := bind_ok_iff.mp h
      obtain ⟨name, -, h⟩ := bind_ok_iff.mp h
      have hafter : app.after (.user (.update id name))
          = app.withUsers (app.users.update id name).2 := rfl
      rcases hupdate : app.users.update id name with ⟨e | done, s⟩ <;> rw [hupdate] at h hafter
      · obtain ⟨-, rfl⟩ := Prod.mk.inj (Except.ok.inj h)
        have hsame := UserStore.update_refused (congrArg Prod.fst hupdate)
        rw [hupdate] at hsame
        exact .inl (congrArg app.withUsers hsame)
      · obtain ⟨rfl, rfl⟩ := Prod.mk.inj (Except.ok.inj h)
        exact .inr ⟨noContent_lt, _, rfl, hafter.symm⟩
  | deleteUser =>
      obtain ⟨id, -, h⟩ := bind_ok_iff.mp h
      obtain ⟨rfl, rfl⟩ := Prod.mk.inj (Except.ok.inj h)
      exact .inr ⟨noContent_lt, .user (.delete id), rfl, rfl⟩

theorem runCategories_cases {op : CategoryOperation}
    (h : app.runCategories op captures request = .ok (response, app')) :
    app' = app ∨ response.status < 400 ∧
      ∃ call : Call, call.operation = .category op ∧ app' = app.after call := by
  cases op with
  | getCategoryTree =>
      obtain ⟨rfl, rfl⟩ := Prod.mk.inj (Except.ok.inj h)
      exact .inl rfl
  | getCategoryById =>
      obtain ⟨id, -, h⟩ := bind_ok_iff.mp h
      obtain ⟨rfl, rfl⟩ := Prod.mk.inj (Except.ok.inj h)
      exact .inl rfl
  | createCategory =>
      obtain ⟨draft, -, h⟩ := bind_ok_iff.mp h
      obtain ⟨rfl, rfl⟩ := Prod.mk.inj (Except.ok.inj h)
      exact .inr ⟨ok_lt _, .category (.create draft), rfl, rfl⟩
  | updateCategory =>
      obtain ⟨id, -, h⟩ := bind_ok_iff.mp h
      obtain ⟨u, -, h⟩ := bind_ok_iff.mp h
      obtain ⟨rfl, rfl⟩ := Prod.mk.inj (Except.ok.inj h)
      exact .inr ⟨ok_lt _, .category (.update id u), rfl, rfl⟩
  | deleteCategory =>
      obtain ⟨id, -, h⟩ := bind_ok_iff.mp h
      obtain ⟨rfl, rfl⟩ := Prod.mk.inj (Except.ok.inj h)
      exact .inr ⟨ok_lt _, .category (.delete id), rfl, rfl⟩
  | getCategoryProductCount =>
      obtain ⟨id, -, h⟩ := bind_ok_iff.mp h
      obtain ⟨rfl, rfl⟩ := Prod.mk.inj (Except.ok.inj h)
      exact .inl rfl
  | updateCategorySort =>
      obtain ⟨id, -, h⟩ := bind_ok_iff.mp h
      obtain ⟨order, -, h⟩ := bind_ok_iff.mp h
      obtain ⟨rfl, rfl⟩ := Prod.mk.inj (Except.ok.inj h)
      exact .inr ⟨ok_lt _, .category (.updateSort id order), rfl, rfl⟩

/-- A handler leaves the state as it is, or answers with success and has made one call. -/
theorem run_cases {op : Operation} (h : app.run op captures request = .ok (response, app')) :
    app' = app ∨ response.status < 400 ∧
      ∃ call : Call, call.operation = op ∧ app' = app.after call := by
  cases op with
  | sample op => exact runSample_cases h
  | user op => exact runUsers_cases h
  | category op => exact runCategories_cases h

end App

/-! ## Where a request goes -/

theorem segments_ne_nil (cs : List Char) : Http.segments cs ≠ [] := by
  cases cs with
  | nil => exact List.cons_ne_nil _ _
  | cons c rest =>
      rw [Http.segments]
      split
      · exact List.cons_ne_nil _ _
      · split <;> exact List.cons_ne_nil _ _

/-- A path is its segments, joined by slashes. -/
theorem intercalate_segments (cs : List Char) :
    List.intercalate ['/'] (Http.segments cs) = cs := by
  induction cs with
  | nil => rfl
  | cons c cs ih =>
      have hne := segments_ne_nil cs
      rw [Http.segments]
      split
      · next hc =>
          rw [List.intercalate_cons_of_ne_nil hne, ih, beq_iff_eq.mp hc]
          rfl
      · split
        · next hnil => exact absurd hnil hne
        · next first more hsegments =>
            rw [hsegments] at ih
            cases more with
            | nil =>
                rw [List.intercalate_singleton] at ih ⊢
                rw [ih]
            | cons second more =>
                rw [List.intercalate_cons_cons] at ih ⊢
                rw [List.cons_append, List.cons_append, ih]

theorem intercalate_prefix (front more : List (List Char)) :
    List.intercalate ['/'] front <+: List.intercalate ['/'] (front ++ more) := by
  induction front with
  | nil => exact List.nil_prefix
  | cons text front ih =>
      rw [List.cons_append]
      by_cases hfront : front = []
      · rw [hfront, List.intercalate_singleton, List.nil_append]
        cases more with
        | nil => exact ⟨[], by rw [List.append_nil, List.intercalate_singleton]⟩
        | cons s more =>
            rw [List.intercalate_cons_cons, List.append_assoc]
            exact List.prefix_append _ _
      · rw [List.intercalate_cons_of_ne_nil hfront,
          List.intercalate_cons_of_ne_nil (by simp [hfront])]
        exact (List.prefix_append_right_inj _).mpr ih

/-- What the segments of a path begin with, the path begins with. -/
theorem prefix_of_segments {front path : List Char}
    (h : Http.segments front <+: Http.segments path) : front <+: path := by
  obtain ⟨more, hmore⟩ := h
  have hprefix := intercalate_prefix (Http.segments front) more
  rwa [hmore, intercalate_segments, intercalate_segments] at hprefix

/-- The request path begins with the prefix of a controller. -/
def DemoController.Covers (c : DemoController) (request : Request) : Prop :=
  c.routePrefix.toList <+: request.path.toList

instance (c : DemoController) (request : Request) : Decidable (c.Covers request) :=
  inferInstanceAs (Decidable (_ <+: _))

/-- The controller that an operation is routed below. -/
def Operation.controller : Operation → DemoController
  | .sample _ => .sample
  | .user _ => .user
  | .category _ => .category

/-- Captures behind literal segments leave these as the first of the path. -/
theorem prefix_of_matchSegments {texts : List (List Char)} {more : List Http.Segment} :
    ∀ {found : List (List Char)} {captures : List String},
      Http.matchSegments (texts.map Http.Segment.literal ++ more) found = some captures →
      texts <+: found := by
  induction texts with
  | nil => exact fun _ => List.nil_prefix
  | cons text texts ih =>
      intro found captures h
      cases found with
      | nil => cases h
      | cons s found =>
          rw [List.map_cons, List.cons_append, Http.matchSegments] at h
          split at h
          · next heq =>
              rw [beq_iff_eq.mp heq]
              exact (List.prefix_cons_inj s).mpr (ih h)
          · cases h

theorem routed_literal : ∀ op ∈ routed,
    (Http.segments op.controller.routePrefix.toList).map Http.Segment.literal
      <+: Http.templateOf op.endpoint.path := by
  decide +kernel

/-- A request is only routed to an operation below the prefix of its controller, and by a
method that the verb of the operation answers. -/
theorem targetOf_run {request : Request} {op : Operation} {captures : List String}
    (h : targetOf request.method request.path = .run op captures) :
    op.controller.Covers request ∧ answersMethod op.endpoint.verb request.method = true := by
  have hfound : ∃ e ∈ matching request.path, e.1 = op ∧
      answersMethod e.1.endpoint.verb request.method = true := by
    unfold targetOf at h
    split at h
    · cases h
    · split at h
      · next op' captures' hfind =>
          cases h
          have hanswers := List.find?_some hfind
          exact ⟨_, List.mem_of_find?_eq_some hfind, rfl, hanswers⟩
      · cases h
  obtain ⟨e, he, rfl, hmethod⟩ := hfound
  obtain ⟨op, hop, hmatch⟩ := List.mem_filterMap.mp he
  obtain ⟨captures', hcaptures, rfl⟩ := Option.map_eq_some_iff.mp hmatch
  refine ⟨prefix_of_segments ?_, hmethod⟩
  obtain ⟨more, htemplate⟩ := routed_literal op hop
  rw [Http.matchPath, ← htemplate] at hcaptures
  exact prefix_of_matchSegments hcaptures

/-- No call that may change a store belongs to an operation that is asked by reading. -/
theorem Call.not_answersMethod (call : Call) :
    answersMethod call.operation.endpoint.verb "GET" = false ∧
      answersMethod call.operation.endpoint.verb "HEAD" = false := by
  rcases call with ⟨_ | _ | _ | _⟩ | ⟨_ | _ | _⟩ | ⟨_ | _ | _ | _⟩ <;> exact ⟨rfl, rfl⟩

/-- A request leaves the state as it is, or it succeeds and makes one call, of an operation
that answers its method below the prefix of its path. -/
theorem App.handle_cases (app : App) (request : Request) :
    (app.handle request).2 = app ∨ (app.handle request).1.status < 400 ∧
      ∃ call : Call, (app.handle request).2 = app.after call ∧
        call.operation.controller.Covers request ∧
        answersMethod call.operation.endpoint.verb request.method = true := by
  rw [App.handle]
  split
  · exact .inl rfl
  · exact .inl rfl
  · next op captures htarget =>
      split
      · next response app' hrun =>
          rcases App.run_cases hrun with hsame | ⟨hstatus, call, rfl, hafter⟩
          · exact .inl hsame
          · refine .inr ⟨?_, call, hafter, targetOf_run htarget⟩
            rw [App.sent]
            split <;> exact hstatus
      · exact .inl rfl

namespace App

theorem handle_refused (app : App) {request : Request}
    (h : 400 ≤ (app.handle request).1.status) : (app.handle request).2 = app := by
  rcases app.handle_cases request with hsame | ⟨hstatus, -⟩
  · exact hsame
  · omega

theorem handle_reading (app : App) {request : Request}
    (h : request.method = "GET" ∨ request.method = "HEAD") : (app.handle request).2 = app := by
  rcases app.handle_cases request with hsame | ⟨-, call, -, -, hmethod⟩
  · exact hsame
  · obtain ⟨hget, hhead⟩ := call.not_answersMethod
    rcases h with h | h
    · rw [h, hget] at hmethod
      cases hmethod
    · rw [h, hhead] at hmethod
      cases hmethod

/-- Requests that only read can be left out of a run. -/
theorem handleAll_filter (app : App) (requests : List Request) :
    (app.handleAll (requests.filter fun r => r.method != "GET" && r.method != "HEAD")).2
      = (app.handleAll requests).2 := by
  induction requests generalizing app with
  | nil => rfl
  | cons request rest ih =>
      show _ = ((app.handle request).2.handleAll rest).2
      rw [List.filter_cons]
      split
      · exact ih (app.handle request).2
      · next hreads =>
          rw [ih, app.handle_reading]
          rw [Bool.and_eq_true, bne_iff_ne, bne_iff_ne] at hreads
          by_contra hmethod
          exact hreads (not_or.mp hmethod)

/-- Requests lead to no state but those that calls of the services lead to. -/
theorem handleAll_ofCalls (requests : List Request) (calls : List Call) :
    ∃ more : List Call, more.length ≤ requests.length ∧
      ((App.ofCalls calls).handleAll requests).2 = App.ofCalls (calls ++ more) := by
  induction requests generalizing calls with
  | nil => exact ⟨[], Nat.le_refl _, by rw [List.append_nil]; rfl⟩
  | cons request rest ih =>
      show ∃ more : List Call, more.length ≤ rest.length + 1 ∧
        (((App.ofCalls calls).handle request).2.handleAll rest).2 = App.ofCalls (calls ++ more)
      rcases (App.ofCalls calls).handle_cases request with hsame | ⟨-, call, hafter, -⟩
      · obtain ⟨more, hlength, hmore⟩ := ih calls
        exact ⟨more, Nat.le_succ_of_le hlength, by rw [hsame, hmore]⟩
      · obtain ⟨more, hlength, hmore⟩ := ih (calls ++ [call])
        refine ⟨call :: more, Nat.succ_le_succ hlength, ?_⟩
        rw [hafter, ← App.ofCalls_concat, hmore, List.append_assoc, List.singleton_append]

end App

/-- No path begins with two prefixes that do not begin with each other. -/
theorem DemoController.Covers.not_covers {request : Request} {c c' : DemoController}
    (h : c.Covers request) (hapart : ¬ (c.routePrefix.toList <+: c'.routePrefix.toList ∨
      c'.routePrefix.toList <+: c.routePrefix.toList)) : ¬ c'.Covers request :=
  fun h' => hapart (List.prefix_or_prefix_of_prefix h h')

theorem App.handle_isolated (app : App) (request : Request) :
    (DemoController.sample.Covers request →
        (app.handle request).2 = app.withSample (app.handle request).2.sample) ∧
      (DemoController.user.Covers request →
        (app.handle request).2 = app.withUsers (app.handle request).2.users) ∧
      (DemoController.category.Covers request →
        (app.handle request).2 = app.withCategories (app.handle request).2.categories) := by
  rcases app.handle_cases request with hsame | ⟨-, call, hafter, hcovers, -⟩
  · rw [hsame]
    exact ⟨fun _ => rfl, fun _ => rfl, fun _ => rfl⟩
  · rw [hafter]
    cases call with
    | sample call =>
        have hcovers : DemoController.sample.Covers request := hcovers
        exact ⟨fun _ => rfl, fun h => absurd h (hcovers.not_covers (by decide +kernel)),
          fun h => absurd h (hcovers.not_covers (by decide +kernel))⟩
    | user call =>
        have hcovers : DemoController.user.Covers request := hcovers
        exact ⟨fun h => absurd h (hcovers.not_covers (by decide +kernel)), fun _ => rfl,
          fun h => absurd h (hcovers.not_covers (by decide +kernel))⟩
    | category call =>
        have hcovers : DemoController.category.Covers request := hcovers
        exact ⟨fun h => absurd h (hcovers.not_covers (by decide +kernel)),
          fun h => absurd h (hcovers.not_covers (by decide +kernel)), fun _ => rfl⟩

/-- A request that is refused changes no store, and neither does one that only reads. A
request below the prefix of a controller changes no store but that of its service. -/
theorem handle_atomic (app : App) (request : Request) :
    (400 ≤ (app.handle request).1.status → (app.handle request).2 = app) ∧
      (request.method = "GET" ∨ request.method = "HEAD" → (app.handle request).2 = app) ∧
      (DemoController.sample.Covers request →
        (app.handle request).2 = app.withSample (app.handle request).2.sample) ∧
      (DemoController.user.Covers request →
        (app.handle request).2 = app.withUsers (app.handle request).2.users) ∧
      (DemoController.category.Covers request →
        (app.handle request).2 = app.withCategories (app.handle request).2.categories) :=
  ⟨app.handle_refused, app.handle_reading, app.handle_isolated request⟩

/-- One item that is disabled and one user. -/
def oneOfEach : App := { sample := ⟨[⟨1, "pen", false, 0⟩]⟩, users := ⟨[⟨1, "ada"⟩]⟩ }

/-- A request with a record in its body. -/
def recordRequest (method target record : String) : Request :=
  .to method target (some "application/json") (Http.bytesOf record)

/-- A user who is not there is renamed, users are asked for, the item is deleted, the user is
renamed and a category is created. -/
theorem handle_atomic_oneOfEach :
    (oneOfEach.handle (recordRequest "PUT" "/api/user/test/update-user/7"
        "\x7b\"name\":\"eve\"\x7d")).2 = oneOfEach ∧
      (oneOfEach.handle (.to "GET" "/api/user/test/get-users?name=a" none [])).2 = oneOfEach ∧
      (oneOfEach.handle (.to "DELETE" "/api/sample/delete-item/1" none [])).2
        = oneOfEach.withSample ⟨[]⟩ ∧
      (oneOfEach.handle (recordRequest "PUT" "/api/user/test/update-user/1"
        "\x7b\"name\":\"eve\"\x7d")).2 = oneOfEach.withUsers ⟨[⟨1, "eve"⟩]⟩ ∧
      (oneOfEach.handle (recordRequest "POST" "/api/categories/create-category"
        "\x7b\"name\":\"ink\"\x7d")).2
        = oneOfEach.withCategories ⟨[⟨1, "ink", none, none, 0, true⟩]⟩ := by
  refine ⟨(handle_atomic _ _).1 (by decide +kernel),
    (handle_atomic _ _).2.1 (.inl (by decide +kernel)), ?_, ?_, ?_⟩
  · rw [(handle_atomic _ _).2.2.1 (by decide +kernel)]
    exact congrArg oneOfEach.withSample (by decide +kernel)
  · rw [(handle_atomic _ _).2.2.2.1 (by decide +kernel)]
    exact congrArg oneOfEach.withUsers (by decide +kernel)
  · rw [(handle_atomic _ _).2.2.2.2 (by decide +kernel)]
    exact congrArg oneOfEach.withCategories (by decide +kernel)

end TraitRoutes.Demo
