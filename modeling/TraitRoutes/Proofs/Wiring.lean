import TraitRoutes.Proofs.ControllerText
import TraitRoutes.Proofs.DistinctKeys
import TraitRoutes.Proofs.HandlerParts
import TraitRoutes.Proofs.RenderedServices

/-!
# How handlers are wired

A handler has names for what its extractors take apart and for what its statements
bind, and the call of the method uses some of them. Which names there are is decided
in other places than which names are used, so the two have to be brought together: a
parameter is bound by exactly one part of the handler, and that part reads the place in
the request that the parameter is bound to.

The names that a handler has of its own start with two underscores. Names of
parameters that do not, and that differ from each other, are told apart by the binding
of their parameters, so nothing in the scope is ever hidden by something later. That is
the invariant behind every statement about a name here.

A handler is a record here. What it has to do with the text that is generated is that the text
is one of those that the syntax of controllers has for it.
-/

namespace TraitRoutes

open Synthesis

/-! ## Names in a handler -/

/-- What a name in a handler stands for. -/
inductive Origin where
  | service
  /-- A capture of the route. -/
  | capture
  | query
  | body
  /-- The form as it comes in. -/
  | form
  /-- The files of the form. -/
  | upload
  /-- Files that a statement has taken. -/
  | files
deriving DecidableEq, Repr

/-- The names in the pattern of an extractor. -/
def Extractor.binds : Extractor → List (String × Origin)
  | .service => [("__service", .service)]
  | .path captures => captures.map fun c => (c.1.name, .capture)
  | .query _ => [("__query", .query)]
  | .json i _ => [(i.name, .body)]
  | .multipart => [("__multipart", .form)]

namespace HandlerFn

/-- The names that the statements in front of the call bind. -/
def lets (fn : HandlerFn) : List (String × Origin) :=
  if fn.files.isEmpty then []
  else ("__files", .upload) :: fn.files.map fun b => (b.ident.name, .files)

/-- The names at the call, in the order in which they were bound. -/
def scope (fn : HandlerFn) : List (String × Origin) :=
  fn.extractors.flatMap Extractor.binds ++ fn.lets

/-- What a name at the call stands for: what was bound to it last. -/
def originOf? (fn : HandlerFn) (name : String) : Option Origin :=
  (fn.scope.reverse.find? fun b => b.1 == name).map Prod.snd

/-- The route parameter is captured, with the given type, by one place of the
extractor of the route. -/
structure Captures (fn : HandlerFn) (p : Parameter) (ty : Ty) : Prop where
  place : ∃ captures, .path captures ∈ fn.extractors ∧
    captures.filter (fun c => c.1.name == p.name) = [(p.ident, ty)]
  origin : fn.originOf? p.name = some .capture

/-- The query parameter has one field in the structure that the query string is
extracted as. -/
structure HasField (fn : HandlerFn) (p : Parameter) (wrapped : Bool) : Prop where
  place : ∃ q, fn.query = some q ∧ .query q.ident ∈ fn.extractors ∧
    q.fields.filter (fun f => f.ident.name == p.name) = [⟨p.ident, p.ty, wrapped⟩]
  origin : fn.originOf? "__query" = some .query

/-- The argument is what the request has for the parameter, read from the place that
the parameter is bound to and from no other. -/
inductive Passes (fn : HandlerFn) (p : Parameter) : Argument → Prop
  | capture (binding : p.binding = .route) (declared : p.ty.optionInner? = none)
      (captured : fn.Captures p p.ty) : Passes fn p (.bound p.ident)
  | someCapture {inner} (binding : p.binding = .route)
      (declared : p.ty.optionInner? = some inner) (captured : fn.Captures p inner) :
      Passes fn p (.wrapped p.ident)
  | body (binding : p.binding = .body) (extractor : .json p.ident p.ty ∈ fn.extractors)
      (origin : fn.originOf? p.name = some .body) : Passes fn p (.bound p.ident)
  | files (binding : p.binding = .form) (extractor : .multipart ∈ fn.extractors)
      (statement : fn.files.filter (fun b => b.ident.name == p.name) = [fileBinding p])
      (origin : fn.originOf? p.name = some .files) : Passes fn p (.bound p.ident)
  | field (binding : p.binding = .query) (field : fn.HasField p false) :
      Passes fn p (.field p.ident)
  | fieldOr {fallback} (binding : p.binding = .query)
      (declared : p.ty.optionInner?.isSome = true) (field : fn.HasField p false) :
      Passes fn p (.fieldOr p.ident fallback)
  | fieldUnwrap {fallback} (binding : p.binding = .query) (field : fn.HasField p true) :
      Passes fn p (.fieldUnwrap p.ident fallback)

end HandlerFn

namespace Handler

/-- The names of the parameters differ from each other and from the names that a
handler has of its own. -/
structure NamesApart (h : Handler) : Prop where
  distinct : (h.params.map Parameter.name).Nodup
  plain : ∀ p ∈ h.params, ¬ ['_', '_'] <+: p.name.toList

/-- The function calls the method with what the request has for its parameters. -/
structure Wired (h : Handler) (fn : HandlerFn) : Prop where
  method : fn.ident = h.ident
  service : fn.originOf? "__service" = some .service
  /-- No name is bound twice. -/
  scope : (fn.scope.map Prod.fst).Nodup
  args : List.Forall₂ fn.Passes h.params fn.args
  /-- No two extractors are of one kind. -/
  kinds : (fn.extractors.map Extractor.ctorIdx).Nodup
  /-- Captures are in the order of the route. -/
  captures : ∀ captures, .path captures ∈ fn.extractors →
    captures.map (fun c => c.1.name) = h.captures
  query : fn.query.isSome = true ↔ ∃ p ∈ h.params, p.binding = .query
  fields : ∀ q, fn.query = some q →
    q.fields.map QueryField.ident = (h.boundTo .query).map Parameter.ident
  /-- Nothing but the last extractor reads the body. -/
  body : ∀ e ∈ fn.extractors.dropLast, e.readsBody = false

end Handler

/-! ## The scope -/

/-- What the name of a parameter stands for at the call. -/
def Binding.origin : Binding → Origin
  | .route => .capture
  | .query => .query
  | .body => .body
  | .form => .files

section Scope

variable {h : Handler} {fn : HandlerFn} {p : Parameter}

/-- The names of parameters with what they stand for. -/
def Handler.bound (h : Handler) (b : Binding) : List (String × Origin) :=
  (h.boundTo b).map fun p => (p.name, p.binding.origin)

theorem bound_eq (b : Binding) :
    h.bound b = (h.boundTo b).map fun p => (p.name, b.origin) :=
  List.map_congr_left fun p hp => by rw [(mem_boundTo.mp hp).2]

theorem binds_pathExtractor : (pathExtractor h).flatMap Extractor.binds = h.bound .route := by
  rw [bound_eq]
  exact flatMap_pathExtractor fun ps => List.map_map

theorem binds_bodyExtractor (hbody : h.checkBody = .ok ()) :
    (bodyExtractor h).flatMap Extractor.binds = h.bound .body := by
  rw [bound_eq]
  exact flatMap_bodyExtractor hbody fun p => rfl

theorem lets_eq (fn : HandlerFn) :
    fn.lets = (if fn.files.isEmpty then [] else [("__files", .upload)])
      ++ fn.files.map fun b => (b.ident.name, .files) := by
  rw [HandlerFn.lets]
  cases fn.files <;> rfl

theorem bound_form_perm :
    ((fileBindings h).map fun b => (b.ident.name, Origin.files)).Perm (h.bound .form) := by
  rw [bound_eq, fileBindings, List.map_map]
  exact (fileOrder_perm _).map _

/-- The scope holds the names of the handler itself and the names of all parameters
that are no fields, each once. -/
theorem scope_perm (hfn : handlerFn h = .ok fn) (hbody : h.checkBody = .ok ()) :
    ∃ own, (own.map Prod.fst).Sublist ["__service", "__query", "__multipart", "__files"] ∧
      ("__service", .service) ∈ own ∧
      (h.boundTo .query ≠ [] → ("__query", .query) ∈ own) ∧
      fn.scope.Perm (own ++ (h.bound .route ++ h.bound .body ++ h.bound .form)) := by
  obtain ⟨i, args, -, -, rfl⟩ := handlerFn_ok_iff.mp hfn
  let query : List (String × Origin) :=
    if (h.boundTo .query).isEmpty then [] else [("__query", .query)]
  let form : List (String × Origin) :=
    if (h.boundTo .form).isEmpty then [] else [("__multipart", .form)]
  let upload : List (String × Origin) :=
    if (h.boundTo .form).isEmpty then [] else [("__files", .upload)]
  refine ⟨[("__service", .service)] ++ query ++ form ++ upload, ?_, by simp, ?_, ?_⟩
  · have hone : ∀ (b : Bool) (x : String × Origin),
        ((if b then [] else [x]).map Prod.fst).Sublist [x.1] := by
      intro b x
      cases b
      · exact .refl _
      · exact List.nil_sublist _
    simp only [List.map_append]
    exact (((List.Sublist.refl _).append (hone _ _)).append (hone _ _)).append (hone _ _)
  · intro hne
    simp [query, hne]
  · have hquery : ((if (queryStruct i h).isSome then [Extractor.query i] else []).flatMap
        Extractor.binds) = query := by
      rw [isSome_queryStruct]
      cases hempty : (h.boundTo .query).isEmpty <;> simp [query, hempty, Extractor.binds]
    have hform : ((if (fileBindings h).isEmpty then [] else [Extractor.multipart]).flatMap
        Extractor.binds) = form := by
      rw [isEmpty_fileBindings]
      cases hempty : (h.boundTo .form).isEmpty <;> simp [form, hempty, Extractor.binds]
    rw [HandlerFn.scope, lets_eq]
    simp only [List.flatMap_append, binds_pathExtractor, binds_bodyExtractor hbody, hquery, hform,
      List.flatMap_singleton, Extractor.binds]
    rw [isEmpty_fileBindings]
    -- The parts are the same on both sides, in another order.
    refine (List.Perm.append_left _ (List.Perm.append_left _ bound_form_perm)).trans ?_
    refine List.perm_iff_count.mpr fun x => ?_
    simp only [List.count_append, upload]
    omega

theorem prefix_of_mem_own {name : String}
    (hname : name ∈ ["__service", "__query", "__multipart", "__files"]) :
    ['_', '_'] <+: name.toList := by
  revert name
  decide

theorem distinct_boundTo (apart : h.NamesApart) (b : Binding) :
    ((h.boundTo b).map Parameter.name).Nodup :=
  apart.distinct.sublist (List.filter_sublist.map _)

/-- No name is bound twice. -/
theorem nodup_scope (hfn : handlerFn h = .ok fn) (hbody : h.checkBody = .ok ())
    (apart : h.NamesApart) : (fn.scope.map Prod.fst).Nodup := by
  obtain ⟨own, hown, -, -, hperm⟩ := scope_perm hfn hbody
  have hbound : ∀ b, (h.bound b).map Prod.fst = (h.boundTo b).map Parameter.name := by
    intro b
    rw [Handler.bound, List.map_map]
    rfl
  have hdisjoint : ∀ b b', b ≠ b' →
      ((h.boundTo b).map Parameter.name).Disjoint ((h.boundTo b').map Parameter.name) := by
    intro b b' hne name hname hname'
    obtain ⟨p, hp, rfl⟩ := List.mem_map.mp hname
    obtain ⟨q, hq, heq⟩ := List.mem_map.mp hname'
    obtain ⟨hmem, hb⟩ := mem_boundTo.mp hp
    obtain ⟨hmem', hb'⟩ := mem_boundTo.mp hq
    rw [List.inj_on_of_nodup_map apart.distinct hmem' hmem heq, hb] at hb'
    exact hne hb'
  rw [(hperm.map Prod.fst).nodup_iff]
  simp only [List.map_append, hbound]
  have hnames := distinct_boundTo apart
  refine (hown.nodup (by decide)).append (((hnames _).append (hnames _) ?_).append (hnames _) ?_) ?_
  · exact hdisjoint _ _ (by decide)
  · exact List.disjoint_append_left.mpr ⟨hdisjoint _ _ (by decide), hdisjoint _ _ (by decide)⟩
  · intro name hname hname'
    simp only [List.mem_append, List.mem_map, mem_boundTo] at hname'
    have hplain : ∀ p ∈ h.params, name ≠ p.name := by
      rintro p hp rfl
      exact apart.plain p hp (prefix_of_mem_own (hown.subset hname))
    obtain (⟨p, hp, rfl⟩ | ⟨p, hp, rfl⟩) | ⟨p, hp, rfl⟩ := hname' <;> exact hplain p hp.1 rfl

theorem originOf?_eq {name : String} {o : Origin} (distinct : (fn.scope.map Prod.fst).Nodup)
    (hmem : (name, o) ∈ fn.scope) : fn.originOf? name = some o := by
  rw [HandlerFn.originOf?, find?_key_reverse Prod.fst distinct hmem]
  rfl

/-- A parameter that is no field is bound under its name, from where it is bound to. -/
theorem originOf?_name (hfn : handlerFn h = .ok fn) (hbody : h.checkBody = .ok ())
    (apart : h.NamesApart) (hp : p ∈ h.params) (hquery : p.binding ≠ .query) :
    fn.originOf? p.name = some p.binding.origin := by
  obtain ⟨own, -, -, -, hperm⟩ := scope_perm hfn hbody
  refine originOf?_eq (nodup_scope hfn hbody apart) (hperm.mem_iff.mpr ?_)
  have hmem : (p.name, p.binding.origin) ∈ h.bound p.binding :=
    List.mem_map_of_mem (mem_boundTo.mpr ⟨hp, rfl⟩)
  cases hb : p.binding <;> rw [hb] at hmem
  case query => exact absurd hb hquery
  all_goals simp [hmem]

theorem originOf?_query (hfn : handlerFn h = .ok fn) (hbody : h.checkBody = .ok ())
    (apart : h.NamesApart) (hne : h.boundTo .query ≠ []) :
    fn.originOf? "__query" = some .query := by
  obtain ⟨own, -, -, hquery, hperm⟩ := scope_perm hfn hbody
  exact originOf?_eq (nodup_scope hfn hbody apart)
    (hperm.mem_iff.mpr (List.mem_append_left _ (hquery hne)))

theorem originOf?_service (hfn : handlerFn h = .ok fn) (hbody : h.checkBody = .ok ())
    (apart : h.NamesApart) : fn.originOf? "__service" = some .service := by
  obtain ⟨own, -, hservice, -, hperm⟩ := scope_perm hfn hbody
  exact originOf?_eq (nodup_scope hfn hbody apart)
    (hperm.mem_iff.mpr (List.mem_append_left _ hservice))

end Scope

/-! ## Arguments -/

section Arguments

variable {h : Handler} {fn : HandlerFn} {p : Parameter}

theorem mem_extractors (hfn : handlerFn h = .ok fn) {e : Extractor} :
    e ∈ fn.extractors ↔ e = .service ∨ e ∈ pathExtractor h ∨
      (∃ q, fn.query = some q ∧ e = .query q.ident) ∨ e ∈ bodyExtractor h ∨
      h.boundTo .form ≠ [] ∧ e = .multipart := by
  obtain ⟨i, args, -, -, rfl⟩ := handlerFn_ok_iff.mp hfn
  have hquery : e ∈ (if (queryStruct i h).isSome then [Extractor.query i] else []) ↔
      ∃ q, queryStruct i h = some q ∧ e = .query q.ident := by
    cases hq : queryStruct i h with
    | none => simp
    | some q => simp [queryStruct_eq_some hq]
  have hform : e ∈ (if (fileBindings h).isEmpty then [] else [Extractor.multipart]) ↔
      h.boundTo .form ≠ [] ∧ e = .multipart := by
    rw [isEmpty_fileBindings]
    by_cases hnil : h.boundTo .form = [] <;> simp [hnil]
  simp only [List.mem_append, List.mem_singleton, hquery, hform, or_assoc]

theorem path_of_route (hfn : handlerFn h = .ok fn) (hp : p ∈ h.boundTo .route) :
    .path ((h.boundTo .route).map fun p => (p.ident, captureType p)) ∈ fn.extractors := by
  refine (mem_extractors hfn).mpr (.inr (.inl ?_))
  unfold pathExtractor
  split
  · next hnil => exact absurd hnil (List.ne_nil_of_mem hp)
  · exact List.mem_singleton_self _

theorem captures_of_route (hfn : handlerFn h = .ok fn) (hbody : h.checkBody = .ok ())
    (apart : h.NamesApart) (hp : p ∈ h.params) (hb : p.binding = .route) :
    fn.Captures p (captureType p) := by
  have hmem : p ∈ h.boundTo .route := mem_boundTo.mpr ⟨hp, hb⟩
  have hplace : ((h.boundTo .route).map fun p => (p.ident, captureType p)).filter
      (fun c => c.1.name == p.name) = [(p.ident, captureType p)] :=
    filter_map_key Parameter.name (fun _ => rfl) (distinct_boundTo apart .route) hmem
  refine ⟨⟨_, path_of_route hfn hmem, hplace⟩, ?_⟩
  rw [originOf?_name hfn hbody apart hp (by simp [hb]), hb]
  rfl

/-- Where there is a query parameter, the query structure is extracted. -/
theorem query_of_query (hfn : handlerFn h = .ok fn) (hp : p ∈ h.boundTo .query) :
    ∃ q, fn.query = some q ∧ .query q.ident ∈ fn.extractors ∧
      q.fields = (h.boundTo .query).map queryField := by
  have hquery : ∃ q, fn.query = some q ∧ q.fields = (h.boundTo .query).map queryField := by
    obtain ⟨i, args, -, -, rfl⟩ := handlerFn_ok_iff.mp hfn
    have hsome : (queryStruct i h).isSome = true := by
      rw [isSome_queryStruct, List.isEmpty_eq_false_iff.mpr (List.ne_nil_of_mem hp)]
      rfl
    obtain ⟨q, hq⟩ := Option.isSome_iff_exists.mp hsome
    exact ⟨q, hq, by rw [queryStruct_eq_some hq]⟩
  obtain ⟨q, hq, hfields⟩ := hquery
  exact ⟨q, hq, (mem_extractors hfn).mpr (.inr (.inr (.inl ⟨q, hq, rfl⟩))), hfields⟩

theorem hasField_of_query (hfn : handlerFn h = .ok fn) (hbody : h.checkBody = .ok ())
    (apart : h.NamesApart) (hp : p ∈ h.params) (hb : p.binding = .query) :
    fn.HasField p (!p.nullable && p.default.isSome) := by
  have hmem : p ∈ h.boundTo .query := mem_boundTo.mpr ⟨hp, hb⟩
  refine ⟨?_, originOf?_query hfn hbody apart (List.ne_nil_of_mem hmem)⟩
  obtain ⟨q, hq, hextracted, hfields⟩ := query_of_query hfn hmem
  refine ⟨q, hq, hextracted, ?_⟩
  rw [hfields]
  exact filter_map_key Parameter.name (fun _ => rfl) (distinct_boundTo apart .query) hmem

theorem passes_of_query {a : Argument} (hnull : p.nullable = p.ty.optionInner?.isSome)
    (hb : p.binding = .query) (hfield : fn.HasField p (!p.nullable && p.default.isSome))
    (ha : queryArgument p = .ok a) : fn.Passes p a := by
  unfold queryArgument at ha
  split at ha
  · next text hdefault hnullable =>
      rw [hnullable] at hnull hfield
      obtain ⟨d, -, rfl⟩ := map_fallback_ok ha
      exact .fieldOr hb hnull.symm hfield
  · next d hdefault hnullable =>
      rw [hnullable, hdefault] at hfield
      obtain ⟨e, -, rfl⟩ := map_fallback_ok ha
      exact .fieldUnwrap hb hfield
  · next hliteral hplain =>
      obtain rfl := Except.ok.inj ha
      have hwrapped : (!p.nullable && p.default.isSome) = false := by
        cases hdefault : p.default with
        | none => simp
        | some d =>
            cases hnullable : p.nullable with
            | true => rfl
            | false => exact absurd hnullable (hplain d hdefault)
      exact .field hb (hwrapped ▸ hfield)

theorem json_of_body (hfn : handlerFn h = .ok fn) (hbody : h.checkBody = .ok ())
    (hp : p ∈ h.boundTo .body) : .json p.ident p.ty ∈ fn.extractors := by
  refine (mem_extractors hfn).mpr (.inr (.inr (.inr (.inl ?_))))
  rcases body_cases hbody with hnil | ⟨⟨q, hq⟩, -⟩
  · rw [hnil] at hp
    cases hp
  · rw [hq] at hp
    obtain rfl := List.mem_singleton.mp hp
    rw [bodyExtractor, hq]
    exact List.mem_singleton_self _

theorem files_eq (hfn : handlerFn h = .ok fn) :
    fn.files = (fileOrder (h.boundTo .form)).map fileBinding := by
  obtain ⟨i, args, -, -, rfl⟩ := handlerFn_ok_iff.mp hfn
  rfl

theorem statement_of_form (hfn : handlerFn h = .ok fn) (apart : h.NamesApart)
    (hp : p ∈ h.boundTo .form) :
    fn.files.filter (fun b => b.ident.name == p.name) = [fileBinding p] := by
  have hdistinct : ((fileOrder (h.boundTo .form)).map Parameter.name).Nodup :=
    (((fileOrder_perm _).map _).nodup_iff).mpr (distinct_boundTo apart .form)
  rw [files_eq hfn]
  exact filter_map_key Parameter.name (fun _ => rfl) hdistinct ((fileOrder_perm _).mem_iff.mpr hp)

/-- Every argument is what the request has for its parameter. -/
theorem passes_of_argument (hfn : handlerFn h = .ok fn) (hbody : h.checkBody = .ok ())
    (apart : h.NamesApart) (hp : p ∈ h.params)
    (hnull : p.nullable = p.ty.optionInner?.isSome) {a : Argument} (ha : argument p = .ok a) :
    fn.Passes p a := by
  unfold argument at ha
  cases hb : p.binding <;> rw [hb] at ha
  case query => exact passes_of_query hnull hb (hasField_of_query hfn hbody apart hp hb) ha
  case route =>
    obtain rfl := Except.ok.inj ha
    have hcaptures := captures_of_route hfn hbody apart hp hb
    rw [captureType] at hcaptures
    rw [hnull]
    cases hinner : p.ty.optionInner? with
    | none => exact .capture hb hinner (by simpa [hinner] using hcaptures)
    | some inner => exact .someCapture hb hinner (by simpa [hinner] using hcaptures)
  case body =>
    obtain rfl := Except.ok.inj ha
    have horigin := originOf?_name hfn hbody apart hp (by simp [hb])
    rw [hb] at horigin
    exact .body hb (json_of_body hfn hbody (mem_boundTo.mpr ⟨hp, hb⟩)) horigin
  case form =>
    obtain rfl := Except.ok.inj ha
    have horigin := originOf?_name hfn hbody apart hp (by simp [hb])
    rw [hb] at horigin
    have hmem : p ∈ h.boundTo .form := mem_boundTo.mpr ⟨hp, hb⟩
    exact .files hb ((mem_extractors hfn).mpr
      (.inr (.inr (.inr (.inr ⟨List.ne_nil_of_mem hmem, rfl⟩)))))
      (statement_of_form hfn apart hmem) horigin

end Arguments

/-! ## Extractors -/

section Extractors

variable {h : Handler} {fn : HandlerFn}

theorem path_of_mem_pathExtractor {e : Extractor} (he : e ∈ pathExtractor h) :
    e = .path ((h.boundTo .route).map fun p => (p.ident, captureType p)) := by
  unfold pathExtractor at he
  split at he
  · cases he
  · exact List.mem_singleton.mp he

theorem json_of_mem_bodyExtractor {e : Extractor} (he : e ∈ bodyExtractor h) :
    ∃ p ∈ h.boundTo .body, e = .json p.ident p.ty := by
  unfold bodyExtractor at he
  split at he
  · cases he
  · next p rest hb => exact ⟨p, hb ▸ List.mem_cons_self, List.mem_singleton.mp he⟩

theorem path_captures (hfn : handlerFn h = .ok fn) {captures : List (Ident × Ty)}
    (hpath : .path captures ∈ fn.extractors) :
    captures.map (fun c => c.1.name) = h.captures := by
  obtain he | he | ⟨q, -, he⟩ | he | ⟨-, he⟩ := (mem_extractors hfn).mp hpath
  · cases he
  · obtain rfl := Extractor.path.inj (path_of_mem_pathExtractor he)
    rw [List.map_map]
    rfl
  · cases he
  · obtain ⟨p, -, he⟩ := json_of_mem_bodyExtractor he
    cases he
  · cases he

/-- Extractors stand in the order of their kinds. -/
theorem kinds_sublist (hfn : handlerFn h = .ok fn) :
    (fn.extractors.map Extractor.ctorIdx).Sublist [0, 1, 2, 3, 4] := by
  obtain ⟨i, args, -, -, rfl⟩ := handlerFn_ok_iff.mp hfn
  have hpath : ((pathExtractor h).map Extractor.ctorIdx).Sublist [1] := by
    unfold pathExtractor
    split
    · exact List.nil_sublist _
    · exact .refl _
  have hbody : ((bodyExtractor h).map Extractor.ctorIdx).Sublist [3] := by
    unfold bodyExtractor
    split
    · exact List.nil_sublist _
    · exact .refl _
  have hif : ∀ (b : Bool) (e : Extractor),
      ((if b then [e] else []).map Extractor.ctorIdx).Sublist [e.ctorIdx] ∧
        ((if b then [] else [e]).map Extractor.ctorIdx).Sublist [e.ctorIdx] := by
    intro b e
    cases b
    · exact ⟨List.nil_sublist _, .refl _⟩
    · exact ⟨.refl _, List.nil_sublist _⟩
  simp only [List.map_append]
  exact ((((List.Sublist.refl [0]).append hpath).append (hif _ _).1).append hbody).append
    (hif _ _).2

/-- At most one extractor reads the body, and then it is the last one. -/
theorem readsBody_dropLast (hfn : handlerFn h = .ok fn) (hbody : h.checkBody = .ok ()) :
    ∀ e ∈ fn.extractors.dropLast, e.readsBody = false := by
  have hsplit : ∃ before last, fn.extractors = before ++ last ∧ last.length ≤ 1 ∧
      ∀ e ∈ before, e.readsBody = false := by
    obtain ⟨i, args, -, -, rfl⟩ := handlerFn_ok_iff.mp hfn
    have hbefore : ∀ e ∈ [.service] ++ pathExtractor h
        ++ (if (queryStruct i h).isSome then [.query i] else []), e.readsBody = false := by
      intro e he
      simp only [List.mem_append, List.mem_singleton] at he
      obtain (rfl | he) | he := he
      · rfl
      · rw [path_of_mem_pathExtractor he]
        rfl
      · split at he
        · obtain rfl := List.mem_singleton.mp he
          rfl
        · cases he
    -- A body excludes a form, so only one of the two extractors is behind these.
    refine ⟨_, _, List.append_assoc _ _ _, ?_, hbefore⟩
    rw [isEmpty_fileBindings, bodyExtractor]
    rcases body_cases hbody with hb | ⟨⟨p, hb⟩, hform⟩
    · simp only [hb, List.nil_append]
      split <;> simp
    · simp [hb, hform]
  obtain ⟨before, last, heq, hlast, hbefore⟩ := hsplit
  intro e he
  rw [heq] at he
  refine hbefore e ?_
  match last, hlast with
  | [], _ =>
      rw [List.append_nil] at he
      exact (List.dropLast_sublist _).subset he
  | [x], _ => rwa [List.dropLast_concat] at he

/-- A handler function is wired if the names of the parameters are apart. -/
theorem wired_of_handlerFn (hfn : handlerFn h = .ok fn) (hbody : h.checkBody = .ok ())
    (hnull : ∀ p ∈ h.params, p.nullable = p.ty.optionInner?.isSome) (apart : h.NamesApart) :
    h.Wired fn where
  method := by
    obtain ⟨i, args, -, -, rfl⟩ := handlerFn_ok_iff.mp hfn
    rfl
  service := originOf?_service hfn hbody apart
  scope := nodup_scope hfn hbody apart
  args := by
    have hmem := (List.forall₂_and_left _ _).mpr ⟨fun p hp => hp, forall₂_argument hfn⟩
    exact hmem.imp fun p a ⟨hp, ha⟩ => passes_of_argument hfn hbody apart hp (hnull p hp) ha
  kinds := (kinds_sublist hfn).nodup (by decide)
  captures := fun captures hpath => path_captures hfn hpath
  query := by
    obtain ⟨i, args, -, -, rfl⟩ := handlerFn_ok_iff.mp hfn
    rw [isSome_queryStruct, Bool.not_eq_true', List.isEmpty_eq_false_iff_exists_mem]
    simp only [mem_boundTo]
  fields := by
    obtain ⟨i, args, -, -, rfl⟩ := handlerFn_ok_iff.mp hfn
    intro q hq
    rw [queryStruct_eq_some hq, List.map_map]
    rfl
  body := readsBody_dropLast hfn hbody

end Extractors

/-- A service that is resolved from a trait and rendered is written as a controller, whose
handlers are wired, each for the method in its place. -/
theorem render_wires {o : Options} {d : Declaration} {s : Service} {suffix : String}
    {a : Artifact} (resolved : d.resolve o = .ok s) (rendered : s.render suffix = .ok a) :
    ∃ c, s.controller suffix = .ok c ∧ a.source.toList ∈ c.code s.space ∧
      List.Forall₂ (Handler.OfMethod o) d.methods s.handlers ∧
      List.Forall₂ (fun h fn => h.NamesApart → h.Wired fn) s.handlers c.handlers := by
  obtain ⟨c, hc, hsource, hof⟩ := Service.controller_of_render rendered
  have hmethods := (Declaration.ofDeclaration_of_resolve resolved).handlers
  refine ⟨c, hc, hsource ▸ c.source_mem s.space, hmethods, ?_⟩
  have hmem := (List.forall₂_and_left _ _).mpr ⟨fun h hh => hh, hof.handlers⟩
  refine hmem.imp fun h fn ⟨hh, hfn⟩ apart => ?_
  refine wired_of_handlerFn hfn (hof.bodies h hh) (fun p hp => ?_) apart
  obtain ⟨input, hinput⟩ := Parameter.exists_ofInput hmethods hh hp
  exact hinput.nullable

instance (h : Handler) : Decidable h.NamesApart :=
  decidable_of_iff ((h.params.map Parameter.name).Nodup ∧
      ∀ p ∈ h.params, ¬ ['_', '_'] <+: p.name.toList)
    ⟨fun apart => ⟨apart.1, apart.2⟩, fun apart => ⟨apart.distinct, apart.plain⟩⟩

/-- The optional type of a name. -/
def Ty.optional (name : Ident) : Ty :=
  .path (.mk false [.mk (.plain "Option") (.angle false [.type (.named name)] false)])

/-- A trait with a method that has parameters from the route and the query, with and
without a default, and one with a file. -/
def shelf : Declaration :=
  .named (.plain "IShelf") [
    .named [⟨false, [.plain "default_value"], .list .paren [
        .word "depth", .lone '=', .literal ⟨.integer, "1"⟩, .lone ',',
        .word "tag", .lone '=', .literal ⟨.string, "\"new\""⟩]⟩] (.plain "find") [
      .named (.plain "tag") (.optional (.plain "String")),
      .named (.plain "shelf_id") (.named (.plain "u64")),
      .named (.plain "row_id") (.optional (.plain "u16")),
      .named (.plain "depth") (.named (.plain "u16"))],
    .named [] (.plain "hang") [
      .named (.plain "photo") (.named .formFile),
      .named (.plain "shelf_id") (.named (.plain "u64"))]]

theorem render_wires_shelf :
    ∃ s a c, shelf.resolve {} = .ok s ∧ s.render "Controller" = .ok a ∧
      s.controller "Controller" = .ok c ∧ s.handlers.length = 2 ∧
      a.source.toList ∈ c.code "crate" ∧ List.Forall₂ Handler.Wired s.handlers c.handlers := by
  have hrun : shelf.rendersTo (fun s => s.space == "crate" &&
      (s.handlers.length == 2 && s.handlers.all fun h => decide h.NamesApart)) = true := by
    decide +kernel
  obtain ⟨s, a, hs, ha, hcheck⟩ := Declaration.exists_of_rendersTo hrun
  obtain ⟨hspace, hhandlers⟩ := Bool.and_eq_true_iff.mp hcheck
  obtain ⟨hlength, hall⟩ := Bool.and_eq_true_iff.mp hhandlers
  obtain ⟨c, hc, htext, -, hwired⟩ := render_wires hs ha
  refine ⟨s, a, c, hs, ha, hc, beq_iff_eq.mp hlength, beq_iff_eq.mp hspace ▸ htext, ?_⟩
  have hmem := (List.forall₂_and_left _ _).mpr ⟨fun h hh => hh, hwired⟩
  exact hmem.imp fun h fn ⟨hh, hwire⟩ => hwire (of_decide_eq_true (List.all_eq_true.mp hall h hh))

end TraitRoutes
