import TraitRoutes.Proofs.DistinctKeys
import TraitRoutes.Proofs.HelperAttributes
import TraitRoutes.Proofs.KeyNames
import TraitRoutes.Proofs.RenderedServices

/-!
# What resolution decides

A resolved service can be read off the trait: of each parameter the binding, from its
shape and its name, and of each method the verb and the defaults, from its attributes.

Only the defaults take an argument about a whole method. The entries of the attribute
are handed from parameter to parameter, each takes the entry of its name, and in the end
none may be left. The invariant is that an entry is left or was taken: no parameter
takes an entry that was not listed, and since no two entries have one name, a parameter
takes no more than its own.
-/

namespace TraitRoutes

/-! ## Types of parameters -/

/-- The type is an `Option` of one type, parentheses aside. -/
inductive Ty.IsOption : Ty → Ty → Prop
  | path {leading turbofish trailing : Bool} {front : List Segment} {inner : Ty} :
      IsOption (.path (.mk leading
        (front ++ [.mk (.plain "Option") (.angle turbofish [.type inner] trailing)]))) inner
  | paren {t inner : Ty} (option : IsOption t inner) : IsOption (.paren t) inner

namespace Ty

theorem isOption_of_path {p : Path} {inner : Ty} (h : (Ty.path p).optionInner? = some inner) :
    IsOption (.path p) inner := by
  rw [optionInner?, argumentOf?] at h
  split at h
  · next i turbofish arg trailing hlast =>
      split at h
      · next hoption =>
          obtain rfl := Option.some.inj h
          have hi : i = .plain "Option" := Ident.text_inj (eq_of_beq hoption)
          subst hi
          cases p with
          | mk leading segments =>
              obtain ⟨front, rfl⟩ := List.getLast?_eq_some_iff.mp hlast
              exact .path
      · cases h
  · cases h

theorem optionInner?_eq_some_iff {t inner : Ty} :
    t.optionInner? = some inner ↔ t.IsOption inner := by
  constructor
  · intro h
    fun_induction path? t with
    | case1 p => exact isOption_of_path h
    | case2 t ih => exact .paren (ih h)
    | case3 t hpath hparen =>
        have hnone : t.path? = none := path?.eq_3 t hpath hparen
        rw [optionInner?, argumentOf?, hnone] at h
        cases h
  · intro h
    induction h with
    | path =>
        rw [optionInner?, argumentOf?, path?, Option.bind_some, Path.last?, Path.segments,
          List.getLast?_concat]
        rfl
    | paren _ ih => exact ih

end Ty

/-! ## Parameters -/

/-- The parameter is what its input asks for. -/
structure Parameter.Resolves (o : Options) (input : Input) (p : Parameter) : Prop where
  ident : input.pattern.name = some p.ident
  ty : p.ty = input.ty
  shape : p.shape = .classify o p.ty
  form : p.binding = .form ↔ ∃ files, p.shape = .file files
  body : p.binding = .body ↔ p.shape = .complex
  route : p.binding = .route ↔ p.shape = .simple ∧ HasKeyWord p.name
  query : p.binding = .query ↔ p.shape = .simple ∧ ¬ HasKeyWord p.name
  nullable : p.nullable = true ↔ ∃ inner, p.ty.IsOption inner
  default : p.default.isSome = true → p.binding = .query

theorem Parameter.resolves_of_ofInput {o : Options} {verb : Verb} {input : Input} {p : Parameter}
    (h : p.OfInput o verb input) : p.Resolves o input := by
  have hkey : isKeyName p.ident.text = true ↔ HasKeyWord p.name := by
    rw [isKeyName_text, isKeyName_iff]
    rfl
  refine {
    ident := h.name, ty := h.ty, shape := h.shape, default := h.default
    form := ?form, body := ?body, route := ?route, query := ?query, nullable := ?nullable }
  case nullable =>
    rw [h.nullable, Option.isSome_iff_exists]
    exact exists_congr fun inner => Ty.optionInner?_eq_some_iff
  all_goals
    simp only [h.binding, ← hkey]
    cases p.shape with
    | file files => simp [Binding.resolve]
    | complex => simp [Binding.resolve]
    | simple => cases hname : isKeyName p.ident.text <;> simp [Binding.resolve, hname]

/-! ## Defaults -/

namespace Resolution

variable {o : Options} {method : String} {verb : Verb}

/-- The parameter has the default of an entry. -/
def Takes (p : Parameter) (e : DefaultEntry) : Prop :=
  p.ident = e.name ∧ p.default = some (.ofLiteral e.literal)

theorem ofLiteral_inj {a b : Option String} (h : DefaultValue.ofLiteral a = .ofLiteral b) :
    a = b := by
  cases a <;> cases b <;> cases h <;> rfl

theorem eq_of_key {e f : DefaultEntry} (hname : e.name.text = f.name.text)
    (hliteral : e.literal = f.literal) : e = f := by
  cases e
  cases f
  obtain rfl := Ident.text_inj hname
  cases hliteral
  rfl

/-- A parameter takes the entry of its name, and leaves the others. -/
theorem mem_defaults_of_parameter {defaults left : List DefaultEntry} {input : Input}
    {p : Parameter} (distinct : (defaults.map DefaultEntry.key).Nodup)
    (h : parameter o method verb defaults input = .ok (p, left)) (e : DefaultEntry) :
    e ∈ defaults ↔ e ∈ left ∨ Takes p e := by
  obtain ⟨i, -, -, -, -, rfl, rfl⟩ := parameter_ok_iff.mp h
  rw [takeDefault]
  dsimp only
  constructor
  · intro he
    by_cases hkey : e.key = i.text
    · refine .inr ⟨(Ident.text_inj hkey).symm, ?_⟩
      dsimp only
      rw [← hkey, show defaults.find? (fun f => f.name.text == e.key) = some e from
        find?_key DefaultEntry.key distinct he]
      rfl
    · exact .inl (List.mem_filter.mpr ⟨he, bne_iff_ne.mpr hkey⟩)
  · rintro (he | ⟨hname, hdefault⟩)
    · exact (List.mem_filter.mp he).1
    · obtain ⟨f, hf, hliteral⟩ := Option.map_eq_some_iff.mp hdefault
      have hkey := List.find?_some hf
      have : f = e := eq_of_key (by simpa [← hname] using hkey) (ofLiteral_inj hliteral)
      exact this ▸ List.mem_of_find?_eq_some hf

theorem left_sublist {defaults left : List DefaultEntry} {input : Input} {p : Parameter}
    (h : parameter o method verb defaults input = .ok (p, left)) : left.Sublist defaults := by
  obtain ⟨i, -, -, -, -, -, rfl⟩ := parameter_ok_iff.mp h
  exact List.filter_sublist

/-- Every entry is left over or was taken by a parameter, and nothing else was taken. -/
theorem mem_defaults_of_parameters {inputs : List Input} :
    ∀ {defaults left : List DefaultEntry} {ps : List Parameter},
      (defaults.map DefaultEntry.key).Nodup →
      parameters o method verb defaults inputs = .ok (ps, left) →
      ∀ e, e ∈ defaults ↔ e ∈ left ∨ ∃ p ∈ ps, Takes p e := by
  induction inputs with
  | nil =>
      intro defaults left ps _ h e
      obtain ⟨rfl, rfl⟩ := Prod.mk.inj (Except.ok.inj h)
      simp
  | cons input rest ih =>
      intro defaults left ps distinct h e
      obtain ⟨p, mid, qs, hp, hqs, rfl⟩ := parameters_cons_ok_iff.mp h
      -- What the first parameter leaves is what the others are given.
      have hmid : (mid.map DefaultEntry.key).Nodup :=
        distinct.sublist ((left_sublist hp).map DefaultEntry.key)
      rw [mem_defaults_of_parameter distinct hp, ih hmid hqs, List.exists_mem_cons_iff, or_assoc,
        or_comm (b := Takes p e)]

end Resolution

/-! ## Methods -/

/-- The entry stands in the list of defaults of the method. -/
def Method.Lists (m : Method) (e : DefaultEntry) : Prop :=
  ∃ a ∈ m.attrs, Helper.defaultValue.isNamed a = true ∧
    ∃ ts entries, Helper.arguments a = .ok ts ∧ DefaultEntry.readAll ts = .ok entries ∧ e ∈ entries

/-- The handler is what its method asks for. -/
structure Handler.Resolves (o : Options) (m : Method) (h : Handler) : Prop where
  ident : h.ident = m.sig.ident
  params : List.Forall₂ (Parameter.Resolves o) m.sig.inputs h.params
  /-- The parameters that are listed by their names alone have the default of their type. -/
  zero : ∀ i, (∃ p ∈ h.params, p.ident = i ∧ p.default = some .zero) ↔ m.Lists ⟨i, none⟩
  /-- Those that are listed with a literal have this literal. -/
  literal : ∀ i text, (∃ p ∈ h.params, p.ident = i ∧ p.default = some (.literal text)) ↔
    m.Lists ⟨i, some text⟩
  explicit : ∀ a ∈ m.attrs, Helper.httpMethod.isNamed a = true →
    ∃ ts, Helper.arguments a = .ok ts ∧ Helper.readVerb ts = .ok h.verb
  /-- Without such an attribute the name of the method announces the verb. -/
  inferred : (∀ a ∈ m.attrs, Helper.httpMethod.isNamed a = false) →
    h.verb = .infer m.sig.ident.text

namespace Resolution

theorem eq_of_filter_eq_singleton {α : Type} {f : α → Bool} {xs : List α} {x y : α}
    (hfilter : xs.filter f = [x]) (hy : y ∈ xs) (hf : f y = true) : y = x :=
  List.mem_singleton.mp (hfilter ▸ List.mem_filter.mpr ⟨hy, hf⟩)

/-- The defaults that were read are those that the method lists, each name once. -/
theorem lists_iff_of_defaultsIn {m : Method} {defaults : List DefaultEntry}
    (h : Helper.defaultsIn m.attrs = .ok defaults) :
    (defaults.map DefaultEntry.key).Nodup ∧ ∀ e, m.Lists e ↔ e ∈ defaults := by
  rcases Helper.defaultsIn_ok h with ⟨hnone, rfl⟩ | ⟨a, ts, hone, hts, hparse⟩
  · refine ⟨.nil, fun e => ⟨?_, fun he => by cases he⟩⟩
    rintro ⟨a, ha, hnamed, -⟩
    exact absurd hnamed (List.filter_eq_nil_iff.mp hnone a ha)
  · obtain ⟨entries, hentries, hperm, hnodup⟩ := DefaultEntry.parse_ok hparse
    refine ⟨hnodup, fun e => ?_⟩
    rw [hperm.mem_iff]
    constructor
    · rintro ⟨b, hb, hnamed, ts', entries', hts', hentries', he⟩
      obtain rfl := eq_of_filter_eq_singleton hone hb hnamed
      obtain rfl := Except.ok.inj (hts.symm.trans hts')
      obtain rfl := Except.ok.inj (hentries.symm.trans hentries')
      exact he
    · intro he
      have ha := List.mem_filter.mp (hone ▸ List.mem_singleton_self a)
      exact ⟨a, ha.1, ha.2, ts, entries, hts, hentries, he⟩

/-- The verb that was read is the one of every attribute for it. -/
theorem verb_of_verbIn {attrs : List Attribute} {explicit : Option Verb}
    (h : Helper.verbIn attrs = .ok explicit) (method : String) :
    (∀ a ∈ attrs, Helper.httpMethod.isNamed a = true → ∃ ts, Helper.arguments a = .ok ts ∧
      Helper.readVerb ts = .ok (.resolve explicit method)) ∧
    ((∀ a ∈ attrs, Helper.httpMethod.isNamed a = false) →
      Verb.resolve explicit method = .infer method) := by
  rcases Helper.verbIn_ok h with ⟨hnone, rfl⟩ | ⟨a, ts, verb, hone, hts, hverb, rfl⟩
  · refine ⟨fun a ha hnamed => ?_, fun _ => rfl⟩
    exact absurd hnamed (List.filter_eq_nil_iff.mp hnone a ha)
  · refine ⟨fun b hb hnamed => ?_, fun hnone => ?_⟩
    · obtain rfl := eq_of_filter_eq_singleton hone hb hnamed
      exact ⟨ts, hts, hverb⟩
    · have ha := List.mem_filter.mp (hone ▸ List.mem_singleton_self a)
      rw [hnone a ha.1] at ha
      cases ha.2

theorem resolves_of_handler {o : Options} {interface : String} {m : Method} {h : Handler}
    (hm : handler o interface m = .ok h) : h.Resolves o m := by
  have hof := ofMethod_of_handler hm
  obtain ⟨reply, explicit, defaults, ps, -, -, hverb, hdefaults, hps, rfl⟩ := handler_ok_iff.mp hm
  obtain ⟨hnodup, hlists⟩ := lists_iff_of_defaultsIn hdefaults
  obtain ⟨hexplicit, hinferred⟩ := verb_of_verbIn hverb m.sig.ident.text
  have htaken : ∀ e, (∃ p ∈ ps, Takes p e) ↔ m.Lists e := by
    intro e
    rw [hlists, mem_defaults_of_parameters hnodup hps]
    simp
  exact {
    ident := rfl
    params := hof.params.imp fun input p hp => p.resolves_of_ofInput hp
    zero := fun i => htaken ⟨i, none⟩
    literal := fun i text => htaken ⟨i, some text⟩
    explicit := hexplicit
    inferred := hinferred }

end Resolution

/-- A service that was resolved has a handler for each method of the trait, in order, and
each is what its method asks for. -/
theorem resolve_resolves {o : Options} {d : Declaration} {s : Service}
    (resolved : d.resolve o = .ok s) :
    s.ident = d.ident ∧ List.Forall₂ (Handler.Resolves o) d.methods s.handlers := by
  obtain ⟨hident, hhandlers⟩ := Declaration.handlers_of_resolve resolved
  exact ⟨hident, hhandlers.imp fun m h hm => Resolution.resolves_of_handler hm⟩

/-- A trait with a method that has both attributes, and parameters from the route, the query
string and the body. -/
def atlas : Declaration :=
  .named (.spelled "IAtlas") [
    .named [
        ⟨false, [.spelled "http_method"], .list .paren [.literal ⟨.string, "\"put\""⟩]⟩,
        ⟨false, [.spelled "dynamic_api", .spelled "default_value"], .list .paren [
          .name (.spelled "depth"), .lone '=', .literal ⟨.integer, "1"⟩, .lone ',',
          .name (.spelled "tag")]⟩]
      (.spelled "find") [
        .named (.spelled "sheet_id") (.named (.spelled "u64")),
        .named (.spelled "tag") (.named (.spelled "String")),
        .named (.spelled "depth") (.path (.mk false
          [.mk (.spelled "Option") (.angle false [.type (.named (.spelled "u16"))] false)])),
        .named (.spelled "area") (.named (.spelled "Area"))]]

theorem resolve_resolves_atlas :
    ∃ s h m, atlas.resolve {} = .ok s ∧ s.handlers = [h] ∧ atlas.methods = [m] ∧
      h.Resolves {} m ∧ h.verb = .put ∧
      h.params.map (fun p => (p.binding, p.default)) =
        [(.route, none), (.query, some .zero), (.query, some (.literal "1")), (.body, none)] := by
  have hrun : atlas.rendersTo (fun s => s.handlers.map (fun h => (h.verb,
      h.params.map fun p => (p.binding, p.default))) == [(.put,
        [(.route, none), (.query, some .zero), (.query, some (.literal "1")), (.body, none)])])
      = true := by
    decide +kernel
  obtain ⟨s, a, hs, -, hcheck⟩ := Declaration.exists_of_rendersTo hrun
  obtain ⟨h, hh, hpair⟩ := List.map_eq_singleton_iff.mp (beq_iff_eq.mp hcheck)
  obtain ⟨hverb, hparams⟩ := Prod.mk.inj hpair
  obtain ⟨-, hall⟩ := resolve_resolves hs
  rw [hh] at hall
  cases hall with
  | cons hm _ => exact ⟨s, h, _, hs, hh, rfl, hm, hverb, hparams⟩

end TraitRoutes
