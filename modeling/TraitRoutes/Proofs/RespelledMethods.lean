import Mathlib.Data.List.Pairwise
import TraitRoutes.Proofs.ResolvedMethods
import TraitRoutes.Proofs.RespelledDefaults

/-!
# Raw names of methods and parameters

A method and its parameters may be written raw, and the entries of its defaults with them.
Routes, captures and documentation go by names without the mark, and whether a name looks
like a key is not changed by it either, so all of this stays as it was.

Defaults are found by the names as written. While the parameters are resolved in order,
the entries that are left are the respelled entries that were left before, in some order.
The invariant holds as long as no parameter that takes an entry comes to have the name of
an earlier one, which would take the entry instead; parameters that differ in more than
the mark never do.

The verb is the exception. It is inferred from the name as written, and no vocabulary has
a word that begins with the mark, so a raw name announces `POST` whatever it was before.
-/

namespace TraitRoutes

/-! ## Two spellings of one trait -/

/-- A parameter, its name perhaps respelled. -/
structure Input.Respelled (a b : Input) : Prop where
  name : Option.Rel Ident.Respelled a.pattern.name b.pattern.name
  elaborate : b.pattern.elaborate = a.pattern.elaborate
  ty : b.ty = a.ty

/-- The names of parameters, as far as they have one. -/
def Input.names (inputs : List Input) : List Ident := inputs.filterMap (·.pattern.name)

/-- The other spelling of a name. An entry with a name that several parameters have is one
for the first of them. -/
def spellOf (pairs : List (Ident × Ident)) (i : Ident) : Ident := (pairs.lookup i).getD i

/-- A method, its name and those of its parameters perhaps respelled, and the entries of its
defaults like the parameters that they name. -/
structure Method.Respelled (m n : Method) : Prop where
  sig : n.sig = { m.sig with ident := n.sig.ident, inputs := n.sig.inputs }
  ident : m.sig.ident.Respelled n.sig.ident
  inputs : List.Forall₂ Input.Respelled m.sig.inputs n.sig.inputs
  attrs : n.attrs = m.attrs.map
    (Attribute.respell (spellOf ((Input.names m.sig.inputs).zip (Input.names n.sig.inputs))))

/-- A trait, the names of its methods and of their parameters perhaps respelled. -/
structure Declaration.MethodsRespelled (d e : Declaration) : Prop where
  same : e = { d with methods := e.methods }
  methods : List.Forall₂ Method.Respelled d.methods e.methods

/-! ## What is kept -/

/-- The parameters are one but for the spelling of the name: binding, default and
optionality are the same. -/
structure Parameter.Keeps (p q : Parameter) : Prop where
  same : q = { p with ident := q.ident }
  name : q.name = p.name

/-- The handlers have one name and the same parameters. Nothing is said of the verb. -/
structure Handler.Keeps (h k : Handler) : Prop where
  same : k = { h with ident := k.ident, verb := k.verb, params := k.params }
  name : k.name = h.name
  params : List.Forall₂ Parameter.Keeps h.params k.params

/-- The services have the same handlers, up to their verbs, and the same routes. -/
structure Service.Keeps (s t : Service) : Prop where
  same : t = { s with handlers := t.handlers }
  handlers : List.Forall₂ Handler.Keeps s.handlers t.handlers
  routes : t.planRoutes = s.planRoutes

/-- The services have the same verbs as well. -/
structure Service.Agrees (s t : Service) : Prop extends s.Keeps t where
  verbs : List.Forall₂ (fun h k => k.verb = h.verb) s.handlers t.handlers

/-- No parameter with a default comes to have the name of an earlier parameter. -/
def Apart (names : List Ident) (ps : List Parameter) : Prop :=
  (names.zip ps).Pairwise fun a b => b.2.default.isSome = true → a.1 ≠ b.1

/-- The handler is apart from what its method is respelled to. -/
def Handler.Apart (h : Handler) (n : Method) : Prop :=
  TraitRoutes.Apart (Input.names n.sig.inputs) h.params

/-- If the method that a handler is respelled to is raw and names no verb, then the handler
is for the verb of raw names anyway. -/
def Handler.Announced (h : Handler) (n : Method) : Prop :=
  n.sig.ident.raw = true → (∀ a ∈ n.attrs, Helper.httpMethod.isNamed a = false) → h.verb = .post

/-! ## Names -/

namespace Ident.Respelled

variable {i j : Ident} (h : i.Respelled j)
include h

theorem isReserved (free : i.isReserved = false) : j.isReserved = false := by
  cases h with
  | same => exact free
  | raw _ hraw _ => rw [Ident.isReserved, hraw]; rfl

theorem isKeyName : isKeyName j.text = isKeyName i.text := by
  rw [isKeyName_text, isKeyName_text, h.name_eq]

end Ident.Respelled

/-- No vocabulary has a word that begins with the mark. -/
theorem Verb.infer_raw (name : String) : infer ("r#" ++ name) = .post := by
  have hmark : normalizedName ("r#" ++ name) = 'r' :: '#' :: normalizedName name := by
    rw [normalizedName, String.toList_append, List.filter_append, List.flatMap_append]
    rfl
  have hnone : vocabularies.find? (fun entry =>
      entry.1.any fun w => w.toList.isPrefixOf (normalizedName ("r#" ++ name))) = none := by
    rw [hmark]
    rfl
  rw [infer, hnone]
  rfl

section Pairs

variable {names names' : List Ident}

theorem spellOf_cons (i j k : Ident) (pairs : List (Ident × Ident)) :
    spellOf ((i, j) :: pairs) k = if k = i then j else spellOf pairs k := by
  rw [spellOf, List.lookup_cons]
  by_cases hk : k = i
  · rw [if_pos hk, beq_iff_eq.mpr hk]
    rfl
  · rw [if_neg hk, beq_eq_false_iff_ne.mpr hk]
    rfl

theorem respelled_spellOf (h : List.Forall₂ Ident.Respelled names names') (i : Ident) :
    i.Respelled (spellOf (names.zip names') i) := by
  induction h with
  | nil => exact .same i
  | @cons j k names names' hjk _ ih =>
      rw [List.zip_cons_cons, spellOf_cons]
      split
      · next heq => exact heq ▸ hjk
      · exact ih

end Pairs

theorem respelled_names {inputs inputs' : List Input}
    (h : List.Forall₂ Input.Respelled inputs inputs') :
    List.Forall₂ Ident.Respelled (Input.names inputs) (Input.names inputs') :=
  List.rel_filterMap (fun _ _ hinput => hinput.name) h

/-- Parameters with defaults are told apart by their new names. -/
theorem Apart.eq_of_default {names : List Ident} {ps : List Parameter} (apart : Apart names ps)
    {a b : Ident × Parameter} (ha : a ∈ names.zip ps) (hb : b ∈ names.zip ps)
    (hasDefault : a.2.default.isSome = true) (hasDefault' : b.2.default.isSome = true)
    (heq : a.1 = b.1) : a = b := by
  let differ (a b : Ident × Parameter) : Prop :=
    a.2.default.isSome = true → b.2.default.isSome = true → a.1 ≠ b.1
  have : Std.Symm differ := ⟨fun _ _ h ha hb heq => h hb ha heq.symm⟩
  have hdiffer : (names.zip ps).Pairwise differ := by
    refine List.Pairwise.imp ?_ apart
    exact fun h _ => h
  by_contra hne
  exact hdiffer.forall ha hb hne hasDefault hasDefault' heq

theorem Input.names_cons {input : Input} {i : Ident} (h : input.pattern.name = some i)
    (rest : List Input) : Input.names (input :: rest) = i :: Input.names rest :=
  List.filterMap_cons_some h

theorem Input.Respelled.exists_name {input input' : Input} (h : input.Respelled input') {i : Ident}
    (hi : input.pattern.name = some i) :
    ∃ j, input'.pattern.name = some j ∧ i.Respelled j := by
  have hname := h.name
  rw [hi] at hname
  generalize input'.pattern.name = name at hname
  cases hname with
  | some hij => exact ⟨_, rfl, hij⟩

/-! ## Defaults -/

namespace Resolution

variable {o : Options} {method method' : String} {verb verb' : Verb}

theorem mem_left_iff {defaults left : List DefaultEntry} {input : Input} {p : Parameter}
    (h : parameter o method verb defaults input = .ok (p, left)) (e : DefaultEntry) :
    e ∈ left ↔ e ∈ defaults ∧ e.name ≠ p.ident := by
  obtain ⟨i, -, -, -, -, rfl, rfl⟩ := parameter_ok_iff.mp h
  rw [takeDefault, List.mem_filter, bne_iff_ne]
  exact and_congr_right fun _ => not_congr ⟨Ident.text_inj, congrArg Ident.text⟩

/-- If none is left over, every entry is taken, and by the parameter whose new name is the
name of the entry respelled. -/
theorem exists_taker {inputs : List Input} :
    ∀ {defaults : List DefaultEntry} {ps : List Parameter} {names' : List Ident},
      (defaults.map DefaultEntry.key).Nodup →
      parameters o method verb defaults inputs = .ok (ps, []) →
      List.Forall₂ Ident.Respelled (Input.names inputs) names' →
      ∀ e ∈ defaults, ∃ taker ∈ names'.zip ps, Takes taker.2 e ∧
        spellOf ((Input.names inputs).zip names') e.name = taker.1 := by
  induction inputs with
  | nil =>
      intro defaults ps names' _ h _ e he
      obtain ⟨-, rfl⟩ := Prod.mk.inj (Except.ok.inj h)
      cases he
  | cons input rest ih =>
      intro defaults ps names' distinct h hnames e he
      obtain ⟨p, mid, qs, hp, hqs, rfl⟩ := parameters_cons_ok_iff.mp h
      rw [Input.names_cons (ofInput_of_parameter hp).name] at hnames ⊢
      obtain ⟨j, names'', hj, hrest, rfl⟩ := List.forall₂_cons_left_iff.mp hnames
      rw [List.zip_cons_cons, List.zip_cons_cons, spellOf_cons]
      by_cases hname : e.name = p.ident
      · refine ⟨(j, p), List.mem_cons_self, ?_, if_pos hname⟩
        exact ((mem_defaults_of_parameter distinct hp e).mp he).resolve_left
          fun hleft => ((mem_left_iff hp e).mp hleft).2 hname
      · have hmid : (mid.map DefaultEntry.key).Nodup :=
          distinct.sublist ((left_sublist hp).map DefaultEntry.key)
        obtain ⟨taker, htaker, htakes, hspell⟩ :=
          ih hmid hqs hrest e ((mem_left_iff hp e).mpr ⟨he, hname⟩)
        exact ⟨taker, List.mem_cons_of_mem _ htaker, htakes, (if_neg hname).trans hspell⟩

theorem isSome_of_takes {p : Parameter} {e : DefaultEntry} (h : Takes p e) :
    p.default.isSome = true := by
  rw [h.2]
  rfl

theorem exists_takes {p : Parameter} (h : p.default.isSome = true) : ∃ e, Takes p e := by
  obtain ⟨value, hvalue⟩ := Option.isSome_iff_exists.mp h
  cases value with
  | zero => exact ⟨⟨p.ident, none⟩, rfl, hvalue⟩
  | literal text => exact ⟨⟨p.ident, some text⟩, rfl, hvalue⟩

/-- Two takers with one new name are the same, so respelling keeps entries apart. -/
theorem nodup_respell {inputs : List Input} {defaults : List DefaultEntry} {ps : List Parameter}
    {names' : List Ident} (distinct : (defaults.map DefaultEntry.key).Nodup)
    (h : parameters o method verb defaults inputs = .ok (ps, []))
    (hnames : List.Forall₂ Ident.Respelled (Input.names inputs) names')
    (apart : Apart names' ps) :
    ((defaults.map (DefaultEntry.respell (spellOf ((Input.names inputs).zip names')))).map
      DefaultEntry.key).Nodup := by
  rw [List.map_map]
  refine (List.Nodup.of_map _ distinct).map_on fun e he f hf heq => ?_
  obtain ⟨a, ha, htakes, hspell⟩ := exists_taker distinct h hnames e he
  obtain ⟨b, hb, htakes', hspell'⟩ := exists_taker distinct h hnames f hf
  have hnew : a.1 = b.1 := by
    rw [← hspell, ← hspell']
    exact Ident.text_inj heq
  have hsame := apart.eq_of_default ha hb (isSome_of_takes htakes) (isSome_of_takes htakes') hnew
  refine List.inj_on_of_nodup_map distinct he hf (congrArg Ident.text ?_)
  rw [← htakes.1, ← htakes'.1, hsame]

/-! ### Parameters -/

/-- In a respelled list, of which only one name becomes the new name of the parameter, the
parameter finds its respelled entry and leaves the others. -/
theorem takeDefault_respell {spell : Ident → Ident} {i j : Ident}
    {defaults defaults' : List DefaultEntry} (hspell : spell i = j)
    (hother : ∀ e ∈ defaults, e.name ≠ i → spell e.name ≠ j)
    (distinct : (defaults'.map DefaultEntry.key).Nodup)
    (hperm : defaults'.Perm (defaults.map (DefaultEntry.respell spell))) :
    (takeDefault j.text defaults').1
        = (takeDefault i.text defaults).1.map (DefaultEntry.respell spell) ∧
      (takeDefault j.text defaults').2.Perm
        ((takeDefault i.text defaults).2.map (DefaultEntry.respell spell)) := by
  have hkey : ∀ e ∈ defaults, ((e.respell spell).name.text == j.text) = (e.name.text == i.text) := by
    intro e he
    rw [Bool.eq_iff_iff, beq_iff_eq, beq_iff_eq]
    constructor
    · intro heq
      by_contra hne
      exact hother e he (fun hname => hne (congrArg Ident.text hname)) (Ident.text_inj heq)
    · intro heq
      rw [DefaultEntry.respell, Ident.text_inj heq, hspell]
  unfold takeDefault
  dsimp only
  constructor
  · cases hfind : defaults.find? (·.name.text == i.text) with
    | none =>
        refine List.find?_eq_none.mpr fun e' he' hj => ?_
        obtain ⟨e, he, rfl⟩ := List.mem_map.mp (hperm.mem_iff.mp he')
        rw [hkey e he] at hj
        exact List.find?_eq_none.mp hfind e he hj
    | some e =>
        have he := List.mem_of_find?_eq_some hfind
        have hname := List.find?_some hfind
        have hj : (e.respell spell).name.text = j.text := eq_of_beq ((hkey e he).trans hname)
        rw [Option.map_some, ← hj]
        exact find?_key DefaultEntry.key distinct
          (hperm.mem_iff.mpr (List.mem_map_of_mem he))
  · refine (hperm.filter _).trans (.of_eq ?_)
    rw [List.filter_map]
    refine congrArg _ (List.filter_congr fun e he => ?_)
    exact congrArg not (hkey e he)

/-- A parameter that finds its entry respelled resolves to the same. -/
theorem parameter_respelled {input input' : Input} {i j : Ident} {spell : Ident → Ident}
    {defaults defaults' left : List DefaultEntry} {p : Parameter}
    (respelled : input.Respelled input') (hi : input.pattern.name = some i)
    (hj : input'.pattern.name = some j) (hij : i.Respelled j)
    (hp : parameter o method verb defaults input = .ok (p, left))
    (hentry : (takeDefault j.text defaults').1
      = (takeDefault i.text defaults).1.map (DefaultEntry.respell spell)) :
    ∃ q, parameter o method' verb' defaults' input' = .ok (q, (takeDefault j.text defaults').2) ∧
      p.Keeps q := by
  obtain ⟨i', hname, hreference, himpl, hdefault, rfl, rfl⟩ := parameter_ok_iff.mp hp
  obtain ⟨hi', helaborate⟩ := plainName_ok_iff.mp hname
  obtain rfl : i' = i := Option.some.inj (hi'.symm.trans hi)
  have hbinding : ∀ shape : TypeShape,
      Binding.resolve shape j.text verb' = .resolve shape i'.text verb := by
    intro shape
    unfold Binding.resolve
    rw [hij.isKeyName]
  refine ⟨_, parameter_ok_iff.mpr ⟨j, plainName_ok_iff.mpr
    ⟨hj, respelled.elaborate.trans helaborate⟩, ?_, ?_, ?_, rfl, rfl⟩, ?_, hij.name_eq⟩
  · rwa [respelled.ty]
  · rwa [respelled.ty]
  · rw [hentry, Option.isSome_map, respelled.ty, hbinding]
    exact hdefault
  · rw [hentry, Option.map_map, respelled.ty, hbinding]
    rfl

theorem parameters_respelled {inputs inputs' : List Input}
    (respelled : List.Forall₂ Input.Respelled inputs inputs') :
    ∀ {defaults defaults' : List DefaultEntry} {ps : List Parameter},
      (defaults.map DefaultEntry.key).Nodup → (defaults'.map DefaultEntry.key).Nodup →
      parameters o method verb defaults inputs = .ok (ps, []) →
      Apart (Input.names inputs') ps →
      defaults'.Perm (defaults.map
        (DefaultEntry.respell (spellOf ((Input.names inputs).zip (Input.names inputs'))))) →
      ∃ ps', parameters o method' verb' defaults' inputs' = .ok (ps', []) ∧
        List.Forall₂ Parameter.Keeps ps ps' := by
  induction respelled with
  | nil =>
      intro defaults defaults' ps _ _ h _ hperm
      obtain ⟨rfl, rfl⟩ := Prod.mk.inj (Except.ok.inj h)
      obtain rfl := List.perm_nil.mp hperm
      exact ⟨[], rfl, .nil⟩
  | @cons input input' rest rest' hinput hrest ih =>
      intro defaults defaults' ps distinct distinct' h apart hperm
      obtain ⟨p, mid, qs, hp, hqs, rfl⟩ := parameters_cons_ok_iff.mp h
      have hname := (ofInput_of_parameter hp).name
      obtain ⟨j, hj, hij⟩ := hinput.exists_name hname
      rw [Input.names_cons hname, Input.names_cons hj, List.zip_cons_cons] at hperm
      rw [Input.names_cons hj, Apart, List.zip_cons_cons, List.pairwise_cons] at apart
      have hmid : (mid.map DefaultEntry.key).Nodup :=
        distinct.sublist ((left_sublist hp).map DefaultEntry.key)
      -- The other entries are taken later on, by parameters that have other new names.
      have hother : ∀ e ∈ defaults, e.name ≠ p.ident → spellOf ((p.ident, j) ::
          (Input.names rest).zip (Input.names rest')) e.name ≠ j := by
        intro e he hne
        obtain ⟨taker, htaker, htakes, hspell⟩ := exists_taker hmid hqs (respelled_names hrest) e
          ((mem_left_iff hp e).mpr ⟨he, hne⟩)
        rw [spellOf_cons, if_neg hne, hspell]
        exact (apart.1 taker htaker (isSome_of_takes htakes)).symm
      obtain ⟨hentry, hleft⟩ := takeDefault_respell
        ((spellOf_cons _ _ _ _).trans (if_pos rfl)) hother distinct' hperm
      obtain ⟨q, hq, hkeeps⟩ : ∃ q, parameter o method' verb' defaults' input' = .ok (q, _) ∧
          p.Keeps q := parameter_respelled hinput hname hj hij hp hentry
      have hmap : (takeDefault p.ident.text defaults).2.map (DefaultEntry.respell
          (spellOf ((p.ident, j) :: (Input.names rest).zip (Input.names rest'))))
          = mid.map (DefaultEntry.respell
            (spellOf ((Input.names rest).zip (Input.names rest')))) := by
        obtain ⟨i, -, -, -, -, rfl, rfl⟩ := parameter_ok_iff.mp hp
        refine List.map_congr_left fun e he => ?_
        rw [DefaultEntry.respell, spellOf_cons, if_neg ((mem_left_iff hp e).mp he).2,
          DefaultEntry.respell]
      rw [hmap] at hleft
      obtain ⟨qs', hqs', hrest'⟩ := ih hmid (distinct'.sublist
        (List.filter_sublist.map DefaultEntry.key)) hqs apart.2 hleft
      exact ⟨q :: qs', parameters_cons_ok_iff.mpr ⟨q, _, qs', hq, hqs', rfl⟩, .cons hkeeps hrest'⟩

/-- In any run a parameter with a default has another name than those before it. -/
theorem pairwise_of_parameters {inputs : List Input} :
    ∀ {defaults left : List DefaultEntry} {ps : List Parameter},
      (defaults.map DefaultEntry.key).Nodup →
      parameters o method verb defaults inputs = .ok (ps, left) →
      ps.Pairwise fun p q => q.default.isSome = true → p.ident ≠ q.ident := by
  induction inputs with
  | nil =>
      intro defaults left ps _ h
      obtain ⟨rfl, -⟩ := Prod.mk.inj (Except.ok.inj h)
      exact .nil
  | cons input rest ih =>
      intro defaults left ps distinct h
      obtain ⟨p, mid, qs, hp, hqs, rfl⟩ := parameters_cons_ok_iff.mp h
      have hmid : (mid.map DefaultEntry.key).Nodup :=
        distinct.sublist ((left_sublist hp).map DefaultEntry.key)
      refine List.pairwise_cons.mpr ⟨fun q hq hsome => ?_, ih hmid hqs⟩
      -- The default of a later parameter is one that the first parameter left.
      obtain ⟨e, htakes⟩ := exists_takes hsome
      have he := (mem_defaults_of_parameters hmid hqs e).mpr (.inr ⟨q, hq, htakes⟩)
      rw [htakes.1]
      exact ((mem_left_iff hp e).mp he).2.symm

/-! ### Methods -/

theorem names_eq_of_parameters {inputs : List Input} {defaults left : List DefaultEntry}
    {ps : List Parameter} (h : parameters o method verb defaults inputs = .ok (ps, left)) :
    Input.names inputs = ps.map Parameter.ident := by
  have hall := ofInput_of_parameters h
  clear h
  induction hall with
  | nil => rfl
  | cons hp _ ih => rw [Input.names_cons hp.name, ih, List.map_cons]

theorem apart_of_pairwise {ps qs : List Parameter} (keeps : List.Forall₂ Parameter.Keeps ps qs)
    (hpairwise : qs.Pairwise fun p q => q.default.isSome = true → p.ident ≠ q.ident) :
    Apart (qs.map Parameter.ident) ps := by
  induction keeps with
  | nil => exact .nil
  | @cons p q ps qs _ hrest ih =>
      obtain ⟨hfirst, hpairwise⟩ := List.pairwise_cons.mp hpairwise
      rw [Apart, List.map_cons, List.zip_cons_cons]
      refine List.pairwise_cons.mpr ⟨fun b hb hsome => ?_, ih hpairwise⟩
      rw [List.zip_map_left] at hb
      obtain ⟨⟨q', p'⟩, hmem, rfl⟩ := List.mem_map.mp hb
      have hkeeps : p'.Keeps q' := (List.forall₂_iff_zip.mp hrest.flip).2 hmem
      refine hfirst q' (List.of_mem_zip hmem).1 ?_
      rw [hkeeps.same]
      exact hsome

theorem checkSignature_respelled {sig : Signature} (ident : Ident) (inputs : List Input)
    (h : checkSignature method sig = .ok ()) :
    checkSignature method' { sig with ident := ident, inputs := inputs } = .ok () := by
  unfold checkSignature at h ⊢
  split at h
  · cases h
  next hgenerics =>
  split at h
  · cases h
  next hvariadic =>
  split at h
  · next hreceiver => rw [if_neg hgenerics, if_neg hvariadic, hreceiver]
  · cases h

theorem replyOf_respelled {output : Option Ty} {reply : Reply}
    (h : replyOf method output = .ok reply) : replyOf method' output = .ok reply := by
  cases output with
  | none => exact h
  | some ty =>
      unfold replyOf at h ⊢
      dsimp only at h ⊢
      split at h
      · next hunit => rw [if_pos hunit, h]
      next hunit =>
      split at h
      · cases h
      next himpl =>
      split at h
      · cases h
      next hreference => rw [if_neg hunit, if_neg himpl, if_neg hreference, h]

section Handlers

variable {interface : String} {m n : Method} {h k : Handler} (respelled : m.Respelled n)
include respelled

/-- A respelled method resolves to the same handler but for the verb, if its parameters stay
apart. -/
theorem handler_respelled (hm : handler o interface m = .ok h) (apart : h.Apart n) :
    ∃ k, handler o interface n = .ok k ∧ h.Keeps k := by
  obtain ⟨reply, explicit, defaults, ps, hsig, hreply, hverb, hdefaults, hps, rfl⟩ :=
    handler_ok_iff.mp hm
  have hnames := respelled_names respelled.inputs
  have distinct := (lists_iff_of_defaultsIn hdefaults).1
  obtain ⟨defaults', hdefaults', hperm⟩ := Helper.defaultsIn_respell
    (fun i => (respelled_spellOf hnames i).isReserved) hdefaults
    (nodup_respell distinct hps hnames apart)
  rw [← respelled.attrs] at hdefaults'
  obtain ⟨ps', hps', hkeeps⟩ := parameters_respelled respelled.inputs distinct
    (lists_iff_of_defaultsIn hdefaults').1 hps apart hperm
  refine ⟨_, handler_ok_iff.mpr ⟨reply, explicit, defaults', ps', ?_, ?_, ?_, hdefaults', hps',
    rfl⟩, ⟨?_, respelled.ident.name_eq, hkeeps⟩⟩
  · rw [respelled.sig]
    exact checkSignature_respelled _ _ hsig
  · rw [respelled.sig]
    exact replyOf_respelled hreply
  · rw [respelled.attrs, Helper.verbIn_respell, hverb]
  · rw [respelled.sig]

omit respelled in
/-- If the handlers have the same parameters, these are apart. -/
theorem apart_of_keeps (hn : handler o interface n = .ok k) (keeps : h.Keeps k) : h.Apart n := by
  obtain ⟨reply, explicit, defaults, ps, -, -, -, hdefaults, hps, rfl⟩ := handler_ok_iff.mp hn
  have hpairwise := pairwise_of_parameters (lists_iff_of_defaultsIn hdefaults).1 hps
  rw [Handler.Apart, names_eq_of_parameters hps]
  exact apart_of_pairwise keeps.params hpairwise

/-- The verb is kept but where it was inferred from a name that is raw now. -/
theorem verb_eq_iff (hm : handler o interface m = .ok h) (hn : handler o interface n = .ok k) :
    k.verb = h.verb ↔ h.Announced n := by
  obtain ⟨-, explicit, -, -, -, -, hverb, -, -, rfl⟩ := handler_ok_iff.mp hm
  obtain ⟨-, explicit', -, -, -, -, hverb', -, -, rfl⟩ := handler_ok_iff.mp hn
  obtain rfl : explicit' = explicit := by
    rw [respelled.attrs, Helper.verbIn_respell, hverb] at hverb'
    exact (Except.ok.inj hverb').symm
  unfold Handler.Announced
  dsimp only
  constructor
  · intro heq hraw hnone
    rw [← heq, (verb_of_verbIn hverb' n.sig.ident.text).2 hnone, Ident.text, hraw]
    exact Verb.infer_raw _
  · intro hannounced
    rcases Helper.verbIn_ok hverb' with ⟨hnone, rfl⟩ | ⟨a, ts, verb, hone, -, -, rfl⟩
    · rcases respelled.ident.eq_or_raw with hsame | hraw
      · rw [hsame]
      · rw [hannounced hraw fun a ha => Bool.eq_false_iff.mpr (List.filter_eq_nil_iff.mp hnone a ha),
          Verb.resolve, Ident.text, hraw]
        exact Verb.infer_raw _
    · rfl

theorem exists_keeps_iff (hm : handler o interface m = .ok h) :
    (∃ k, handler o interface n = .ok k ∧ h.Keeps k) ↔ h.Apart n := by
  constructor
  · rintro ⟨k, hn, keeps⟩
    exact apart_of_keeps hn keeps
  · exact handler_respelled respelled hm

theorem exists_agrees_iff (hm : handler o interface m = .ok h) :
    (∃ k, handler o interface n = .ok k ∧ h.Keeps k ∧ k.verb = h.verb) ↔
      h.Apart n ∧ h.Announced n := by
  constructor
  · rintro ⟨k, hn, keeps, hverb⟩
    exact ⟨apart_of_keeps hn keeps, (verb_eq_iff respelled hm hn).mp hverb⟩
  · rintro ⟨apart, hannounced⟩
    obtain ⟨k, hn, keeps⟩ := handler_respelled respelled hm apart
    exact ⟨k, hn, keeps, (verb_eq_iff respelled hm hn).mpr hannounced⟩

/-- Parameters whose names differ in more than the mark are apart in every spelling. -/
theorem apart_of_nodup (hm : handler o interface m = .ok h)
    (distinct : (h.params.map Parameter.name).Nodup) : h.Apart n := by
  obtain ⟨_, _, _, ps, _, _, _, _, hps, rfl⟩ := handler_ok_iff.mp hm
  have hnames := respelled_names respelled.inputs
  rw [names_eq_of_parameters hps, List.forall₂_map_left_iff] at hnames
  have hsame : (Input.names n.sig.inputs).map Ident.name = ps.map Parameter.name :=
    List.forall₂_eq_eq_eq ▸ List.rel_map (fun j p hpj => hpj.name_eq) hnames.flip
  rw [← hsame] at distinct
  have hfst := List.map_fst_zip hnames.length_eq.symm.le
  have hdiffer : ((Input.names n.sig.inputs).zip ps).Pairwise fun a b => a.1 ≠ b.1 := by
    rw [← List.pairwise_map, hfst]
    exact List.Nodup.of_map _ distinct
  refine List.Pairwise.imp ?_ hdiffer
  exact fun h _ => h

end Handlers

end Resolution

/-! ## Traits -/

namespace Handler

variable {h k : Handler} (keeps : h.Keeps k)
include keeps

theorem Keeps.captures : k.captures = h.captures := by
  unfold Handler.captures boundTo
  have hparams := keeps.params
  generalize h.params = ps, k.params = qs at hparams
  induction hparams with
  | nil => rfl
  | @cons p q ps qs hpq _ ih =>
      have hbinding : q.binding = p.binding := by rw [hpq.same]
      rw [List.filter_cons, List.filter_cons, hbinding]
      split
      · rw [List.map_cons, List.map_cons, hpq.name, ih]
      · exact ih

theorem Keeps.route (routePrefix : String) : k.route routePrefix = h.route routePrefix := by
  rw [Handler.route, Handler.route, routeSuffix, routeSuffix, keeps.name, keeps.captures]

theorem Keeps.routeShape (routePrefix : String) :
    k.routeShape routePrefix = h.routeShape routePrefix := by
  rw [Handler.routeShape, Handler.routeShape, routeSuffix, routeSuffix, keeps.name, keeps.captures]

end Handler

namespace Service

theorem planFrom_keeps {routePrefix : String} {hs ks : List Handler}
    (keeps : List.Forall₂ Handler.Keeps hs ks) :
    ∀ seen : List (String × String),
      planFrom routePrefix seen ks = planFrom routePrefix seen hs := by
  induction keeps with
  | nil => exact fun _ => rfl
  | cons hk _ ih =>
      intro seen
      rw [planFrom, planFrom, hk.routeShape, hk.route, hk.name, ih]

theorem keeps_of_handlers {s t : Service} (same : t = { s with handlers := t.handlers })
    (handlers : List.Forall₂ Handler.Keeps s.handlers t.handlers) : s.Keeps t := by
  refine ⟨same, handlers, ?_⟩
  have hsame : t.routePrefix = s.routePrefix := by rw [same]
  rw [planRoutes, planRoutes, hsame]
  exact planFrom_keeps handlers []

end Service

namespace Declaration

variable {o : Options} {d e : Declaration} {s : Service}

/-- What the respelled trait resolves to is decided method by method. -/
theorem exists_resolve_iff (respelled : d.MethodsRespelled e) (resolved : d.resolve o = .ok s)
    (r : Handler → Handler → Prop) :
    (∃ t, e.resolve o = .ok t ∧ t = { s with handlers := t.handlers } ∧
        List.Forall₂ r s.handlers t.handlers) ↔
      ∃ ks, List.Forall₂ (fun n k => Resolution.handler o d.name n = .ok k) e.methods ks ∧
        List.Forall₂ r s.handlers ks := by
  obtain ⟨hs, routePrefix, visibility, hheader, -, rfl⟩ := of_resolve resolved
  have hname : e.name = d.name := by rw [respelled.same]; rfl
  have hheader' : Resolution.header e = .ok (routePrefix, visibility) := by
    rw [respelled.same, ← hheader]
    rfl
  constructor
  · rintro ⟨t, ht, -, hr⟩
    obtain ⟨ks, _, _, _, hks, rfl⟩ := of_resolve ht
    rw [hname] at hks
    exact ⟨ks, hks, hr⟩
  · rintro ⟨ks, hks, hr⟩
    rw [← hname] at hks
    refine ⟨_, resolve_of_handlers hheader' hks, ?_, hr⟩
    rw [respelled.same]

/-- The handlers of the trait beside the methods they are respelled to, method by method. -/
theorem forall₂_of_respelled (respelled : d.MethodsRespelled e) (resolved : d.resolve o = .ok s) :
    List.Forall₂ (fun h n => ∃ m, m.Respelled n ∧ Resolution.handler o d.name m = .ok h)
      s.handlers e.methods := by
  have hhandlers := (handlers_of_resolve resolved).2
  have hmethods := respelled.methods
  generalize d.methods = ms, e.methods = ns, s.handlers = hs at hhandlers hmethods
  induction hmethods generalizing hs with
  | nil =>
      obtain rfl := List.forall₂_nil_left_iff.mp hhandlers
      exact .nil
  | cons hmn _ ih =>
      obtain ⟨h, hs, hm, hrest, rfl⟩ := List.forall₂_cons_left_iff.mp hhandlers
      exact .cons ⟨_, hmn, hm⟩ (ih hs hrest)

end Declaration

/-- What raw names do to a trait that resolves. It resolves to the same service, the verbs
aside, if and only if no parameter with a default comes to have the name of an earlier one,
and parameters that differ in more than the mark never do. The verbs are the same as well if
and only if every method that is raw and names no verb was for `POST` before. -/
theorem respelled_agrees_iff {o : Options} {d e : Declaration} {s : Service}
    (respelled : d.MethodsRespelled e) (resolved : d.resolve o = .ok s) :
    ((∃ t, e.resolve o = .ok t ∧ s.Agrees t) ↔
      List.Forall₂ (fun h n => h.Apart n ∧ h.Announced n) s.handlers e.methods) ∧
    ((∃ t, e.resolve o = .ok t ∧ s.Keeps t) ↔
      List.Forall₂ Handler.Apart s.handlers e.methods) ∧
    ((∀ h ∈ s.handlers, (h.params.map Parameter.name).Nodup) →
      List.Forall₂ Handler.Apart s.handlers e.methods) := by
  have hpairs := Declaration.forall₂_of_respelled respelled resolved
  refine ⟨?_, ?_, fun distinct => ?_⟩
  · rw [← exists_forall₂_iff (hpairs.imp fun h n ⟨m, hmn, hm⟩ =>
      Resolution.exists_agrees_iff hmn hm),
      ← Declaration.exists_resolve_iff respelled resolved]
    refine exists_congr fun t => and_congr_right fun _ => ?_
    constructor
    · rintro ⟨⟨same, handlers, -⟩, verbs⟩
      exact ⟨same, .mp (fun _ _ => And.intro) handlers verbs⟩
    · rintro ⟨same, handlers⟩
      exact ⟨Service.keeps_of_handlers same (handlers.imp fun _ _ => And.left),
        handlers.imp fun _ _ => And.right⟩
  · rw [← exists_forall₂_iff (hpairs.imp fun h n ⟨m, hmn, hm⟩ =>
      Resolution.exists_keeps_iff hmn hm),
      ← Declaration.exists_resolve_iff respelled resolved]
    refine exists_congr fun t => and_congr_right fun _ => ?_
    constructor
    · rintro ⟨same, handlers, -⟩
      exact ⟨same, handlers⟩
    · rintro ⟨same, handlers⟩
      exact Service.keeps_of_handlers same handlers
  · refine ((List.forall₂_and_left _ _).mpr ⟨distinct, hpairs⟩).imp ?_
    rintro h n ⟨hdistinct, m, hmn, hm⟩
    exact Resolution.apart_of_nodup hmn hm hdistinct

/-- A trait with a method whose first parameter has a default, and one that names its verb. -/
def depot (store count fetch : Ident) : Declaration :=
  .named (.spelled "IDepot") [
    .named [⟨false, [.spelled "default_value"], .list .paren [
          .name count, .lone '=', .literal ⟨.integer, "20"⟩, .lone ',', .name (.spelled "shelf")]⟩]
      store [
        .named count (.named (.spelled "u32")),
        .named (.spelled "shelf") (.named (.spelled "String"))],
    .named [⟨false, [.spelled "http_method"], .list .paren [.literal ⟨.string, "\"get\""⟩]⟩]
      fetch [.named (.spelled "depot_id") (.named (.spelled "u64"))]]

/-- The trait with these names written plainly. -/
def plainDepot : Declaration := depot (.spelled "store") (.spelled "count") (.spelled "fetch")

/-- The trait with these names written raw. -/
def rawDepot : Declaration :=
  depot (Ident.spelled "store").toRaw (Ident.spelled "count").toRaw (Ident.spelled "fetch").toRaw

theorem respelled_agrees_iff_depot :
    plainDepot.MethodsRespelled rawDepot ∧
    ∃ s t, plainDepot.resolve {} = .ok s ∧ rawDepot.resolve {} = .ok t ∧ s.Agrees t ∧
      s.handlers.map Handler.verb = [.post, .get] ∧
      t.planRoutes = .ok ["/api/depot/store", "/api/depot/fetch/\x7bdepot_id\x7d"] := by
  have respelled : plainDepot.MethodsRespelled rawDepot := by
    refine ⟨rfl, .cons ⟨rfl, .raw ?_ rfl rfl, .cons ⟨.some (.raw ?_ rfl rfl), rfl, rfl⟩ (.cons
      ⟨.some (.same _), rfl, rfl⟩ .nil), rfl⟩ (.cons ⟨rfl, .raw ?_ rfl rfl, .cons
      ⟨.some (.same _), rfl, rfl⟩ .nil, rfl⟩ .nil)⟩ <;> decide +kernel
  have hrun : (plainDepot.resolve {}).toOption.map (fun s => (s.handlers.map Handler.verb,
        s.handlers.map (fun h => h.params.map Parameter.name), s.planRoutes)) =
      some ([.post, .get], [["count", "shelf"], ["depot_id"]],
        .ok ["/api/depot/store", "/api/depot/fetch/\x7bdepot_id\x7d"]) := by
    decide +kernel
  obtain ⟨s, hs, hrun⟩ := Declaration.exists_of_resolve hrun
  obtain ⟨hverbs, hrest⟩ := Prod.mk.inj hrun
  obtain ⟨hnames, hroutes⟩ := Prod.mk.inj hrest
  obtain ⟨hagrees, -, hapart⟩ := respelled_agrees_iff respelled hs
  have distinct : ∀ h ∈ s.handlers, (h.params.map Parameter.name).Nodup := by
    have hall : ∀ names ∈ [["count", "shelf"], ["depot_id"]], names.Nodup := by decide
    intro h hh
    exact hall _ (hnames ▸ List.mem_map_of_mem hh)
  have hannounced : List.Forall₂ Handler.Announced s.handlers rawDepot.methods := by
    have hverb : List.Forall₂ (fun (verb : Verb) (n : Method) => n.sig.ident.raw = true →
        (∀ a ∈ n.attrs, Helper.httpMethod.isNamed a = false) → verb = .post)
        (s.handlers.map Handler.verb) rawDepot.methods := by
      rw [hverbs]
      refine .cons (fun _ _ => rfl) (.cons (fun _ hnone => ?_) .nil)
      exact absurd (hnone _ List.mem_cons_self) (by decide +kernel)
    exact (List.forall₂_map_left_iff (f := Handler.verb)).mp hverb
  obtain ⟨t, ht, agrees⟩ := hagrees.mpr (.mp (fun _ _ => And.intro) (hapart distinct) hannounced)
  exact ⟨respelled, s, t, hs, ht, agrees, hverbs, agrees.routes.trans hroutes⟩

/-- A trait whose only method announces `GET`, if it is not written raw. -/
def getter (get : Ident) : Declaration := .named (.spelled "IItems") [.named [] get []]

theorem not_forall_respelled_agrees :
    ¬ ∀ (o : Options) (d e : Declaration) (s : Service), d.MethodsRespelled e →
      d.resolve o = .ok s → ∃ t, e.resolve o = .ok t ∧ s.Agrees t := by
  intro h
  have hplain : ((getter (.spelled "get_item")).resolve {}).toOption.map
      (fun s => s.handlers.map Handler.verb) = some [.get] := by
    decide +kernel
  have hraw : ((getter (Ident.spelled "get_item").toRaw).resolve {}).toOption.map
      (fun s => s.handlers.map Handler.verb) = some [.post] := by
    decide +kernel
  have respelled : (getter (.spelled "get_item")).MethodsRespelled
      (getter (Ident.spelled "get_item").toRaw) :=
    ⟨rfl, .cons ⟨rfl, .raw (by decide +kernel) rfl rfl, .nil, rfl⟩ .nil⟩
  obtain ⟨s, hs, hget⟩ := Declaration.exists_of_resolve hplain
  obtain ⟨t, ht, hpost⟩ := Declaration.exists_of_resolve hraw
  obtain ⟨t', ht', agrees⟩ := h {} _ _ s respelled hs
  obtain rfl := Except.ok.inj (ht.symm.trans ht')
  have hverbs : s.handlers.map Handler.verb = t.handlers.map Handler.verb :=
    List.forall₂_eq_eq_eq ▸ List.rel_map (fun _ _ hverb => hverb.symm) agrees.verbs
  rw [hget, hpost] at hverbs
  exact absurd hverbs (by decide)

end TraitRoutes
