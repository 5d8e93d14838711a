import TraitRoutes.Attributes.Expansion
import TraitRoutes.Proofs.ResolvedMethods

/-!
# What expansion lets pass

The arguments of a helper attribute are read twice, when the trait is resolved and when
the attribute is expanded, and both times by the same readers. So what resolution has
read is read again. The checks beside it differ. Expansion looks at the item, which must
be a trait or a method as the attribute wants it; resolution looks for the two attributes
of a trait among those of the trait only, and for those of a method among those of the
method. Expansion asks for every default whether a parameter has its name, while
resolution hands the defaults from parameter to parameter and asks whether any is left.

So an item that was resolved passes with every attribute that resolution has looked at,
and with no other.
-/

namespace TraitRoutes

/-- The helper says something about a trait, and not about a method. -/
def Helper.describesTrait : Helper → Bool
  | .routePrefix | .explorerSettings => true
  | .httpMethod | .defaultValue => false

/-- What an expansion lets pass: arguments that can be read, on an item of the right kind,
which declares all parameters that are named. -/
inductive Helper.Accepts : Helper → List Token → List Token → Prop
  | routePrefix {args item : List Token} {text : String} {t : TraitDecl}
      (read : readPrefix args = .ok text) (target : readTrait item = .ok t) :
      Accepts .routePrefix args item
  | explorerSettings {args item : List Token} {settings : ExplorerSettings} {t : TraitDecl}
      (read : ExplorerSettings.parse args = .ok settings) (target : readTrait item = .ok t) :
      Accepts .explorerSettings args item
  | httpMethod {args item : List Token} {verb : Verb} {m : Method}
      (read : readVerb args = .ok verb) (target : readMethod item = .ok m) :
      Accepts .httpMethod args item
  | defaultValue {args item : List Token} {entries : List DefaultEntry} {m : Method}
      (read : DefaultEntry.parse args = .ok entries) (target : readMethod item = .ok m)
      (declared : ∀ e ∈ entries, Expansion.declares m e.name.text = true) :
      Accepts .defaultValue args item

namespace Expansion

theorem checkDeclared_ok_iff {m : Method} {entries : List DefaultEntry} :
    checkDeclared m entries = .ok () ↔ ∀ e ∈ entries, declares m e.name.text = true := by
  rw [checkDeclared]
  split
  · next e he =>
      refine iff_of_false nofun fun hall => ?_
      have hundeclared := List.find?_some he
      rw [hall e (List.mem_of_find?_eq_some he)] at hundeclared
      cases hundeclared
  · next hnone =>
      refine iff_of_true rfl fun e he => ?_
      simpa using List.find?_eq_none.mp hnone e he

theorem expectTrait_ok_iff {h : Helper} {item : List Token} {t : TraitDecl} :
    expectTrait h item = .ok t ↔ readTrait item = .ok t := mapError_ok_iff

theorem expectMethod_ok_iff {h : Helper} {item : List Token} {m : Method} :
    expectMethod h item = .ok m ↔ readMethod item = .ok m := mapError_ok_iff

/-- There is no complaint if the check has none and the settings, which are read in front
of it, could be read. -/
theorem complaints_eq_nil {h : Helper} {args item : List Token} :
    complaints h args item = [] ↔
      (h = .explorerSettings → ∃ settings, ExplorerSettings.parse args = .ok settings) ∧
        check h args item = .ok () := by
  unfold complaints
  dsimp only
  cases hcheck : check h args item with
  | error message =>
      refine iff_of_false ?_ nofun
      split <;> exact List.cons_ne_nil _ _
  | ok =>
      cases h with
      | explorerSettings =>
          dsimp only
          cases hparse : ExplorerSettings.parse args with
          | error e => exact iff_of_false (List.cons_ne_nil _ _) fun h => nomatch h.1 rfl
          | ok settings => exact iff_of_true rfl ⟨fun _ => ⟨settings, rfl⟩, rfl⟩
      | _ => exact iff_of_true rfl ⟨nofun, rfl⟩

theorem complaints_eq_nil_iff {h : Helper} {args item : List Token} :
    complaints h args item = [] ↔ h.Accepts args item := by
  rw [complaints_eq_nil]
  cases h <;>
    simp only [check, bind_ok_iff, mapError_ok_iff, expectTrait_ok_iff, expectMethod_ok_iff,
      checkDeclared_ok_iff, reduceCtorEq, false_imp_iff, true_and, true_imp_iff]
  case routePrefix =>
    constructor
    · rintro ⟨text, htext, t, ht, -⟩
      exact .routePrefix htext ht
    · intro h
      cases h with
      | routePrefix htext ht => exact ⟨_, htext, _, ht, rfl⟩
  case explorerSettings =>
    constructor
    · rintro ⟨⟨settings, hsettings⟩, t, ht, -⟩
      exact .explorerSettings hsettings ht
    · intro h
      cases h with
      | explorerSettings hsettings ht => exact ⟨⟨_, hsettings⟩, _, ht, rfl⟩
  case httpMethod =>
    constructor
    · rintro ⟨verb, hverb, m, hm, -⟩
      exact .httpMethod hverb hm
    · intro h
      cases h with
      | httpMethod hverb hm => exact ⟨_, hverb, _, hm, rfl⟩
  case defaultValue =>
    constructor
    · rintro ⟨entries, hentries, m, hm, hdeclared⟩
      exact .defaultValue hentries hm hdeclared
    · intro h
      cases h with
      | defaultValue hentries hm hdeclared => exact ⟨_, hentries, _, hm, hdeclared⟩

/-- Only refused settings give more than one complaint, one for each mistake. -/
theorem complaints_le_one_or (h : Helper) (args item : List Token) :
    (complaints h args item).length ≤ 1 ∨ h = .explorerSettings ∧
      ∃ e, ExplorerSettings.parse args = .error e ∧
        complaints h args item = e.faults.map fun f => f.problem.message := by
  unfold complaints
  dsimp only
  split
  · next e hsettings =>
      cases h with
      | explorerSettings => exact .inr ⟨rfl, e, hsettings, rfl⟩
      | _ => cases hsettings
  · left
    split <;> simp

end Expansion

/-- An item is unchanged if the expansion lets it pass, and only then. -/
theorem Helper.expand_eq_iff {h : Helper} {args item : List Token} :
    h.expand args item = item ↔ h.Accepts args item := by
  rw [expand, Expansion.withErrors, List.append_left_eq_self, List.flatMap_eq_nil_iff,
    ← Expansion.complaints_eq_nil_iff]
  constructor
  · intro h
    refine List.eq_nil_iff_forall_not_mem.mpr fun message hmessage => ?_
    exact List.append_ne_nil_of_right_ne_nil _ (List.cons_ne_nil _ _) (h message hmessage)
  · intro h
    rw [h]
    exact nofun

/-! ## What resolution has read -/

namespace Helper

variable {attrs : List Attribute} {a : Attribute}

/-- What was read from the only attribute of a name was read from each one. -/
theorem exists_of_only {h : Helper} {none : Prop} {p : List Token → Prop}
    (honly : (attrs.filter h.isNamed = [] ∧ none) ∨
      ∃ a ts, attrs.filter h.isNamed = [a] ∧ arguments a = .ok ts ∧ p ts)
    (ha : a ∈ attrs) (hnamed : h.isNamed a = true) : ∃ ts, arguments a = .ok ts ∧ p ts := by
  rcases honly with ⟨hnone, -⟩ | ⟨b, ts, hone, hts, hp⟩
  · exact absurd hnamed (List.filter_eq_nil_iff.mp hnone a ha)
  · obtain rfl := Resolution.eq_of_filter_eq_singleton hone ha hnamed
    exact ⟨ts, hts, hp⟩

theorem readPrefix_of_prefixIn {explicit : Option String} (h : prefixIn attrs = .ok explicit)
    (ha : a ∈ attrs) (hnamed : routePrefix.isNamed a = true) :
    ∃ ts, arguments a = .ok ts ∧ ∃ text, readPrefix ts = .ok text := by
  rw [prefixIn_eq_readPrefix] at h
  refine exists_of_only ((read_ok h).imp_right ?_) ha hnamed
  rintro ⟨b, ts, hone, hts, hread⟩
  cases htext : readPrefix ts with
  | error e => rw [htext] at hread; cases hread
  | ok text => exact ⟨b, ts, hone, hts, text, htext⟩

theorem readVerb_of_verbIn {explicit : Option Verb} (h : verbIn attrs = .ok explicit)
    (ha : a ∈ attrs) (hnamed : httpMethod.isNamed a = true) :
    ∃ ts, arguments a = .ok ts ∧ ∃ verb, readVerb ts = .ok verb := by
  refine exists_of_only ((verbIn_ok h).imp_right ?_) ha hnamed
  rintro ⟨b, ts, verb, hone, hts, hverb, -⟩
  exact ⟨b, ts, hone, hts, verb, hverb⟩

theorem parse_of_visibilityIn {visibility : Visibility} (h : visibilityIn attrs = .ok visibility)
    (ha : a ∈ attrs) (hnamed : explorerSettings.isNamed a = true) :
    ∃ ts, arguments a = .ok ts ∧ ∃ settings, ExplorerSettings.parse ts = .ok settings := by
  unfold visibilityIn find? at h
  split at h
  · cases h
  · next hfound =>
      split at hfound
      · next hnone => exact absurd hnamed (List.filter_eq_nil_iff.mp hnone a ha)
      · cases hfound
      · cases hfound
  · next b hfound =>
      split at hfound
      · cases hfound
      · next hone =>
          cases hfound
          obtain rfl := Resolution.eq_of_filter_eq_singleton hone ha hnamed
          split at h
          · cases h
          · next ts hts =>
              cases hparse : ExplorerSettings.parse ts with
              | error e => rw [hparse] at h; cases h
              | ok settings => exact ⟨ts, hts, settings, hparse⟩
      · cases hfound

end Helper

/-- The names that the parameters of a method are bound to, of those that are bound to one. -/
def Signature.boundNames (sig : Signature) : List (Option Ident) :=
  sig.inputs.map fun input => input.pattern.name

theorem Expansion.declares_of_mem {m : Method} {i : Ident} (h : some i ∈ m.sig.boundNames) :
    declares m i.text = true := by
  obtain ⟨input, hinput, hname⟩ := List.mem_map.mp h
  refine List.any_eq_true.mpr ⟨input, hinput, ?_⟩
  rw [hname]
  exact beq_self_eq_true _

namespace Resolution

variable {o : Options} {interface : String} {m : Method} {h : Handler}

/-- Every default that was read is one of a parameter. -/
theorem mem_boundNames_of_handler (hm : handler o interface m = .ok h)
    {defaults : List DefaultEntry} (hdefaults : Helper.defaultsIn m.attrs = .ok defaults)
    {e : DefaultEntry} (he : e ∈ defaults) : some e.name ∈ m.sig.boundNames := by
  obtain ⟨_, _, defaults', ps, -, -, -, hdefaults', hps, -⟩ := handler_ok_iff.mp hm
  obtain rfl := Except.ok.inj (hdefaults.symm.trans hdefaults')
  obtain ⟨hnodup, -⟩ := lists_iff_of_defaultsIn hdefaults
  rcases (mem_defaults_of_parameters hnodup hps e).mp he with hleft | ⟨p, hp, hident, -⟩
  · cases hleft
  · obtain ⟨input, hinput, hof⟩ := exists_of_forall₂_right (ofInput_of_parameters hps) hp
    exact List.mem_map.mpr ⟨input, hinput, hident ▸ hof.name⟩

theorem accepts_of_header {d : Declaration} {routePrefix : String} {visibility : Visibility}
    (hheader : header d = .ok (routePrefix, visibility)) {a : Attribute} (ha : a ∈ d.attrs)
    {k : Helper} (hkind : k.describesTrait = true) (hnamed : k.isNamed a = true) :
    ∃ ts, Helper.arguments a = .ok ts ∧
      ∀ item t, readTrait item = .ok t → k.Accepts ts item := by
  simp only [header, bind_ok_iff, mapError_ok_iff] at hheader
  obtain ⟨-, -, explicit, hprefix, visibility', hvisibility, -⟩ := hheader
  cases k with
  | routePrefix =>
      obtain ⟨ts, hts, text, htext⟩ := Helper.readPrefix_of_prefixIn hprefix ha hnamed
      exact ⟨ts, hts, fun item t ht => .routePrefix htext ht⟩
  | explorerSettings =>
      obtain ⟨ts, hts, settings, hparse⟩ := Helper.parse_of_visibilityIn hvisibility ha hnamed
      exact ⟨ts, hts, fun item t ht => .explorerSettings hparse ht⟩
  | httpMethod => cases hkind
  | defaultValue => cases hkind

theorem accepts_of_handler (hm : handler o interface m = .ok h) {a : Attribute} (ha : a ∈ m.attrs)
    {k : Helper} (hkind : k.describesTrait = false) (hnamed : k.isNamed a = true) :
    ∃ ts, Helper.arguments a = .ok ts ∧
      ∀ item m', readMethod item = .ok m' → m'.sig.boundNames = m.sig.boundNames →
        k.Accepts ts item := by
  obtain ⟨_, explicit, defaults, ps, -, -, hverb, hdefaults, -, -⟩ := handler_ok_iff.mp hm
  cases k with
  | routePrefix => cases hkind
  | explorerSettings => cases hkind
  | httpMethod =>
      obtain ⟨ts, hts, verb, hread⟩ := Helper.readVerb_of_verbIn hverb ha hnamed
      exact ⟨ts, hts, fun item m' hitem _ => .httpMethod hread hitem⟩
  | defaultValue =>
      obtain ⟨ts, hts, hparse⟩ := Helper.exists_of_only (Helper.defaultsIn_ok hdefaults) ha hnamed
      refine ⟨ts, hts, fun item m' hitem hnames => .defaultValue hparse hitem fun e he => ?_⟩
      exact Expansion.declares_of_mem (hnames ▸ mem_boundNames_of_handler hm hdefaults he)

end Resolution

/-- An attribute of a resolved trait, and one of its methods, is expanded to the item it
stands on if it is one for a trait or one for a method. Whatever an attribute is expanded
on, the item is kept, behind at most one error or one for each mistake in refused settings. -/
theorem expand_passes :
    (∀ (o : Options) (d : Declaration) (s : Service), d.resolve o = .ok s →
      (∀ a ∈ d.attrs, ∀ h : Helper, h.describesTrait = true → h.isNamed a = true →
        ∃ ts, Helper.arguments a = .ok ts ∧
          ∀ item t, readTrait item = .ok t → h.expand ts item = item) ∧
      ∀ m ∈ d.methods, ∀ a ∈ m.attrs, ∀ h : Helper, h.describesTrait = false →
        h.isNamed a = true → ∃ ts, Helper.arguments a = .ok ts ∧
          ∀ item m', readMethod item = .ok m' → m'.sig.boundNames = m.sig.boundNames →
            h.expand ts item = item) ∧
    ∀ (h : Helper) (args item : List Token), ∃ messages : List String,
      h.expand args item = messages.flatMap Expansion.compileError ++ item ∧
        (messages.length ≤ 1 ∨ h = .explorerSettings ∧ ∃ e, ExplorerSettings.parse args = .error e ∧
          messages = e.faults.map fun f => f.problem.message) := by
  refine ⟨fun o d s resolved => ?_, fun h args item =>
    ⟨_, rfl, Expansion.complaints_le_one_or h args item⟩⟩
  obtain ⟨hs, routePrefix, visibility, hheader, hhandlers, -⟩ := Declaration.of_resolve resolved
  constructor
  · intro a ha h hkind hnamed
    obtain ⟨ts, hts, accepts⟩ := Resolution.accepts_of_header hheader ha hkind hnamed
    exact ⟨ts, hts, fun item t ht => Helper.expand_eq_iff.mpr (accepts item t ht)⟩
  · intro m hm a ha h hkind hnamed
    obtain ⟨handler, -, hhandler⟩ := exists_of_forall₂_left hhandlers hm
    obtain ⟨ts, hts, accepts⟩ := Resolution.accepts_of_handler hhandler ha hkind hnamed
    exact ⟨ts, hts, fun item m' hitem hnames =>
      Helper.expand_eq_iff.mpr (accepts item m' hitem hnames)⟩

/-- The tokens of a method as its attributes are given it. -/
def findItem : List Token := (lex "async fn find(&self, r#type: String);").getD []

/-- The attribute of a name, with the given arguments. -/
def Attribute.named (name : String) (args : List Token) : Attribute :=
  ⟨false, [.spelled name], .list .paren args⟩

/-- A method with a default for a parameter that is named raw. -/
def findMethod : Method :=
  .named [.named "default_value" [.name (.spelled "r#type")]] (.spelled "find")
    [.named (.spelled "r#type") (.named (.spelled "String"))]

theorem expand_passes_find :
    ∃ s a ts m, (Declaration.named (.spelled "IFinder") [findMethod]).resolve {} = .ok s ∧
      a ∈ findMethod.attrs ∧ Helper.defaultValue.isNamed a = true ∧
      Helper.arguments a = .ok ts ∧ readMethod findItem = .ok m ∧
      m.sig.boundNames = findMethod.sig.boundNames ∧
      Helper.defaultValue.expand ts findItem = findItem := by
  have hrun : ((Declaration.named (.spelled "IFinder") [findMethod]).resolve {}).toOption.isSome
      = true := by
    decide +kernel
  have hread : (readMethod findItem).toOption.map (fun m => m.sig.boundNames)
      = some findMethod.sig.boundNames := by
    decide +kernel
  have hnamed : ∀ a ∈ findMethod.attrs, Helper.defaultValue.isNamed a = true := by decide +kernel
  cases hs : (Declaration.named (.spelled "IFinder") [findMethod]).resolve {} with
  | error e => rw [hs] at hrun; cases hrun
  | ok s =>
      cases hitem : readMethod findItem with
      | error e => rw [hitem] at hread; cases hread
      | ok m =>
          rw [hitem] at hread
          have ha : Attribute.named "default_value" [.name (.spelled "r#type")]
              ∈ findMethod.attrs := .head _
          obtain ⟨ts, hts, passes⟩ := (expand_passes.1 {} _ s hs).2 findMethod (.head _) _ ha
            .defaultValue rfl (hnamed _ ha)
          exact ⟨s, _, ts, m, rfl, ha, hnamed _ ha, hts, rfl, Option.some.inj hread,
            passes findItem m hitem (Option.some.inj hread)⟩

/-- A method under an attribute for traits. -/
def Method.misled (m : Method) : Method :=
  ⟨[.named "route_prefix" [.literal ⟨.string, "\"/find\""⟩]], m.sig⟩

theorem Method.sig_misled (m : Method) : m.misled.sig = m.sig := rfl

/-- The method that the item is. -/
def foundMethod : Method := (readMethod findItem).toOption.getD findMethod

/-- A resolved trait can have an attribute that is refused when it is expanded, and an item
can come behind two errors. -/
theorem not_forall_expand_passes :
    (¬ ∀ (o : Options) (d : Declaration) (s : Service), d.resolve o = .ok s →
      ∀ m ∈ d.methods, ∀ a ∈ m.attrs, ∀ h : Helper, h.isNamed a = true →
        ∀ ts, Helper.arguments a = .ok ts →
          ∀ item m', readMethod item = .ok m' → m'.sig = m.sig → h.expand ts item = item) ∧
    ¬ ∀ (h : Helper) (args item : List Token), h.expand args item = item ∨
      ∃ message, h.expand args item = Expansion.compileError message ++ item := by
  constructor
  · intro h
    have hrun : ((Declaration.named (.spelled "IFinder") [foundMethod.misled]).resolve
        {}).toOption.isSome = true := by
      decide +kernel
    have hread : (readMethod findItem).toOption.isSome = true := by decide +kernel
    have hlength : (Helper.routePrefix.expand [.literal ⟨.string, "\"/find\""⟩] findItem).length
        ≠ findItem.length := by
      decide +kernel
    have hnamed : ∀ a ∈ foundMethod.misled.attrs, Helper.routePrefix.isNamed a = true := by
      decide +kernel
    cases hs : (Declaration.named (.spelled "IFinder") [foundMethod.misled]).resolve {} with
    | error e => rw [hs] at hrun; cases hrun
    | ok s =>
        cases hitem : readMethod findItem with
        | error e => rw [hitem] at hread; cases hread
        | ok m =>
            have hsig : m.sig = foundMethod.misled.sig := by
              rw [Method.sig_misled, foundMethod, hitem]
              rfl
            have hexpand := h {} _ s hs foundMethod.misled (.head _) _ (.head _) .routePrefix
              (hnamed _ (.head _)) _ rfl findItem m hitem hsig
            exact hlength (congrArg List.length hexpand)
  · intro h
    have htwo : (Helper.explorerSettings.expand ((lex "hidden, shown").getD []) []).length
        = 16 := by
      decide +kernel
    rcases h .explorerSettings ((lex "hidden, shown").getD []) [] with heq | ⟨message, heq⟩
    · rw [heq] at htwo
      cases htwo
    · rw [heq] at htwo
      cases htwo

end TraitRoutes
