import TraitRoutes.Attributes.Helper
import TraitRoutes.Proofs.GeneratedNames
import TraitRoutes.Proofs.Sequencing

/-!
# What errors of attributes say

The wording of an error is fixed, but for what it repeats: names, which are one word,
and two values that a string of the attribute gives, a verb that is none and a truth
value that is none. A string may hold anything. So these two are all that can break the
line of an error.

For the grammar nothing is left to show, because its errors carry the proof. The other
readers are gone through one by one, each with what makes it fail.
-/

namespace TraitRoutes

/-! ## Texts of one line -/

namespace Text

theorem isOneLine_behind {before : String} (hbefore : isOneLine before = true) (text : String) :
    isOneLine (before ++ text) = isOneLine text := by
  rw [isOneLine_append, hbefore, Bool.true_and]

theorem isOneLine_intercalate {sep : String} (hsep : isOneLine sep = true)
    (texts : List String) : isOneLine (sep.intercalate texts) = texts.all isOneLine := by
  induction texts with
  | nil => rfl
  | cons text rest ih =>
      cases rest with
      | nil => rw [String.intercalate_singleton, List.all_cons, List.all_nil, Bool.and_true]
      | cons next more =>
          rw [String.intercalate_cons_cons, isOneLine_append, isOneLine_append, hsep, ih,
            Bool.and_true, List.all_cons (a := text)]

theorem isOneLine_of_all {text : String} {p : Char → Bool} (h : text.toList.all p = true)
    (hfeed : p '\n' = false) (hreturn : p '\r' = false) : isOneLine text = true := by
  refine List.all_eq_true.mpr fun c hc => ?_
  have hp := List.all_eq_true.mp h c hc
  rw [Bool.and_eq_true, bne_iff_ne, bne_iff_ne]
  constructor <;> rintro rfl
  · rw [hfeed] at hp
    cases hp
  · rw [hreturn] at hp
    cases hp

theorem isOneLine_repr (n : Nat) : isOneLine (toString n) = true := by
  refine isOneLine_of_all (p := Char.isDigit) (List.all_eq_true.mpr fun c hc => ?_) rfl rfl
  rw [Nat.toString_eq_repr, Nat.toList_repr] at hc
  exact Nat.isDigit_of_mem_toDigits (by decide) (by decide) hc

end Text

open Text (isOneLine_between isOneLine_behind isOneLine_ofList)

theorem Ident.isOneLine_text (i : Ident) : Text.isOneLine i.text = true := by
  rw [text]
  split
  · exact (isOneLine_behind (isOneLine_ofList (by decide)) _).trans i.isOneLine_name
  · exact i.isOneLine_name

/-! ## Syntax errors -/

theorem SyntaxFault.isOneLine_message {f : SyntaxFault} (h : f.isOneLine = true) :
    Text.isOneLine f.message = true := by
  have hexpected : Text.isOneLine "expected " = true := by decide
  unfold message
  split
  · exact isOneLine_ofList (by decide)
  · next one =>
      rw [isOneLine_behind hexpected]
      exact (Bool.and_true _).symm.trans h
  · next one other =>
      obtain ⟨hone, hother⟩ := Bool.and_eq_true_iff.mp h
      rw [Text.isOneLine_append, isOneLine_between hexpected one (by decide), hone]
      exact (Bool.and_true _).symm.trans hother
  · rw [isOneLine_behind (isOneLine_ofList (by decide)), Text.isOneLine_intercalate (by decide)]
    exact h
  · exact (isOneLine_between (isOneLine_ofList (by decide)) _ (by decide)).trans h
  · exact isOneLine_ofList (by decide)
  · next d => cases d <;> decide
  · exact h

theorem SyntaxError.isOneLine_message {e : SyntaxError} (h : e.fault.isOneLine = true) :
    Text.isOneLine e.message = true := by
  unfold message
  split
  · split
    · exact isOneLine_ofList (by decide)
    · exact (isOneLine_behind (isOneLine_ofList (by decide)) _).trans
        (SyntaxFault.isOneLine_message h)
  · exact SyntaxFault.isOneLine_message h

theorem TokenParser.isOneLine_parseAll {α : Type} {p : TokenParser α} {ts : List Token}
    {e : SyntaxError} (h : parseAll p ts = .error e) : e.fault.isOneLine = true := by
  rcases bind_error_iff.mp h with h | ⟨⟨a, s⟩, -, h⟩
  · obtain ⟨c, -, rfl⟩ := mapError_error_iff.mp h
    exact c.oneLine
  · dsimp only at h
    split at h
    · obtain rfl := Except.error.inj h
      rfl
    · split at h
      · cases h
      · obtain rfl := Except.error.inj h
        rfl

theorem isOneLine_readAll {α : Type} {rule : Productions → TokenParser α} {ts : List Token}
    {e : SyntaxError} (h : readAll rule ts = .error e) : e.fault.isOneLine = true :=
  TokenParser.isOneLine_parseAll h

theorem isOneLine_readExpr {text : String} {e : SyntaxError} (h : readExpr text = .error e) :
    e.fault.isOneLine = true := by
  rw [readExpr] at h
  split at h
  · obtain rfl := Except.error.inj h
    exact isOneLine_ofList (by decide)
  · exact isOneLine_readAll h

/-! ## Lists of defaults -/

namespace DefaultEntry

variable {ts : List Token} {e : SyntaxError}

theorem isOneLine_literalText {negative : Bool} {value : LitValue}
    (h : literalText negative value = .error e) : e.fault.isOneLine = true := by
  have hrefused : e = notAllowed := by
    unfold literalText at h
    split at h
    · cases h
    · split at h
      · exact (Except.error.inj h).symm
      · cases h
    · split at h
      · cases h
      · cases h
      · split at h
        · exact (Except.error.inj h).symm
        · cases h
      · split at h
        · exact (Except.error.inj h).symm
        · cases h
      · exact (Except.error.inj h).symm
  rw [hrefused]
  exact isOneLine_ofList (by decide)

theorem isOneLine_failAt (ts : List Token) {fault : SyntaxFault} (h : fault.isOneLine = true) :
    (failAt ts fault).fault.isOneLine = true := h

theorem isOneLine_readLiteral (h : readLiteral ts = .error e) : e.fault.isOneLine = true := by
  unfold readLiteral at h
  dsimp only at h
  split at h
  · obtain rfl := Except.error.inj h
    exact isOneLine_failAt _ (by decide)
  · exact isOneLine_literalText (map_error_iff.mp h)

theorem isOneLine_read (h : read ts = .error e) : e.fault.isOneLine = true := by
  unfold read at h
  split at h
  · next i _ rest =>
      split at h
      · obtain rfl := Except.error.inj h
        exact i.isOneLine_name
      · split at h
        · exact isOneLine_readLiteral (map_error_iff.mp h)
        · cases h
  · obtain rfl := Except.error.inj h
    exact isOneLine_failAt _ (by decide)

theorem isOneLine_readAll {ts : List Token} (h : DefaultEntry.readAll ts = .error e) :
    e.fault.isOneLine = true := by
  rw [DefaultEntry.readAll] at h
  split at h
  · cases h
  split at h
  · next hread => exact isOneLine_read (Except.error.inj h ▸ hread)
  · next entry rest hread =>
      split at h
      · cases h
      have hlt := length_read_lt hread
      split at h
      · exact isOneLine_readAll (map_error_iff.mp h)
      · obtain rfl := Except.error.inj h
        exact isOneLine_failAt _ (by decide)
termination_by ts.length
decreasing_by
  rw [List.length_tail]
  omega

theorem isOneLine_parse (h : parse ts = .error e) : e.fault.isOneLine = true := by
  rcases bind_error_iff.mp h with h | ⟨entries, -, h⟩
  · exact isOneLine_readAll h
  · split at h
    · next entry _ =>
        obtain rfl := Except.error.inj h
        refine Eq.trans ?_ entry.name.isOneLine_text
        exact isOneLine_between (isOneLine_ofList (by decide)) _ (isOneLine_ofList (by decide))
    · cases h

end DefaultEntry

/-! ## Arguments and lists of attributes -/

namespace Helper

variable {attrs : List Attribute} {ts : List Token} {e : SyntaxError}

theorem isOneLine_find? {h : Helper} (herror : h.find? attrs = .error e) :
    e.fault.isOneLine = true := by
  unfold find? at herror
  split at herror
  · cases herror
  · cases herror
  · obtain rfl := Except.error.inj herror
    cases h <;> decide

theorem isOneLine_arguments {a : Attribute} (h : arguments a = .error e) :
    e.fault.isOneLine = true := by
  unfold arguments at h
  split at h
  · cases h
  · cases h
  · obtain rfl := Except.error.inj h
    exact isOneLine_ofList (by decide)

theorem isOneLine_readString (h : readString ts = .error e) : e.fault.isOneLine = true := by
  unfold readString at h
  split at h
  · split at h
    · split at h
      · cases h
      · obtain rfl := Except.error.inj h
        rfl
    · obtain rfl := Except.error.inj h
      exact isOneLine_ofList (by decide)
  · obtain rfl := Except.error.inj h
    show Text.isOneLine "expected string literal" = true
    exact isOneLine_ofList (by decide)

theorem isOneLine_readPrefix (h : readPrefix ts = .error e) : e.fault.isOneLine = true := by
  unfold readPrefix at h
  split at h
  · obtain rfl := Except.error.inj h
    exact isOneLine_ofList (by decide)
  · exact isOneLine_readString h

/-- The error about a text that is no verb. -/
def unknownVerb (text : String) : SyntaxError := complaint (Verb.unknownMessage text)

theorem readVerb_error (h : readVerb ts = .error e) :
    e.fault.isOneLine = true ∨ ∃ text, e = unknownVerb text := by
  have hverb : ∀ {text : String}, verbOf text = .error e → ∃ text, e = unknownVerb text := by
    intro text h
    unfold verbOf at h
    split at h
    · cases h
    · exact ⟨text, (Except.error.inj h).symm⟩
  unfold readVerb at h
  split at h
  · cases h
  split at h
  · exact .inr (hverb h)
  · rcases bind_error_iff.mp h with h | ⟨path, -, h⟩
    · exact .inl (TraitRoutes.isOneLine_readAll h)
    · split at h
      · exact .inr (hverb h)
      · obtain rfl := Except.error.inj h
        exact .inl (isOneLine_ofList (by decide))

/-- An error of a helper comes from its attribute being there twice, from its having no
arguments, or from these. -/
theorem read_error {α β : Type} {h : Helper} {missing : β}
    {read : List Token → Except SyntaxError α} {wrap : α → β} {p : SyntaxError → Prop}
    (honeLine : ∀ e, e.fault.isOneLine = true → p e)
    (hread : ∀ ts e, read ts = .error e → p e)
    (herror : (do
      match ← find? h attrs with
      | none => pure missing
      | some a => wrap <$> read (← arguments a)) = Except.error e) : p e := by
  rcases bind_error_iff.mp herror with herror | ⟨found, -, herror⟩
  · exact honeLine e (isOneLine_find? herror)
  · cases found with
    | none => cases herror
    | some a =>
        rcases bind_error_iff.mp herror with herror | ⟨ts, -, herror⟩
        · exact honeLine e (isOneLine_arguments herror)
        · exact hread ts e (map_error_iff.mp herror)

theorem isOneLine_prefixIn (h : prefixIn attrs = .error e) : e.fault.isOneLine = true :=
  read_error (p := fun e => e.fault.isOneLine = true) (fun _ => id)
    (fun _ _ => isOneLine_readPrefix) ((prefixIn_eq_readPrefix attrs).symm.trans h)

theorem verbIn_error (h : verbIn attrs = .error e) :
    e.fault.isOneLine = true ∨ ∃ text, e = unknownVerb text :=
  read_error (p := fun e => e.fault.isOneLine = true ∨ ∃ text, e = unknownVerb text)
    (fun _ => .inl) (fun _ _ => readVerb_error) h

theorem isOneLine_defaultsIn (h : defaultsIn attrs = .error e) : e.fault.isOneLine = true := by
  rcases bind_error_iff.mp h with h | ⟨found, -, h⟩
  · exact isOneLine_find? h
  · cases found with
    | none => cases h
    | some a =>
        rcases bind_error_iff.mp h with h | ⟨ts, -, h⟩
        · exact isOneLine_arguments h
        · exact DefaultEntry.isOneLine_parse h

end Helper

/-! ## Settings -/

theorem Text.mem_of_mostSimilar? {name found : String} {known : List String}
    (h : mostSimilar? name known = some found) : found ∈ known := by
  -- The best one so far is one of those that were looked at, or the one at the start.
  have hfold : ∀ (es : List (String × Float)) (best : Option (String × Float)),
      (∀ e, best = some e → e.1 ∈ known) → (∀ e ∈ es, e.1 ∈ known) →
      ∀ e, es.foldl moreSimilar best = some e → e.1 ∈ known := by
    intro es
    induction es with
    | nil => exact fun best hbest _ => hbest
    | cons first rest ih =>
        intro best hbest hes
        refine ih _ (fun e he => ?_) fun e he => hes e (List.mem_cons_of_mem _ he)
        have hfirst := hes first List.mem_cons_self
        unfold moreSimilar at he
        split at he
        · split at he
          · exact Option.some.inj he ▸ hfirst
          · exact hbest e he
        · exact Option.some.inj he ▸ hfirst
  obtain ⟨e, he, rfl⟩ := Option.map_eq_some_iff.mp h
  refine hfold _ none nofun (fun e he => ?_) e he
  obtain ⟨text, htext, rfl⟩ := List.mem_map.mp (List.mem_filter.mp he).1
  exact htext

/-- The wording of a mistake is one line, or it repeats a value as it is. -/
inductive SettingsProblem.Repeats : SettingsProblem → Prop
  | line {p : SettingsProblem} (oneLine : Text.isOneLine p.message = true) : Repeats p
  | value (text : String) : Repeats (.unknownValue text)

/-- So is the wording of a mistake with its field. -/
structure SettingsFault.Repeats (f : SettingsFault) : Prop where
  problem : f.problem.Repeats
  field : ∀ name, f.field = some name → Text.isOneLine name = true

namespace ExplorerSettings

theorem repeats_wrongType {name : String} (h : Text.isOneLine name = true) :
    (SettingsProblem.wrongType name).Repeats := by
  exact .line ((isOneLine_between (isOneLine_ofList (by decide)) name (by decide)).trans h)

theorem isOneLine_literalName (value : LitValue) :
    Text.isOneLine (literalName value) = true := by
  unfold literalName
  split
  · exact isOneLine_ofList (by decide)
  all_goals split <;> exact isOneLine_ofList (by decide)

theorem isOneLine_formName (form : ExprForm) : Text.isOneLine (formName form) = true := by
  unfold formName
  split <;> exact isOneLine_ofList (by decide)

theorem repeats_boolOf {form : ExprForm} {problem : SettingsProblem}
    (h : boolOf form = .error problem) : problem.Repeats := by
  unfold boolOf at h
  split at h
  · cases h
  · split at h
    · dsimp only at h
      split at h
      · cases h
      split at h
      · cases h
      · exact Except.error.inj h ▸ .value _
    · exact Except.error.inj h ▸ repeats_wrongType (isOneLine_literalName _)
  · exact Except.error.inj h ▸ repeats_wrongType (isOneLine_literalName _)
  · exact Except.error.inj h ▸ repeats_wrongType (isOneLine_formName _)

theorem repeats_textOf {form : ExprForm} {problem : SettingsProblem}
    (h : textOf form = .error problem) : problem.Repeats := by
  unfold textOf at h
  split at h
  · split at h
    · cases h
    · exact Except.error.inj h ▸ repeats_wrongType (isOneLine_literalName _)
  · exact Except.error.inj h ▸ repeats_wrongType (isOneLine_literalName _)
  · exact Except.error.inj h ▸ repeats_wrongType (isOneLine_formName _)

theorem repeats_valueOf {α : Type} {word : Except SettingsProblem α}
    {ofExpr : ExprForm → Except SettingsProblem α} {args : AttributeArgs}
    {problem : SettingsProblem} (hword : ∀ p, word = .error p → p.Repeats)
    (hexpr : ∀ form p, ofExpr form = .error p → p.Repeats)
    (h : valueOf word ofExpr args = .error problem) : problem.Repeats := by
  unfold valueOf at h
  split at h
  · exact hword _ h
  · exact hexpr _ _ h
  · split at h
    · next e he =>
        exact Except.error.inj h ▸ .line (SyntaxError.isOneLine_message (isOneLine_readAll he))
    · exact Except.error.inj h ▸ .line (by decide)

/-- What is noted of each argument keeps the mistakes as they should be. -/
theorem repeats_take {α : Type} {r : Reading} {name : String} {value : Except SettingsProblem α}
    {set : α → ExplorerSettings → ExplorerSettings} (hname : Text.isOneLine name = true)
    (hvalue : ∀ p, value = .error p → p.Repeats) (hr : ∀ f ∈ r.faults, f.Repeats) :
    ∀ f ∈ (r.take name value set).faults, f.Repeats := by
  intro f hf
  unfold Reading.take at hf
  split at hf
  · rcases List.mem_append.mp hf with hf | hf
    · exact hr f hf
    · obtain rfl := List.mem_singleton.mp hf
      refine ⟨.line (Eq.trans ?_ hname), nofun⟩
      exact isOneLine_between (isOneLine_ofList (by decide)) name (by decide)
  · dsimp only at hf
    split at hf
    · exact hr f hf
    · next problem =>
        rcases List.mem_append.mp hf with hf | hf
        · exact hr f hf
        · obtain rfl := List.mem_singleton.mp hf
          exact ⟨hvalue problem rfl, fun n hn => Option.some.inj hn ▸ hname⟩

theorem isOneLine_unknownField (path : List Ident) :
    Text.isOneLine (SettingsProblem.unknownField
      ("::".intercalate (path.map Ident.text))).message = true := by
  have hpath : Text.isOneLine ("::".intercalate (path.map Ident.text)) = true := by
    rw [Text.isOneLine_intercalate (by decide), List.all_map, List.all_eq_true]
    exact fun i _ => i.isOneLine_text
  delta SettingsProblem.message
  dsimp only
  rw [Text.isOneLine_append, isOneLine_between (isOneLine_ofList (by decide)) _ (by decide), hpath,
    Bool.true_and]
  split
  · next known hknown =>
      have hfield : ∀ field ∈ settingsFields, Text.isOneLine field = true := by decide
      exact (isOneLine_between (isOneLine_ofList (by decide)) _ (by decide)).trans
        (hfield known (Text.mem_of_mostSimilar? hknown))
  · exact isOneLine_ofList (by decide)

theorem repeats_step {r : Reading} (arg : Arg) (hr : ∀ f ∈ r.faults, f.Repeats) :
    ∀ f ∈ (r.step arg).faults, f.Repeats := by
  cases arg with
  | literal =>
      intro f hf
      rcases List.mem_append.mp hf with hf | hf
      · exact hr f hf
      · obtain rfl := List.mem_singleton.mp hf
        exact ⟨.line (by decide), nofun⟩
  | named body =>
      unfold Reading.step
      dsimp only
      split
      · next hname =>
          rw [beq_iff_eq.mp hname]
          exact repeats_take (isOneLine_ofList (by decide))
            (fun p => repeats_valueOf nofun fun _ _ => repeats_boolOf) hr
      split
      · next hname =>
          rw [beq_iff_eq.mp hname]
          refine repeats_take (isOneLine_ofList (by decide))
            (fun p => repeats_valueOf (fun q hq => ?_) fun _ _ => repeats_textOf) hr
          exact Except.error.inj hq ▸ .line (by decide)
      · intro f hf
        rcases List.mem_append.mp hf with hf | hf
        · exact hr f hf
        · obtain rfl := List.mem_singleton.mp hf
          exact ⟨.line (isOneLine_unknownField body.path), nofun⟩

theorem repeats_ofArgs {args : List Arg} {e : SettingsError} (h : ofArgs args = .error e) :
    ∀ f ∈ e.faults, f.Repeats := by
  have hfold : ∀ (args : List Arg) (r : Reading), (∀ f ∈ r.faults, f.Repeats) →
      ∀ f ∈ (args.foldl Reading.step r).faults, f.Repeats := by
    intro args
    induction args with
    | nil => exact fun _ hr => hr
    | cons arg rest ih => exact fun r hr => ih _ (repeats_step arg hr)
  have hfaults := hfold args {} nofun
  unfold ofArgs at h
  dsimp only at h
  split at h
  · cases h
  · next first more hsplit =>
      obtain rfl := Except.error.inj h
      rwa [hsplit] at hfaults

end ExplorerSettings

theorem SettingsError.repeats_ofSyntax {e : SyntaxError} (h : e.fault.isOneLine = true) :
    ∀ f ∈ (ofSyntax e).faults, f.Repeats := by
  intro f hf
  obtain rfl := List.mem_singleton.mp hf
  exact ⟨.line (SyntaxError.isOneLine_message h), nofun⟩

theorem ExplorerSettings.repeats_parse {ts : List Token} {e : SettingsError}
    (h : parse ts = .error e) : ∀ f ∈ e.faults, f.Repeats := by
  unfold parse at h
  split at h
  · next hargs =>
      exact Except.error.inj h ▸ SettingsError.repeats_ofSyntax (isOneLine_readAll hargs)
  · exact repeats_ofArgs h

theorem Helper.repeats_visibilityIn {attrs : List Attribute} {e : SettingsError}
    (h : visibilityIn attrs = .error e) : ∀ f ∈ e.faults, f.Repeats := by
  unfold visibilityIn at h
  split at h
  · next hfind =>
      exact Except.error.inj h ▸ SettingsError.repeats_ofSyntax (isOneLine_find? hfind)
  · cases h
  · split at h
    · next harguments =>
        exact Except.error.inj h ▸ SettingsError.repeats_ofSyntax (isOneLine_arguments harguments)
    · exact ExplorerSettings.repeats_parse (map_error_iff.mp h)

theorem SettingsFault.Repeats.isOneLine_message {f : SettingsFault} (h : f.Repeats) :
    Text.isOneLine f.message = Text.isOneLine f.problem.message := by
  unfold SettingsFault.message
  split
  · next name hname =>
      rw [Text.isOneLine_append, Text.isOneLine_append, h.field name hname, Bool.and_true]
      exact Bool.and_true _
  · rfl

theorem SettingsProblem.isOneLine_unknownValue (text : String) :
    Text.isOneLine (unknownValue text).message = Text.isOneLine text :=
  isOneLine_between (isOneLine_ofList (by decide)) text (by decide)

theorem SettingsProblem.Repeats.breaks_iff {p : SettingsProblem} (h : p.Repeats) :
    Text.isOneLine p.message = false ↔ ∃ text, p = .unknownValue text ∧
      Text.isOneLine text = false := by
  constructor
  · intro hbreaks
    cases h with
    | line honeLine =>
        rw [honeLine] at hbreaks
        cases hbreaks
    | value text => exact ⟨text, rfl, isOneLine_unknownValue text ▸ hbreaks⟩
  · rintro ⟨text, rfl, htext⟩
    rw [isOneLine_unknownValue, htext]

/-- The wording of an error is one line unless it repeats a value that is not. -/
theorem SettingsError.breaks_iff {e : SettingsError} (h : ∀ f ∈ e.faults, f.Repeats) :
    Text.isOneLine e.message = false ↔
      ∃ f ∈ e.faults, ∃ text, f.problem = .unknownValue text ∧ Text.isOneLine text = false := by
  have hmessage : Text.isOneLine e.message
      = e.faults.all fun f => Text.isOneLine f.problem.message := by
    have hfaults : (e.faults.map SettingsFault.message).all Text.isOneLine
        = e.faults.all fun f => Text.isOneLine f.problem.message := by
      rw [List.all_map, Bool.eq_iff_iff, List.all_eq_true, List.all_eq_true]
      exact forall₂_congr fun f hf => by rw [Function.comp_apply, (h f hf).isOneLine_message]
    unfold SettingsError.message
    split
    · next hmore =>
        rw [← hfaults, faults, hmore, List.map_singleton, List.all_cons, List.all_nil,
          Bool.and_true]
    · rw [isOneLine_between (isOneLine_ofList (by decide)) _ (by decide),
        Text.isOneLine_intercalate (by decide), hfaults]
  rw [hmessage, List.all_eq_false]
  refine exists_congr fun f => and_congr_right fun hf => ?_
  rw [Bool.not_eq_true]
  exact (h f hf).problem.breaks_iff

end TraitRoutes
