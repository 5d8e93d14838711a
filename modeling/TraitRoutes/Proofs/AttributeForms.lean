import TraitRoutes.Attributes.Helper
import TraitRoutes.Proofs.Sequencing

/-!
# Two forms of one reader

What a helper attribute says is read from its arguments when it is expanded, and from the
attributes of a declaration when that is resolved. The second form looks for the attribute
and then reads its arguments like the first, so the two can only differ in what the search
adds: there may be no such attribute, there may be two, and it may have been given a value
in place of arguments. The second form of the reader of prefixes has a check of its own for
arguments that are missing. It is made again behind it, and fails in the same words.

The search goes by the last name of a path. Behind any qualification that name is the name
of the helper or it is not, so a list of attributes has the helper nowhere, in one place,
or in two; and where it is in one place, the attributes around it do not count.
-/

namespace TraitRoutes

/-- The path of the attribute ends in a name, whatever stands in front of that. -/
def Attribute.EndsIn (a : Attribute) (name : String) : Prop :=
  ∃ front last, a.path = front ++ [last] ∧ last.text = name

/-- The arguments of an attribute: what stands in its brackets, of whatever kind these are.
A bare path has none. -/
inductive Attribute.HasArguments : Attribute → List Token → Prop
  | bare (leading : Bool) (path : List Ident) : HasArguments ⟨leading, path, .word⟩ []
  | bracketed (leading : Bool) (path : List Ident) (delimiter : Delimiter) (ts : List Token) :
      HasArguments ⟨leading, path, .list delimiter ts⟩ ts

namespace Helper

variable {h : Helper} {attrs : List Attribute} {a : Attribute} {ts : List Token}

/-- The helper stands in no place. -/
def Missing (h : Helper) (attrs : List Attribute) : Prop := ∀ a ∈ attrs, ¬ a.EndsIn h.name

/-- The attribute is the helper, and no other one in the list is. -/
def Only (h : Helper) (attrs : List Attribute) (a : Attribute) : Prop :=
  ∃ before after, attrs = before ++ a :: after ∧ a.EndsIn h.name ∧ h.Missing (before ++ after)

/-- The helper stands in two places. -/
def Repeated (h : Helper) (attrs : List Attribute) : Prop :=
  ∃ before a between b after, attrs = before ++ a :: (between ++ b :: after) ∧
    a.EndsIn h.name ∧ b.EndsIn h.name

/-! ## The search -/

theorem isNamed_iff : h.isNamed a = true ↔ a.EndsIn h.name := by
  rw [isNamed, Attribute.EndsIn]
  constructor
  · intro hnamed
    cases hlast : a.path.getLast? with
    | none =>
        rw [hlast] at hnamed
        cases hnamed
    | some last =>
        rw [hlast] at hnamed
        obtain ⟨front, hpath⟩ := List.getLast?_eq_some_iff.mp hlast
        exact ⟨front, last, hpath, beq_iff_eq.mp hnamed⟩
  · intro ⟨front, last, hpath, htext⟩
    rw [hpath, List.getLast?_concat, ← htext]
    exact beq_self_eq_true last.text

theorem missing_of_isNamed (hnamed : ∀ a ∈ attrs, h.isNamed a = false) : h.Missing attrs := by
  intro a ha hends
  have htrue := isNamed_iff.mpr hends
  rw [hnamed a ha] at htrue
  cases htrue

theorem filter_of_missing (hmissing : h.Missing attrs) : attrs.filter h.isNamed = [] :=
  List.filter_eq_nil_iff.mpr fun a ha => mt isNamed_iff.mp (hmissing a ha)

theorem find?_of_missing (hmissing : h.Missing attrs) : h.find? attrs = .ok none := by
  rw [find?, filter_of_missing hmissing]

theorem find?_of_only (honly : h.Only attrs a) : h.find? attrs = .ok (some a) := by
  obtain ⟨before, after, rfl, hends, hmissing⟩ := honly
  have hbefore := filter_of_missing fun b hb => hmissing b (List.mem_append_left _ hb)
  have hafter := filter_of_missing fun b hb => hmissing b (List.mem_append_right _ hb)
  rw [find?, List.filter_append, List.filter_cons_of_pos (isNamed_iff.mpr hends), hbefore, hafter]
  rfl

/-- The complaint about a helper that stands twice. -/
def twice (h : Helper) : SyntaxError := complaint ("`#[" ++ h.name ++ "]` may only appear once")

theorem find?_of_repeated (hrepeated : h.Repeated attrs) : h.find? attrs = .error h.twice := by
  obtain ⟨before, a, between, b, after, rfl, ha, hb⟩ := hrepeated
  rw [find?, List.filter_append, List.filter_cons_of_pos (isNamed_iff.mpr ha),
    List.filter_append, List.filter_cons_of_pos (isNamed_iff.mpr hb)]
  -- The two are there whatever else of the name is in front, between and behind.
  cases before.filter h.isNamed with
  | nil => cases between.filter h.isNamed <;> rfl
  | cons first more => cases more <;> rfl

theorem arguments_of_hasArguments (hargs : a.HasArguments ts) : arguments a = .ok ts := by
  cases hargs <;> rfl

/-! ## The two forms -/

/-- The form of a reader that is given attributes agrees with the one that is given tokens.
The first looks for the helper and fails for what it finds, or has `absent` where it finds
nothing; `present` is what it makes of a value read from tokens. -/
structure FormsAgree {ε α β : Type} (h : Helper) (message : ε → String)
    (ofTokens : List Token → Except ε α) (ofAttributes : List Attribute → Except ε β)
    (present : α → β) (absent : β) : Prop where
  /-- One succeeds where the other does, and with the same value. -/
  ok_iff : ∀ attrs a ts, h.Only attrs a → a.HasArguments ts → ∀ value,
    ofAttributes attrs = .ok value ↔ ∃ read, ofTokens ts = .ok read ∧ value = present read
  /-- One fails where the other does, and in the same words. -/
  error_iff : ∀ attrs a ts, h.Only attrs a → a.HasArguments ts → ∀ words,
    (∃ e, ofAttributes attrs = .error e ∧ message e = words) ↔
      ∃ e, ofTokens ts = .error e ∧ message e = words
  /-- A value is not taken for arguments. -/
  valued : ∀ attrs a value, h.Only attrs a → a.args = .value value →
    ∃ e, ofAttributes attrs = .error e ∧ message e = "expected parenthesized arguments"
  missing : ∀ attrs, h.Missing attrs → ofAttributes attrs = .ok absent
  repeated : ∀ attrs, h.Repeated attrs →
    ∃ e, ofAttributes attrs = .error e ∧
      message e = "`#[" ++ h.name ++ "]` may only appear once"

/-- Reads attributes by a reader of tokens: a fault of the search is put in the words of the
reader. -/
def reading {ε α β : Type} (h : Helper) (ofSyntax : SyntaxError → ε)
    (ofTokens : List Token → Except ε α) (present : α → β) (absent : β)
    (attrs : List Attribute) : Except ε β :=
  match h.find? attrs with
  | .error e => .error (ofSyntax e)
  | .ok none => .ok absent
  | .ok (some a) =>
    match arguments a with
    | .error e => .error (ofSyntax e)
    | .ok ts => (ofTokens ts).map present

section Reading

variable {ε α β : Type} {ofSyntax : SyntaxError → ε} {ofTokens : List Token → Except ε α}
  {present : α → β} {absent : β}

theorem reading_of_only (honly : h.Only attrs a) (hargs : a.HasArguments ts) :
    h.reading ofSyntax ofTokens present absent attrs = (ofTokens ts).map present := by
  rw [reading, find?_of_only honly]
  dsimp only
  rw [arguments_of_hasArguments hargs]

/-- Whatever reads attributes by a reader of tokens agrees with it. -/
theorem reading_agrees {message : ε → String} (hmessage : ∀ e, message (ofSyntax e) = e.message)
    (ofAttributes : List Attribute → Except ε β)
    (hreading : ∀ attrs, ofAttributes attrs = h.reading ofSyntax ofTokens present absent attrs) :
    h.FormsAgree message ofTokens ofAttributes present absent where
  ok_iff attrs a ts honly hargs value := by
    rw [hreading, reading_of_only honly hargs]
    cases ofTokens ts with
    | error e => exact ⟨nofun, fun ⟨_, hread, _⟩ => nomatch hread⟩
    | ok read =>
        constructor
        · intro heq
          exact ⟨read, rfl, (Except.ok.inj heq).symm⟩
        · intro ⟨read', hread, hvalue⟩
          rw [hvalue, ← Except.ok.inj hread]
          rfl
  error_iff attrs a ts honly hargs words := by
    rw [hreading, reading_of_only honly hargs]
    exact exists_congr fun e => and_congr_left fun _ => map_error_iff
  valued attrs a value honly hvalue := by
    have hfound := find?_of_only honly
    refine ⟨ofSyntax (complaint "expected parenthesized arguments"), ?_, hmessage _⟩
    rw [hreading, reading, hfound]
    dsimp only
    rw [arguments, hvalue]
  missing attrs hmissing := by
    rw [hreading, reading, find?_of_missing hmissing]
  repeated attrs hrepeated := by
    refine ⟨ofSyntax h.twice, ?_, hmessage _⟩
    rw [hreading, reading, find?_of_repeated hrepeated]

end Reading

/-! ## The four helpers -/

/-- A reader that fails in the words of the search only passes the faults on. -/
theorem eq_reading {α β : Type} {ofTokens : List Token → Except SyntaxError α} {present : α → β}
    {absent : β} {read : List Token → Except SyntaxError β}
    (hread : ∀ ts, read ts = (ofTokens ts).map present) (attrs : List Attribute) :
    (do
      match ← h.find? attrs with
      | none => pure absent
      | some a => read (← arguments a)) = h.reading id ofTokens present absent attrs := by
  obtain rfl : read = fun ts => (ofTokens ts).map present := funext hread
  rw [reading]
  cases h.find? attrs with
  | error e => rfl
  | ok found =>
      cases found with
      | none => rfl
      | some a =>
          show (arguments a >>= fun ts => (ofTokens ts).map present) = _
          dsimp only
          cases arguments a <;> rfl

theorem prefixIn_eq (attrs : List Attribute) :
    prefixIn attrs = routePrefix.reading id readPrefix some none attrs :=
  (prefixIn_eq_readPrefix attrs).trans (eq_reading (fun _ => rfl) attrs)

theorem verbIn_eq (attrs : List Attribute) :
    verbIn attrs = httpMethod.reading id readVerb some none attrs :=
  eq_reading (fun _ => rfl) attrs

theorem defaultsIn_eq (attrs : List Attribute) :
    defaultsIn attrs = defaultValue.reading id DefaultEntry.parse id [] attrs :=
  eq_reading (fun _ => (id_map _).symm) attrs

/-- The visibility in which the fields that were given stand in place of the defaults. -/
def overriding (settings : ExplorerSettings) : Visibility :=
  ⟨settings.ignoreApi.getD ({} : Visibility).hidden,
    settings.groupName.or ({} : Visibility).groupName⟩

theorem visibilityIn_eq (attrs : List Attribute) :
    visibilityIn attrs
      = explorerSettings.reading .ofSyntax ExplorerSettings.parse overriding {} attrs := by
  have hvisibility : ExplorerSettings.visibility = overriding := by
    funext settings
    rw [overriding, Option.or_none]
    rfl
  cases hfind : explorerSettings.find? attrs with
  | error e => simp only [visibilityIn, reading, hfind]
  | ok found =>
      cases found with
      | none => simp only [visibilityIn, reading, hfind]
      | some a =>
          cases hargs : arguments a <;>
            simp only [visibilityIn, reading, hfind, hargs, hvisibility]

theorem message_ofSyntax (e : SyntaxError) : (SettingsError.ofSyntax e).message = e.message := rfl

/-- Both forms of the reader of each helper agree. -/
theorem forms_agree :
    routePrefix.FormsAgree SyntaxError.message readPrefix prefixIn some none ∧
    explorerSettings.FormsAgree SettingsError.message ExplorerSettings.parse visibilityIn
      overriding {} ∧
    httpMethod.FormsAgree SyntaxError.message readVerb verbIn some none ∧
    defaultValue.FormsAgree SyntaxError.message DefaultEntry.parse defaultsIn id [] :=
  ⟨reading_agrees (fun _ => rfl) prefixIn prefixIn_eq,
    reading_agrees message_ofSyntax visibilityIn visibilityIn_eq,
    reading_agrees (fun _ => rfl) verbIn verbIn_eq,
    reading_agrees (fun _ => rfl) defaultsIn defaultsIn_eq⟩

/-- A method of an interface that is deleted, with an attribute of another kind behind it. -/
def deletion : List Attribute :=
  [⟨false, [.plain "inline"], .word⟩,
    ⟨true, [.plain "api", .plain "http_method"],
      .list .brace (.name (.plain "HttpMethod") :: Token.operator [':', ':']
        ++ [.name (.plain "Delete")])⟩,
    ⟨false, [.plain "route_prefix", .plain "cfg"], .list .paren []⟩]

theorem forms_agree_deletion :
    ∃ a ts, httpMethod.Only deletion a ∧ a.HasArguments ts ∧ readVerb ts = .ok .delete ∧
      verbIn deletion = .ok (some .delete) ∧ routePrefix.Missing deletion ∧
      prefixIn deletion = .ok none := by
  have honly : httpMethod.Only deletion deletion[1] :=
    ⟨[deletion[0]], [deletion[2]], rfl, isNamed_iff.mp (by decide +kernel),
      missing_of_isNamed (by decide +kernel)⟩
  have hnone : routePrefix.Missing deletion := missing_of_isNamed (by decide +kernel)
  have hread : readVerb (.name (.plain "HttpMethod") :: Token.operator [':', ':']
      ++ [.name (.plain "Delete")]) = .ok .delete := by
    decide +kernel
  have hargs : deletion[1].HasArguments _ := .bracketed ..
  obtain ⟨hroute, -, hverb, -⟩ := forms_agree
  exact ⟨deletion[1], _, honly, hargs, hread,
    (hverb.ok_iff deletion _ _ honly hargs _).mpr ⟨.delete, hread, rfl⟩, hnone,
    hroute.missing deletion hnone⟩

end Helper

end TraitRoutes
