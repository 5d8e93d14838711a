import TraitRoutes.Proofs.ImportedNames
import TraitRoutes.Proofs.TraitHeadings

/-!
# Headings of what is read

A parser announces headings if what it reads has them and they stood among the tokens it took, in
front of those of the tokens it left. What a parser leaves is an end of what was ahead of it, so
any parser may come first. The rules below take the rules of the grammar apart along this.

Of the items only traits and inline modules announce anything: a trait its heading, whatever its
body is, and a module what its items announce, by induction on the depth of the grammar. Hence all
that is declared in a file is among its headings, in order.
-/

namespace TraitRoutes

open Grammar

/-! ## What a parser announces -/

namespace TokenParser

variable {α β γ : Type} {space : String}

/-- What is read has these headings, and they stood among the tokens that were taken. -/
def Announces (space : String) (f : α → List Heading) (p : TokenParser α) : Prop :=
  ∀ s s' a, p s = .ok (a, s') →
    (f a ++ headings space s'.rest).Sublist (headings space s.rest)

/-- Whatever is read is so. -/
def Returns (P : α → Prop) (p : TokenParser α) : Prop :=
  ∀ s s' a, p s = .ok (a, s') → P a

theorem bind_ok {p : TokenParser α} {q : α → TokenParser β} {s s' : ParseState} {b : β}
    (h : (p >>= q) s = .ok (b, s')) : ∃ a t, p s = .ok (a, t) ∧ q a t = .ok (b, s') :=
  run_bind_ok h

section Rules

variable {p : TokenParser α} {q : α → TokenParser β} {f : α → List Heading} {g : β → List Heading}
  {P : α → Prop} {Q : β → Prop}

theorem Announces.behind (p : TokenParser α) (hq : ∀ a, (q a).Announces space g) :
    (p >>= q).Announces space g := by
  intro s s' b h
  obtain ⟨a, t, hp, h⟩ := bind_ok h
  exact (hq a t s' b h).trans (headings_sublist (p.suffix hp))

theorem Announces.result (hp : p.Announces space f)
    (hq : ∀ a, ∃ b, q a = pure b ∧ g b = f a) : (p >>= q).Announces space g := by
  intro s s' b h
  obtain ⟨a, t, hp', h⟩ := bind_ok h
  obtain ⟨b', hb, hresult⟩ := hq a
  rw [hb] at h
  obtain ⟨rfl, rfl⟩ := Prod.mk.inj (Except.ok.inj h)
  rw [hresult]
  exact hp s _ a hp'

theorem Announces.sublist {s s' : ParseState} {a : α} (hp : p.Announces space f)
    (h : p s = .ok (a, s')) : (f a).Sublist (headings space s.rest) :=
  (List.sublist_append_left _ _).trans (hp s s' a h)

theorem Announces.pure {b : β} (hb : g b = []) :
    (Pure.pure b : TokenParser β).Announces space g := by
  intro s s' b' h
  obtain ⟨rfl, rfl⟩ := Prod.mk.inj (Except.ok.inj h)
  rw [hb]
  exact .refl _

theorem Announces.ite {c : Prop} [Decidable c] {p p' : TokenParser α} (hp : p.Announces space f)
    (hp' : p'.Announces space f) : (if c then p else p').Announces space f := by
  split
  · exact hp
  · exact hp'

theorem announces_fail (fault : SyntaxFault) (oneLine : fault.isOneLine = true) :
    (fail fault oneLine : TokenParser α).Announces space f := nofun

theorem Returns.behind (p : TokenParser α) (hq : ∀ a, (q a).Returns Q) :
    (p >>= q).Returns Q := by
  intro s s' b h
  obtain ⟨a, t, -, h⟩ := bind_ok h
  exact hq a t s' b h

theorem Returns.pure {b : β} (hb : Q b) : (Pure.pure b : TokenParser β).Returns Q := by
  intro s s' b' h
  obtain ⟨rfl, -⟩ := Prod.mk.inj (Except.ok.inj h)
  exact hb

end Rules

/-! ### Repetition -/

/-- What each step of a repetition keeps, the whole of it keeps. -/
theorem iterate_keeps {step : α → TokenParser (α × Bool)} (keeps : α → ParseState → Prop)
    (hstep : ∀ {a b : α} {more : Bool} {s s' : ParseState}, keeps a s →
      step a s = .ok ((b, more), s') → keeps b s')
    {a b : α} {s s' : ParseState} (ha : keeps a s) (h : iterate step a s = .ok (b, s')) :
    keeps b s' := by
  have hrounds : ∀ (fuel : Nat) {a : α} {s : ParseState}, keeps a s →
      iterate.rounds step fuel a s = .ok (b, s') → keeps b s' := by
    intro fuel
    induction fuel with
    | zero =>
        intro a s ha h
        obtain ⟨rfl, rfl⟩ := Prod.mk.inj (Except.ok.inj h)
        exact ha
    | succ fuel ih =>
        intro a s ha h
        rw [iterate.rounds] at h
        obtain ⟨⟨c, more⟩, t, hc, h⟩ := bind_ok h
        have hkeeps := hstep ha hc
        cases more with
        | true => exact ih hkeeps h
        | false =>
            obtain ⟨rfl, rfl⟩ := Prod.mk.inj (Except.ok.inj h)
            exact hkeeps
  obtain ⟨ts, t, hahead, h⟩ := bind_ok h
  obtain ⟨rfl, rfl⟩ := Prod.mk.inj (Except.ok.inj hahead)
  exact hrounds _ ha h

theorem announces_many {p : TokenParser (Option α)} {f : α → List Heading}
    (hp : p.Announces space fun o => o.elim [] f) :
    (many p).Announces space fun as => as.flatMap f := by
  intro s s' as h
  obtain ⟨reversed, t, hiterate, h⟩ := bind_ok h
  obtain ⟨rfl, rfl⟩ := Prod.mk.inj (Except.ok.inj h)
  refine iterate_keeps
    (fun done t =>
      (done.reverse.flatMap f ++ headings space t.rest).Sublist (headings space s.rest))
    ?_ (.refl _) hiterate
  intro done done' more t t' hdone hstep
  obtain ⟨found, u, hfound, hstep⟩ := bind_ok hstep
  have htaken := hp t u found hfound
  cases found with
  | none =>
      obtain ⟨hdone', rfl⟩ := Prod.mk.inj (Except.ok.inj hstep)
      obtain ⟨rfl, -⟩ := Prod.mk.inj hdone'
      exact (htaken.append_left _).trans hdone
  | some a =>
      obtain ⟨hdone', rfl⟩ := Prod.mk.inj (Except.ok.inj hstep)
      obtain ⟨rfl, -⟩ := Prod.mk.inj hdone'
      rw [List.reverse_cons, List.flatMap_append, List.flatMap_singleton, List.append_assoc]
      exact (htaken.append_left _).trans hdone

/-! ### Tokens -/

theorem ahead_ok {s s' : ParseState} {ts : List Token} (h : ahead s = .ok (ts, s')) :
    ts = s.rest ∧ s' = s := by
  obtain ⟨rfl, rfl⟩ := Prod.mk.inj (Except.ok.inj h)
  exact ⟨rfl, rfl⟩

theorem word_ok {w : String} {oneLine : Text.isOneLine w = true} {s s' : ParseState} {a : Unit}
    (h : word w oneLine s = .ok (a, s')) :
    ∃ t, Ahead.word w [t] = true ∧ s.rest = t :: s'.rest := by
  unfold word at h
  obtain ⟨ts, t, hahead, h⟩ := bind_ok h
  obtain ⟨rfl, rfl⟩ := ahead_ok hahead
  split at h
  · next t rest hrest =>
      split at h
      · next hword =>
          obtain ⟨-, rfl⟩ := Prod.mk.inj (Except.ok.inj h)
          exact ⟨t, hword, by simp [hrest]⟩
      · cases h
  · cases h

theorem anyWord_ok {s s' : ParseState} {i : Ident} {place : Position}
    (h : anyWord s = .ok ((i, place), s')) : s.rest = .ident i place :: s'.rest := by
  unfold anyWord at h
  obtain ⟨ts, t, hahead, h⟩ := bind_ok h
  obtain ⟨rfl, rfl⟩ := ahead_ok hahead
  split at h
  · next j place' rest hrest =>
      obtain ⟨_, u, hadvance, h⟩ := bind_ok h
      obtain ⟨-, rfl⟩ := Prod.mk.inj (Except.ok.inj hadvance)
      obtain ⟨hname, rfl⟩ := Prod.mk.inj (Except.ok.inj h)
      obtain ⟨rfl, rfl⟩ := Prod.mk.inj hname
      simp [hrest]
  · cases h

theorem placedIdent_ok {s s' : ParseState} {i : Ident} {place : Position}
    (h : placedIdent s = .ok ((i, place), s')) :
    i.isReserved = false ∧ s.rest = .ident i place :: s'.rest := by
  unfold placedIdent at h
  obtain ⟨ts, t, hahead, h⟩ := bind_ok h
  obtain ⟨rfl, rfl⟩ := ahead_ok hahead
  split at h
  · next j place' rest hrest =>
      split at h
      · cases h
      · next hreserved =>
          have hword := anyWord_ok h
          rw [hrest] at hword
          obtain ⟨hname, -⟩ := List.cons.inj hword
          obtain ⟨rfl, rfl⟩ := Token.ident.inj hname
          exact ⟨Bool.eq_false_iff.mpr hreserved, hrest.trans hword⟩
  · cases h

theorem identOrTry_ok {s s' : ParseState} {i : Ident} (h : identOrTry s = .ok (i, s')) :
    ∃ place, s.rest = .ident i place :: s'.rest := by
  unfold identOrTry at h
  obtain ⟨isTry, t, hnext, h⟩ := bind_ok h
  obtain ⟨-, rfl⟩ := Prod.mk.inj (Except.ok.inj hnext)
  split at h
  · obtain ⟨⟨j, place⟩, u, hword, h⟩ := bind_ok h
    obtain ⟨rfl, rfl⟩ := Prod.mk.inj (Except.ok.inj h)
    exact ⟨place, anyWord_ok hword⟩
  · obtain ⟨⟨j, place⟩, u, hname, h⟩ := bind_ok h
    obtain ⟨rfl, rfl⟩ := Prod.mk.inj (Except.ok.inj h)
    exact ⟨place, (placedIdent_ok hname).2⟩

theorem op?_none {text : String} {s s' : ParseState} (h : op? text s = .ok (false, s')) :
    s' = s := by
  unfold op? at h
  obtain ⟨ts, t, hahead, h⟩ := bind_ok h
  obtain ⟨rfl, rfl⟩ := ahead_ok hahead
  split at h
  · obtain ⟨_, u, -, h⟩ := bind_ok h
    cases (Prod.mk.inj (Except.ok.inj h)).1
  · exact (Prod.mk.inj (Except.ok.inj h)).2.symm

theorem group_ok {d : Delimiter} {p : TokenParser α} {s s' : ParseState} {a : α}
    (h : group d p s = .ok (a, s')) :
    ∃ inner t, s.rest = .group d inner :: s'.rest ∧ p ⟨inner, [], s.leftover⟩ = .ok (a, t) := by
  unfold group at h
  dsimp only at h
  split at h
  · next e inner rest hrest =>
      split at h
      · next hd =>
          subst hd
          split at h
          · cases h
          · next hp =>
              obtain ⟨rfl, rfl⟩ := Prod.mk.inj (Except.ok.inj h)
              exact ⟨inner, _, hrest, hp⟩
      · cases h
  · cases h

end TokenParser

/-! ## What items announce -/

/-- What a declaration is found by. -/
def Declaration.heading (d : Declaration) : Heading :=
  ⟨d.space, d.ident, ⟨d.location.line, d.location.column⟩⟩

/-- The headings of the declarations that an item contributes. -/
def Item.headings (file space : String) (item : Item) : List Heading :=
  (Collection.ofItem file space item).declarations.map Declaration.heading

theorem Item.headings_interface (file space : String) (t : TraitDecl) :
    (Item.interface t).headings file space = [⟨space, t.ident, t.place⟩] := by
  rw [Item.headings, Collection.ofItem]
  rfl

theorem Item.headings_imports (file space : String) (tree : UseTree) :
    (Item.imports tree).headings file space = [] := by
  rw [Item.headings, Collection.ofItem, declarations_ofUse]
  rfl

theorem Item.headings_other (file space : String) : Item.other.headings file space = [] := by
  rw [Item.headings, Collection.ofItem]
  rfl

theorem Item.flatMap_headings (file space : String) (items : List Item) :
    items.flatMap (Item.headings file space)
      = (Collection.ofItems file space items).declarations.map Declaration.heading := by
  induction items with
  | nil => rw [Collection.ofItems]; rfl
  | cons item items ih =>
      rw [List.flatMap_cons, ih, Collection.ofItems, Collection.append, List.map_append]
      rfl

theorem Item.headings_module (file space : String) (name : Ident) (items : List Item) :
    (Item.module name items).headings file space
      = items.flatMap (Item.headings file (Namespace.nested space name.text)) := by
  rw [Item.headings, Collection.ofItem, Item.flatMap_headings]

namespace Grammar

open TokenParser

variable {file space : String}

theorem announces_heading {α : Type} {q : Ident × Position → TokenParser α}
    {f : α → List Heading} {oneLine : Text.isOneLine "trait" = true}
    (hq : ∀ name place, (q (name, place)).Returns fun a => (f a).Sublist [⟨space, name, place⟩]) :
    (word "trait" oneLine >>= fun _ => placedIdent >>= q).Announces space f := by
  intro s s' a h
  obtain ⟨_, t, hword, h⟩ := bind_ok h
  obtain ⟨⟨name, place⟩, u, hname, h⟩ := bind_ok h
  obtain ⟨keyword, hkeyword, hrest⟩ := word_ok hword
  obtain ⟨hreserved, hrest'⟩ := placedIdent_ok hname
  obtain ⟨start, rfl⟩ := (word_eq_true (by decide)).mp hkeyword
  have hheadings := headings_heading ⟨space, name, place⟩ hreserved start u.rest
  rw [← hrest', ← hrest] at hheadings
  rw [hheadings]
  exact (hq name place u s' a h).append (headings_sublist ((q _).suffix h))

theorem announces_traitItems (g : Productions) (attrs : List Attribute) (access : Access) :
    (traitItems g attrs access).Announces space fun r => r.1.headings file space := by
  unfold traitItems
  refine .behind _ fun marked => .behind _ fun auto => ?_
  refine announces_heading fun name place => ?_
  have hother : ∀ node : Node, (Pure.pure (Item.other, node) : TokenParser (Item × Node)).Returns
      fun r => (r.1.headings file space).Sublist [⟨space, name, place⟩] := by
    intro node
    refine .pure ?_
    rw [Item.headings_other]
    exact List.nil_sublist _
  refine .behind _ fun params => .behind _ fun aliased => ?_
  split
  · exact .behind _ fun _ => .behind _ fun bounds => .behind _ fun clause => .behind _ fun _ =>
      hother _
  · refine .behind _ fun bounded => ?_
    extract_lets words finish
    have hfinish : ∀ bounds, (finish bounds).Returns
        fun r => (r.1.headings file space).Sublist [⟨space, name, place⟩] := by
      intro bounds
      refine .behind _ fun clause => .behind _ fun body => .pure ?_
      rw [Item.headings_interface]
    split
    · exact .behind _ hfinish
    · exact .behind _ hfinish

theorem announces_useItem (g : Productions) (access : Access) :
    (useItem g access).Announces space fun r => r.1.headings file space := by
  unfold useItem
  refine .behind _ fun _ => .behind _ fun absolute => .behind _ fun tree => .behind _ fun _ =>
    .pure ?_
  cases tree with
  | none => exact Item.headings_other file space
  | some tree => exact Item.headings_imports file space tree

/-- An inline module announces what is read between its braces. -/
theorem announces_module {α : Type} {q : Ident → TokenParser α} {f : α → List Heading}
    {oneLine : Text.isOneLine "mod" = true}
    (hq : ∀ name s s' a, q name s = .ok (a, s') → f a = [] ∨
      ∃ inner, s.rest = .group .brace inner :: s'.rest ∧
        (f a).Sublist (headings (Namespace.nested space name.text) inner)) :
    (word "mod" oneLine >>= fun _ => identOrTry >>= q).Announces space f := by
  intro s s' a h
  obtain ⟨_, t, hword, h⟩ := bind_ok h
  obtain ⟨name, u, hname, h⟩ := bind_ok h
  obtain ⟨keyword, hkeyword, hrest⟩ := word_ok hword
  obtain ⟨place, hrest'⟩ := identOrTry_ok hname
  obtain ⟨start, rfl⟩ := (word_eq_true (by decide)).mp hkeyword
  have hsuffix : u.rest <:+ s.rest := by
    rw [hrest, hrest']
    exact (List.suffix_cons ..).trans (List.suffix_cons ..)
  rcases hq name u s' a h with hnone | ⟨inner, hgroup, hfound⟩
  · rw [hnone]
    exact headings_sublist (((q name).suffix h).trans hsuffix)
  · rw [hrest, hrest', hgroup, headings_module]
    exact hfound.append_right _

theorem announces_items {α : Type} {p : TokenParser α} {f : α → List Heading}
    (hp : p.Announces space f) :
    (many do if ← isEmpty then pure none else some <$> p).Announces space
      fun items => items.flatMap f := by
  refine announces_many (.behind _ fun ended => ?_)
  split
  · exact .pure rfl
  · exact hp.result fun a => ⟨some a, rfl, rfl⟩

theorem announces_moduleItem {g : Productions} (access : Access)
    (hitem : ∀ space, g.item.Announces space fun r => r.1.headings file space) :
    (moduleItem g access).Announces space fun r => r.1.headings file space := by
  unfold moduleItem
  refine .behind _ fun unsafety => announces_module fun name s s' r h => ?_
  obtain ⟨ended, t, hended, h⟩ := bind_ok h
  split at h
  · obtain ⟨rfl, -⟩ := Prod.mk.inj (Except.ok.inj h)
    exact .inl (Item.headings_other file space)
  · next hopen =>
      have hstay := op?_none (Bool.eq_false_iff.mpr hopen ▸ hended)
      obtain ⟨braced, u, hbraced, h⟩ := bind_ok h
      obtain ⟨-, rfl⟩ := Prod.mk.inj (Except.ok.inj hbraced)
      split at h
      · obtain ⟨inner, v, hrest, hbody⟩ := group_ok h
        rw [hstay] at hrest
        refine .inr ⟨inner, hrest,
          Announces.sublist (f := fun r => r.1.headings file space) ?_ hbody⟩
        refine .behind _ fun attrs => (announces_items (hitem _)).result fun items =>
          ⟨_, rfl, ?_⟩
        rw [Item.headings_module, List.flatMap_map]
      · cases h

theorem announces_itemBehind {g : Productions} (attrs : List Attribute)
    (hitem : ∀ space, g.item.Announces space fun r => r.1.headings file space) :
    (itemBehind g attrs).Announces space fun r => r.1.headings file space := by
  unfold itemBehind
  refine .behind _ fun access => ?_
  extract_lets visible plain finish
  refine .behind _ fun ts => ?_
  extract_lets behind
  refine .behind _ fun startsFn => ?_
  have hfinish : ∀ {p : TokenParser (Item × Node)},
      p.Announces space (fun r => r.1.headings file space) →
        (p >>= finish).Announces space fun r => r.1.headings file space :=
    fun hp => hp.result fun _ => ⟨_, rfl, rfl⟩
  have hplain : ∀ p, (plain p >>= finish).Announces space fun r => r.1.headings file space :=
    fun p => hfinish (.behind p fun _ => .pure (Item.headings_other file space))
  have hnone := fun (alternatives : List String) oneLine =>
    hfinish (announces_fail (.expected alternatives) oneLine)
  have hmodule := hfinish (announces_moduleItem access hitem)
  -- One line for each group of keywords, in the order in which they are looked for.
  refine .ite (hplain _) <| .ite (.ite (hplain _) (.ite (hnone _ _) (hplain _))) ?_
  refine .ite (hfinish (announces_useItem g access)) <| .ite (hplain _) <| .ite (hplain _) ?_
  refine .ite (hplain _) <| .ite (hplain _) <| .ite hmodule ?_
  refine .ite (hfinish (announces_traitItems g attrs access)) <| .ite hmodule ?_
  refine .ite (hplain _) <| .ite (hplain _) <| .ite (hplain _) <| .ite (hplain _) ?_
  exact .ite (hplain _) <| .ite (hplain _) <| .ite (hplain _) (hnone _ _)

theorem announces_item (depth : Nat) (space : String) :
    (Productions.ofDepth depth).item.Announces space fun r => r.1.headings file space := by
  induction depth generalizing space with
  | zero => exact nofun
  | succ depth ih => exact .behind _ fun attrs => announces_itemBehind attrs ih

theorem announces_fileRule (tokens : List Token) :
    (fileRule (.for tokens)).Announces space fun items =>
      items.flatMap (Item.headings file space) := by
  refine .behind _ fun _ => announces_items ?_
  exact (announces_item _ space).result fun r => ⟨r.1, rfl, rfl⟩

end Grammar

theorem TokenParser.parseAll_ok {α : Type} {p : TokenParser α} {ts : List Token} {a : α}
    (h : parseAll p ts = .ok a) : ∃ s, p ⟨ts, [], none⟩ = .ok (a, s) := by
  unfold parseAll at h
  cases hp : p ⟨ts, [], none⟩ with
  | error e =>
      rw [hp] at h
      cases h
  | ok r =>
      rw [hp] at h
      simp only [Except.mapError, bind, Except.bind] at h
      split at h
      · cases h
      split at h
      · obtain rfl := Except.ok.inj h
        exact ⟨r.2, rfl⟩
      · cases h

/-- The headings of what a file declares stand among its tokens. -/
theorem headings_readFile {text : String} {items : List Item} (h : readFile text = .ok items)
    (file space : String) :
    ∃ tokens, lex (String.ofList (fileBody text)) = some tokens ∧
      ((Collection.ofItems file space items).declarations.map Declaration.heading).Sublist
        (headings space tokens) := by
  unfold readFile at h
  split at h
  · cases h
  · next tokens hlex =>
      obtain ⟨s, hs⟩ := TokenParser.parseAll_ok h
      refine ⟨tokens, hlex, ?_⟩
      rw [← Item.flatMap_headings]
      exact (announces_fileRule tokens).sublist hs

end TraitRoutes
