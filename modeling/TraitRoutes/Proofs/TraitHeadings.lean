import TraitRoutes.Grammar.Parser
import TraitRoutes.Proofs.TokenPlaces
import TraitRoutes.Source.Namespace

/-!
# Headings of traits

What a declaration of a trait is found by can be told from the tokens alone: the word `trait` and
the name behind it, in the modules that enclose it. The headings of a forest are those of all its
ends, so what is left of it has no others.

In the text, the headings stand one behind the other, each with its name at its place.
-/

namespace TraitRoutes

open Scan

/-- What a declaration of a trait is found by: its module, its name and the place of the name. -/
structure Heading where
  space : String
  name : Ident
  place : Position

/-- The heading that tokens of a module begin with: the word `trait` and a name. -/
def heading? (space : String) : List Token → Option Heading
  | keyword :: .ident name place :: _ =>
    if Ahead.word "trait" [keyword] && !name.isReserved then some ⟨space, name, place⟩ else none
  | _ => none

/-- The inline module that tokens begin with: the word `mod`, a name and a group in braces. -/
def module? : List Token → Option (Ident × List Token)
  | keyword :: .ident name _ :: .group .brace inner :: _ =>
    if Ahead.word "mod" [keyword] then some (name, inner) else none
  | _ => none

theorem word_eq_true {w : String} {t : Token} (legal : Ident.isLegal w.toList = true) :
    Ahead.word w [t] = true ↔ ∃ place, t = .ident (.plain w legal) place := by
  constructor
  · intro h
    cases t with
    | ident i place =>
        obtain ⟨raw, name, _⟩ := i
        simp only [Ahead.word, Bool.and_eq_true, Bool.not_eq_true', beq_iff_eq] at h
        obtain ⟨rfl, rfl⟩ := h
        exact ⟨place, rfl⟩
    | group | punct | literal => cases h
  · rintro ⟨place, rfl⟩
    simp [Ahead.word, Ident.plain]

theorem heading?_eq_some {space : String} {ts : List Token} {h : Heading} :
    heading? space ts = some h ↔ h.space = space ∧ h.name.isReserved = false ∧
      ∃ place more, ts = .ident (.plain "trait") place :: .ident h.name h.place :: more := by
  constructor
  · intro hts
    unfold heading? at hts
    split at hts
    · split at hts
      · next hword =>
          rw [Bool.and_eq_true, Bool.not_eq_true'] at hword
          obtain ⟨place, rfl⟩ := (word_eq_true (by decide)).mp hword.1
          obtain rfl := Option.some.inj hts
          exact ⟨rfl, hword.2, place, _, rfl⟩
      · cases hts
    · cases hts
  · obtain ⟨_, name, _⟩ := h
    rintro ⟨rfl, hreserved, place, more, rfl⟩
    dsimp only at hreserved
    simp [heading?, Ahead.word, Ident.plain, hreserved]

theorem module?_eq_some {ts inner : List Token} {name : Ident} :
    module? ts = some (name, inner) ↔ ∃ place place' more,
      ts = .ident (.plain "mod") place :: .ident name place' :: .group .brace inner :: more := by
  constructor
  · intro hts
    unfold module? at hts
    split at hts
    · split at hts
      · next hword =>
          obtain ⟨place, rfl⟩ := (word_eq_true (by decide)).mp hword
          obtain ⟨rfl, rfl⟩ := Prod.mk.inj (Option.some.inj hts)
          exact ⟨_, _, _, rfl⟩
      · cases hts
    · cases hts
  · rintro ⟨place, place', more, rfl⟩
    rfl

theorem countAll_lt_cons (t : Token) (ts : List Token) :
    Token.countAll ts < Token.countAll (t :: ts) := by
  cases t <;> simp only [Token.countAll, Token.count] <;> omega

theorem countAll_le_append (front ts : List Token) :
    Token.countAll ts ≤ Token.countAll (front ++ ts) := by
  induction front with
  | nil => exact Nat.le_refl _
  | cons t front ih => exact ih.trans (countAll_lt_cons t (front ++ ts)).le

theorem countAll_of_module? {ts inner : List Token} {name : Ident}
    (h : module? ts = some (name, inner)) : Token.countAll inner < Token.countAll ts := by
  obtain ⟨place, place', more, rfl⟩ := module?_eq_some.mp h
  simp only [Token.countAll, Token.count]
  omega

/-- The headings among the tokens of a module, in order, those in its inline modules included. -/
def headings (space : String) : List Token → List Heading
  | [] => []
  | t :: rest =>
    (heading? space (t :: rest)).toList ++
      (match _ : module? (t :: rest) with
        | some (name, inner) => headings (Namespace.nested space name.text) inner
        | none => []) ++
      headings space rest
termination_by ts => Token.countAll ts
decreasing_by
  · exact countAll_of_module? ‹_›
  · exact countAll_lt_cons t rest

variable {space : String}

theorem headings_cons (space : String) (t : Token) (rest : List Token) :
    headings space (t :: rest) = (heading? space (t :: rest)).toList ++
      ((module? (t :: rest)).elim [] fun m => headings (Namespace.nested space m.1.text) m.2) ++
        headings space rest := by
  rw [headings]
  split <;> simp_all

theorem headings_sublist {ts more : List Token} (h : ts <:+ more) :
    (headings space ts).Sublist (headings space more) := by
  obtain ⟨front, rfl⟩ := h
  induction front with
  | nil => exact .refl _
  | cons t front ih =>
      rw [List.cons_append, headings_cons]
      exact ih.trans (List.sublist_append_right ..)

theorem headings_of_none {t : Token} {rest : List Token}
    (hheading : heading? space (t :: rest) = none) (hmodule : module? (t :: rest) = none) :
    headings space (t :: rest) = headings space rest := by
  rw [headings_cons, hheading, hmodule]
  rfl

theorem heading?_of_not_word {t : Token} (ht : Ahead.word "trait" [t] = false)
    (rest : List Token) : heading? space (t :: rest) = none := by
  unfold heading?
  split
  · next h =>
      rw [← (List.cons.inj h).1, ht]
      rfl
  · rfl

theorem module?_of_not_word {t : Token} (ht : Ahead.word "mod" [t] = false) (rest : List Token) :
    module? (t :: rest) = none := by
  unfold module?
  split
  · next h =>
      rw [← (List.cons.inj h).1, ht]
      rfl
  · rfl

theorem headings_of_not_word {t : Token} (htrait : Ahead.word "trait" [t] = false)
    (hmod : Ahead.word "mod" [t] = false) (rest : List Token) :
    headings space (t :: rest) = headings space rest :=
  headings_of_none (heading?_of_not_word htrait rest) (module?_of_not_word hmod rest)

theorem headings_punct (mark : Char) (joint : Bool) (ts : List Token) :
    headings space (.punct mark joint :: ts) = headings space ts := headings_of_not_word rfl rfl ts

theorem headings_group (d : Delimiter) (inner ts : List Token) :
    headings space (.group d inner :: ts) = headings space ts := headings_of_not_word rfl rfl ts

theorem headings_comment (doc : DocComment) (place : Position) (ts : List Token) :
    headings space (doc.tokens place ++ ts) = headings space ts := by
  rw [DocComment.tokens, List.cons_append, Token.lone, headings_punct, List.append_assoc]
  split
  · rw [List.singleton_append, Token.lone, headings_punct]
    exact headings_group _ _ ts
  · exact headings_group _ _ ts

/-- A name that is not reserved is no keyword. -/
theorem headings_name {name : Ident} (hname : name.isReserved = false) (place : Position)
    (ts : List Token) : headings space (.ident name place :: ts) = headings space ts := by
  have hword : ∀ w ∈ reservedWords, Ahead.word w [.ident name place] = false := by
    intro w hw
    rw [Ident.isReserved, Bool.and_eq_false_iff] at hname
    rw [Ahead.word, Bool.and_eq_false_iff]
    refine hname.imp_right fun hnot => beq_eq_false_iff_ne.mpr ?_
    rintro rfl
    rw [List.contains_iff_mem.mpr hw] at hnot
    cases hnot
  exact headings_of_not_word (hword _ (by decide)) (hword _ (by decide)) ts

theorem headings_heading (h : Heading) (hname : h.name.isReserved = false) (place : Position)
    (ts : List Token) :
    headings h.space (.ident (.plain "trait") place :: .ident h.name h.place :: ts)
      = h :: headings h.space ts := by
  have hheading : heading? h.space
      (.ident (.plain "trait") place :: .ident h.name h.place :: ts) = some h :=
    heading?_eq_some.mpr ⟨rfl, hname, place, ts, rfl⟩
  rw [headings_cons, hheading, module?_of_not_word rfl, headings_name hname]
  rfl

theorem headings_module (place place' : Position) (name : Ident) (inner ts : List Token) :
    headings space
        (.ident (.plain "mod") place :: .ident name place' :: .group .brace inner :: ts)
      = headings (Namespace.nested space name.text) inner ++ headings space ts := by
  have hmodule : module? (.ident (.plain "mod") place :: .ident name place'
      :: .group .brace inner :: ts) = some (name, inner) :=
    module?_eq_some.mpr ⟨place, place', ts, rfl⟩
  rw [headings_cons, heading?_of_not_word rfl, hmodule, headings_of_none rfl rfl, headings_group]
  rfl

/-! ## Headings in the text -/

namespace Cursor

variable {c d e : Cursor}

/-- A heading stands somewhere behind the cursor, up to another one: the word `trait`, a gap and
the name. -/
def Heads (c : Cursor) (h : Heading) (e : Cursor) : Prop :=
  ∃ keyword behind blank, c.Leads keyword ∧ keyword.Word (.plain "trait") behind ∧
    gap .between behind.rest = some blank ∧ (behind.past blank).place = h.place ∧
    (behind.past blank).Word h.name e

/-- Headings stand one behind the other between two cursors. -/
def Lists (c : Cursor) : List Heading → Cursor → Prop
  | [], e => c.Leads e
  | h :: hs, e => ∃ d, c.Heads h d ∧ d.Lists hs e

theorem Lists.of_leads {hs : List Heading} (hc : c.Leads d) (h : d.Lists hs e) : c.Lists hs e := by
  cases hs with
  | nil => exact hc.trans h
  | cons first hs =>
      obtain ⟨middle, ⟨keyword, behind, blank, hkeyword, hword, hgap, hplace, hname⟩, hrest⟩ := h
      exact ⟨middle, ⟨keyword, behind, blank, hc.trans hkeyword, hword, hgap, hplace, hname⟩, hrest⟩

theorem Lists.append {hs more : List Heading} (h : c.Lists hs d) (h' : d.Lists more e) :
    c.Lists (hs ++ more) e := by
  induction hs generalizing c with
  | nil => exact h'.of_leads h
  | cons first hs ih =>
      obtain ⟨middle, hfirst, hrest⟩ := h
      exact ⟨middle, hfirst, ih hrest⟩

end Cursor

/-- What tokens are headed by stands in their text, in order. -/
theorem Cursor.Reads.lists {c e : Cursor} {ts : List Token} (h : c.Reads ts e) (space : String) :
    c.Lists (headings space ts) e := by
  -- A module is read at once with the tokens between its braces, which are no end of the tokens,
  -- so the induction is on their number.
  induction hcount : Token.countAll ts using Nat.strong_induction_on generalizing ts space c e with
  | _ n ih =>
  subst hcount
  cases hheading : heading? space ts with
  | some found =>
      obtain ⟨rfl, hname, place, more, rfl⟩ := heading?_eq_some.mp hheading
      obtain ⟨blank, behind, hgap, -, hword, h⟩ := h.ident_cons
      obtain ⟨blank', d, hgap', hplace, hname', h⟩ := h.ident_cons
      rw [headings_heading found hname]
      refine ⟨d, ⟨_, behind, blank', leads_gap hgap, hword, hgap', hplace, hname'⟩, ?_⟩
      refine ih _ ?_ h _ rfl
      simp only [Token.countAll, Token.count]
      omega
  | none =>
      cases hmodule : module? ts with
      | some found =>
          obtain ⟨name, inner⟩ := found
          obtain ⟨place, place', more, rfl⟩ := module?_eq_some.mp hmodule
          obtain ⟨blank, behind, hgap, -, hword, h⟩ := h.ident_cons
          obtain ⟨blank', d, hgap', hplace, hname', h⟩ := h.ident_cons
          obtain ⟨first, inside, last, hfirst, hinner, hinside, hrest⟩ := h.group_cons
          rw [headings_module]
          have hbegin : c.Leads first := (leads_gap hgap).trans <| hword.leads.trans <|
            (leads_gap hgap').trans <| hname'.leads.trans hfirst
          refine Lists.append (Lists.of_leads hbegin
            (ih _ (countAll_of_module? hmodule) hinner _ rfl)) (Lists.of_leads hinside ?_)
          refine ih _ ?_ hrest _ rfl
          simp only [Token.countAll, Token.count]
          omega
      | none =>
          cases h with
          | done => rw [headings]; exact .refl c
          | comment hgap hdoc h =>
              rw [headings_comment]
              refine .of_leads ((leads_gap hgap).trans (leads_past (docComment_cuts hdoc)))
                (ih _ ?_ h _ rfl)
              rw [DocComment.tokens, List.cons_append]
              exact (countAll_le_append _ _).trans_lt (countAll_lt_cons _ _)
          | leaf hgap hleaf h =>
              rw [headings_of_none hheading hmodule]
              exact .of_leads ((leads_gap hgap).trans (leads_past (lexLeaf_cuts hleaf).1))
                (ih _ (countAll_lt_cons _ _) h _ rfl)
          | group hgap hopens hinner hgap' hcloses h =>
              rw [headings_group]
              refine .of_leads ?_ (ih _ (countAll_lt_cons _ _) h _ rfl)
              exact (leads_mark hgap (not_isIdentContinue_of_opens hopens)).trans <|
                hinner.leads.trans (leads_mark hgap' (not_isIdentContinue_of_closes hcloses))

/-! ## Places of headings -/

theorem Ident.not_mem_text (i : Ident) : '\n' ∉ i.text.toList := by
  have hname : '\n' ∉ i.name.toList := by
    intro hmem
    have hline := List.all_eq_true.mp i.isOneLine_name _ hmem
    exact absurd hline (by decide)
  unfold Ident.text
  split
  · simpa using hname
  · exact hname

theorem Ident.text_ne_nil (i : Ident) : i.text.toList ≠ [] := by
  have hname : i.name.toList ≠ [] := by
    intro hnil
    have hlegal := i.legal
    rw [hnil] at hlegal
    cases hlegal
  unfold Ident.text
  split
  · simp
  · exact hname

namespace Cursor

variable {c d e : Cursor}

theorem Word.before {i : Ident} (h : c.Word i d) : c.place.Before d.place := by
  rw [h.place]
  exact Position.before_after c.place i.text_ne_nil

theorem Leads.eq_or_before (h : c.Leads d) : c.place = d.place ∨ c.place.Before d.place := by
  obtain ⟨front, -, hplace⟩ := h
  rw [hplace]
  by_cases hnil : front = []
  · subst hnil
    exact .inl rfl
  · exact .inr (Position.before_after c.place hnil)

theorem Heads.before {h : Heading} (hc : c.Heads h e) :
    c.place.Before h.place ∧ h.place.Before e.place := by
  obtain ⟨keyword, behind, blank, hkeyword, hword, hgap, hplace, hname⟩ := hc
  rw [← hplace]
  refine ⟨?_, hname.before⟩
  have hbehind : keyword.place.Before (behind.past blank).place :=
    (leads_gap hgap).eq_or_before.elim (fun heq => heq ▸ hword.before) hword.before.trans
  exact hkeyword.eq_or_before.elim (fun heq => heq ▸ hbehind) fun h => h.trans hbehind

theorem Lists.pairwise {hs : List Heading} (h : c.Lists hs e) :
    hs.Pairwise (fun a b => a.place.Before b.place) ∧ ∀ a ∈ hs, c.place.Before a.place := by
  induction hs generalizing c with
  | nil => exact ⟨.nil, nofun⟩
  | cons first hs ih =>
      obtain ⟨d, hfirst, hrest⟩ := h
      obtain ⟨hbegin, hend⟩ := hfirst.before
      obtain ⟨hpairs, hbehind⟩ := ih hrest
      refine ⟨.cons (fun a ha => hend.trans (hbehind a ha)) hpairs, ?_⟩
      exact List.forall_mem_cons.mpr
        ⟨hbegin, fun a ha => hbegin.trans (hend.trans (hbehind a ha))⟩

theorem Heads.leads {h : Heading} (hc : c.Heads h e) : c.Leads e := by
  obtain ⟨keyword, behind, blank, hkeyword, hword, hgap, -, hname⟩ := hc
  exact hkeyword.trans <| hword.leads.trans <| (leads_gap hgap).trans hname.leads

end Cursor

/-- A heading stands in a text behind some of it: the word `trait`, a gap of blanks and comments,
and the name at its place, each of the two a whole word. -/
structure Heading.Stands (h : Heading) (cs front blank behind : List Char) : Prop where
  text : cs = front ++ "trait".toList ++ blank ++ h.name.text.toList ++ behind
  opens : ∀ c ∈ front.getLast?, Unicode.isIdentContinue c = false
  gap : Scan.gap .between (blank ++ h.name.text.toList ++ behind)
    = some (blank, h.name.text.toList ++ behind)
  ends : EndsWord behind
  place : h.place = Position.start.after (front ++ "trait".toList ++ blank)

/-- A heading stands somewhere in a text. -/
def Heading.StandsIn (h : Heading) (cs : List Char) : Prop :=
  ∃ front blank behind, h.Stands cs front blank behind

theorem Cursor.Heads.standsIn {c e : Cursor} {h : Heading} {cs : List Char}
    (hstart : Cursor.Leads ⟨.start, cs⟩ c) (hc : c.Heads h e) : h.StandsIn cs := by
  obtain ⟨keyword, behind, blank, hkeyword, hword, hgap, hplace, hname⟩ := hc
  obtain ⟨front, hfront, hmoved⟩ := hstart.trans hkeyword
  have hrest : blank.2 = h.name.text.toList ++ e.rest := hname.rest
  have hblank : behind.rest = blank.1 ++ h.name.text.toList ++ e.rest := by
    rw [(gap_cuts hgap).1.text, hrest, List.append_assoc]
  refine ⟨front, blank.1, e.rest, ?_, ?_, ?_, hname.ends, ?_⟩
  · have htext : cs = front ++ keyword.rest := hfront.text
    rw [htext, hword.rest, hblank]
    simp [Ident.text, Ident.plain]
  · refine hfront.apart.resolve_right fun hhead => ?_
    rw [hword.rest] at hhead
    exact absurd (hhead 't' rfl) (by decide)
  · rw [← hblank, hgap, ← hrest]
  · rw [← hplace, Position.after_append, Position.after_append, ← hmoved]
    change behind.place.after blank.1 = _
    rw [hword.place]
    rfl

theorem Cursor.Lists.standsIn {c e : Cursor} {hs : List Heading} {cs : List Char}
    (hstart : Cursor.Leads ⟨.start, cs⟩ c) (h : c.Lists hs e) : ∀ a ∈ hs, a.StandsIn cs := by
  induction hs generalizing c with
  | nil => nofun
  | cons first hs ih =>
      obtain ⟨d, hfirst, hrest⟩ := h
      exact List.forall_mem_cons.mpr
        ⟨hfirst.standsIn hstart, ih (hstart.trans hfirst.leads) hrest⟩

/-- At the place of a heading, the text is read as its name and what follows the word. -/
theorem Heading.StandsIn.readIn {h : Heading} {cs : List Char} (hcs : h.StandsIn cs) :
    ∃ more, h.place.readIn cs = h.name.text.toList ++ more ∧ EndsWord more := by
  obtain ⟨front, blank, behind, htext, -, -, hends, hplace⟩ := hcs
  refine ⟨behind.takeWhile (· != '\n'), ?_, ?_⟩
  · rw [hplace, htext, List.append_assoc _ h.name.text.toList, Position.readIn_after]
    exact List.takeWhile_append_of_pos fun c hc =>
      bne_iff_ne.mpr fun heq => h.name.not_mem_text (heq ▸ hc)
  · intro c hc
    have hhead : c ∈ ([] ++ behind.takeWhile (· != '\n')).head? := hc
    exact hends c (head?_of_append_takeWhile hhead)

end TraitRoutes
