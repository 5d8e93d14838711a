import Mathlib.Data.List.Chain
import Mathlib.Data.String.Basic
import TraitRoutes.Proofs.RenderedServices
import TraitRoutes.Proofs.RespelledDefaults

/-!
# The grammar of defaults

A list of defaults has entries between commas, and one more comma may stand at the end. An entry
is a name, with a literal behind an equals sign or without one. The reader takes these apart by
looking at the next token: a minus, an equals sign, a comma. Nothing that it accepts can be read
in another way, so a list is read to the entries that it was written from, and a text that is no
such list is refused.

One thing is wider than it should be. In front of a number the reader takes a minus, and then the
rule for literals takes one that belongs to the number. So the grammar has a parameter, the number
of minus signs that a number may have: the reader accepts two, and it differs from a reader that
accepts one exactly on the lists in which a minus stands right behind another.
-/

namespace TraitRoutes

/-! ## The grammar -/

/-- A literal as it stands in a list of defaults. -/
inductive DefaultLiteral where
  /-- A number with minus signs in front. -/
  | number (minuses : Nat) (literal : Literal)
  /-- A string or a character. -/
  | quoted (literal : Literal)
  | truth (value : Bool)

namespace DefaultLiteral

/-- The text of a literal, without blanks. -/
def text : DefaultLiteral → String
  | number minuses l => String.ofList (List.replicate minuses '-') ++ l.text
  | quoted l => l.text
  | truth b => if b then "true" else "false"

/-- The minus signs in front. -/
def minuses : DefaultLiteral → Nat
  | number minuses _ => minuses
  | quoted _ | truth _ => 0

theorem isLegal_truth (value : Bool) :
    Ident.isLegal (if value then "true" else "false").toList = true := by
  cases value <;> decide

/-- The word for a truth value. -/
def truthWord (value : Bool) : Ident :=
  .plain (if value then "true" else "false") (isLegal_truth value)

/-- The literal is written with the tokens. -/
inductive Written : DefaultLiteral → List Token → Prop
  | number {l : Literal} (kind : l.kind = .integer ∨ l.kind = .float) (joints : List Bool) :
      Written (.number joints.length l) (joints.map (Token.punct '-') ++ [.literal l])
  | quoted {l : Literal} (kind : l.kind = .string ∨ l.kind = .char) :
      Written (.quoted l) [.literal l]
  | truth (value : Bool) (place : Position) :
      Written (.truth value) [.ident (truthWord value) place]

end DefaultLiteral

/-- An entry as it stands in a list of defaults. -/
structure ListedDefault where
  name : Ident
  literal : Option DefaultLiteral

namespace ListedDefault

/-- What is kept of an entry. -/
def entry (w : ListedDefault) : DefaultEntry := ⟨w.name, w.literal.map DefaultLiteral.text⟩

/-- The name of an entry as written. -/
def key (w : ListedDefault) : String := w.name.text

/-- The entry is written with the tokens, and its literal has `most` minus signs at most. -/
inductive Written (most : Nat) : ListedDefault → List Token → Prop
  | bare {i : Ident} (place : Position) (free : i.isReserved = false) :
      Written most ⟨i, none⟩ [.ident i place]
  | valued {i : Ident} {literal : DefaultLiteral} {ts : List Token} (place : Position)
      (joint : Bool) (free : i.isReserved = false) (few : literal.minuses ≤ most)
      (written : literal.Written ts) :
      Written most ⟨i, some literal⟩ (.ident i place :: .punct '=' joint :: ts)

end ListedDefault

/-- The tokens are a list of the entries. -/
inductive DefaultList (most : Nat) : List Token → List ListedDefault → Prop
  | nil : DefaultList most [] []
  | last {w : ListedDefault} {ts : List Token} (written : w.Written most ts) :
      DefaultList most ts [w]
  | cons {w : ListedDefault} {ws : List ListedDefault} {ts more : List Token} (joint : Bool)
      (written : w.Written most ts) (list : DefaultList most more ws) :
      DefaultList most (ts ++ .punct ',' joint :: more) (w :: ws)

/-! ## Reading literals -/

namespace Ahead

theorem op_minus_iff {ts : List Token} :
    op "-" ts = true ↔ ∃ joint rest, ts = .punct '-' joint :: rest := by
  constructor
  · exact eq_cons_of_chars
  · rintro ⟨joint, rest, rfl⟩
    rfl

theorem literal_eq_some {ts rest : List Token} {value : LitValue}
    (h : literal ts = some (value, rest)) :
    (∃ l, value = .token l ∧ ts = .literal l :: rest) ∨
      (∃ b place, value = .bool b ∧ ts = .ident (DefaultLiteral.truthWord b) place :: rest) ∨
      ∃ joint l, value = .negative l ∧ (l.kind = .integer ∨ l.kind = .float) ∧
        ts = .punct '-' joint :: .literal l :: rest := by
  unfold literal at h
  split at h
  · next l rest' =>
      obtain ⟨rfl, rfl⟩ := Prod.mk.inj (Option.some.inj h)
      exact .inl ⟨l, rfl, rfl⟩
  · next i place rest' =>
      have word : ∀ {b : Bool}, ¬ i.raw = true → i.name = (DefaultLiteral.truthWord b).name →
          i = DefaultLiteral.truthWord b := by
        intro b hraw hname
        obtain ⟨raw, name, legal⟩ := i
        obtain rfl := Bool.eq_false_iff.mpr hraw
        cases b <;> obtain rfl := hname <;> rfl
      split at h
      · cases h
      next hraw =>
      split at h
      · next htrue =>
          obtain ⟨rfl, rfl⟩ := Prod.mk.inj (Option.some.inj h)
          exact .inr (.inl ⟨true, place, rfl, by rw [word (b := true) hraw (eq_of_beq htrue)]⟩)
      split at h
      · next hfalse =>
          obtain ⟨rfl, rfl⟩ := Prod.mk.inj (Option.some.inj h)
          exact .inr (.inl ⟨false, place, rfl, by rw [word (b := false) hraw (eq_of_beq hfalse)]⟩)
      · cases h
  · next joint l rest' =>
      split at h
      · next hkind =>
          obtain ⟨rfl, rfl⟩ := Prod.mk.inj (Option.some.inj h)
          rw [Bool.or_eq_true, beq_iff_eq, beq_iff_eq] at hkind
          exact .inr (.inr ⟨joint, l, rfl, hkind, rfl⟩)
      · cases h
  · cases h

end Ahead

namespace DefaultEntry

open DefaultLiteral (truthWord)

theorem literalText_token {negative : Bool} {l : Literal} {text : String}
    (h : literalText negative (.token l) = .ok text) :
    (l.kind = .integer ∨ l.kind = .float) ∧ text = (if negative then "-" else "") ++ l.text ∨
      (l.kind = .string ∨ l.kind = .char) ∧ negative = false ∧ text = l.text := by
  rw [literalText] at h
  cases hkind : l.kind <;> rw [hkind] at h
  case integer => exact .inl ⟨.inl rfl, (Except.ok.inj h).symm⟩
  case float => exact .inl ⟨.inr rfl, (Except.ok.inj h).symm⟩
  case string =>
    cases negative with
    | true => cases h
    | false => exact .inr ⟨.inl rfl, rfl, (Except.ok.inj h).symm⟩
  case char =>
    cases negative with
    | true => cases h
    | false => exact .inr ⟨.inr rfl, rfl, (Except.ok.inj h).symm⟩
  all_goals cases h

/-- A literal behind a minus that was taken is a number, with a minus of its own or without. -/
theorem written_of_minus {ts rest : List Token} {value : LitValue} {text : String} (joint : Bool)
    (hliteral : Ahead.literal ts = some (value, rest)) (htext : literalText true value = .ok text) :
    ∃ (literal : DefaultLiteral) (front : List Token), literal.Written front ∧
      literal.minuses ≤ 2 ∧ .punct '-' joint :: ts = front ++ rest ∧ text = literal.text := by
  rcases Ahead.literal_eq_some hliteral with ⟨l, rfl, rfl⟩ | ⟨b, place, rfl, rfl⟩ |
    ⟨joint', l, rfl, kind, rfl⟩
  · rcases literalText_token htext with ⟨kind, rfl⟩ | ⟨-, hminus, -⟩
    · exact ⟨_, _, .number kind [joint], Nat.le_succ 1, rfl, rfl⟩
    · cases hminus
  · cases htext
  · obtain rfl := Except.ok.inj htext
    exact ⟨_, _, .number kind [joint, joint'], Nat.le_refl 2, rfl, rfl⟩

theorem written_of_not_minus {ts rest : List Token} {value : LitValue} {text : String}
    (plain : ¬ Ahead.op "-" ts = true) (hliteral : Ahead.literal ts = some (value, rest))
    (htext : literalText false value = .ok text) :
    ∃ (literal : DefaultLiteral) (front : List Token), literal.Written front ∧
      literal.minuses ≤ 2 ∧ ts = front ++ rest ∧ text = literal.text := by
  rcases Ahead.literal_eq_some hliteral with ⟨l, rfl, rfl⟩ | ⟨b, place, rfl, rfl⟩ |
    ⟨joint, l, rfl, kind, rfl⟩
  · rcases literalText_token htext with ⟨kind, rfl⟩ | ⟨kind, -, rfl⟩
    · exact ⟨_, _, .number kind [], Nat.zero_le 2, rfl, rfl⟩
    · exact ⟨_, _, .quoted kind, Nat.zero_le 2, rfl, rfl⟩
  · obtain rfl := Except.ok.inj htext
    exact ⟨_, _, .truth b place, Nat.zero_le 2, rfl, by cases b <;> rfl⟩
  · exact absurd (Ahead.op_minus_iff.mpr ⟨_, _, rfl⟩) plain

/-- The reader takes a literal with two minus signs at most, and its text. -/
theorem readLiteral_ok {ts rest : List Token} {text : String}
    (h : readLiteral ts = .ok (text, rest)) :
    ∃ (literal : DefaultLiteral) (front : List Token), literal.Written front ∧
      literal.minuses ≤ 2 ∧ ts = front ++ rest ∧ text = literal.text := by
  unfold readLiteral at h
  dsimp only at h
  split at h
  · cases h
  next value rest' hliteral =>
  cases htext : literalText (Ahead.op "-" ts) value with
  | error fault => rw [htext] at h; cases h
  | ok found =>
      rw [htext] at h
      obtain ⟨rfl, rfl⟩ := Prod.mk.inj (Except.ok.inj h)
      by_cases minus : Ahead.op "-" ts = true
      · rw [if_pos minus] at hliteral
        rw [minus] at htext
        obtain ⟨joint, more, rfl⟩ := Ahead.op_minus_iff.mp minus
        exact written_of_minus joint hliteral htext
      · rw [if_neg minus] at hliteral
        rw [Bool.eq_false_iff.mpr minus] at htext
        exact written_of_not_minus minus hliteral htext

theorem literalText_of_number {l : Literal} (kind : l.kind = .integer ∨ l.kind = .float)
    (negative : Bool) :
    literalText negative (.token l) = .ok ((if negative then "-" else "") ++ l.text) := by
  rw [literalText]
  rcases kind with kind | kind <;> rw [kind]

theorem literalText_of_quoted {l : Literal} (kind : l.kind = .string ∨ l.kind = .char) :
    literalText false (.token l) = .ok l.text := by
  rw [literalText]
  rcases kind with kind | kind <;> rw [kind] <;> rfl

theorem readLiteral_of_written {literal : DefaultLiteral} {front : List Token}
    (written : literal.Written front) (few : literal.minuses ≤ 2) (rest : List Token) :
    readLiteral (front ++ rest) = .ok (literal.text, rest) := by
  cases written with
  | @number l kind joints =>
      rcases joints with _ | ⟨joint, _ | ⟨joint', _ | ⟨joint'', more⟩⟩⟩
      · change (literalText false (.token l)).map (·, rest) = _
        rw [literalText_of_number kind]
        rfl
      · change (literalText true (.token l)).map (·, rest) = _
        rw [literalText_of_number kind]
        rfl
      · have hnumber : (l.kind == .integer || l.kind == .float) = true := by
          rcases kind with kind | kind <;> rw [kind] <;> rfl
        have hliteral : Ahead.literal (.punct '-' joint' :: .literal l :: rest)
            = some (.negative l, rest) := if_pos hnumber
        rw [List.map_cons, List.cons_append, List.cons_append, readLiteral,
          Ahead.op_minus_iff.mpr ⟨_, _, rfl⟩, if_pos rfl, List.tail_cons, List.map_cons,
          List.cons_append, List.map_nil, List.nil_append, List.cons_append, List.singleton_append,
          hliteral]
        rfl
      · exact absurd few (by simp [DefaultLiteral.minuses])
  | @quoted l kind =>
      change (literalText false (.token l)).map (·, rest) = _
      rw [literalText_of_quoted kind]
      rfl
  | truth b place => cases b <;> rfl

/-! ## Reading entries and lists -/

theorem read_ok {ts rest : List Token} {e : DefaultEntry} (h : read ts = .ok (e, rest)) :
    ∃ (w : ListedDefault) (front : List Token), w.Written 2 front ∧ ts = front ++ rest ∧
      e = w.entry := by
  unfold read at h
  split at h
  · next i place more =>
      split at h
      · cases h
      next hfree =>
      have free := Bool.eq_false_iff.mpr hfree
      split at h
      · next hequals =>
          obtain ⟨joint, more, rfl⟩ := Ahead.eq_cons_of_chars (c := '=') hequals
          cases hread : readLiteral more with
          | error fault => rw [List.tail_cons, hread] at h; cases h
          | ok found =>
              obtain ⟨text, behind⟩ := found
              rw [List.tail_cons, hread] at h
              obtain ⟨rfl, rfl⟩ := Prod.mk.inj (Except.ok.inj h)
              obtain ⟨literal, front, written, few, rfl, rfl⟩ := readLiteral_ok hread
              exact ⟨_, _, .valued place joint free few written, rfl, rfl⟩
      · obtain ⟨rfl, rfl⟩ := Prod.mk.inj (Except.ok.inj h)
        exact ⟨_, _, .bare place free, rfl, rfl⟩
  · cases h

/-- What stands behind an entry: nothing, or a comma. -/
def EndsEntry (rest : List Token) : Prop :=
  rest = [] ∨ ∃ joint more, rest = .punct ',' joint :: more

theorem read_of_written {w : ListedDefault} {front rest : List Token} (written : w.Written 2 front)
    (ends : EndsEntry rest) : read (front ++ rest) = .ok (w.entry, rest) := by
  cases written with
  | @bare i place free =>
      have hequals : ¬ Ahead.op "=" rest = true := by
        rcases ends with rfl | ⟨joint, more, rfl⟩ <;> exact Bool.false_ne_true
      rw [List.singleton_append, read, free, if_neg Bool.false_ne_true, if_neg hequals]
      rfl
  | @valued i literal ts place joint free few written =>
      rw [List.cons_append, List.cons_append, read, free, if_neg Bool.false_ne_true,
        show Ahead.op "=" (.punct '=' joint :: (ts ++ rest)) = true from rfl, if_pos rfl,
        List.tail_cons, readLiteral_of_written written few]
      rfl

theorem readAll_ok {ts : List Token} :
    ∀ {entries : List DefaultEntry}, readAll ts = .ok entries →
      ∃ ws, DefaultList 2 ts ws ∧ entries = ws.map ListedDefault.entry := by
  fun_induction readAll ts with
  | case1 ts hempty =>
      intro entries h
      obtain rfl := Except.ok.inj h
      obtain rfl := List.isEmpty_iff.mp hempty
      exact ⟨[], .nil, rfl⟩
  | case2 => intro entries h; cases h
  | case3 ts _ e rest hread hend =>
      intro entries h
      obtain rfl := Except.ok.inj h
      obtain rfl := List.isEmpty_iff.mp hend
      obtain ⟨w, front, written, rfl, rfl⟩ := read_ok hread
      rw [List.append_nil]
      exact ⟨[w], .last written, rfl⟩
  | case4 ts _ e rest hread hend hcomma ih =>
      intro entries h
      obtain ⟨joint, more, rfl⟩ := Ahead.eq_cons_of_chars (c := ',') hcomma
      cases hmore : readAll more with
      | error fault => rw [List.tail_cons, hmore] at h; cases h
      | ok es =>
          rw [List.tail_cons, hmore] at h
          obtain rfl := Except.ok.inj h
          obtain ⟨w, front, written, rfl, rfl⟩ := read_ok hread
          obtain ⟨ws, list, rfl⟩ := ih hmore
          exact ⟨w :: ws, .cons joint written list, rfl⟩
  | case5 => intro entries h; cases h

theorem readAll_of_list {ts : List Token} {ws : List ListedDefault} (list : DefaultList 2 ts ws) :
    readAll ts = .ok (ws.map ListedDefault.entry) := by
  induction list with
  | nil => rw [readAll]; rfl
  | @last w ts written =>
      have hread := read_of_written written (.inl rfl)
      rw [List.append_nil] at hread
      rw [readAll_of_read hread]
      rfl
  | @cons w ws ts more joint written _ ih =>
      rw [readAll_of_read (read_of_written written (.inr ⟨joint, more, rfl⟩)),
        show Ahead.op "," (.punct ',' joint :: more) = true from rfl, List.tail_cons, ih]
      rfl

/-! ## The map of the entries -/

theorem insert_sorted {e : DefaultEntry} {es : List DefaultEntry} (fresh : e.key ∉ es.map key)
    (sorted : (es.map key).Pairwise (· < ·)) : ((insert e es).map key).Pairwise (· < ·) := by
  induction es with
  | nil => exact List.pairwise_singleton _ _
  | cons first rest ih =>
      rw [List.map_cons, List.mem_cons, not_or] at fresh
      rw [List.map_cons, List.pairwise_cons] at sorted
      rw [insert]
      split
      · next hlt =>
          refine List.pairwise_cons.mpr ⟨fun k hk => ?_, List.pairwise_cons.mpr sorted⟩
          rcases List.mem_cons.mp hk with rfl | hk
          · exact hlt
          · exact lt_trans hlt (sorted.1 k hk)
      · next hle =>
          refine List.pairwise_cons.mpr ⟨fun k hk => ?_, ih fresh.2 sorted.2⟩
          have hperm := (insert_perm e rest).map key
          rcases List.mem_cons.mp (hperm.mem_iff.mp hk) with rfl | hk
          · exact lt_of_le_of_ne (not_lt.mp hle) (Ne.symm fresh.1)
          · exact sorted.1 k hk

theorem foldr_insert_sorted {es : List DefaultEntry} (distinct : (es.map key).Nodup) :
    ((es.foldr insert []).map key).Pairwise (· < ·) := by
  induction es with
  | nil => exact .nil
  | cons e rest ih =>
      rw [List.map_cons, List.nodup_cons] at distinct
      refine insert_sorted (fun hmem => distinct.1 ?_) (ih distinct.2)
      exact ((foldr_insert_perm rest).map key).mem_iff.mp hmem

theorem parse_ok_iff {ts : List Token} {m : List DefaultEntry} :
    parse ts = .ok m ↔
      ∃ entries, readAll ts = .ok entries ∧ (entries.map key).Nodup ∧
        m = entries.foldr insert [] := by
  refine bind_ok_iff.trans (exists_congr fun entries => and_congr_right fun _ => ?_)
  constructor
  · intro h
    split at h
    · cases h
    · next hfresh => exact ⟨(nodup_of_firstRepeated? hfresh).1, (Except.ok.inj h).symm⟩
  · rintro ⟨distinct, rfl⟩
    rw [firstRepeated?_eq_none distinct fun e _ => List.not_mem_nil]
    rfl

end DefaultEntry

/-! ## Minus signs -/

namespace ListedDefault

/-- The minus signs in an entry. -/
def minuses (w : ListedDefault) : Nat := (w.literal.map DefaultLiteral.minuses).getD 0

theorem Written.few {most : Nat} {w : ListedDefault} {ts : List Token} (h : w.Written most ts) :
    w.minuses ≤ most := by
  cases h with
  | bare => exact Nat.zero_le most
  | valued _ _ _ few => exact few

theorem Written.of_few {most most' : Nat} {w : ListedDefault} {ts : List Token}
    (h : w.Written most ts) (few : w.minuses ≤ most') : w.Written most' ts := by
  cases h with
  | bare place free => exact .bare place free
  | valued place joint free _ written => exact .valued place joint free few written

end ListedDefault

/-- The token is a minus. -/
def Token.isMinus : Token → Bool
  | .punct '-' _ => true
  | _ => false

/-- No minus stands right behind another. -/
def SingleMinuses (ts : List Token) : Prop :=
  ts.IsChain fun t u => ¬ (t.isMinus = true ∧ u.isMinus = true)

theorem singleMinuses_append_comma {front more : List Token} {joint : Bool} :
    SingleMinuses (front ++ .punct ',' joint :: more) ↔
      SingleMinuses front ∧ SingleMinuses more := by
  have comma : ∀ t : Token, ¬ ((Token.punct ',' joint).isMinus = true ∧ t.isMinus = true) :=
    fun t h => Bool.false_ne_true h.1
  have comma' : ∀ t : Token, ¬ (t.isMinus = true ∧ (Token.punct ',' joint).isMinus = true) :=
    fun t h => Bool.false_ne_true h.2
  rw [SingleMinuses, List.isChain_append, List.isChain_cons]
  constructor
  · rintro ⟨hfront, ⟨-, hmore⟩, -⟩
    exact ⟨hfront, hmore⟩
  · rintro ⟨hfront, hmore⟩
    refine ⟨hfront, ⟨fun t _ => comma t, hmore⟩, fun t _ u hu => ?_⟩
    obtain rfl := Option.some.inj hu
    exact comma' t

theorem ListedDefault.Written.singleMinuses_iff {most : Nat} {w : ListedDefault} {ts : List Token}
    (h : w.Written most ts) : SingleMinuses ts ↔ w.minuses ≤ 1 := by
  cases h with
  | bare => exact iff_of_true (.singleton _) (Nat.zero_le 1)
  | valued place joint free few written =>
      cases written with
      | @number l kind joints =>
          match joints with
          | [] | [_] => simp [SingleMinuses, minuses, DefaultLiteral.minuses, Token.isMinus]
          | j :: j' :: more =>
              refine iff_of_false (fun single => ?_) (by simp [minuses, DefaultLiteral.minuses])
              exact (List.isChain_cons_cons.mp single.tail.tail).1 ⟨rfl, rfl⟩
      | quoted | truth => simp [SingleMinuses, minuses, DefaultLiteral.minuses, Token.isMinus]

namespace DefaultList

variable {most : Nat} {ts : List Token} {ws : List ListedDefault}

theorem few (h : DefaultList most ts ws) : ∀ w ∈ ws, w.minuses ≤ most := by
  induction h with
  | nil => exact fun w hw => absurd hw List.not_mem_nil
  | last written =>
      intro w hw
      obtain rfl := List.mem_singleton.mp hw
      exact written.few
  | cons _ written _ ih => exact List.forall_mem_cons.mpr ⟨written.few, ih⟩

theorem of_few {most' : Nat} (h : DefaultList most ts ws) (few : ∀ w ∈ ws, w.minuses ≤ most') :
    DefaultList most' ts ws := by
  induction h with
  | nil => exact .nil
  | last written => exact .last (written.of_few (few _ List.mem_cons_self))
  | cons joint written _ ih =>
      rw [List.forall_mem_cons] at few
      exact .cons joint (written.of_few few.1) (ih few.2)

theorem singleMinuses_iff (h : DefaultList most ts ws) :
    SingleMinuses ts ↔ ∀ w ∈ ws, w.minuses ≤ 1 := by
  induction h with
  | nil => exact iff_of_true .nil fun w hw => absurd hw List.not_mem_nil
  | last written => rw [written.singleMinuses_iff, List.forall_mem_singleton]
  | cons joint written _ ih =>
      rw [singleMinuses_append_comma, written.singleMinuses_iff, ih, List.forall_mem_cons]

end DefaultList

/-- The tokens are a list of defaults with no name twice, in which a number has `most` minus signs
at most. -/
def IsDefaultList (most : Nat) (ts : List Token) : Prop :=
  ∃ ws, DefaultList most ts ws ∧ (ws.map ListedDefault.key).Nodup

theorem isDefaultList_one_iff {ts : List Token} :
    IsDefaultList 1 ts ↔ IsDefaultList 2 ts ∧ SingleMinuses ts := by
  constructor
  · rintro ⟨ws, list, distinct⟩
    exact ⟨⟨ws, list.of_few fun w hw => Nat.le_succ_of_le (list.few w hw), distinct⟩,
      list.singleMinuses_iff.mpr list.few⟩
  · rintro ⟨⟨ws, list, distinct⟩, single⟩
    exact ⟨ws, list.of_few (list.singleMinuses_iff.mp single), distinct⟩

namespace DefaultEntry

theorem parse_of_list {ts : List Token} {ws : List ListedDefault} (list : DefaultList 2 ts ws)
    {m : List DefaultEntry} (h : parse ts = .ok m) :
    m.Perm (ws.map ListedDefault.entry) ∧ (m.map key).Pairwise (· < ·) := by
  obtain ⟨entries, hentries, distinct, rfl⟩ := parse_ok_iff.mp h
  obtain rfl := Except.ok.inj (hentries.symm.trans (readAll_of_list list))
  exact ⟨foldr_insert_perm _, foldr_insert_sorted distinct⟩

theorem exists_parse_iff {ts : List Token} : (∃ m, parse ts = .ok m) ↔ IsDefaultList 2 ts := by
  have keys : ∀ ws : List ListedDefault,
      (ws.map ListedDefault.entry).map key = ws.map ListedDefault.key := fun ws => List.map_map
  constructor
  · rintro ⟨m, h⟩
    obtain ⟨entries, hentries, distinct, -⟩ := parse_ok_iff.mp h
    obtain ⟨ws, list, rfl⟩ := readAll_ok hentries
    exact ⟨ws, list, keys ws ▸ distinct⟩
  · rintro ⟨ws, list, distinct⟩
    exact ⟨_, parse_ok_iff.mpr ⟨_, readAll_of_list list, (keys ws).symm ▸ distinct, rfl⟩⟩

/-- A list of defaults is accepted exactly if it has distinct names and two minus signs at most in
front of a number, and then gives the entries as they were written, in the order of their names. So
the reader agrees with a grammar of one minus exactly unless it accepts one minus right behind
another. -/
theorem parse_decides (ts : List Token) :
    ((∃ m, parse ts = .ok m) ↔ IsDefaultList 2 ts) ∧
      (∀ ws m, DefaultList 2 ts ws → parse ts = .ok m →
        m.Perm (ws.map ListedDefault.entry) ∧ (m.map key).Pairwise (· < ·)) ∧
      (((∃ m, parse ts = .ok m) ↔ IsDefaultList 1 ts) ↔
        ¬ ((∃ m, parse ts = .ok m) ∧ ¬ SingleMinuses ts)) := by
  refine ⟨exists_parse_iff, fun ws m list h => parse_of_list list h, ?_⟩
  rw [exists_parse_iff, isDefaultList_one_iff]
  tauto

/-- The tokens of `page = --1`. -/
def doubled : List Token :=
  [.name (.spelled "page"), .lone '=', .punct '-' true, .lone '-', .literal ⟨.integer, "1"⟩]

theorem doubled_list :
    DefaultList 2 doubled [⟨.spelled "page", some (.number 2 ⟨.integer, "1"⟩)⟩] :=
  .last (.valued .start false rfl (Nat.le_refl 2) (.number (.inl rfl) [true, false]))

theorem parse_doubled : parse doubled = .ok [⟨.spelled "page", some "--1"⟩] :=
  parse_ok_iff.mpr ⟨_, readAll_of_list doubled_list, List.nodup_singleton _, rfl⟩

theorem not_singleMinuses_doubled : ¬ SingleMinuses doubled := by
  simp [SingleMinuses, doubled, Token.lone, Token.isMinus]

theorem parse_decides_doubled :
    parse doubled = .ok [⟨.spelled "page", some "--1"⟩] ∧
      ((∃ m, parse doubled = .ok m) ↔ IsDefaultList 2 doubled) ∧
      [(⟨.spelled "page", some "--1"⟩ : DefaultEntry)].Perm
        ([⟨.spelled "page", some (.number 2 ⟨.integer, "1"⟩)⟩].map ListedDefault.entry) ∧
      ¬ ((∃ m, parse doubled = .ok m) ↔ IsDefaultList 1 doubled) := by
  obtain ⟨accepted, entries, differs⟩ := parse_decides doubled
  exact ⟨parse_doubled, accepted, (entries _ _ doubled_list parse_doubled).1, fun same =>
    differs.mp same ⟨⟨_, parse_doubled⟩, not_singleMinuses_doubled⟩⟩

/-- Some lists are accepted that have two minus signs in front of a number. -/
theorem not_forall_parse_one :
    ¬ ∀ ts : List Token, (∃ m, parse ts = .ok m) ↔ IsDefaultList 1 ts := by
  intro hall
  have hone := (hall doubled).mp ⟨_, parse_doubled⟩
  exact not_singleMinuses_doubled (isDefaultList_one_iff.mp hone).2

end DefaultEntry

end TraitRoutes
