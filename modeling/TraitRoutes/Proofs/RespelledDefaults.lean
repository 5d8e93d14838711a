import TraitRoutes.Proofs.HelperAttributes
import TraitRoutes.Proofs.RawSpelling

/-!
# Defaults of respelled parameters

The entries of a list of defaults name parameters, so when parameters are written raw
their entries are written raw as well. A name stands at the start of the list and behind
each comma, and nowhere else; a word behind an equals sign is a literal.

The list is then read to the same entries under other names. Reading looks at no name but
to refuse a reserved word, which no raw spelling is, and stops at the same tokens; the
invariant is that what is left is the respelled rest, at the start of an entry or within
one. What can go wrong is only that two entries come to have one name.
-/

namespace TraitRoutes

/-! ## Respelling a list -/

namespace Token

/-- The token ends an entry. -/
def isComma : Token → Bool
  | .punct ',' _ => true
  | _ => false

/-- The token with its name respelled. -/
def withName (spell : Ident → Ident) : Token → Token
  | .ident i place => .ident (spell i) place
  | t => t

end Token

/-- The list with the names of its entries respelled, from the start of an entry or from
within one. -/
def entryTokens (spell : Ident → Ident) : Bool → List Token → List Token
  | _, [] => []
  | start, t :: rest =>
    (if start then t.withName spell else t) :: entryTokens spell t.isComma rest

/-- The attribute with the names of its entries respelled, if it is a list of defaults. -/
def Attribute.respell (spell : Ident → Ident) (a : Attribute) : Attribute :=
  match Helper.defaultValue.isNamed a, a.args with
  | true, .list d ts => { a with args := .list d (entryTokens spell true ts) }
  | _, _ => a

/-- The entry under another name. -/
def DefaultEntry.respell (spell : Ident → Ident) (e : DefaultEntry) : DefaultEntry :=
  { e with name := spell e.name }

section Reading

variable {spell : Ident → Ident}

/-! ## Reading a respelled list -/

theorem isEmpty_entryTokens (start : Bool) (ts : List Token) :
    (entryTokens spell start ts).isEmpty = ts.isEmpty := by
  cases ts <;> rfl

namespace Ahead

theorem eq_cons_of_chars {c : Char} {ts : List Token} (h : chars [c] ts = true) :
    ∃ joint rest, ts = .punct c joint :: rest := by
  match ts with
  | .punct d joint :: rest => exact ⟨joint, rest, by rw [eq_of_beq (h : (c == d) = true)]⟩
  | [] | .ident .. :: _ | .group .. :: _ | .literal _ :: _ => cases h

theorem chars_entryTokens (c : Char) (ts : List Token) :
    chars [c] (entryTokens spell false ts) = chars [c] ts := by
  cases ts with
  | nil => rfl
  | cons t rest => cases t <;> rfl

theorem literal_entryTokens {ts rest : List Token} {value : LitValue}
    (h : literal ts = some (value, rest)) :
    literal (entryTokens spell false ts) = some (value, entryTokens spell false rest) := by
  unfold literal at h
  split at h
  · obtain ⟨rfl, rfl⟩ := Prod.mk.inj (Option.some.inj h)
    rfl
  · next i place rest' =>
      rw [entryTokens, if_neg Bool.false_ne_true, literal]
      split at h
      · cases h
      next hraw =>
      rw [if_neg hraw]
      split at h
      · next htrue =>
          obtain ⟨rfl, rfl⟩ := Prod.mk.inj (Option.some.inj h)
          rw [if_pos htrue]
          rfl
      next htrue =>
      split at h
      · next hfalse =>
          obtain ⟨rfl, rfl⟩ := Prod.mk.inj (Option.some.inj h)
          rw [if_neg htrue, if_pos hfalse]
          rfl
      · cases h
  · next joint l rest' =>
      split at h
      · next hkind =>
          obtain ⟨rfl, rfl⟩ := Prod.mk.inj (Option.some.inj h)
          exact if_pos hkind
      · cases h
  · cases h

end Ahead

namespace DefaultEntry

theorem readLiteral_entryTokens {ts rest : List Token} {text : String}
    (h : readLiteral ts = .ok (text, rest)) :
    readLiteral (entryTokens spell false ts) = .ok (text, entryTokens spell false rest) := by
  have hbehind : (if Ahead.op "-" ts then (entryTokens spell false ts).tail
      else entryTokens spell false ts)
        = entryTokens spell false (if Ahead.op "-" ts then ts.tail else ts) := by
    split
    · next hminus =>
        obtain ⟨joint, rest, rfl⟩ := Ahead.eq_cons_of_chars (c := '-') hminus
        rfl
    · rfl
  have hminus : Ahead.op "-" (entryTokens spell false ts) = Ahead.op "-" ts :=
    Ahead.chars_entryTokens '-' ts
  unfold readLiteral at h ⊢
  dsimp only at h ⊢
  rw [hminus, hbehind]
  split at h
  · cases h
  · next value rest' hliteral =>
      rw [Ahead.literal_entryTokens hliteral]
      cases htext : literalText (Ahead.op "-" ts) value with
      | error fault => rw [htext] at h; cases h
      | ok text' =>
          rw [htext] at h
          obtain ⟨rfl, rfl⟩ := Prod.mk.inj (Except.ok.inj h)
          dsimp only
          rw [htext]
          rfl

theorem readAll_of_read {ts rest : List Token} {e : DefaultEntry} (h : read ts = .ok (e, rest)) :
    readAll ts =
      if rest.isEmpty then .ok [e]
      else if Ahead.op "," rest then (readAll rest.tail).map (e :: ·)
      else .error (failAt rest (.expected ["`,`"])) := by
  have hsome : ¬ ts.isEmpty = true := by
    rintro hempty
    obtain rfl := List.isEmpty_iff.mp hempty
    cases h
  rw [readAll, if_neg hsome]
  split
  · next hread => rw [h] at hread; cases hread
  · next e' rest' hread =>
      rw [h] at hread
      obtain ⟨rfl, rfl⟩ := Prod.mk.inj (Except.ok.inj hread)
      rfl

variable (free : ∀ i : Ident, i.isReserved = false → (spell i).isReserved = false)
include free

theorem read_entryTokens {ts rest : List Token} {e : DefaultEntry}
    (h : read ts = .ok (e, rest)) :
    read (entryTokens spell true ts) = .ok (e.respell spell, entryTokens spell false rest) := by
  unfold read at h
  split at h
  · next i place more =>
      split at h
      · cases h
      next hreserved =>
      rw [entryTokens, if_pos rfl, Token.withName, read,
        if_neg (Bool.eq_false_iff.mp (free i (Bool.eq_false_iff.mpr hreserved)))]
      rw [show Token.isComma (.ident i place) = false from rfl,
        show Ahead.op "=" (entryTokens spell false more) = Ahead.op "=" more from
          Ahead.chars_entryTokens '=' more]
      split at h
      · next hequals =>
          obtain ⟨joint, more, rfl⟩ := Ahead.eq_cons_of_chars (c := '=') hequals
          rw [if_pos hequals]
          cases hread : readLiteral more with
          | error fault => rw [List.tail_cons, hread] at h; cases h
          | ok found =>
              obtain ⟨text, behind⟩ := found
              rw [List.tail_cons, hread] at h
              obtain ⟨rfl, rfl⟩ := Prod.mk.inj (Except.ok.inj h)
              rw [entryTokens, if_neg Bool.false_ne_true, List.tail_cons,
                show Token.isComma (.punct '=' joint) = false from rfl,
                readLiteral_entryTokens hread]
              rfl
      · next hequals =>
          obtain ⟨rfl, rfl⟩ := Prod.mk.inj (Except.ok.inj h)
          rw [if_neg hequals]
          rfl
  · cases h

/-- A respelled list has the same entries, respelled. -/
theorem readAll_entryTokens {ts : List Token} :
    ∀ {es : List DefaultEntry}, readAll ts = .ok es →
      readAll (entryTokens spell true ts) = .ok (es.map (respell spell)) := by
  fun_induction readAll ts with
  | case1 ts hempty =>
      intro es h
      obtain rfl := Except.ok.inj h
      obtain rfl := List.isEmpty_iff.mp hempty
      rw [entryTokens, readAll]
      rfl
  | case2 => intro es h; cases h
  | case3 ts _ e rest hread hend =>
      intro es h
      obtain rfl := Except.ok.inj h
      rw [readAll_of_read (read_entryTokens free hread), isEmpty_entryTokens, if_pos hend]
      rfl
  | case4 ts _ e rest hread hend hcomma ih =>
      intro es h
      obtain ⟨joint, more, rfl⟩ := Ahead.eq_cons_of_chars (c := ',') hcomma
      cases hmore : readAll more with
      | error fault => rw [List.tail_cons, hmore] at h; cases h
      | ok es' =>
          rw [List.tail_cons, hmore] at h
          obtain rfl := Except.ok.inj h
          rw [readAll_of_read (read_entryTokens free hread), isEmpty_entryTokens, if_neg hend]
          exact congrArg (Except.map _) (ih hmore)
  | case5 => intro es h; cases h

end DefaultEntry

end Reading

/-! ## Attributes -/

namespace Attribute

variable (spell : Ident → Ident)

theorem path_respell (a : Attribute) : (a.respell spell).path = a.path := by
  unfold respell
  split <;> rfl

theorem isNamed_respell (h : Helper) (a : Attribute) :
    h.isNamed (a.respell spell) = h.isNamed a := by
  rw [Helper.isNamed, Helper.isNamed, path_respell]

theorem respell_of_not {a : Attribute} (h : Helper.defaultValue.isNamed a = false) :
    a.respell spell = a := by
  rw [respell, h]

theorem filter_respell (h : Helper) (attrs : List Attribute) :
    (attrs.map (respell spell)).filter h.isNamed = (attrs.filter h.isNamed).map (respell spell) := by
  rw [List.filter_map]
  congr 2
  exact funext fun a => isNamed_respell spell h a

end Attribute

namespace Helper

variable {spell : Ident → Ident} {attrs : List Attribute}

theorem not_isNamed_of_isNamed {h h' : Helper} {a : Attribute} (hne : h.name ≠ h'.name)
    (hnamed : h.isNamed a = true) : h'.isNamed a = false := by
  unfold isNamed at hnamed ⊢
  cases hlast : a.path.getLast? with
  | none => rfl
  | some i =>
      rw [hlast, Option.map_some, Option.getD_some] at hnamed
      rw [Option.map_some, Option.getD_some, eq_of_beq hnamed]
      exact beq_eq_false_iff_ne.mpr hne

/-- Respelling defaults does not touch the verb. -/
theorem verbIn_respell : verbIn (attrs.map (Attribute.respell spell)) = verbIn attrs := by
  have hfilter : (attrs.map (Attribute.respell spell)).filter httpMethod.isNamed
      = attrs.filter httpMethod.isNamed := by
    rw [Attribute.filter_respell]
    refine (List.map_congr_left fun a ha => ?_).trans (List.map_id _)
    exact Attribute.respell_of_not spell
      (not_isNamed_of_isNamed (by decide) (List.mem_filter.mp ha).2)
  unfold verbIn find?
  rw [hfilter]

theorem arguments_respell {a : Attribute} {ts : List Token} (named : defaultValue.isNamed a = true)
    (h : arguments a = .ok ts) :
    arguments (a.respell spell) = .ok (entryTokens spell true ts) := by
  unfold arguments at h
  rw [Attribute.respell, named]
  split at h
  · next hargs =>
      obtain rfl := Except.ok.inj h
      rw [hargs]
      dsimp only
      rw [arguments, hargs]
      rfl
  · next d ts' hargs =>
      obtain rfl := Except.ok.inj h
      rw [hargs]
      rfl
  · cases h

/-- If no two entries come to have one name, a respelled list of defaults has the respelled
entries. -/
theorem defaultsIn_respell (free : ∀ i : Ident, i.isReserved = false → (spell i).isReserved = false)
    {defaults : List DefaultEntry} (h : defaultsIn attrs = .ok defaults)
    (distinct : ((defaults.map (DefaultEntry.respell spell)).map DefaultEntry.key).Nodup) :
    ∃ defaults', defaultsIn (attrs.map (Attribute.respell spell)) = .ok defaults' ∧
      defaults'.Perm (defaults.map (DefaultEntry.respell spell)) := by
  unfold defaultsIn find?
  rw [Attribute.filter_respell]
  rcases defaultsIn_ok h with ⟨hnone, rfl⟩ | ⟨a, ts, hone, hts, hparse⟩
  · rw [hnone]
    exact ⟨[], rfl, .refl _⟩
  · have hnamed := (List.mem_filter.mp (hone ▸ List.mem_singleton_self a)).2
    obtain ⟨entries, hentries, hperm, -⟩ := DefaultEntry.parse_ok hparse
    have hperm' := hperm.map (DefaultEntry.respell spell)
    obtain ⟨es, hes, hsorted⟩ := DefaultEntry.parse_of_readAll
      (DefaultEntry.readAll_entryTokens free hentries)
      ((hperm'.map DefaultEntry.key).nodup_iff.mp distinct)
    refine ⟨es, ?_, hsorted.trans hperm'.symm⟩
    rw [hone, List.map_singleton]
    exact bind_ok_iff.mpr ⟨_, rfl, bind_ok_iff.mpr ⟨_, arguments_respell hnamed hts, hes⟩⟩

end Helper

end TraitRoutes
