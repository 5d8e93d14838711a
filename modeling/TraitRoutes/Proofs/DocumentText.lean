import TraitRoutes.Proofs.LaidText

/-!
# What documents are made of

The language of a document is built as the document is: texts and breaks one after another, and
a group is its parts, all in line or as a group that does not fit. Where it stands decides how a
break is written, so the rules here are for a document in any place. Only a group that holds
nothing but a break is left out, which no group does that starts with a text.
-/

namespace TraitRoutes.Layout

/-! ## Languages of documents -/

/-- Whether pieces are a break and nothing else. -/
def isLoneBreak : List Piece → Bool
  | [.brk _] => true
  | _ => false

mutual

/-- What a document is written as in a group that is laid out in the given mode. -/
def Doc.texts (m : Mode) : Doc → Language Char
  | .text s => lit s
  | .brk b => b.texts m
  | .forced | .unknown => 1
  | .apart => 1 + lit " "
  | .group _ consistent parts =>
    Doc.textsAll .flat parts + Doc.textsAll (.unfit consistent) parts
      + if isLoneBreak (Doc.piecesAll parts) then 1 else 0

/-- What documents one after another are written as. -/
def Doc.textsAll (m : Mode) : List Doc → Language Char
  | [] => 1
  | d :: rest => d.texts m * Doc.textsAll m rest

end

/-- What documents are written as, whatever stands around them. -/
def Doc.written (parts : List Doc) : Language Char := Doc.textsAll .mixed parts

theorem laid_front {a b : List Piece} (h : ∀ st, laid st a ≤ laid st b) (front : List Piece) :
    ∀ st, laid st (front ++ a) ≤ laid st (front ++ b) := by
  induction front with
  | nil => exact h
  | cons piece rest ih =>
      intro st
      cases piece with
      | text s => exact mul_le_mul_right (ih st) _
      | brk b => exact mul_le_mul_right (ih st) _
      | apart => exact mul_le_mul_right (ih st) _
      | forced => exact ih st
      | unknown => exact ih st
      | opening offset consistent => exact add_le_add (ih _) (ih _)
      | closing => exact ih st.tail

theorem laid_dropLastBreak (ps rest : List Piece) (st : List Mode) :
    laid st (dropLastBreak ps ++ rest) ≤ laid st (ps ++ rest) := by
  unfold dropLastBreak
  split
  · next b hlast =>
      split
      · next hnonempty =>
          obtain ⟨front, rfl⟩ := List.getLast?_eq_some_iff.mp hlast
          rw [List.dropLast_concat, List.append_assoc]
          refine laid_front (fun st => ?_) front st
          have hone : 1 ≤ b.texts (.top st) := by
            rw [Break.texts, if_pos hnonempty]
            exact le_add_self
          exact le_mul_of_one_le_left' hone
      · exact le_rfl
  · exact le_rfl

theorem laid_enclose (offset : Int) (consistent : Bool) (ps rest : List Piece) (st : List Mode) :
    laid st (enclose offset consistent ps ++ rest)
      ≤ laid (.flat :: st) (ps ++ .closing :: rest)
        + laid (.unfit consistent :: st) (ps ++ .closing :: rest)
        + (if isLoneBreak ps then 1 else 0) * laid st rest := by
  unfold enclose
  split
  · rw [isLoneBreak, if_pos rfl, one_mul]
    exact le_add_self
  · rw [List.cons_append, List.append_assoc, laid]
    exact (add_le_add (laid_dropLastBreak _ _ _) (laid_dropLastBreak _ _ _)).trans le_self_add

mutual

theorem laid_pieces (rest : List Piece) : ∀ (d : Doc) (st : List Mode),
    laid st (d.pieces ++ rest) ≤ d.texts (.top st) * laid st rest
  | .text s, st => le_rfl
  | .brk b, st => le_rfl
  | .apart, st => le_rfl
  | .forced, st => (one_mul _).ge
  | .unknown, st => (one_mul _).ge
  | .group offset consistent parts, st => by
      rw [Doc.pieces, Doc.texts, add_mul, add_mul]
      refine (laid_enclose _ _ _ _ _).trans (add_le_add_left (add_le_add ?_ ?_) _)
      · exact laid_piecesAll (.closing :: rest) parts (.flat :: st)
      · exact laid_piecesAll (.closing :: rest) parts (.unfit consistent :: st)

theorem laid_piecesAll (rest : List Piece) : ∀ (parts : List Doc) (st : List Mode),
    laid st (Doc.piecesAll parts ++ rest) ≤ Doc.textsAll (.top st) parts * laid st rest
  | [], st => (one_mul _).ge
  | d :: more, st => by
      rw [Doc.piecesAll, List.append_assoc, Doc.textsAll, mul_assoc]
      exact (laid_pieces _ d st).trans (mul_le_mul_right (laid_piecesAll rest more st) _)

end

/-- A document is rendered as one of its texts. -/
theorem render_mem (parts : List Doc) : (Doc.render parts).toList ∈ Doc.written parts := by
  rw [← lit_le]
  have hsound : ({} : Printed).Sound (settle false (Doc.piecesAll parts)) := ⟨le_rfl, nofun⟩
  have hstart : ({} : Printed).texts = 1 := by
    have hblanks : Printed.blanks 0 = "" := rfl
    have htext : ({} : Printed).text = "" := rfl
    rw [Printed.texts, htext, hblanks, lit_empty, add_idem, mul_one]
  calc lit (Doc.render parts)
      ≤ (Printed.run {} (settle false (Doc.piecesAll parts))).texts := Printed.text_le_texts _
    _ ≤ ({} : Printed).texts * laid [] (settle false (Doc.piecesAll parts)) :=
        Printed.texts_run hsound
    _ ≤ laid [] (Doc.piecesAll parts ++ []) := by
        rw [hstart, one_mul, List.append_nil]
        exact laid_settle _ _ _
    _ ≤ Doc.written parts * 1 := laid_piecesAll [] parts []
    _ = Doc.written parts := mul_one _

/-! ## Rules -/

theorem gap_add_line : gap + line = gap := by
  rw [Language.add_def]
  exact Set.union_eq_self_of_subset_right line_le_gap

namespace Break

theorem texts_le_mixed (b : Break) (m : Mode) : b.texts m ≤ b.texts .mixed := by
  have hif : ∀ {p q : Bool} (L : Language Char), (p = true → q = true) →
      (if p then L else 0) ≤ if q then L else 0 := by
    intro p q L h
    split
    · next hp => rw [if_pos (h hp)]
    · exact zero_le
  refine add_le_add_left (add_le_add (hif _ fun hstay => ?_) (hif _ fun hend => ?_)) _
  · rw [mayStay, Bool.or_eq_true, Bool.and_eq_true] at hstay ⊢
    exact hstay.imp_right fun h => ⟨rfl, h.2⟩
  · rw [mayEnd, Bool.and_eq_true] at hend ⊢
    exact ⟨hend.1, rfl⟩

section Places

variable {blank : Nat} {offset : Int} {before after unbroken : String}

theorem texts_flat (hblank : blank < endless) :
    Break.texts { blank, offset, before, after, unbroken } .flat = gap * lit unbroken := by
  simp [texts, shown, mayStay, mayEnd, inLine, hblank]

theorem texts_broken :
    Break.texts { blank, offset, before, after, unbroken } .broken
      = lit before * line * lit after := by
  simp [texts, shown, mayStay, mayEnd, ended]

theorem texts_mixed (hblank : blank < endless) :
    Break.texts { blank, offset, before, after, unbroken } .mixed
      = gap * lit unbroken + lit before * line * lit after := by
  simp [texts, shown, mayStay, mayEnd, inLine, ended, hblank]

/-- A break that no line is wide enough for. -/
theorem texts_endless {ifNonempty : Bool} :
    Break.texts { blank := endless, offset, ifNonempty } .mixed
      = line + if ifNonempty then 1 else 0 := by
  simp [texts, shown, mayStay, mayEnd, ended]

/-- A break that nothing is put at. -/
theorem texts_plain (hblank : blank < endless) :
    Break.texts { blank, offset } .mixed = gap := by
  rw [texts_mixed hblank, lit_empty, mul_one, one_mul, mul_one, gap_add_line]

end Places

end Break

namespace Doc

theorem texts_le_mixed (d : Doc) (m : Mode) : d.texts m ≤ d.texts .mixed := by
  cases d with
  | brk b => exact b.texts_le_mixed m
  | _ => exact le_rfl

theorem textsAll_le_written (m : Mode) (parts : List Doc) : textsAll m parts ≤ written parts := by
  induction parts with
  | nil => exact le_rfl
  | cons d rest ih => exact mul_le_mul' (d.texts_le_mixed m) ih

section Rules

variable {rest : List Doc} {L M : Language Char}

@[simp]
theorem written_nil : written [] = 1 := rfl

theorem written_cons (d : Doc) (rest : List Doc) :
    written (d :: rest) = written [d] * written rest := by
  rw [written, textsAll, written, textsAll, textsAll, mul_one]
  rfl

theorem written_cons_le {d : Doc} {rest : List Doc} (hd : written [d] ≤ L)
    (hrest : written rest ≤ M) : written (d :: rest) ≤ L * M := by
  rw [written_cons]
  exact mul_le_mul' hd hrest

theorem textsAll_append (m : Mode) (a b : List Doc) :
    textsAll m (a ++ b) = textsAll m a * textsAll m b := by
  induction a with
  | nil => exact (one_mul _).symm
  | cons d rest ih => rw [List.cons_append, textsAll, ih, textsAll, mul_assoc]

@[simp]
theorem written_append (a b : List Doc) : written (a ++ b) = written a * written b :=
  textsAll_append .mixed a b

@[simp]
theorem written_text (s : String) : written (.text s :: rest) = lit s * written rest := rfl

theorem written_singleton (s : String) : written [.text s] = lit s := mul_one _

theorem written_texts (parts : List String) :
    written (parts.map Doc.text) = lit (String.join parts) := by
  induction parts with
  | nil => rfl
  | cons s rest ih =>
      have hjoin : String.join (s :: rest) = s ++ String.join rest :=
        String.toList_inj.mp (by simp [String.toList_join])
      rw [List.map_cons, written_text, ih, hjoin, lit_append]

theorem written_brk (b : Break) : written (.brk b :: rest) = b.texts .mixed * written rest := rfl

/-- Where a line may end. -/
@[simp]
theorem written_zero : written (zero :: rest) = gap * written rest := by
  rw [zero, written_brk, Break.texts_plain (by decide)]

@[simp]
theorem written_zeroBack : written (zeroBack :: rest) = gap * written rest := by
  rw [zeroBack, written_brk, Break.texts_plain (by decide)]

@[simp]
theorem written_space : written (space :: rest) = gap * written rest := by
  rw [space, written_brk, Break.texts_plain (by decide)]

@[simp]
theorem written_never : written (never :: rest) = gap * written rest := by
  rw [never, written_brk]
  simp [Break.texts, Break.shown, Break.mayStay, Break.mayEnd, Break.inLine]

/-- Where a line always ends. -/
@[simp]
theorem written_hard : written (hard :: rest) = line * written rest := by
  rw [hard, written_brk, Break.texts_endless, if_neg Bool.false_ne_true, add_zero]

@[simp]
theorem written_hardBack : written (hardBack :: rest) = line * written rest := by
  rw [hardBack, written_brk, Break.texts_endless, if_neg Bool.false_ne_true, add_zero]

@[simp]
theorem written_hardIfNonempty :
    written (hardIfNonempty :: rest) = (line + 1) * written rest := by
  rw [hardIfNonempty, written_brk, Break.texts_endless, if_pos rfl]

/-! Rules that follow a document from its front to what is known of the rest. -/

theorem written_text_le {s : String} (h : written rest ≤ L) :
    written (.text s :: rest) ≤ lit s * L :=
  mul_le_mul_right h _

theorem written_hard_le (h : written rest ≤ L) : written (hard :: rest) ≤ line * L :=
  written_hard.trans_le (mul_le_mul_right h _)

theorem written_hardBack_le (h : written rest ≤ L) : written (hardBack :: rest) ≤ line * L :=
  written_hardBack.trans_le (mul_le_mul_right h _)

theorem written_append_le {a b : List Doc} (ha : written a ≤ L) (hb : written b ≤ M) :
    written (a ++ b) ≤ L * M :=
  (written_append a b).trans_le (mul_le_mul' ha hb)

theorem written_lastComma (offset : Int) :
    written [lastComma offset] = gap + lit "," * line := by
  rw [lastComma, written_brk, Break.texts_mixed (by decide), lit_empty, mul_one, mul_one,
    written_nil, mul_one]

/-- How far a line is moved does not matter. -/
@[simp]
theorem written_closing (parts : List Doc) : written (closing parts) = written parts := by
  unfold closing
  split
  · next b hlast =>
      obtain ⟨front, rfl⟩ := List.getLast?_eq_some_iff.mp hlast
      rw [List.dropLast_concat, written_append, written_append]
      rfl
  · rfl

end Rules

/-! ### Groups -/

section Groups

variable {parts rest : List Doc}

theorem written_group_of_lone {offset : Int} {consistent : Bool}
    (h : isLoneBreak (piecesAll parts) = true → 1 ≤ written parts) :
    written [.group offset consistent parts] ≤ written parts := by
  have hlone : (if isLoneBreak (piecesAll parts) then 1 else 0) ≤ written parts := by
    split
    · next hl => exact h hl
    · exact zero_le
  rw [written, textsAll, textsAll, mul_one, texts]
  exact add_le (add_le (textsAll_le_written _ _) (textsAll_le_written _ _)) hlone

/-- Whether pieces start with something else than a break. -/
def firm : List Piece → Bool
  | [] | .brk _ :: _ => false
  | _ => true

theorem firm_append {a b : List Piece} (h : firm a = true) : firm (a ++ b) = true := by
  unfold firm at h
  split at h
  · cases h
  · cases h
  · next hnil hbrk =>
      cases a with
      | nil => exact absurd rfl hnil
      | cons piece a =>
          cases piece with
          | brk b => exact absurd rfl (hbrk b a)
          | _ => rfl

theorem piecesAll_append (a b : List Doc) : piecesAll (a ++ b) = piecesAll a ++ piecesAll b := by
  induction a with
  | nil => rfl
  | cons d rest ih => rw [List.cons_append, piecesAll, piecesAll, ih, List.append_assoc]

/-- A group is written as its parts. -/
theorem written_group {offset : Int} {consistent : Bool} (h : firm (piecesAll parts) = true) :
    written [.group offset consistent parts] ≤ written parts := by
  refine written_group_of_lone fun hlone => ?_
  unfold isLoneBreak at hlone
  split at hlone
  · next b hb =>
      rw [hb] at h
      cases h
  · cases hlone

/-- Behind a break that may be nothing a group may hold nothing else. -/
theorem written_group_brk {offset : Int} {consistent : Bool} {b : Break}
    (h : 1 ≤ b.texts .mixed) :
    written [.group offset consistent (.brk b :: rest)] ≤ written (.brk b :: rest) := by
  refine written_group_of_lone fun hlone => ?_
  have hpieces : piecesAll (.brk b :: rest) = [.brk b] := by
    unfold isLoneBreak at hlone
    split at hlone
    · next b' hb =>
        rw [hb, (List.cons.inj (show Piece.brk b :: piecesAll rest = [.brk b'] from hb)).1]
    · cases hlone
  have hlaid := laid_piecesAll [] (.brk b :: rest) []
  rw [hpieces] at hlaid
  calc 1 ≤ b.texts .mixed * 1 := by rwa [mul_one]
    _ ≤ written (.brk b :: rest) * 1 := hlaid
    _ = written (.brk b :: rest) := mul_one _

/-- In a consistent group all breaks end the line or none does. -/
theorem written_cbox {offset : Int} (h : isLoneBreak (piecesAll parts) = false) :
    written [cbox offset parts] = textsAll .flat parts + textsAll .broken parts := by
  rw [cbox, written, textsAll, textsAll, mul_one, texts, h]
  simp [Mode.unfit]

theorem written_group_zero {offset : Int} {consistent : Bool} :
    written [.group offset consistent (zero :: rest)] ≤ gap * written rest :=
  (written_group_brk (one_le_gap.trans_eq (Break.texts_plain (by decide)).symm)).trans_eq
    written_zero

theorem closing_cons {d e : Doc} : closing (d :: e :: rest) = d :: closing (e :: rest) := by
  unfold closing
  rw [List.getLast?_cons_cons]
  split <;> rfl

/-- Lines in a group of their own. -/
theorem written_lines (offset : Int) :
    written [cbox offset (closing (hardIfNonempty :: rest))] ≤ gap * written rest := by
  have hone : ∀ offset, 1 ≤ Break.texts { blank := endless, ifNonempty := true, offset } .mixed :=
    fun _ => le_add_self
  have hwritten : written (closing (hardIfNonempty :: rest)) ≤ gap * written rest := by
    rw [written_closing, written_hardIfNonempty]
    exact mul_le_mul_left (add_le line_le_gap one_le_gap) _
  refine le_trans ?_ hwritten
  cases rest with
  | nil => exact written_group_brk (hone _)
  | cons d rest =>
      rw [closing_cons]
      exact written_group_brk (hone 0)

theorem firm_closing (h : firm (piecesAll parts) = true) :
    firm (piecesAll (closing parts)) = true := by
  unfold closing
  split
  · next b hlast =>
      obtain ⟨front, rfl⟩ := List.getLast?_eq_some_iff.mp hlast
      rw [List.dropLast_concat, piecesAll_append]
      rw [piecesAll_append] at h
      cases hfront : piecesAll front with
      | nil =>
          rw [hfront] at h
          cases h
      | cons piece ps =>
          rw [hfront] at h
          refine firm_append ?_
          cases piece with
          | brk b => cases h
          | _ => rfl
  · exact h

end Groups

/-! ### Lists -/

/-- What elements are written as that stand between commas, one behind the last if it ends
the line. -/
def items : List (Language Char) → Language Char
  | [] => 1
  | [last] => last * (gap + lit "," * line)
  | first :: rest => first * lit "," * gap * items rest

/-- Elements between brackets. -/
def enclosed (opening closing : String) (elements : List (Language Char)) : Language Char :=
  lit opening * gap * items elements * lit closing

section Lists

variable {docs : List (List Doc)} {elements : List (Language Char)}

theorem written_commaList (h : List.Forall₂ (fun d L => written d ≤ L) docs elements) :
    written (commaList docs) ≤ items elements := by
  induction h with
  | nil => exact le_rfl
  | cons hd hrest ih =>
      cases hrest with
      | nil =>
          rw [commaList, written_append, written_lastComma, items]
          exact mul_le_mul_left hd _
      | cons hd' hrest' =>
          rw [commaList, written_append, written_text, written_space, items, mul_assoc, mul_assoc]
          · exact mul_le_mul' hd (mul_le_mul_right (mul_le_mul_right ih _) _)
          · exact nofun
          · exact nofun

theorem le_items (L : Language Char) : L ≤ gap * items [L] := by
  have hend : 1 ≤ gap + lit "," * line := one_le_gap.trans le_self_add
  rw [items]
  exact (le_mul_of_one_le_right' hend).trans (le_mul_of_one_le_left' one_le_gap)

/-- Elements in a group of their own. -/
theorem written_items {offset : Int}
    (h : List.Forall₂ (fun d L => written d ≤ L) docs elements) :
    written [cbox offset (zero :: commaList docs)] ≤ gap * items elements :=
  written_group_zero.trans (mul_le_mul_right (written_commaList h) _)

theorem written_bracketed {opening closing : String}
    (h : List.Forall₂ (fun d L => written d ≤ L) docs elements) :
    written (bracketed opening closing docs) ≤ enclosed opening closing elements := by
  unfold bracketed
  split
  · next hempty =>
      rw [List.isEmpty_iff] at hempty
      subst hempty
      cases h
      rw [written_text, written_nil, mul_one, lit_append, enclosed, items, mul_one]
      exact mul_le_mul_left (le_mul_of_one_le_right' one_le_gap) _
  · rw [written_text, written_cons, written_text, written_nil, mul_one, enclosed, mul_assoc,
      mul_assoc]
    rw [← mul_assoc gap]
    exact mul_le_mul_right (mul_le_mul_left (written_items h) _) _

theorem forall₂_map {α : Type} {f : α → List Doc} {g : α → Language Char}
    (h : ∀ x, written (f x) ≤ g x) (xs : List α) :
    List.Forall₂ (fun d L => written d ≤ L) (xs.map f) (xs.map g) := by
  rw [List.forall₂_map_left_iff, List.forall₂_map_right_iff, List.forall₂_same]
  exact fun x _ => h x

theorem written_flatMap {α : Type} {f : α → List Doc} {g : α → Language Char} (xs : List α)
    (h : ∀ x ∈ xs, written (f x) ≤ g x) : written (xs.flatMap f) ≤ (xs.map g).prod := by
  induction xs with
  | nil => exact le_rfl
  | cons x rest ih =>
      rw [List.flatMap_cons, written_append, List.map_cons, List.prod_cons]
      exact mul_le_mul' (h x List.mem_cons_self) (ih fun y hy => h y (List.mem_cons_of_mem _ hy))

end Lists

end Doc

end TraitRoutes.Layout
