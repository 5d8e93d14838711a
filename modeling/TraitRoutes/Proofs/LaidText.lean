import Mathlib.Computability.Language
import Mathlib.Order.CompletePartialOrder
import TraitRoutes.Layout.Doc

/-!
# What a document is written as

Layout chooses where lines end and changes nothing else. So a document stands for a language:
its texts in their order, and between them for every break either blanks or the end of a line,
with what the break puts there. In a group that is laid out flat no break ends the line, and in
a consistent one that is not, every break does. A break that no line is wide enough for always
ends the line. How wide anything else is has no part in this.

Pieces are in line, so which group a break belongs to is known from what was opened before it.
A step of the printer is a case of its own, and a run multiplies the languages of its steps. The
blanks that are still due are what a state may or may not have written. Two facts carry the run:
there is never more room than on an empty line, and a group that is being laid out flat has no
break in front of its end that needs more.
-/

namespace TraitRoutes.Layout

/-! ## Texts -/

/-- The text itself. -/
def lit (s : String) : Language Char := {s.toList}

/-- Blanks and ends of lines. -/
def gap : Language Char := {cs | ∀ c ∈ cs, c = ' ' ∨ c = '\n'}

/-- The end of a line, and blanks behind it. -/
def line : Language Char := lit "\n" * gap

theorem mem_lit {s : String} {cs : List Char} : cs ∈ lit s ↔ cs = s.toList := Set.mem_singleton_iff

@[simp]
theorem lit_empty : lit "" = 1 := rfl

theorem lit_append (s t : String) : lit (s ++ t) = lit s * lit t := by
  ext cs
  rw [mem_lit, String.toList_append, Language.mem_mul]
  constructor
  · rintro rfl
    exact ⟨_, rfl, _, rfl, rfl⟩
  · rintro ⟨a, rfl, b, rfl, rfl⟩
    rfl

theorem lit_le {s : String} {L : Language Char} : lit s ≤ L ↔ s.toList ∈ L :=
  Set.singleton_subset_iff

theorem one_le_gap : 1 ≤ gap := by
  rw [← lit_empty, lit_le]
  exact nofun

theorem gap_mul_gap : gap * gap = gap := by
  refine le_antisymm ?_ (le_mul_of_one_le_left' one_le_gap)
  rintro cs ⟨a, ha, b, hb, rfl⟩ c hc
  exact (List.mem_append.mp hc).elim (ha c) (hb c)

theorem gap_mul_gap_mul (L : Language Char) : gap * (gap * L) = gap * L := by
  rw [← mul_assoc, gap_mul_gap]

theorem blanks_le_gap (n : Nat) : lit (Printed.blanks n) ≤ gap := by
  rw [lit_le, Printed.blanks, String.toList_ofList]
  exact fun c hc => .inl (List.eq_of_mem_replicate hc)

theorem line_le_gap : line ≤ gap := by
  have hnewline : lit "\n" ≤ gap := lit_le.mpr fun c hc => .inr (List.mem_singleton.mp hc)
  exact (mul_le_mul_left hnewline _).trans_eq gap_mul_gap

/-! ## Languages of pieces -/

/-- Which breaks of a group end the line: none, all, or some. -/
inductive Mode where
  | flat | broken | mixed
deriving DecidableEq

/-- A group that does not fit. -/
def Mode.unfit (consistent : Bool) : Mode := if consistent then broken else mixed

/-- How a break is written where it stands: not at the top of any group, some end the line. -/
def Mode.top (st : List Mode) : Mode := st.head?.getD mixed

namespace Break

/-- Whether a break may be left in the line. -/
def mayStay (b : Break) (m : Mode) : Bool := b.never || m != .broken && b.blank < endless

/-- Whether a break may end the line. -/
def mayEnd (b : Break) (m : Mode) : Bool := !b.never && m != .flat

/-- A break that does not end the line. -/
def inLine (b : Break) : Language Char := gap * lit b.unbroken + if b.apart then gap else 0

/-- A break that ends the line. -/
def ended (b : Break) : Language Char := lit b.before * line * lit b.after

/-- What a break is written as, unless it is left out. -/
def shown (b : Break) (m : Mode) : Language Char :=
  (if b.mayStay m then b.inLine else 0) + if b.mayEnd m then b.ended else 0

/-- What a break is written as. -/
def texts (b : Break) (m : Mode) : Language Char := b.shown m + if b.ifNonempty then 1 else 0

theorem inLine_le_shown {b : Break} {m : Mode} (h : b.mayStay m = true) :
    b.inLine ≤ b.shown m := by
  rw [shown, if_pos h]
  exact le_self_add

theorem ended_le_shown {b : Break} {m : Mode} (h : b.mayEnd m = true) : b.ended ≤ b.shown m := by
  rw [shown, if_pos h]
  exact le_add_self

theorem shown_le_texts (b : Break) (m : Mode) : b.shown m ≤ b.texts m := le_self_add

/-- A break that stands apart may leave a blank. -/
theorem texts_apart {b : Break} (h : b.apart = true) (m : Mode) :
    { b with unbroken := " " }.texts m ≤ b.texts m := by
  have hblank : lit " " ≤ gap := blanks_le_gap 1
  have hline : { b with unbroken := " " }.inLine ≤ b.inLine := by
    rw [inLine, inLine, if_pos h]
    dsimp only
    refine (add_le ?_ le_rfl).trans le_add_self
    exact (mul_le_mul_right hblank _).trans_eq gap_mul_gap
  refine add_le_add_left (add_le_add_left ?_ _) _
  change (if b.mayStay m then _ else _) ≤ _
  split
  · exact hline
  · exact le_rfl

end Break

/-- What pieces are written as, in the groups that were opened before them. -/
def laid : List Mode → List Piece → Language Char
  | _, [] => 1
  | st, .text s :: rest => lit s * laid st rest
  | st, .brk b :: rest => b.texts (.top st) * laid st rest
  | st, .forced :: rest => laid st rest
  | st, .unknown :: rest => laid st rest
  | st, .apart :: rest => (1 + lit " ") * laid st rest
  | st, .opening _ consistent :: rest =>
    laid (.flat :: st) rest + laid (.unfit consistent :: st) rest
  | st, .closing :: rest => laid st.tail rest

/-! ## Widths -/

/-- No break that is endless stands in front of the place where `n` groups are closed. -/
def isShort : Nat → List Piece → Bool
  | 0, _ => true
  | _ + 1, [] => true
  | n + 1, .closing :: rest => isShort n rest
  | n + 1, .opening .. :: rest => isShort (n + 2) rest
  | n + 1, .brk b :: rest => b.blank < endless && isShort (n + 1) rest
  | n + 1, .text _ :: rest | n + 1, .forced :: rest | n + 1, .apart :: rest
  | n + 1, .unknown :: rest => isShort (n + 1) rest

theorem widthAhead_nonneg (ps : List Piece) :
    ∀ limit depth, 0 ≤ widthAhead limit depth ps := by
  induction ps with
  | nil => exact fun _ _ => le_rfl
  | cons piece rest ih =>
      intro limit depth
      rw [widthAhead.eq_def]
      dsimp only
      split
      · exact le_rfl
      · cases piece with
        | text s => exact Int.add_nonneg (Int.natCast_nonneg _) (ih _ _)
        | brk b =>
            dsimp only
            split
            · exact le_rfl
            · exact Int.add_nonneg (Int.natCast_nonneg _) (ih _ _)
        | forced => exact Int.natCast_nonneg _
        | apart => exact ih _ _
        | unknown => exact ih _ _
        | opening offset consistent => exact ih _ _
        | closing => exact ih _ _

/-- What is not wider than a line has no endless break. -/
theorem isShort_of_widthAhead {ps : List Piece} : ∀ {limit : Int} {n : Nat}, limit ≤ endless →
    widthAhead limit n ps < limit → isShort n ps = true := by
  induction ps with
  | nil =>
      intro limit n _ _
      cases n <;> rfl
  | cons piece rest ih =>
      intro limit n hlimit h
      cases n with
      | zero => rfl
      | succ n =>
          rw [widthAhead.eq_def] at h
          dsimp only at h
          split at h
          · omega
          · cases piece with
            | text s => exact @ih (limit - s.utf8ByteSize) _ (by omega) (by dsimp only at h; omega)
            | brk b =>
                dsimp only at h
                rw [if_neg (Nat.succ_ne_zero n)] at h
                have hahead := widthAhead_nonneg rest (limit - b.blank) (n + 1)
                have hblank : b.blank < endless := by omega
                rw [isShort, decide_eq_true hblank, Bool.true_and]
                exact @ih (limit - b.blank) _ (by omega) (by omega)
            | forced => dsimp only at h; omega
            | apart => exact ih hlimit h
            | unknown => exact ih hlimit h
            | opening offset consistent => exact ih hlimit h
            | closing => exact ih hlimit h

/-! ## Printing -/

/-- How the breaks of a group that is being printed are written. -/
def Frame.mode : Frame → Mode
  | .fits => .flat
  | .broken _ consistent => .unfit consistent

namespace Printed

variable (p : Printed)

/-- What has been written, with the blanks that are due or without them. -/
def texts : Language Char := lit p.text * (1 + lit (blanks p.pending))

theorem text_le_texts : lit p.text ≤ p.texts := le_mul_of_one_le_right' le_self_add

theorem lit_text_out (out : List String) (s : String) :
    lit (String.join (s :: out).reverse) = lit (String.join out.reverse) * lit s := by
  rw [← lit_append, List.reverse_cons]
  congr 1
  refine String.toList_inj.mp ?_
  simp [String.toList_join]

theorem texts_put (s : String) : (p.put s).texts ≤ p.texts * lit s := by
  unfold put
  split
  · next hempty =>
      rw [String.isEmpty_iff.mp hempty, lit_empty, mul_one]
  · dsimp only
    have hblanks : blanks 0 = "" := rfl
    rw [texts, text, hblanks, lit_empty, add_idem, mul_one, lit_text_out]
    refine mul_le_mul_left ?_ _
    split
    · exact p.text_le_texts
    · rw [lit_text_out]
      exact mul_le_mul_right le_add_self _

theorem texts_write (s : String) : (p.write s).texts ≤ p.texts * lit s := p.texts_put s

theorem texts_newline (b : Break) : (p.newline b).texts ≤ p.texts * b.ended := by
  let indent := ((p.put b.before).indent + b.offset).toNat
  let next : Printed := { p.put b.before with
    out := "\n" :: (p.put b.before).out, pending := indent
    space := max (margin - indent) minSpace }
  have hnext : next.texts ≤ p.texts * (lit b.before * line) := by
    have htext : lit next.text = lit (p.put b.before).text * lit "\n" := lit_text_out _ _
    have hline : lit "\n" * (1 + lit (blanks next.pending)) ≤ line :=
      mul_le_mul_right (add_le one_le_gap (blanks_le_gap _)) _
    rw [texts, htext, mul_assoc, ← mul_assoc p.texts]
    exact mul_le_mul' ((text_le_texts _).trans (p.texts_put _)) hline
  calc (p.newline b).texts ≤ next.texts * lit b.after := texts_write _ b.after
    _ ≤ p.texts * (lit b.before * line) * lit b.after := mul_le_mul_left hnext _
    _ = p.texts * b.ended := by rw [Break.ended, mul_assoc]

/-- The blanks of a break come to those that are due. -/
theorem texts_inLine (b : Break) :
    ({ p with pending := p.pending + b.blank, space := p.space - b.blank }.write b.unbroken).texts
      ≤ p.texts * b.inLine := by
  refine (texts_write _ _).trans ?_
  have hblanks : lit (blanks (p.pending + b.blank))
      = lit (blanks p.pending) * lit (blanks b.blank) := by
    rw [← lit_append]
    congr 1
    refine String.toList_inj.mp ?_
    simp [blanks, List.replicate_append_replicate]
  have hdue : 1 + lit (blanks (p.pending + b.blank)) ≤ (1 + lit (blanks p.pending)) * gap := by
    rw [hblanks]
    refine add_le ?_ ?_
    · exact one_le_mul le_self_add one_le_gap
    · exact mul_le_mul' le_add_self (blanks_le_gap _)
  calc lit p.text * (1 + lit (blanks (p.pending + b.blank))) * lit b.unbroken
      ≤ lit p.text * ((1 + lit (blanks p.pending)) * gap) * lit b.unbroken :=
        mul_le_mul_left (mul_le_mul_right hdue _) _
    _ = p.texts * (gap * lit b.unbroken) := by rw [texts]; simp only [mul_assoc]
    _ ≤ p.texts * b.inLine := mul_le_mul_right le_self_add _

theorem stack_put (s : String) : (p.put s).stack = p.stack := by
  unfold put
  split <;> rfl

theorem stack_newline (b : Break) : (p.newline b).stack = p.stack := by
  rw [newline, write]
  exact (stack_put _ _).trans (p.stack_put _)

/-- How the breaks of the groups that are being printed are written. -/
def modes : List Mode := p.stack.map Frame.mode

/-- What is printed next fits where it has to. -/
structure Sound (ps : List Piece) : Prop where
  space : p.space ≤ margin
  flat : ∀ k, p.stack[k]? = some .fits → isShort (k + 1) ps = true

variable {p}

/-- A break ends the line only if it may where it stands, and if it must it does. -/
theorem breaks_shown {b : Break} {rest : List Piece} (sound : p.Sound (.brk b :: rest)) :
    (if p.breaks b (b.blank + widthAhead (p.space + 1) 0 rest) then b.ended else b.inLine)
      ≤ b.shown (.top p.modes) := by
  have hahead := widthAhead_nonneg rest (p.space + 1) 0
  have hmargin : (margin : Int) < endless := by decide
  have hspace := sound.space
  cases hnever : b.never with
  | true =>
      rw [breaks, hnever]
      exact Break.inLine_le_shown (by rw [Break.mayStay, hnever]; rfl)
  | false =>
      have hmixed : (if (decide (p.space < b.blank + widthAhead (p.space + 1) 0 rest)) = true
          then b.ended else b.inLine) ≤ b.shown .mixed := by
        split
        · exact Break.ended_le_shown (by rw [Break.mayEnd, hnever]; rfl)
        · next hfits =>
            refine Break.inLine_le_shown ?_
            rw [decide_eq_true_eq] at hfits
            have hblank : b.blank < endless := by omega
            rw [Break.mayStay, decide_eq_true hblank]
            simp
      rw [breaks, modes, hnever]
      rcases hst : p.stack with _ | ⟨_ | ⟨outer, _ | _⟩, st⟩
      · exact hmixed
      · have hshort := sound.flat 0 (by rw [hst]; rfl)
        rw [isShort, Bool.and_eq_true] at hshort
        refine Break.inLine_le_shown ?_
        rw [Break.mayStay, hshort.1]
        simp [Mode.top, Frame.mode]
      · exact hmixed
      · exact Break.ended_le_shown (by rw [Break.mayEnd, hnever]; rfl)

/-- A step writes a piece, and leaves the rest to be written. -/
theorem laid_step {piece : Piece} {rest : List Piece} (sound : p.Sound (piece :: rest))
    (more : List Piece) :
    (p.step piece rest).texts * laid (p.step piece rest).modes more
      ≤ p.texts * laid p.modes (piece :: more) := by
  cases piece with
  | text s =>
      rw [step, laid, ← mul_assoc, modes, write, p.stack_put]
      exact mul_le_mul_left (p.texts_put s) _
  | forced => exact le_rfl
  | unknown => exact le_rfl
  | apart =>
      rw [step, laid, add_mul, one_mul]
      exact mul_le_mul_right le_self_add _
  | brk b =>
      have htexts := (breaks_shown sound).trans (b.shown_le_texts _)
      rw [step, laid, ← mul_assoc]
      split at htexts
      · next hbreaks =>
          rw [if_pos hbreaks, modes, p.stack_newline]
          exact mul_le_mul_left ((p.texts_newline b).trans (mul_le_mul_right htexts _)) _
      · next hbreaks =>
          rw [if_neg hbreaks, modes, write, stack_put]
          exact mul_le_mul_left ((p.texts_inLine b).trans (mul_le_mul_right htexts _)) _
  | opening offset consistent =>
      rw [step, laid]
      split
      · exact mul_le_mul_right le_add_self _
      · exact mul_le_mul_right le_self_add _
  | closing =>
      rw [step, laid, modes, modes]
      split <;> next hst => rw [hst]; exact le_rfl

theorem space_write_le (p : Printed) (s : String) : (p.write s).space ≤ p.space := by
  rw [write]
  dsimp only
  omega

theorem space_newline_le (p : Printed) (b : Break) : (p.newline b).space ≤ margin := by
  refine (space_write_le _ _).trans ?_
  dsimp only [minSpace, margin]
  omega

/-- A step that leaves the groups as they are keeps what fits. -/
theorem Sound.next {p p' : Printed} {piece : Piece} {rest : List Piece}
    (sound : p.Sound (piece :: rest)) (space : p'.space ≤ margin) (stack : p'.stack = p.stack)
    (short : ∀ n, isShort (n + 1) (piece :: rest) = true → isShort (n + 1) rest = true) :
    p'.Sound rest :=
  ⟨space, fun k hk => short k (sound.flat k (stack ▸ hk))⟩

theorem Sound.step {piece : Piece} {rest : List Piece} (sound : p.Sound (piece :: rest)) :
    (p.step piece rest).Sound rest := by
  cases piece with
  | text s =>
      exact sound.next ((space_write_le _ _).trans sound.space) (p.stack_put s) fun _ h => h
  | forced => exact sound.next sound.space rfl fun _ h => h
  | unknown => exact sound.next sound.space rfl fun _ h => h
  | apart => exact sound.next sound.space rfl fun _ h => h
  | brk b =>
      have hshort : ∀ n, isShort (n + 1) (.brk b :: rest) = true → isShort (n + 1) rest = true :=
        fun _ h => (Bool.and_eq_true_iff.mp h).2
      rw [Printed.step]
      split
      · exact sound.next (space_newline_le _ _) (p.stack_newline b) hshort
      · refine sound.next ((space_write_le _ _).trans ?_) (stack_put _ _) hshort
        have hspace := sound.space
        dsimp only
        omega
  | opening offset consistent =>
      have houter : ∀ k, p.stack[k]? = some .fits → isShort (k + 2) rest = true := sound.flat
      rw [Printed.step]
      split
      · refine ⟨sound.space, fun k hk => ?_⟩
        cases k with
        | zero => cases hk
        | succ k => exact houter k hk
      · next hfits =>
          refine ⟨sound.space, fun k hk => ?_⟩
          cases k with
          | zero =>
              have hmargin : (margin : Int) < endless := by decide
              have hspace := sound.space
              exact isShort_of_widthAhead (by omega) (Int.lt_add_one_iff.mpr (not_lt.mp hfits))
          | succ k => exact houter k hk
  | closing =>
      have houter : ∀ f st, p.stack = f :: st → ∀ k, st[k]? = some .fits →
          isShort (k + 1) rest = true := by
        intro f st hst k hk
        exact sound.flat (k + 1) (by rw [hst]; exact hk)
      rw [Printed.step]
      split
      · next hst => exact ⟨sound.space, houter _ _ hst⟩
      · next hst => exact ⟨sound.space, houter _ _ hst⟩
      · next hst => exact ⟨sound.space, by rw [hst]; exact nofun⟩

/-- A run writes the pieces. -/
theorem texts_run {ps : List Piece} (sound : p.Sound ps) :
    (p.run ps).texts ≤ p.texts * laid p.modes ps := by
  induction ps generalizing p with
  | nil => rw [run, laid, mul_one]
  | cons piece rest ih =>
      rw [run]
      exact (ih sound.step).trans (laid_step sound rest)

end Printed

/-- What is settled is among what pieces may be written as. -/
theorem laid_settle (point : Bool) (ps : List Piece) :
    ∀ st, laid st (settle point ps) ≤ laid st ps := by
  fun_induction settle point ps with
  | case1 => exact fun st => le_rfl
  | case2 point s rest ih => exact fun st => mul_le_mul_right (ih st) _
  | case3 rest ih =>
      intro st
      rw [laid, laid]
      exact mul_le_mul' le_add_self (ih st)
  | case4 point rest hpoint ih =>
      intro st
      rw [laid]
      exact (ih st).trans (le_mul_of_one_le_left' le_self_add)
  | case5 point b rest ih =>
      intro st
      rw [laid, laid]
      refine mul_le_mul' ?_ (ih st)
      split
      · next hapart => exact b.texts_apart (Bool.and_eq_true_iff.mp hapart).1 _
      · exact le_rfl
  | case6 point piece rest htext hapart hbrk ih =>
      intro st
      cases piece with
      | text s => exact absurd rfl (htext s)
      | apart => exact absurd rfl hapart
      | brk b => exact absurd rfl (hbrk b)
      | forced => exact ih st
      | unknown => exact ih st
      | opening offset consistent => exact add_le_add (ih _) (ih _)
      | closing => exact ih st.tail

end TraitRoutes.Layout
