import Mathlib.Data.List.Basic
import TraitRoutes.Grammar.Reading
import TraitRoutes.Proofs.Spans

/-!
# Places in a text

A place is given by a line and a column, and both are counted while a text is read. Here they are
read back: the text is cut into its lines at the line feeds, and what stands at a place is the
line of that number without the characters in front of the column. Where the counting has come to
behind some text is where the rest of its last line begins, so what stands there is what follows
that text, up to the end of the line.

Reading on moves a place on, so places are in the order of what is read there.
-/

namespace TraitRoutes

namespace Position

variable {place : Position} {front cs rest : List Char}

/-- What stands in a text at a place, up to the end of the line. -/
def readIn (place : Position) (cs : List Char) : List Char :=
  ((cs.splitOn '\n').getD (place.line - 1) []).drop (place.column - 1)

/-- A place is further up in the text, or in the same line further to the left. -/
def Before (place other : Position) : Prop :=
  place.line < other.line ∨ place.line = other.line ∧ place.column < other.column

theorem Before.trans {other third : Position} (h : place.Before other) (h' : other.Before third) :
    place.Before third := by
  unfold Before at h h' ⊢
  omega

/-! ## Counting -/

theorem after_append (place : Position) (front rest : List Char) :
    place.after (front ++ rest) = (place.after front).after rest := by
  induction front generalizing place with
  | nil => rfl
  | cons c front ih =>
      rw [List.cons_append, after, after]
      split
      · exact ih _
      · exact ih _

theorem line_after (place : Position) (cs : List Char) :
    (place.after cs).line = place.line + cs.count '\n' := by
  induction cs generalizing place with
  | nil => rfl
  | cons c cs ih =>
      rw [after, List.count_cons]
      split
      · next hc =>
          rw [ih, hc]
          simp only [beq_self_eq_true, if_true]
          omega
      · next hc =>
          rw [ih]
          simp [hc]

theorem after_of_not_mem (place : Position) (h : '\n' ∉ cs) :
    place.after cs = ⟨place.line, place.column + cs.length⟩ := by
  induction cs generalizing place with
  | nil => rfl
  | cons c cs ih =>
      rw [List.mem_cons, not_or] at h
      obtain ⟨hc, hcs⟩ := h
      rw [after, if_neg (Ne.symm hc), ih _ hcs, List.length_cons]
      dsimp only
      congr 1
      omega

theorem before_after (place : Position) (h : cs ≠ []) : place.Before (place.after cs) := by
  by_cases hline : '\n' ∈ cs
  · have hcount : 0 < cs.count '\n' := List.count_pos_iff.mpr hline
    have hafter := line_after place cs
    exact .inl (by omega)
  · have hlength : 0 < cs.length := List.length_pos_iff.mpr h
    rw [after_of_not_mem place hline]
    exact .inr ⟨rfl, by dsimp only; omega⟩

/-! ## Reading -/

/-- The first line of a text goes to its first line feed. -/
theorem head_splitOn (h : '\n' ∉ front) :
    ((front ++ rest).splitOn '\n').getD 0 [] = front ++ rest.takeWhile (· != '\n') := by
  obtain ⟨line, more, rfl, hline, hmore⟩ := exists_span (· != '\n') rest
  have hfirst : ∀ c ∈ front ++ line, (c == '\n') = false := by
    intro c hc
    rcases List.mem_append.mp hc with hc | hc
    · exact beq_eq_false_iff_ne.mpr fun heq => h (heq ▸ hc)
    · exact beq_eq_false_iff_ne.mpr (bne_iff_ne.mp (hline c hc))
  rw [(span_append hline hmore).1, ← List.append_assoc, List.splitOn]
  cases more with
  | nil => rw [List.append_nil, List.splitOnP_eq_singleton hfirst, List.getD_cons_zero]
  | cons c more =>
      have hc : (c == '\n') = true := by simpa using hmore c rfl
      rw [List.splitOnP_append_cons_of_forall_mem hfirst c hc, List.getD_cons_zero]

theorem readIn_after_from (front rest : List Char) (line : Nat) {start : List Char}
    (h : '\n' ∉ start) :
    (((start ++ (front ++ rest)).splitOn '\n').getD (front.count '\n') []).drop
      ((after ⟨line, start.length + 1⟩ front).column - 1) = rest.takeWhile (· != '\n') := by
  induction front generalizing start line with
  | nil =>
      rw [List.count_nil, List.nil_append, head_splitOn h, after, Nat.add_sub_cancel,
        List.drop_left]
  | cons c front ih =>
      rw [after]
      split
      · next hc =>
          have hfirst : ∀ d ∈ start, (d == '\n') = false := fun d hd =>
            beq_eq_false_iff_ne.mpr fun heq => h (heq ▸ hd)
          rw [hc, List.count_cons_self, List.cons_append, List.splitOn,
            List.splitOnP_append_cons_of_forall_mem hfirst _ (beq_self_eq_true _),
            List.getD_cons_succ]
          exact ih (line + 1) (List.not_mem_nil (a := '\n'))
      · next hc =>
          have hstart : '\n' ∉ start ++ [c] := by
            simpa [h] using Ne.symm hc
          have hread := ih line hstart
          rw [List.append_assoc, List.singleton_append, List.length_append,
            List.length_singleton] at hread
          rw [List.count_cons_of_ne hc, List.cons_append]
          exact hread

/-- At the place behind some text stands what follows it. -/
theorem readIn_after (front rest : List Char) :
    (start.after front).readIn (front ++ rest) = rest.takeWhile (· != '\n') := by
  have hread := readIn_after_from front rest 1 (List.not_mem_nil (a := '\n'))
  rw [readIn, line_after, start, Nat.add_sub_cancel_left]
  exact hread

end Position

end TraitRoutes
