import Mathlib.Data.List.Nodup
import TraitRoutes.Proofs.Spans
import TraitRoutes.Token.Lexer

/-!
# Quoted literals

A quoted literal ends with a mark of its own, so its scanner reads the same in front of anything.
What it opens with tells its form, since no form opens with the mark of another. Hence the text of
a quoted literal, suffix included, is that literal again.
-/

namespace TraitRoutes.Scan

open Unicode (isIdentStart isIdentContinue)

/-! ## Scanners that end with a mark -/

/-- The scanner reads the same in front of anything. -/
def Closed (scan : List Char → Option Split) : Prop :=
  ∀ {cs read rest : List Char}, scan cs = some (read, rest) →
    cs = read ++ rest ∧ ∀ other, scan (read ++ other) = some (read, other)

theorem map_cons_eq_some {c : Char} {found : Option Split} {read rest : List Char}
    (h : found.map (·.cons c) = some (read, rest)) :
    ∃ more, found = some (more, rest) ∧ read = c :: more := by
  obtain ⟨⟨more, rest'⟩, hfound, hsplit⟩ := Option.map_eq_some_iff.mp h
  obtain ⟨rfl, rfl⟩ := Prod.mk.inj hsplit
  exact ⟨more, hfound, rfl⟩

theorem map_append_eq_some {front : List Char} {found : Option Split} {read rest : List Char}
    (h : found.map (·.append front) = some (read, rest)) :
    ∃ more, found = some (more, rest) ∧ read = front ++ more := by
  obtain ⟨⟨more, rest'⟩, hfound, hsplit⟩ := Option.map_eq_some_iff.mp h
  obtain ⟨rfl, rfl⟩ := Prod.mk.inj hsplit
  exact ⟨more, hfound, rfl⟩

theorem quoted_closed (quote : Quote) (state : Cooked) : Closed (quoted quote state) := by
  intro cs
  induction cs generalizing state with
  | nil => intro read rest h; cases h
  | cons c cs ih =>
      intro read rest h
      rw [quoted] at h
      split at h
      · next hend =>
          obtain ⟨rfl, rfl⟩ := Prod.mk.inj (Option.some.inj h)
          exact ⟨rfl, fun other => by rw [List.singleton_append, quoted, if_pos hend]⟩
      · next hend =>
          obtain ⟨next, hstep, h⟩ := Option.bind_eq_some_iff.mp h
          obtain ⟨more, hmore, rfl⟩ := map_cons_eq_some h
          obtain ⟨rfl, hclosed⟩ := ih next hmore
          refine ⟨rfl, fun other => ?_⟩
          rw [List.cons_append, quoted, if_neg hend, hstep, Option.bind_some, hclosed]
          rfl

theorem escape_closed (quote : Quote) (state : Cooked) : Closed (escape quote state) := by
  intro cs
  induction cs generalizing state with
  | nil => intro read rest h; cases h
  | cons c cs ih =>
      intro read rest h
      rw [escape] at h
      split at h
      · cases h
      · cases h
      · cases h
      · next hstep =>
          obtain ⟨rfl, rfl⟩ := Prod.mk.inj (Option.some.inj h)
          exact ⟨rfl, fun other => by rw [List.singleton_append, escape, hstep]⟩
      · next next hskip hcarriage hplain hstep =>
          obtain ⟨more, hmore, rfl⟩ := map_cons_eq_some h
          obtain ⟨rfl, hclosed⟩ := ih next hmore
          refine ⟨rfl, fun other => ?_⟩
          rw [List.cons_append, escape, hstep]
          split
          · next h => cases h
          · next h => exact absurd (Option.some.inj h) hskip
          · next h => exact absurd (Option.some.inj h) hcarriage
          · next h => exact absurd (Option.some.inj h) hplain
          · next h => rw [← Option.some.inj h, hclosed]; rfl

theorem single_closed (quote : Quote) : Closed (single quote) := by
  have close : ∀ {found : Split} {read rest : List Char},
      single.close found = some (read, rest) →
        ∃ more, found = (more, '\'' :: rest) ∧ read = more ++ ['\''] := by
    intro found read rest h
    unfold single.close at h
    split at h
    · obtain ⟨rfl, rfl⟩ := Prod.mk.inj (Option.some.inj h)
      exact ⟨_, rfl, rfl⟩
    · cases h
  intro cs read rest h
  unfold single at h
  split at h
  · obtain ⟨found, hfound, hclose⟩ := Option.bind_eq_some_iff.mp h
    obtain ⟨more, rfl, rfl⟩ := close hclose
    obtain ⟨body, hbody, rfl⟩ := map_cons_eq_some hfound
    obtain ⟨rfl, hclosed⟩ := escape_closed quote .escape hbody
    refine ⟨by simp, fun other => ?_⟩
    rw [List.append_assoc, List.cons_append, single, hclosed]
    rfl
  · next c cs hc =>
      split at h
      · next hholds =>
          obtain ⟨more, hmore, rfl⟩ := close h
          obtain ⟨rfl, rfl⟩ := Prod.mk.inj hmore
          refine ⟨rfl, fun other => ?_⟩
          rw [List.append_assoc, List.singleton_append, single, if_pos hholds]
          · rfl
          · exact hc
      · cases h
  · cases h

theorem rawText_cons (quote : Quote) (hashes : Nat) {c : Char} (hc : c ≠ '\r') (cs : List Char) :
    rawText quote hashes (c :: cs)
      = if c == '"' && cs.take hashes == List.replicate hashes '#' then
          some (c :: cs.take hashes, cs.drop hashes)
        else if quote.holds c then (rawText quote hashes cs).map (·.cons c)
        else none := by
  rw [rawText]
  · rw [if_neg (by simpa using hc)]
  · exact fun _ h => absurd h hc

/-- The closing mark is part of what was read. -/
theorem lt_length_of_rawText {quote : Quote} {hashes : Nat} {cs : List Char} :
    ∀ {read rest : List Char}, rawText quote hashes cs = some (read, rest) →
      hashes < read.length := by
  fun_induction rawText quote hashes cs with
  | case1 => intro read rest h; cases h
  | case2 cs ih =>
      intro read rest h
      obtain ⟨more, hmore, rfl⟩ := map_append_eq_some h
      rw [List.length_append]
      exact Nat.lt_add_left _ (ih hmore)
  | case3 => intro read rest h; cases h
  | case4 c cs _ _ hend =>
      intro read rest h
      obtain ⟨rfl, rfl⟩ := Prod.mk.inj (Option.some.inj h)
      rw [Bool.and_eq_true, beq_iff_eq, beq_iff_eq] at hend
      rw [hend.2, List.length_cons, List.length_replicate]
      exact Nat.lt_succ_self hashes
  | case5 c cs _ _ _ _ ih =>
      intro read rest h
      obtain ⟨more, hmore, rfl⟩ := map_cons_eq_some h
      exact Nat.lt_succ_of_lt (ih hmore)
  | case6 => intro read rest h; cases h

theorem rawText_closed (quote : Quote) (hashes : Nat) : Closed (rawText quote hashes) := by
  intro cs
  fun_induction rawText quote hashes cs with
  | case1 => intro read rest h; cases h
  | case2 cs ih =>
      intro read rest h
      obtain ⟨more, hmore, rfl⟩ := map_append_eq_some h
      obtain ⟨rfl, hclosed⟩ := ih hmore
      refine ⟨rfl, fun other => ?_⟩
      change rawText quote hashes ('\r' :: '\n' :: (more ++ other)) = _
      rw [rawText, hclosed]
      rfl
  | case3 => intro read rest h; cases h
  | case4 c cs _ hreturn hend =>
      intro read rest h
      obtain ⟨rfl, rfl⟩ := Prod.mk.inj (Option.some.inj h)
      have hmark := hend
      rw [Bool.and_eq_true, beq_iff_eq, beq_iff_eq] at hmark
      have hlength : (List.take hashes cs).length = hashes := by
        rw [hmark.2, List.length_replicate]
      refine ⟨by rw [List.cons_append, List.take_append_drop], fun other => ?_⟩
      rw [List.cons_append, rawText_cons quote hashes (by simpa using hreturn),
        List.take_left' hlength, List.drop_left' hlength, if_pos hend]
  | case5 c cs _ hreturn hend hholds ih =>
      intro read rest h
      obtain ⟨more, hmore, rfl⟩ := map_cons_eq_some h
      have hlength := Nat.le_of_lt (lt_length_of_rawText hmore)
      obtain ⟨rfl, hclosed⟩ := ih hmore
      refine ⟨rfl, fun other => ?_⟩
      rw [List.take_append_of_le_length hlength] at hend
      rw [List.cons_append, rawText_cons quote hashes (by simpa using hreturn),
        List.take_append_of_le_length hlength, if_neg hend, if_pos hholds, hclosed]
      rfl
  | case6 => intro read rest h; cases h

theorem rawQuoted_hashes (quote : Quote) {hashes : List Char}
    (hhashes : ∀ c ∈ hashes, (c == '#') = true) (body : List Char) :
    rawQuoted quote (hashes ++ '"' :: body) =
      if hashes.length ≤ 255 then
        (rawText quote hashes.length body).map (·.append (hashes ++ ['"']))
      else none := by
  have hquote : ∀ c ∈ ('"' :: body).head?, (c == '#') = false := by
    intro c hc
    rw [← Option.some.inj hc]
    rfl
  obtain ⟨htake, hdrop⟩ := span_append hhashes hquote
  rw [rawQuoted, htake, hdrop]
  rfl

theorem rawQuoted_closed (quote : Quote) : Closed (rawQuoted quote) := by
  intro cs read rest h
  obtain ⟨hashes, behind, rfl, hhashes, hbehind⟩ := exists_span (· == '#') cs
  have hopens : ∃ body, behind = '"' :: body := by
    rw [rawQuoted, (span_append hhashes hbehind).2] at h
    split at h
    · exact ⟨_, rfl⟩
    · cases h
  obtain ⟨body, rfl⟩ := hopens
  rw [rawQuoted_hashes quote hhashes] at h
  split at h
  · next hfew =>
      obtain ⟨more, hmore, rfl⟩ := map_append_eq_some h
      obtain ⟨rfl, hclosed⟩ := rawText_closed quote hashes.length hmore
      refine ⟨by simp, fun other => ?_⟩
      have hbody : hashes ++ ['"'] ++ more ++ other = hashes ++ '"' :: (more ++ other) := by simp
      rw [hbody, rawQuoted_hashes quote hhashes, if_pos hfew, hclosed]
      rfl
  · cases h

/-! ## Suffixes -/

/-- A suffix is one word, so behind it nothing of its text is left. -/
theorem suffix_suffix (cs : List Char) : suffix (suffix cs).1 = ((suffix cs).1, []) := by
  cases cs with
  | nil => rfl
  | cons c rest =>
      by_cases hstart : isIdentStart c = true
      · have hsuffix : ∀ more : List Char, suffix (c :: more)
            = (c :: more.takeWhile isIdentContinue, more.dropWhile isIdentContinue) := by
          intro more
          rw [suffix, identText, if_pos hstart, Option.getD_some]
        have hall := List.all_eq_true.mp (List.all_takeWhile (p := isIdentContinue) (l := rest))
        rw [hsuffix, hsuffix, List.takeWhile_eq_self_iff.mpr hall,
          List.dropWhile_eq_nil_iff.mpr hall]
      · have hsuffix : suffix (c :: rest) = ([], c :: rest) := by
          rw [suffix, identText, if_neg hstart, Option.getD_none]
        rw [hsuffix]
        rfl

/-! ## Forms -/

/-- A sort of quoted literals: what it opens with, and how it goes on. -/
structure QuotedForm where
  mark : String
  kind : LiteralKind
  scan : List Char → Option Split

/-- Reads a literal of the form with its suffix. -/
def QuotedForm.read (f : QuotedForm) (cs : List Char) : Option Split :=
  if startsWith cs f.mark then
    ((f.scan (cs.drop f.mark.length)).map (·.append f.mark.toList)).map withSuffix
  else none

/-- The quoted literals. No mark begins with another. -/
def quotedForms : List QuotedForm :=
  [⟨"\"", .string, quoted .text .plain⟩, ⟨"r", .string, rawQuoted .text⟩,
   ⟨"b\"", .byteString, quoted .bytes .plain⟩, ⟨"br", .byteString, rawQuoted .bytes⟩,
   ⟨"c\"", .cString, quoted .cText .plain⟩, ⟨"cr", .cString, rawQuoted .cText⟩,
   ⟨"b'", .byte, single .bytes⟩, ⟨"'", .char, single .text⟩]

/-- Reads a quoted literal. -/
def quotedLiteral (cs : List Char) : Option (LiteralKind × Split) :=
  quotedForms.findSome? fun f => (f.read cs).map (f.kind, ·)

theorem startsWith_iff {cs : List Char} {mark : String} :
    startsWith cs mark = true ↔ mark.toList <+: cs := List.isPrefixOf_iff_prefix

theorem drop_mark (mark : String) (more : List Char) :
    (mark.toList ++ more).drop mark.length = more := by
  rw [← String.length_toList, List.drop_left]

theorem QuotedForm.read_cut {f : QuotedForm} (hf : Closed f.scan) {cs text rest : List Char}
    (h : f.read cs = some (text, rest)) : f.read text = some (text, []) := by
  unfold QuotedForm.read at h
  split at h
  · next hmark =>
      obtain ⟨behind, rfl⟩ := startsWith_iff.mp hmark
      rw [drop_mark] at h
      obtain ⟨⟨body, left⟩, hbody, htext⟩ := Option.map_eq_some_iff.mp h
      obtain ⟨scanned, hscan, rfl⟩ := map_append_eq_some hbody
      obtain ⟨-, hclosed⟩ := hf hscan
      obtain ⟨rfl, rfl⟩ := Prod.mk.inj htext
      change f.read (f.mark.toList ++ scanned ++ (suffix left).1) = _
      rw [List.append_assoc, QuotedForm.read, if_pos (startsWith_iff.mpr (List.prefix_append ..)),
        drop_mark, hclosed, Option.map_some, Option.map_some, withSuffix]
      dsimp only [Split.append]
      rw [suffix_suffix, List.append_assoc]
  · cases h

theorem quotedForms_closed : ∀ f ∈ quotedForms, Closed f.scan := by
  unfold quotedForms
  simp only [List.forall_mem_cons]
  exact ⟨quoted_closed _ _, rawQuoted_closed _, quoted_closed _ _, rawQuoted_closed _,
    quoted_closed _ _, rawQuoted_closed _, single_closed _, single_closed _, nofun⟩

/-- A text begins with the mark of one form at most. -/
theorem eq_of_marks {cs : List Char} {f g : QuotedForm} (hf : f ∈ quotedForms)
    (hg : g ∈ quotedForms) (hfcs : startsWith cs f.mark = true)
    (hgcs : startsWith cs g.mark = true) : f = g := by
  have hmarks : ∀ a ∈ quotedForms.map (·.mark), ∀ b ∈ quotedForms.map (·.mark),
      a.toList <+: b.toList → a = b := by decide
  have hnodup : (quotedForms.map (·.mark)).Nodup := by decide
  refine List.inj_on_of_nodup_map hnodup hf hg ?_
  have hf' := List.mem_map_of_mem (f := (·.mark)) hf
  have hg' := List.mem_map_of_mem (f := (·.mark)) hg
  rcases List.prefix_or_prefix_of_prefix (startsWith_iff.mp hfcs) (startsWith_iff.mp hgcs) with
    h | h
  · exact hmarks _ hf' _ hg' h
  · exact (hmarks _ hg' _ hf' h).symm

theorem QuotedForm.startsWith_of_read {f : QuotedForm} {cs : List Char} {read : Split}
    (h : f.read cs = some read) : startsWith cs f.mark = true := by
  by_contra hmark
  rw [QuotedForm.read, if_neg hmark] at h
  cases h

theorem quotedLiteral_eq_some_iff {cs : List Char} {kind : LiteralKind} {read : Split} :
    quotedLiteral cs = some (kind, read) ↔
      ∃ f ∈ quotedForms, f.kind = kind ∧ f.read cs = some read := by
  have hone : ∀ {found : LiteralKind × Split}, quotedLiteral cs = some found →
      ∃ f ∈ quotedForms, f.kind = found.1 ∧ f.read cs = some found.2 := by
    intro found h
    obtain ⟨f, hf, hfound⟩ := List.exists_of_findSome?_eq_some h
    obtain ⟨read, hread, rfl⟩ := Option.map_eq_some_iff.mp hfound
    exact ⟨f, hf, rfl, hread⟩
  refine ⟨hone, ?_⟩
  rintro ⟨f, hf, rfl, hread⟩
  have hsome : (quotedLiteral cs).isSome = true := by
    refine List.findSome?_isSome_iff.mpr ⟨f, hf, ?_⟩
    rw [hread]
    rfl
  obtain ⟨found, hfound⟩ := Option.isSome_iff_exists.mp hsome
  obtain ⟨g, hg, hkind, hgread⟩ := hone hfound
  obtain rfl := eq_of_marks hf hg (QuotedForm.startsWith_of_read hread)
    (QuotedForm.startsWith_of_read hgread)
  rw [hfound, hkind, Option.some.inj (hread.symm.trans hgread)]

theorem quotedLiteral_of_isDigit {c : Char} (hc : c.isDigit = true) (cs : List Char) :
    quotedLiteral (c :: cs) = none := by
  have hmarks : ∀ m ∈ quotedForms.map (·.mark),
      m.toList.head?.any (fun d => d.isDigit = false) = true := by decide
  refine List.findSome?_eq_none_iff.mpr fun f hf => ?_
  rw [QuotedForm.read, if_neg, Option.map_none]
  intro hmark
  obtain ⟨behind, hbehind⟩ := startsWith_iff.mp hmark
  obtain ⟨d, hhead, hdigit⟩ := (Option.any_eq_true _ _).mp
    (hmarks _ (List.mem_map_of_mem (f := (·.mark)) hf))
  obtain ⟨more, hmore⟩ := List.head?_eq_some_iff.mp hhead
  rw [hmore] at hbehind
  rw [(List.cons.inj hbehind).1, hc] at hdigit
  cases hdigit

/-- The text of a quoted literal is that literal. -/
theorem quotedLiteral_cut {cs text rest : List Char} {kind : LiteralKind}
    (h : quotedLiteral cs = some (kind, (text, rest))) :
    quotedLiteral text = some (kind, (text, [])) := by
  obtain ⟨f, hf, hkind, hread⟩ := quotedLiteral_eq_some_iff.mp h
  exact quotedLiteral_eq_some_iff.mpr
    ⟨f, hf, hkind, QuotedForm.read_cut (quotedForms_closed f hf) hread⟩

end TraitRoutes.Scan
