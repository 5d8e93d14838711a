import TraitRoutes.Proofs.LiteralText
import TraitRoutes.Proofs.TextPlaces

/-!
# Places of tokens

Every scanner cuts its text in two, in no word, and the lexer moves its place on by what was cut
off. So each identifier among the tokens stands where its place says, as a whole word, however many
lines the comments and the literals in front of it take up.

The lexer keeps a stack of the groups still open. What it reads is restated here as a relation
between two cursors in a text and the tokens between them, in which a group is read whole. The
rounds of the lexer keep to it: from any of them on, the text closes the groups that are open.
-/

namespace TraitRoutes

open Scan Unicode

/-! ## Cutting -/

namespace Scan

/-- A word ends where no character goes on with it. -/
def EndsWord (rest : List Char) : Prop := ∀ c ∈ rest.head?, isIdentContinue c = false

/-- A text is cut in two, and in no word: none ends in front or none begins behind. -/
structure Cuts (cs front rest : List Char) : Prop where
  text : cs = front ++ rest
  apart : (∀ c ∈ front.getLast?, isIdentContinue c = false) ∨
    ∀ c ∈ rest.head?, isIdentStart c = false

section Cuts

variable {c : Char} {cs front more rest left : List Char}

theorem Cuts.nil (cs : List Char) : Cuts cs [] cs := ⟨rfl, .inl nofun⟩

theorem Cuts.cons (h : Cuts cs front rest)
    (hc : front = [] → isIdentContinue c = false ∨ rest = []) :
    Cuts (c :: cs) (c :: front) rest where
  text := by rw [h.text, List.cons_append]
  apart := by
    cases front with
    | nil =>
        rcases hc rfl with hc | rfl
        · exact .inl fun d hd => Option.some.inj hd ▸ hc
        · exact .inr nofun
    | cons d front =>
        rw [List.getLast?_cons_cons]
        exact h.apart

theorem cuts_singleton (hc : isIdentContinue c = false) (rest : List Char) :
    Cuts (c :: rest) [c] rest := (Cuts.nil rest).cons fun _ => .inl hc

theorem Cuts.append (h : Cuts cs front more) (h' : Cuts more rest left) :
    Cuts cs (front ++ rest) left where
  text := by rw [h.text, h'.text, List.append_assoc]
  apart := by
    cases rest with
    | nil =>
        obtain rfl : more = left := h'.text
        rw [List.append_nil]
        exact h.apart
    | cons d rest =>
        rw [List.getLast?_append_of_ne_nil _ (List.cons_ne_nil d rest)]
        exact h'.apart

/-- Where no identifier begins, every cut is in no word. -/
theorem cuts_of_head (htext : cs = front ++ rest)
    (hrest : ∀ c ∈ rest.head?, isIdentStart c = false) : Cuts cs front rest := ⟨htext, .inr hrest⟩

theorem EndsWord.head (h : EndsWord rest) : ∀ c ∈ rest.head?, isIdentStart c = false := by
  intro c hc
  by_contra hstart
  have hcontinue := isIdentContinue_of_start (Bool.not_eq_false _ ▸ hstart)
  rw [h c hc] at hcontinue
  cases hcontinue

end Cuts

theorem not_isIdentContinue_of_isSpacing {c : Char} (h : isSpacing c = true) :
    isIdentContinue c = false := by
  have hall : ∀ n ∈ List.range' 9 5 ++ List.range' 0x2000 11 ++ [0x20, 0x85, 0xa0, 0x1680, 0x200e,
      0x200f, 0x2028, 0x2029, 0x202f, 0x205f, 0x3000],
      isIdentContinue (Char.ofNat n) = false := by decide +kernel
  have hle : ∀ {a b : Char}, a ≤ b ↔ a.toNat ≤ b.toNat := Iff.rfl
  rw [← Char.ofNat_toNat c]
  refine hall _ ?_
  simp only [isSpacing, isBlank, Bool.or_eq_true, Bool.and_eq_true, beq_iff_eq,
    decide_eq_true_eq, hle, ← Char.toNat_inj, Char.reduceToNat] at h
  simp only [List.mem_append, List.mem_range'_1, List.mem_cons, List.not_mem_nil]
  omega

/-- A gap is cut off between words: it ends with the mark of its last comment or with a blank. In
a comment, the text has to go on. -/
theorem gap_cuts {state : Gap} {cs read rest : List Char} (h : gap state cs = some (read, rest)) :
    Cuts cs read rest ∧ (read = [] → state = .between ∨ rest = []) := by
  fun_induction gap state cs generalizing read with
  | case1 | case2 | case9 | case12 =>
      obtain ⟨rfl, rfl⟩ := Prod.mk.inj (Option.some.inj h)
      exact ⟨.nil _, fun _ => by simp⟩
  | case3 => cases h
  | case4 _ _ ih =>
      obtain ⟨more, hmore, rfl⟩ := map_cons_eq_some h
      obtain ⟨hcuts, hnil⟩ := ih hmore
      refine ⟨hcuts.cons fun hmore => (hnil hmore).imp_left fun hstate => ?_, nofun⟩
      split at hstate
      · next hc =>
          rw [beq_iff_eq.mp hc]
          decide
      · cases hstate
  | case7 _ _ _ _ _ ih | case10 _ _ _ _ ih =>
      obtain ⟨more, hmore, rfl⟩ := map_cons_eq_some h
      obtain ⟨hcuts, hnil⟩ := ih hmore
      exact ⟨hcuts.cons fun hmore => (hnil hmore).imp_left nofun, nofun⟩
  | case11 _ _ _ _ hspacing ih =>
      obtain ⟨more, hmore, rfl⟩ := map_cons_eq_some h
      exact ⟨(ih hmore).1.cons fun _ => .inl (not_isIdentContinue_of_isSpacing hspacing), nofun⟩
  | case5 _ _ ih | case6 _ _ ih | case8 _ _ ih =>
      obtain ⟨more, hmore, rfl⟩ := map_append_eq_some h
      exact ⟨((ih hmore).1.cons fun _ => .inl (by decide)).cons nofun, nofun⟩

theorem line_cut (cs : List Char) :
    cs = (line cs).1 ++ (line cs).2 ∧ ∀ c ∈ (line cs).2.head?, isIdentStart c = false := by
  fun_induction line cs with
  | case1 => exact ⟨rfl, nofun⟩
  | case2 | case3 => exact ⟨rfl, fun c hc => Option.some.inj hc ▸ by decide⟩
  | case4 c rest _ _ ih => exact ⟨congrArg (c :: ·) ih.1, ih.2⟩

theorem block_cuts {depth : Nat} {cs read rest : List Char}
    (h : block depth cs = some (read, rest)) : Cuts cs read rest ∧ read ≠ [] := by
  fun_induction block depth cs generalizing read with
  | case1 => cases h
  | case2 _ _ ih | case4 _ _ _ ih =>
      obtain ⟨more, hmore, rfl⟩ := map_append_eq_some h
      exact ⟨((ih hmore).1.cons fun _ => .inl (by decide)).cons nofun, nofun⟩
  | case3 =>
      obtain ⟨rfl, rfl⟩ := Prod.mk.inj (Option.some.inj h)
      exact ⟨(cuts_singleton (by decide) _).cons nofun, nofun⟩
  | case5 _ _ _ _ _ ih =>
      obtain ⟨more, hmore, rfl⟩ := map_cons_eq_some h
      obtain ⟨hcuts, hmore⟩ := ih hmore
      exact ⟨hcuts.cons fun hnil => absurd hnil hmore, nofun⟩

theorem docComment_cuts {cs read rest : List Char} {doc : DocComment}
    (h : docComment cs = some (doc, (read, rest))) : Cuts cs read rest := by
  have hline : ∀ inner, some ((⟨inner, (line (cs.drop 3)).1⟩ : DocComment),
      (line (cs.drop 3)).append (cs.take 3)) = some (doc, (read, rest)) → Cuts cs read rest := by
    intro inner h
    obtain ⟨-, hsplit⟩ := Prod.mk.inj (Option.some.inj h)
    obtain ⟨rfl, rfl⟩ := Prod.mk.inj hsplit
    obtain ⟨hcut, hhead⟩ := line_cut (cs.drop 3)
    refine cuts_of_head ?_ hhead
    rw [List.append_assoc, ← hcut, List.take_append_drop]
  have hblock : ∀ f : Split → DocComment, ((block 0 cs).map fun found => (f found, found))
      = some (doc, (read, rest)) → Cuts cs read rest := by
    intro f h
    obtain ⟨found, hfound, hsplit⟩ := Option.map_eq_some_iff.mp h
    obtain ⟨-, rfl⟩ := Prod.mk.inj hsplit
    exact (block_cuts hfound).1
  have hfound := (Option.filter_eq_some_iff.mp h).1
  split at hfound
  · exact hline true hfound
  split at hfound
  · exact hblock _ hfound
  split at hfound
  · cases hfound
  split at hfound
  · exact hline false hfound
  split at hfound
  · exact hblock _ hfound
  · cases hfound

theorem identText_cut {cs read rest : List Char} (h : identText cs = some (read, rest)) :
    cs = read ++ rest ∧ EndsWord rest := by
  cases cs with
  | nil => cases h
  | cons c cs =>
      rw [identText] at h
      split at h
      · obtain ⟨rfl, rfl⟩ := Prod.mk.inj (Option.some.inj h)
        refine ⟨?_, head?_dropWhile_not isIdentContinue cs⟩
        rw [List.cons_append, List.takeWhile_append_dropWhile]
      · cases h

theorem rawOrPlain_cut {cs read rest : List Char} {i : Ident}
    (h : rawOrPlain cs = some (i, (read, rest))) :
    read = i.text.toList ∧ cs = read ++ rest ∧ EndsWord rest := by
  unfold rawOrPlain at h
  split at h
  · next hraw =>
      obtain ⟨behind, rfl⟩ := startsWith_iff.mp hraw
      split at h
      · cases h
      · next found hfound =>
          dsimp only at h
          split at h
          · cases h
          · obtain ⟨rfl, hsplit⟩ := Prod.mk.inj (Option.some.inj h)
            obtain ⟨rfl, rfl⟩ := Prod.mk.inj hsplit
            obtain ⟨hcut, hends⟩ := identText_cut hfound
            refine ⟨?_, ?_, hends⟩
            · simp [Ident.text]
            · rw [List.append_assoc, ← hcut]
              rfl
  · split at h
    · cases h
    · next found hfound =>
        obtain ⟨rfl, rfl⟩ := Prod.mk.inj (Option.some.inj h)
        obtain ⟨hcut, hends⟩ := identText_cut hfound
        refine ⟨?_, hcut, hends⟩
        simp [Ident.text]

theorem suffix_cut (cs : List Char) :
    cs = (suffix cs).1 ++ (suffix cs).2 ∧ ∀ c ∈ (suffix cs).2.head?, isIdentStart c = false := by
  cases hident : identText cs with
  | none =>
      rw [suffix, hident]
      refine ⟨rfl, fun c hc => ?_⟩
      obtain ⟨rest, rfl⟩ := List.head?_eq_some_iff.mp hc
      rw [identText] at hident
      split at hident
      · cases hident
      · next hstart => exact Bool.eq_false_iff.mpr hstart
  | some found =>
      rw [suffix, hident]
      obtain ⟨hcut, hends⟩ := identText_cut hident
      exact ⟨hcut, hends.head⟩

theorem QuotedForm.cuts_of_read {f : QuotedForm} (hf : Closed f.scan) {cs read rest : List Char}
    (h : f.read cs = some (read, rest)) : Cuts cs read rest := by
  unfold QuotedForm.read at h
  split at h
  · next hmark =>
      obtain ⟨behind, rfl⟩ := startsWith_iff.mp hmark
      rw [drop_mark] at h
      obtain ⟨⟨body, left⟩, hbody, hread⟩ := Option.map_eq_some_iff.mp h
      obtain ⟨scanned, hscan, rfl⟩ := map_append_eq_some hbody
      obtain ⟨rfl, -⟩ := hf hscan
      obtain ⟨rfl, rfl⟩ := Prod.mk.inj hread
      obtain ⟨hcut, hhead⟩ := suffix_cut left
      refine cuts_of_head ?_ hhead
      change _ = f.mark.toList ++ scanned ++ (suffix left).1 ++ (suffix left).2
      rw [List.append_assoc, ← hcut, List.append_assoc]
  · cases h

theorem cuts_of_numberEnd {scan : List Char → Option Split}
    (hscan : ∀ {cs read rest : List Char}, scan cs = some (read, rest) → cs = read ++ rest)
    {cs read rest : List Char} (h : (scan cs).bind numberEnd = some (read, rest)) :
    Cuts cs read rest := by
  obtain ⟨⟨digits, left⟩, hdigits, hnumber⟩ := Option.bind_eq_some_iff.mp h
  obtain ⟨-, rfl, rfl⟩ := numberEnd_eq_some_iff.mp hnumber
  have hends : EndsWord (left.dropWhile isIdentContinue) := head?_dropWhile_not isIdentContinue left
  refine cuts_of_head ?_ hends.head
  rw [List.append_assoc, List.takeWhile_append_dropWhile]
  exact hscan hdigits

theorem literal_cuts {cs read rest : List Char} {kind : LiteralKind}
    (h : literal cs = some (kind, (read, rest))) : Cuts cs read rest := by
  rw [literal_eq, Option.or_eq_some_iff] at h
  rcases h with hquoted | ⟨-, hnumber⟩
  · obtain ⟨f, hf, -, hread⟩ := quotedLiteral_eq_some_iff.mp hquoted
    exact QuotedForm.cuts_of_read (quotedForms_closed f hf) hread
  · rcases number_eq_some_iff.mp hnumber with ⟨-, hfloat⟩ | ⟨-, -, hwhole⟩
    · exact cuts_of_numberEnd (fun h => (floatDigits_cut h).1) hfloat
    · exact cuts_of_numberEnd (fun h => (wholeDigits_cut h).1) hwhole

theorem not_isIdentContinue_of_startsPunct {c : Char} {rest : List Char}
    (h : startsPunct (c :: rest) = true) : isIdentContinue c = false := by
  have hall : punctuation.all (!isIdentContinue ·) = true := by decide
  rw [startsPunct, Bool.and_eq_true] at h
  simpa using List.all_eq_true.mp hall c (List.contains_iff_mem.mp h.2)

end Scan

theorem not_isIdentContinue_of_opens {c : Char} {d : Delimiter} (h : opens c = some d) :
    isIdentContinue c = false := by
  unfold opens at h
  split at h <;> first | decide | cases h

theorem not_isIdentContinue_of_closes {c : Char} {d : Delimiter} (h : closes c = some d) :
    isIdentContinue c = false := by
  unfold closes at h
  split at h <;> first | decide | cases h

/-- A token that is no group is a literal, a mark, or an identifier, which has the place where it
begins and goes to the end of its word. -/
theorem lexLeaf_cuts {place : Position} {cs read rest : List Char} {t : Token}
    (h : lexLeaf place cs = some (t, (read, rest))) :
    Cuts cs read rest ∧ ((∃ l, t = .literal l) ∨ (∃ c joint, t = .punct c joint) ∨
      ∃ i, t = .ident i place ∧ read = i.text.toList ∧ EndsWord rest) := by
  have hpunct : ∀ {c : Char} {joint : Bool} {behind : List Char},
      startsPunct (c :: behind) = true →
      some (Token.punct c joint, ([c], behind)) = some (t, (read, rest)) →
        Cuts (c :: behind) read rest ∧ ∃ d joint, t = .punct d joint := by
    intro c joint behind hmark h
    obtain ⟨rfl, hsplit⟩ := Prod.mk.inj (Option.some.inj h)
    obtain ⟨rfl, rfl⟩ := Prod.mk.inj hsplit
    exact ⟨cuts_singleton (not_isIdentContinue_of_startsPunct hmark) behind, c, joint, rfl⟩
  unfold lexLeaf at h
  split at h
  · next kind found hliteral =>
      obtain ⟨rfl, rfl⟩ := Prod.mk.inj (Option.some.inj h)
      exact ⟨literal_cuts hliteral, .inl ⟨_, rfl⟩⟩
  split at h
  · cases h
  split at h
  · next hmark =>
      split at h
      · split at h
        · cases h
        · split at h
          · cases h
          · exact (hpunct hmark h).imp_right (.inr ∘ .inl)
      · exact (hpunct hmark h).imp_right (.inr ∘ .inl)
  · obtain ⟨⟨name, found⟩, hname, hsplit⟩ := Option.map_eq_some_iff.mp h
    obtain ⟨rfl, rfl⟩ := Prod.mk.inj hsplit
    unfold ident at hname
    split at hname
    · cases hname
    · obtain ⟨hread, hcut, hends⟩ := rawOrPlain_cut hname
      exact ⟨cuts_of_head hcut hends.head, .inr (.inr ⟨name, rfl, hread, hends⟩)⟩

/-! ## Cursors -/

/-- A place in a text, and what stands there. -/
structure Cursor where
  place : Position
  rest : List Char

namespace Cursor

variable {c d e : Cursor}

/-- Behind what was read. -/
def past (c : Cursor) (read : Split) : Cursor := ⟨c.place.after read.1, read.2⟩

/-- A second cursor is further on in the text, or the same, and in front of it ends no word that
goes on. -/
def Leads (c d : Cursor) : Prop := ∃ front, Cuts c.rest front d.rest ∧ d.place = c.place.after front

theorem Leads.refl (c : Cursor) : c.Leads c := ⟨[], .nil _, rfl⟩

theorem Leads.trans (h : c.Leads d) (h' : d.Leads e) : c.Leads e := by
  obtain ⟨front, hfront, hplace⟩ := h
  obtain ⟨more, hmore, hplace'⟩ := h'
  exact ⟨front ++ more, hfront.append hmore, by rw [hplace', hplace, Position.after_append]⟩

theorem leads_past {read : Split} (h : Cuts c.rest read.1 read.2) : c.Leads (c.past read) :=
  ⟨read.1, h, rfl⟩

/-! ## Reading tokens -/

/-- Between two cursors the text is written out as tokens. What follows is present, since it
tells where a token ends. -/
inductive Reads : Cursor → List Token → Cursor → Prop
  | done (c : Cursor) : Reads c [] c
  | comment {c e : Cursor} {blank read : Split} {doc : DocComment} {ts : List Token} :
      gap .between c.rest = some blank → docComment blank.2 = some (doc, read) →
      Reads ((c.past blank).past read) ts e →
      Reads c (doc.tokens (c.past blank).place ++ ts) e
  | leaf {c e : Cursor} {blank read : Split} {t : Token} {ts : List Token} :
      gap .between c.rest = some blank → lexLeaf (c.past blank).place blank.2 = some (t, read) →
      Reads ((c.past blank).past read) ts e → Reads c (t :: ts) e
  | group {c e inside : Cursor} {blank blank' rest behind : List Char} {first last : Char}
      {d : Delimiter} {inner ts : List Token} :
      gap .between c.rest = some (blank, first :: rest) → opens first = some d →
      Reads ((c.past (blank, first :: rest)).past ([first], rest)) inner inside →
      gap .between inside.rest = some (blank', last :: behind) → closes last = some d →
      Reads ((inside.past (blank', last :: behind)).past ([last], behind)) ts e →
      Reads c (.group d inner :: ts) e

theorem leads_gap {blank : Split} (h : gap .between c.rest = some blank) :
    c.Leads (c.past blank) := leads_past (gap_cuts h).1

theorem leads_mark {blank rest : List Char} {mark : Char}
    (h : gap .between c.rest = some (blank, mark :: rest)) (hmark : isIdentContinue mark = false) :
    c.Leads ((c.past (blank, mark :: rest)).past ([mark], rest)) :=
  (leads_gap h).trans (leads_past (cuts_singleton hmark rest))

theorem Reads.leads {ts : List Token} (h : c.Reads ts e) : c.Leads e := by
  induction h with
  | done c => exact .refl c
  | comment hgap hdoc _ ih =>
      exact (leads_gap hgap).trans ((leads_past (docComment_cuts hdoc)).trans ih)
  | leaf hgap hleaf _ ih =>
      exact (leads_gap hgap).trans ((leads_past (lexLeaf_cuts hleaf).1).trans ih)
  | group hgap hopens _ hgap' hcloses _ ihinner ih =>
      exact (leads_mark hgap (not_isIdentContinue_of_opens hopens)).trans <| ihinner.trans <|
        (leads_mark hgap' (not_isIdentContinue_of_closes hcloses)).trans ih

/-- An identifier stands at the cursor, and its word ends at another. -/
structure Word (c : Cursor) (i : Ident) (d : Cursor) : Prop where
  rest : c.rest = i.text.toList ++ d.rest
  place : d.place = c.place.after i.text.toList
  ends : EndsWord d.rest

theorem Word.leads {i : Ident} (h : c.Word i d) : c.Leads d :=
  ⟨i.text.toList, cuts_of_head h.rest h.ends.head, h.place⟩

theorem Reads.ident_cons {i : Ident} {place : Position} {ts : List Token}
    (h : c.Reads (.ident i place :: ts) e) :
    ∃ blank d, gap .between c.rest = some blank ∧ (c.past blank).place = place ∧
      (c.past blank).Word i d ∧ d.Reads ts e := by
  generalize hall : Token.ident i place :: ts = all at h
  cases h with
  | done => cases hall
  | comment =>
      rw [DocComment.tokens, List.cons_append] at hall
      cases (List.cons.inj hall).1
  | @leaf _ _ blank read t ts' hgap hleaf hreads =>
      obtain ⟨rfl, rfl⟩ := List.cons.inj hall
      obtain ⟨hcuts, ⟨l, hl⟩ | ⟨_, _, hpunct⟩ | ⟨j, hj, hread, hends⟩⟩ := lexLeaf_cuts hleaf
      · cases hl
      · cases hpunct
      · obtain ⟨rfl, rfl⟩ := Token.ident.inj hj
        refine ⟨blank, _, hgap, rfl, ⟨?_, ?_, hends⟩, hreads⟩
        · rw [← hread]
          exact hcuts.text
        · rw [← hread]
          rfl
  | group => cases (List.cons.inj hall).1

theorem Reads.group_cons {d : Delimiter} {inner ts : List Token}
    (h : c.Reads (.group d inner :: ts) e) :
    ∃ first inside last : Cursor, c.Leads first ∧ first.Reads inner inside ∧ inside.Leads last ∧
      last.Reads ts e := by
  generalize hall : Token.group d inner :: ts = all at h
  cases h with
  | done => cases hall
  | comment =>
      rw [DocComment.tokens, List.cons_append] at hall
      cases (List.cons.inj hall).1
  | leaf hgap hleaf hreads =>
      obtain ⟨rfl, rfl⟩ := List.cons.inj hall
      obtain ⟨-, ⟨l, hl⟩ | ⟨_, _, hpunct⟩ | ⟨j, hj, -⟩⟩ := lexLeaf_cuts hleaf
      · cases hl
      · cases hpunct
      · cases hj
  | group hgap hopens hinner hgap' hcloses hreads =>
      obtain ⟨hgroup, rfl⟩ := List.cons.inj hall
      obtain ⟨rfl, rfl⟩ := Token.group.inj hgroup
      exact ⟨_, _, _, leads_mark hgap (not_isIdentContinue_of_opens hopens), hinner,
        leads_mark hgap' (not_isIdentContinue_of_closes hcloses), hreads⟩

/-- From a cursor on, the text closes the groups still open, and all of its tokens are these:
the groups and the tokens that stand in front of it, and those it is written out as. -/
inductive Closes : Cursor → List (Delimiter × List Token) → List Token → List Token → Prop
  | text {c e : Cursor} {done ts : List Token} {blank : List Char} :
      Reads c ts e → gap .between e.rest = some (blank, []) → Closes c [] done (done.reverse ++ ts)
  | group {c e : Cursor} {d : Delimiter} {before done ts all : List Token}
      {outer : List (Delimiter × List Token)} {blank behind : List Char} {last : Char} :
      Reads c ts e → gap .between e.rest = some (blank, last :: behind) → closes last = some d →
      Closes ((e.past (blank, last :: behind)).past ([last], behind)) outer
        (.group d (done.reverse ++ ts) :: before) all →
      Closes c ((d, before) :: outer) done all

theorem Closes.of_reads {outer : List (Delimiter × List Token)} {done all : List Token}
    (front : List Token) (hfront : ∀ {ts e}, d.Reads ts e → c.Reads (front ++ ts) e)
    (h : d.Closes outer (front.reverse ++ done) all) : c.Closes outer done all := by
  have hdone : ∀ ts, (front.reverse ++ done).reverse ++ ts = done.reverse ++ (front ++ ts) := by
    simp
  cases h with
  | text hreads hgap =>
      rw [hdone]
      exact .text (hfront hreads) hgap
  | group hreads hgap hclose h =>
      rw [hdone] at h
      exact .group (hfront hreads) hgap hclose h

end Cursor

theorem closes_lexRounds {fuel : Nat} {place : Position} {outer : List (Delimiter × List Token)}
    {done : List Token} {cs : List Char} :
    ∀ {ts : List Token}, lexRounds fuel place outer done cs = some ts →
      Cursor.Closes ⟨place, cs⟩ outer done ts := by
  fun_induction lexRounds fuel place outer done cs with
  | case3 =>
      rename_i hgap _ doc read hdoc ih
      intro ts h
      exact .of_reads _ (.comment hgap hdoc) (ih h)
  | case4 =>
      rename_i houter hgap _
      intro ts h
      rw [List.isEmpty_iff.mp houter, ← Option.some.inj h, ← List.append_nil (List.reverse _)]
      exact .text (.done _) hgap
  | case6 =>
      rename_i hopens hgap _ ih
      intro ts h
      cases ih h with
      | group hreads hgap' hcloses h =>
          exact .of_reads [_] (.group hgap hopens hreads hgap' hcloses) h
  | case7 =>
      rename_i hgap _ hcloses ih
      intro ts h
      have hdone := ih h
      rw [← List.append_nil (List.reverse _)] at hdone
      exact .group (.done _) hgap hcloses hdone
  | case11 =>
      rename_i hleaf hgap _ ih
      intro ts h
      exact .of_reads [_] (.leaf hgap hleaf) (ih h)
  | _ => intro ts h; cases h

/-- The text of a file is written out as its tokens, but for a byte order mark in front. -/
theorem reads_lex {text : String} {ts : List Token} (h : lex text = some ts) :
    ∃ c e : Cursor, Cursor.Leads ⟨.start, text.toList⟩ c ∧ c.Reads ts e := by
  have hreads : ∀ {place : Position} {cs : List Char}, lexAt place cs = some ts →
      ∃ e, Cursor.Reads ⟨place, cs⟩ ts e := by
    intro place cs h
    cases closes_lexRounds h with
    | text hreads => exact ⟨_, hreads⟩
  unfold lex at h
  split at h
  · next rest hmark =>
      obtain ⟨e, he⟩ := hreads h
      refine ⟨⟨_, rest⟩, e, ⟨['\ufeff'], ?_, rfl⟩, he⟩
      rw [hmark]
      exact cuts_singleton (by decide +kernel) rest
  · obtain ⟨e, he⟩ := hreads h
    exact ⟨_, e, .refl _, he⟩

end TraitRoutes
