import TraitRoutes.Proofs.ItemHeadings
import TraitRoutes.Proofs.Sequencing

/-!
# Places of traits

The line and the column kept with a declaration are those of its name in the text of the file,
where a byte order mark counts for nothing. A first line that names an interpreter is not read,
but its line feed is, so it shifts no place.
-/

namespace TraitRoutes

/-! ## Texts of files -/

/-- The text of a file without a byte order mark. -/
def unmarked (text : String) : List Char :=
  match text.toList with
  | '\ufeff' :: rest => rest
  | cs => cs

theorem fileBody_eq (text : String) : fileBody text = unmarked text ∨
    fileBody text = (unmarked text).dropWhile (· != '\n') := by
  unfold fileBody
  extract_lets cs
  change _ = cs ∨ _ = cs.dropWhile (· != '\n')
  clear_value cs
  split
  · dsimp only
    split
    · exact .inl rfl
    · exact .inr rfl
  · exact .inl rfl

/-- What is not read of a text is part of the first line. -/
theorem exists_fileBody (text : String) :
    ∃ shebang, unmarked text = shebang ++ fileBody text ∧ '\n' ∉ shebang ∧
      (shebang = [] ∨ ∀ c ∈ (fileBody text).head?, c = '\n') := by
  rcases fileBody_eq text with hbody | hbody
  · exact ⟨[], hbody.symm, List.not_mem_nil, .inl rfl⟩
  · refine ⟨(unmarked text).takeWhile (· != '\n'), ?_, ?_, .inr fun c hc => ?_⟩
    · rw [hbody, List.takeWhile_append_dropWhile]
    · intro hmem
      simpa using List.mem_takeWhile_imp hmem
    · rw [hbody] at hc
      simpa using head?_dropWhile_not _ _ c hc

/-- What stands behind an unread first line stands in the whole text. -/
theorem Heading.StandsIn.behind {h : Heading} {shebang cs : List Char} (hcs : h.StandsIn cs)
    (hshebang : '\n' ∉ shebang) (hline : shebang = [] ∨ ∀ c ∈ cs.head?, c = '\n') :
    h.StandsIn (shebang ++ cs) := by
  rcases hline with rfl | hline
  · exact hcs
  obtain ⟨front, blank, behind, htext, hopens, hgap, hends, hplace⟩ := hcs
  cases front with
  | nil =>
      rw [htext] at hline
      exact absurd (hline 't' rfl) (by decide)
  | cons c front =>
      rw [htext] at hline
      obtain rfl := hline c rfl
      refine ⟨shebang ++ '\n' :: front, blank, behind, ?_, ?_, hgap, hends, ?_⟩
      · simp [htext]
      · rw [List.getLast?_append_of_ne_nil _ (List.cons_ne_nil _ _)]
        exact hopens
      · rw [hplace, List.append_assoc, List.append_assoc, List.append_assoc,
          Position.after_append _ shebang, Position.after_of_not_mem _ hshebang]
        rfl

/-- The headings of a file stand in its text, one behind the other. -/
theorem standsIn_of_lex {text : String} {tokens : List Token}
    (h : lex (String.ofList (fileBody text)) = some tokens) (space : String) :
    (∀ a ∈ headings space tokens, a.StandsIn (unmarked text)) ∧
      (headings space tokens).Pairwise fun a b => a.place.Before b.place := by
  obtain ⟨c, e, hstart, hreads⟩ := reads_lex h
  rw [String.toList_ofList] at hstart
  have hlists := hreads.lists space
  obtain ⟨shebang, htext, hshebang, hline⟩ := exists_fileBody text
  refine ⟨fun a ha => ?_, hlists.pairwise.1⟩
  rw [htext]
  exact (hlists.standsIn hstart a ha).behind hshebang hline

/-! ## Adding a file -/

namespace Draft

/-- The declarations collected from a file are located in its text, without a byte order mark. -/
structure Locates (path space text : String) (found : List Declaration) : Prop where
  file : ∀ d ∈ found, d.location.file = path
  /-- They are found by the word `trait` and a name in the modules of the file, in order. -/
  headed : ∃ tokens, lex (String.ofList (fileBody text)) = some tokens ∧
    (found.map Declaration.heading).Sublist (headings space tokens)
  /-- Behind the word and a gap the text has the name at the place of the declaration. -/
  stands : ∀ d ∈ found, d.heading.StandsIn (unmarked text)
  /-- At its line and its column the text is read as the name, which is a whole word. -/
  read : ∀ d ∈ found, ∃ more,
    Position.readIn ⟨d.location.line, d.location.column⟩ (unmarked text)
      = d.ident.text.toList ++ more ∧ Scan.EndsWord more
  /-- No two are located at the same place. -/
  ordered : found.Pairwise fun d e => d.heading.place.Before e.heading.place

/-- What is collected from a file that parses is located where it stands. -/
theorem addSource_locates {draft draft' : Draft} {path space text : String}
    (h : draft.addSource path space text = .ok draft') :
    ∃ found, draft'.declarations = draft.declarations ++ found ∧ Locates path space text found := by
  unfold addSource at h
  split at h
  · cases h
  · next items hitems =>
      obtain rfl := Except.ok.inj h
      obtain ⟨tokens, hlex, hheaded⟩ := headings_readFile hitems path space
      obtain ⟨hstands, hordered⟩ := standsIn_of_lex hlex space
      have hfound : ∀ d ∈ (Collection.ofItems path space items).declarations,
          d.heading.StandsIn (unmarked text) :=
        fun d hd => hstands _ (hheaded.subset (List.mem_map_of_mem hd))
      refine ⟨_, rfl, ?_, ⟨tokens, hlex, hheaded⟩, hfound, fun d hd => (hfound d hd).readIn, ?_⟩
      · intro d hd
        rw [(gathers_ofItems path space items).declarations] at hd
        obtain ⟨t, -, rfl⟩ := List.mem_map.mp hd
        rfl
      · have hpairs := hordered.sublist hheaded
        rwa [List.pairwise_map] at hpairs

/-- A file with a byte order mark and an interpreter, two line ends with a carriage return, a
comment and a string of two lines each, characters beyond ASCII, and a trait two modules down. -/
def markedText : String :=
  "\ufeff#!/usr/bin/env run\r
/* \u00e9
 */ const S: &str = \"\u00df
\u00e9\"; pub trait /* is */ I\u00c4 \x7b\x7d\r
mod users \x7b mod admins \x7b /// \u00e9
 unsafe trait r#IAdmins: Base \x7b\x7d \x7d \x7d"

/-- Both traits are found, each in its line. -/
theorem addSource_locates_marked :
    ∃ draft' found, addSource {} "src/lib.rs" "crate" markedText = .ok draft' ∧
      draft'.declarations = found ∧ Locates "src/lib.rs" "crate" markedText found ∧
      draft'.declarations.map (fun d => (d.qualifiedName, d.location.line, d.location.column))
        = [("crate::I\u00c4", 4, 24), ("crate::users::admins::IAdmins", 6, 15)] := by
  have hrun : (readFile markedText).toOption.map (fun items =>
      (addItems {} "src/lib.rs" "crate" items).declarations.map fun d =>
        (d.qualifiedName, d.location.line, d.location.column))
        = some [("crate::I\u00c4", 4, 24), ("crate::users::admins::IAdmins", 6, 15)] := by
    decide +kernel
  obtain ⟨items, hread, hplaces⟩ := exists_of_toOption hrun
  have hadd : addSource {} "src/lib.rs" "crate" markedText
      = .ok (addItems {} "src/lib.rs" "crate" items) := by
    rw [addSource, hread]
  obtain ⟨found, hfound, hlocates⟩ := addSource_locates hadd
  exact ⟨_, found, hadd, hfound, hlocates, hplaces⟩

end Draft

end TraitRoutes
