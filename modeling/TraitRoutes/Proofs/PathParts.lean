import TraitRoutes.Text.PathName

/-!
# Parts of joined path names

A path is cut into pieces at its slashes, and the pieces are its parts, apart from
empty ones and dots. Only what comes first is read differently: a slash in front is
the root, and a dot in front is kept. A plain name that is joined to a path is one
more piece behind what was in front of it, whether the path ended in a slash or not,
so it is one more part.
-/

namespace TraitRoutes.PathName

theorem pieces_ne_nil (cs : List Char) : pieces cs ≠ [] := by
  cases cs with
  | nil => exact List.cons_ne_nil _ _
  | cons c rest =>
      rw [pieces.eq_def]
      split
      · exact List.cons_ne_nil _ _
      · exact List.cons_ne_nil _ _
      · split <;> exact List.cons_ne_nil _ _

theorem pieces_slash (cs : List Char) : pieces ('/' :: cs) = [] :: pieces cs := rfl

theorem pieces_cons {c : Char} (hc : c ≠ '/') (cs : List Char) :
    ∃ piece more, pieces cs = piece :: more ∧ pieces (c :: cs) = (c :: piece) :: more := by
  cases hpieces : pieces cs with
  | nil => exact absurd hpieces (pieces_ne_nil cs)
  | cons piece more =>
      refine ⟨piece, more, rfl, ?_⟩
      rw [pieces, hpieces]
      exact hc

/-- A slash ends a piece. -/
theorem pieces_append_slash (front rest : List Char) :
    pieces (front ++ '/' :: rest) = pieces front ++ pieces rest := by
  induction front with
  | nil => rfl
  | cons c front ih =>
      by_cases hc : c = '/'
      · rw [hc, List.cons_append, pieces_slash, pieces_slash, ih, List.cons_append]
      · obtain ⟨piece, more, hfront, hcons⟩ := pieces_cons hc front
        obtain ⟨piece', more', happend, hcons'⟩ := pieces_cons hc (front ++ '/' :: rest)
        rw [ih, hfront, List.cons_append] at happend
        obtain ⟨rfl, rfl⟩ := List.cons.inj happend
        rw [List.cons_append, hcons', hcons, List.cons_append]

theorem pieces_of_not_mem {cs : List Char} (h : '/' ∉ cs) : pieces cs = [cs] := by
  induction cs with
  | nil => rfl
  | cons c cs ih =>
      rw [List.mem_cons, not_or] at h
      obtain ⟨piece, more, hpieces, hcons⟩ := pieces_cons (Ne.symm h.1) cs
      rw [ih h.2] at hpieces
      obtain ⟨rfl, rfl⟩ := List.cons.inj hpieces
      exact hcons

/-- The part in front of the pieces: the root, or a dot. -/
def lead (path : List Char) : List PathPart :=
  if path.head? = some '/' then [.root]
  else if (pieces path).head? = some ['.'] then [.here]
  else []

theorem parts_eq (path : String) :
    parts path = lead path.toList ++ (pieces path.toList).filterMap partOf? := by
  unfold parts
  split
  · next h => rw [h]; rfl
  · next rest h => rw [h]; rfl
  · next hnil hslash =>
      have hhead : path.toList.head? ≠ some '/' := by
        intro h
        obtain ⟨rest, hrest⟩ := List.head?_eq_some_iff.mp h
        exact hslash rest hrest
      rw [lead, if_neg hhead]
      split
      · next more h => rw [h]; rfl
      · next h =>
          rw [if_neg, List.nil_append]
          intro hdot
          obtain ⟨more, hmore⟩ := List.head?_eq_some_iff.mp hdot
          exact h more hmore

theorem parts_ne_nil {path : String} (h : path ≠ "") : parts path ≠ [] := by
  cases hpath : path.toList with
  | nil => exact absurd (String.toList_eq_nil_iff.mp hpath) h
  | cons c cs =>
      rw [parts_eq, hpath]
      by_cases hc : c = '/'
      · rw [hc]
        exact List.cons_ne_nil _ _
      · obtain ⟨piece, more, -, hpieces⟩ := pieces_cons hc cs
        rw [lead, if_neg (by simpa using hc), hpieces]
        by_cases hdot : c :: piece = ['.']
        · rw [hdot]
          exact List.cons_ne_nil _ _
        · have hpart : partOf? (c :: piece) ≠ none := by
            unfold partOf?
            rw [if_neg (by simpa using hdot)]
            split <;> exact Option.some_ne_none _
          obtain ⟨part, hpart⟩ := Option.ne_none_iff_exists'.mp hpart
          rw [List.filterMap_cons, hpart]
          exact List.append_ne_nil_of_right_ne_nil _ (List.cons_ne_nil _ _)

/-- The front of a path does not depend on what follows a slash. -/
theorem lead_append_slash {front : List Char} (hfront : front ≠ []) (rest : List Char) :
    lead (front ++ '/' :: rest) = lead front := by
  obtain ⟨c, more, rfl⟩ := List.exists_cons_of_ne_nil hfront
  obtain ⟨piece, pieces', hpieces⟩ := List.exists_cons_of_ne_nil (pieces_ne_nil (c :: more))
  rw [lead, lead, pieces_append_slash, hpieces]
  rfl

/-- Slashes at the end of a path do not count. -/
theorem parts_append_slashes {path : String} (h : path ≠ "") (n : Nat) :
    parts (path ++ String.ofList (List.replicate n '/')) = parts path := by
  have hslashes : (pieces (List.replicate n '/')).filterMap partOf? = [] := by
    induction n with
    | zero => rfl
    | succ n ih => rw [List.replicate_succ, pieces_slash, List.filterMap_cons, ih]; rfl
  have hne : path.toList ≠ [] := fun hnil => h (String.toList_eq_nil_iff.mp hnil)
  rw [parts_eq, parts_eq path, String.toList_append, String.toList_ofList]
  cases n with
  | zero => rw [List.replicate_zero, List.append_nil]
  | succ n =>
      rw [List.replicate_succ, pieces_slash, List.filterMap_cons] at hslashes
      rw [List.replicate_succ, lead_append_slash hne, pieces_append_slash, List.filterMap_append]
      rw [show (pieces (List.replicate n '/')).filterMap partOf? = [] from hslashes,
        List.append_nil]

/-- A name of a file: nothing that is read as something else in a path. -/
structure IsPlain (name : String) : Prop where
  slash : '/' ∉ name.toList
  zero : '\x00' ∉ name.toList
  nonempty : name ≠ ""
  here : name ≠ "."
  up : name ≠ ".."

instance : DecidablePred IsPlain := fun name =>
  decidable_of_iff
    ('/' ∉ name.toList ∧ '\x00' ∉ name.toList ∧ name ≠ "" ∧ name ≠ "." ∧ name ≠ "..")
    ⟨fun ⟨slash, zero, nonempty, here, up⟩ => ⟨slash, zero, nonempty, here, up⟩,
      fun h => ⟨h.slash, h.zero, h.nonempty, h.here, h.up⟩⟩

theorem endsWith_slash_iff (path : String) :
    path.endsWith "/" = true ↔ ∃ front, path.toList = front ++ ['/'] := by
  rw [String.endsWith_eq_endsWith_toSlice, String.Slice.endsWith_string_iff, String.copy_toSlice]
  constructor
  · rintro ⟨front, hfront⟩
    exact ⟨front, hfront.symm⟩
  · rintro ⟨front, hfront⟩
    exact ⟨front, hfront.symm⟩

/-- A name that is one part of a path, whatever else is in it. -/
structure IsPart (name : String) : Prop where
  slash : '/' ∉ name.toList
  nonempty : name ≠ ""
  here : name ≠ "."
  up : name ≠ ".."

theorem IsPlain.isPart {name : String} (h : IsPlain name) : IsPart name where
  slash := h.slash
  nonempty := h.nonempty
  here := h.here
  up := h.up

namespace IsPart

variable {name : String}

theorem startsWith_slash (h : IsPart name) : name.startsWith "/" = false := by
  rw [String.startsWith_string_eq_false_iff]
  rintro ⟨rest, hrest⟩
  refine h.slash ?_
  rw [← hrest]
  exact List.mem_append_left _ (List.mem_singleton_self _)

theorem partOf (h : IsPart name) : partOf? name.toList = some (.name name.toList) := by
  have hempty : name.toList ≠ [] := fun hnil => h.nonempty (String.toList_eq_nil_iff.mp hnil)
  have hhere : name.toList ≠ ['.'] := fun heq => h.here (String.toList_injective heq)
  have hup : name.toList ≠ ['.', '.'] := fun heq => h.up (String.toList_injective heq)
  simp [partOf?, hempty, hhere, hup]

/-- Between a path and a name that is joined to it a slash comes in, if there is none. -/
theorem join_toList (h : IsPart name) {dir : String} (hdir : dir ≠ "") :
    ∃ front, (dir.toList = front ∨ dir.toList = front ++ ['/']) ∧
      (join dir name).toList = front ++ '/' :: name.toList := by
  have hempty : dir.isEmpty = false := by simpa using hdir
  rw [join, h.startsWith_slash, hempty]
  by_cases hends : dir.endsWith "/" = true
  · obtain ⟨front, hfront⟩ := (endsWith_slash_iff dir).mp hends
    refine ⟨front, .inr hfront, ?_⟩
    simp [hends, hfront]
  · refine ⟨dir.toList, .inl rfl, ?_⟩
    simp [hends]

/-- A name that is joined to a path is one more part. -/
theorem parts_join (h : IsPart name) (dir : String) :
    parts (join dir name) = parts dir ++ [.name name.toList] := by
  have hpieces : (pieces name.toList).filterMap partOf? = [.name name.toList] := by
    rw [pieces_of_not_mem h.slash, List.filterMap_cons, h.partOf]
    rfl
  by_cases hdir : dir = ""
  · have hjoin : join dir name = name := by simp [join, hdir]
    have hlead : lead name.toList = [] := by
      rw [lead, pieces_of_not_mem h.slash, if_neg, if_neg]
      · exact fun hdot => h.here (String.toList_injective (Option.some.inj hdot))
      · exact fun hhead => h.slash (List.mem_of_mem_head? hhead)
    rw [hjoin, parts_eq name, hlead, hpieces, hdir]
    rfl
  · obtain ⟨front, hfront, hjoin⟩ := h.join_toList hdir
    have hjoined : (pieces (join dir name).toList).filterMap partOf?
        = (pieces dir.toList).filterMap partOf? ++ [.name name.toList] := by
      rw [hjoin, pieces_append_slash, List.filterMap_append, hpieces]
      rcases hfront with hfront | hfront
      · rw [hfront]
      · rw [hfront, pieces_append_slash, List.filterMap_append]
        simp [pieces, partOf?]
    have hlead : lead (join dir name).toList = lead dir.toList := by
      rw [hjoin]
      rcases hfront with hfront | hfront
      · have hne : front ≠ [] := fun hnil => hdir (String.toList_eq_nil_iff.mp (hfront.trans hnil))
        rw [hfront, lead_append_slash hne]
      · rw [hfront]
        by_cases hne : front = []
        · rw [hne]
          rfl
        · rw [lead_append_slash hne, lead_append_slash hne]
    rw [parts_eq, parts_eq dir, hlead, hjoined, List.append_assoc]

/-- A name that is joined to a path is its last piece. -/
theorem getLast?_pieces_join (h : IsPart name) (dir : String) :
    (pieces (join dir name).toList).getLast? = some name.toList := by
  by_cases hdir : dir = ""
  · have hjoin : join dir name = name := by simp [join, hdir]
    rw [hjoin, pieces_of_not_mem h.slash]
    rfl
  · obtain ⟨front, -, hjoin⟩ := h.join_toList hdir
    rw [hjoin, pieces_append_slash, pieces_of_not_mem h.slash, List.getLast?_concat]

end IsPart

end TraitRoutes.PathName
