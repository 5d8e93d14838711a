import TraitRoutes.Controller.Synthesis
import TraitRoutes.Proofs.IdentifierCase

/-!
# Names made from identifiers

A controller and its module are always named by identifiers. The interface mark
is only taken off in front of a capital, and a name in snake case keeps its first
character: it loses none at the front, since a separator stands between two words
even if the first of them is empty.

The structure of a query string is another matter. A name in pascal case loses
the separators, so what comes first may be a character that stood behind
underscores and may not start an identifier, such as a digit. That is the only
way in which the name goes wrong: every other first character is one that starts
identifiers, and its capital does too. A mark does not count, as it belongs to
the underscore in front of it, which therefore is no separator.
-/

namespace TraitRoutes

open Unicode

/-! ## Identifiers as lists of characters -/

namespace Ident

theorem all_of_isLegal {cs : List Char} (h : isLegal cs = true) :
    cs.all isIdentContinue = true := by
  cases cs with
  | nil => rfl
  | cons c rest =>
      obtain ⟨hc, hrest⟩ := Bool.and_eq_true_iff.mp h
      rw [List.all_cons, isIdentContinue_of_start hc, hrest]
      rfl

theorem isLegal_append {cs ds : List Char} (h : isLegal cs = true)
    (hd : ds.all isIdentContinue = true) : isLegal (cs ++ ds) = true := by
  cases cs with
  | nil => cases h
  | cons c rest =>
      obtain ⟨hc, hrest⟩ := Bool.and_eq_true_iff.mp h
      rw [List.cons_append, isLegal, List.all_append, hc, hrest, hd]
      rfl

/-- A text of identifier characters spells no raw identifier. -/
theorem ofString?_eq_none_iff {text : String} (h : text.toList.all isIdentContinue = true) :
    ofString? text = none ↔ isLegal text.toList = false := by
  have hhash : isIdentContinue '#' = false := by decide
  unfold ofString?
  split
  · next rest heq =>
      rw [heq] at h
      simp [hhash] at h
  · unfold ofChars?
    split
    · next hlegal => simp [hlegal]
    · next hillegal => simpa using hillegal

end Ident

theorem Synthesis.identOf_of_isLegal {name : String} (h : Ident.isLegal name.toList = true) :
    ∃ i, Synthesis.identOf name = .ok i := by
  unfold Synthesis.identOf
  cases hi : Ident.ofString? name with
  | some i => exact ⟨i, rfl⟩
  | none =>
      rw [(Ident.ofString?_eq_none_iff (Ident.all_of_isLegal h)).mp hi] at h
      cases h

theorem Synthesis.identOf_of_not_isLegal {name : String}
    (hall : name.toList.all isIdentContinue = true) (h : Ident.isLegal name.toList = false) :
    Synthesis.identOf name = .error (.illegalName name) := by
  rw [Synthesis.identOf, (Ident.ofString?_eq_none_iff hall).mpr h]

/-- A generated identifier may be raw. -/
theorem Synthesis.all_of_identOf {name : String} {i : Ident} (h : Synthesis.identOf name = .ok i) :
    name.toList.all (fun c => c == '#' || isIdentContinue c) = true := by
  have hlegal : ∀ {raw : Bool} {cs : List Char} {j : Ident}, Ident.ofChars? raw cs = some j →
      cs.all (fun c => c == '#' || isIdentContinue c) = true := by
    intro raw cs j hj
    unfold Ident.ofChars? at hj
    split at hj
    · next hlegal =>
        have hall := List.all_eq_true.mp (Ident.all_of_isLegal hlegal)
        exact List.all_eq_true.mpr fun c hc => by rw [hall c hc, Bool.or_true]
    · cases hj
  unfold Synthesis.identOf at h
  split at h
  · next j hj =>
      unfold Ident.ofString? at hj
      split at hj
      · next rest hname =>
          split at hj
          · cases hj
          · have hraw : isIdentContinue 'r' = true := by decide
            rw [hname, List.all_cons, List.all_cons, hlegal hj, hraw]
            rfl
      · exact hlegal hj
  · cases h

/-! ## Lower case -/

namespace Unicode

theorem all_of_cases {c : Char} {image : List Char} (hc : isIdentContinue c = true)
    (h : image = [c] ∨ Ident.isLegal image = true) : image.all isIdentContinue = true := by
  rcases h with rfl | h
  · simp [hc]
  · exact Ident.all_of_isLegal h

theorem isLegal_of_cases {c : Char} {image : List Char} (hc : isIdentStart c = true)
    (h : image = [c] ∨ Ident.isLegal image = true) : Ident.isLegal image = true := by
  rcases h with rfl | h
  · simp [Ident.isLegal, hc]
  · exact h

/-- The two small sigmas make no difference here. -/
theorem lowerFrom_cons_cases (before : List Char) {c : Char} (rest : List Char)
    (hc : isIdentContinue c = true) :
    ∃ image, lowerFrom before (c :: rest) = image ++ lowerFrom (c :: before) rest ∧
      (image = [c] ∨ Ident.isLegal image = true) := by
  refine ⟨_, rfl, ?_⟩
  split
  · split <;> exact .inr (by decide)
  · exact lowerChar_cases hc

theorem all_lowerFrom {before cs : List Char} (h : cs.all isIdentContinue = true) :
    (lowerFrom before cs).all isIdentContinue = true := by
  induction cs generalizing before with
  | nil => rfl
  | cons c rest ih =>
      obtain ⟨hc, hrest⟩ := Bool.and_eq_true_iff.mp h
      obtain ⟨image, heq, himage⟩ := lowerFrom_cons_cases before rest hc
      rw [heq, List.all_append, all_of_cases hc himage, ih hrest]
      rfl

theorem all_lowerText {cs : List Char} (h : cs.all isIdentContinue = true) :
    (lowerText cs).all isIdentContinue = true :=
  all_lowerFrom h

theorem isLegal_lowerText {cs : List Char} (h : Ident.isLegal cs = true) :
    Ident.isLegal (lowerText cs) = true := by
  cases cs with
  | nil => cases h
  | cons c rest =>
      obtain ⟨hc, hrest⟩ := Bool.and_eq_true_iff.mp h
      obtain ⟨image, heq, himage⟩ :=
        lowerFrom_cons_cases [] rest (isIdentContinue_of_start hc)
      rw [lowerText, heq]
      exact Ident.isLegal_append (isLegal_of_cases hc himage) (all_lowerFrom hrest)

/-! ## Clusters -/

theorem clustersFrom_head (s : ClusterState) (cs : List Char) :
    ∃ more gs, ∀ current, clustersFrom s current cs = (current.reverse ++ more) :: gs := by
  induction cs generalizing s with
  | nil => exact ⟨[], [], fun current => by simp [clustersFrom]⟩
  | cons c rest ih =>
      obtain ⟨more, gs, h⟩ := ih (s.after (clusterRole c))
      by_cases joins : s.joins (clusterRole c) = true
      · refine ⟨c :: more, gs, fun current => ?_⟩
        rw [clustersFrom, if_pos joins, h, List.reverse_cons, List.append_assoc,
          List.singleton_append]
      · refine ⟨[], clustersFrom (s.after (clusterRole c)) [c] rest, fun current => ?_⟩
        rw [clustersFrom, if_neg joins, List.append_nil]

theorem flatten_clustersFrom (s : ClusterState) (current cs : List Char) :
    (clustersFrom s current cs).flatten = current.reverse ++ cs := by
  induction cs generalizing s current with
  | nil => simp [clustersFrom]
  | cons c rest ih =>
      rw [clustersFrom]
      split
      · rw [ih, List.reverse_cons, List.append_assoc, List.singleton_append]
      · rw [List.flatten_cons, ih, List.reverse_singleton, List.singleton_append]

/-- The first cluster begins with the characters read, and none is lost behind it. -/
theorem clustersFrom_cases (s : ClusterState) (c : Char) (read : List Char) {cs : List Char}
    (hcs : cs.all isIdentContinue = true) (hread : (c :: read).all isIdentContinue = true) :
    ∃ more gs, clustersFrom s (c :: read).reverse cs = (c :: (read ++ more)) :: gs ∧
      ((c :: (read ++ more)) :: gs).flatten.all isIdentContinue = true := by
  obtain ⟨more, gs, hhead⟩ := clustersFrom_head s cs
  have hgs := hhead (c :: read).reverse
  rw [List.reverse_reverse, List.cons_append] at hgs
  refine ⟨more, gs, hgs, ?_⟩
  rw [← hgs, flatten_clustersFrom, List.reverse_reverse, List.all_append, hread, hcs]
  rfl

theorem clusters_cases {c : Char} {rest : List Char}
    (h : (c :: rest).all isIdentContinue = true) :
    ∃ more gs, clusters (c :: rest) = (c :: more) :: gs ∧
      ((c :: more) :: gs).flatten.all isIdentContinue = true := by
  obtain ⟨hc, hrest⟩ := Bool.and_eq_true_iff.mp h
  exact clustersFrom_cases (ClusterState.after {} (clusterRole c)) c [] hrest (by simp [hc])

theorem flatten_clusters (cs : List Char) : (clusters cs).flatten = cs := by
  cases cs with
  | nil => rfl
  | cons c rest =>
      rw [clusters, flatten_clustersFrom, List.reverse_singleton, List.singleton_append]

/-- A mark goes on with the cluster of the character before it. -/
def isMark (c : Char) : Bool :=
  match clusterRole c with
  | .extend | .linker | .nonJoiner | .joiner | .spacing => true
  | _ => false

/-- The state behind a character that neither joins nor is joined. -/
def ClusterState.plain : ClusterState := { role := .other }

theorem ClusterState.after_other (s : ClusterState) : s.after .other = .plain := rfl

theorem ClusterState.plain_joins (c : Char) :
    ClusterState.plain.joins (clusterRole c) = isMark c := by
  unfold isMark
  cases clusterRole c <;> rfl

theorem clusterRole_underscore : clusterRole '_' = .other := by decide

end Unicode

/-! ## Words -/

namespace Text

/-- What separates words is no identifier character, but for the underscore. -/
theorem isSeparator_eq {c : Char} {more : List Char} (hc : isIdentContinue c = true)
    (hne : (c :: more) ≠ ['_']) : isSeparator (c :: more) = false := by
  have hhyphen : isIdentContinue '-' = false := by decide
  have hblank : isIdentContinue ' ' = false := by decide
  unfold isSeparator
  simp only [Bool.or_eq_false_iff, beq_eq_false_iff_ne]
  refine ⟨⟨hne, ?_⟩, ?_⟩
  · intro h
    rw [(List.cons.inj h).1, hhyphen] at hc
    cases hc
  · intro h
    rw [(List.cons.inj h).1, hblank] at hc
    cases hc

theorem cut_ne_nil (gs : List (List Char)) : cut gs ≠ [] := by
  cases gs with
  | nil => simp [cut]
  | cons g rest =>
      rw [cut]
      split
      · simp
      · split
        · simp
        · cases cut rest <;> simp [intoFirst]

theorem cut_of_separator {g : List Char} (h : isSeparator g = true) (rest : List (List Char)) :
    cut (g :: rest) = [] :: cut rest := by
  rw [cut, if_pos h]

/-- A cluster that separates nothing stands at the front of the first word. -/
theorem cut_of_not_separator {g : List Char} (h : isSeparator g = false)
    (rest : List (List Char)) : ∃ word words, cut (g :: rest) = (g :: word) :: words := by
  rw [cut, if_neg (by simp [h])]
  split
  · exact ⟨[], cut rest, rfl⟩
  · cases cut rest with
    | nil => exact ⟨[], [], rfl⟩
    | cons word words => exact ⟨word, words, rfl⟩

/-- Words are made of the clusters that were cut. -/
theorem mem_of_mem_cut {g : List Char} {gs word : List (List Char)} (hword : word ∈ cut gs)
    (hg : g ∈ word) : g ∈ gs := by
  induction gs generalizing word with
  | nil =>
      rw [cut, List.mem_singleton] at hword
      rw [hword] at hg
      cases hg
  | cons first rest ih =>
      rw [cut] at hword
      split at hword
      · rcases List.mem_cons.mp hword with rfl | hrest
        · cases hg
        · exact List.mem_cons_of_mem _ (ih hrest hg)
      · split at hword
        · rcases List.mem_cons.mp hword with rfl | hrest
          · rw [List.mem_singleton.mp hg]
            exact List.mem_cons_self
          · exact List.mem_cons_of_mem _ (ih hrest hg)
        · cases hcut : cut rest with
          | nil => exact absurd hcut (cut_ne_nil rest)
          | cons w ws =>
              rw [hcut] at hword ih
              rcases List.mem_cons.mp hword with rfl | hrest
              · rcases List.mem_cons.mp hg with rfl | hold
                · exact List.mem_cons_self
                · exact List.mem_cons_of_mem _ (ih List.mem_cons_self hold)
              · exact List.mem_cons_of_mem _ (ih (List.mem_cons_of_mem _ hrest) hg)

theorem all_of_mem_cut {gs word : List (List Char)}
    (h : gs.flatten.all isIdentContinue = true) (hword : word ∈ cut gs) :
    word.flatten.all isIdentContinue = true := by
  refine List.all_eq_true.mpr fun c hc => ?_
  obtain ⟨g, hg, hmem⟩ := List.mem_flatten.mp hc
  exact List.all_eq_true.mp h c (List.mem_flatten.mpr ⟨g, mem_of_mem_cut hword hg, hmem⟩)

theorem all_lowerWord {gs word : List (List Char)}
    (h : gs.flatten.all isIdentContinue = true) (hword : word ∈ cut gs) :
    (lowerWord word).all isIdentContinue = true :=
  all_lowerText (all_of_mem_cut h hword)

theorem all_capitalWord {gs word : List (List Char)}
    (h : gs.flatten.all isIdentContinue = true) (hword : word ∈ cut gs) :
    (capitalWord word).all isIdentContinue = true := by
  have hall := all_of_mem_cut h hword
  rw [capitalWord]
  cases hw : word.flatten with
  | nil => rfl
  | cons c rest =>
      rw [hw] at hall
      obtain ⟨hc, hrest⟩ := Bool.and_eq_true_iff.mp hall
      rw [List.all_append, all_of_cases hc (upperChar_cases hc), all_lowerText hrest]
      rfl

theorem all_intercalate {p : Char → Bool} {sep : List Char} {words : List (List Char)}
    (hsep : sep.all p = true) (h : ∀ word ∈ words, word.all p = true) :
    (sep.intercalate words).all p = true := by
  induction words with
  | nil => rfl
  | cons word rest ih =>
      have hword := h word List.mem_cons_self
      have hrest := ih fun w hw => h w (List.mem_cons_of_mem _ hw)
      cases rest with
      | nil => simpa using hword
      | cons next more =>
          rw [List.intercalate_cons_cons, List.all_append, List.all_append, hword, hsep, hrest]
          rfl

theorem isLegal_intercalate {word : List Char} {words : List (List Char)}
    (hword : Ident.isLegal word = true)
    (h : ∀ w ∈ words, w.all isIdentContinue = true) :
    Ident.isLegal (['_'].intercalate (word :: words)) = true := by
  cases words with
  | nil => simpa using hword
  | cons next more =>
      rw [List.intercalate_cons_cons]
      exact Ident.isLegal_append
        (Ident.isLegal_append hword (by decide)) (all_intercalate (by decide) h)

/-- In snake case an identifier stays one. -/
theorem isLegal_snakeCase {text : List Char} (h : Ident.isLegal text = true) :
    Ident.isLegal (snakeCase text) = true := by
  cases text with
  | nil => cases h
  | cons c rest =>
      obtain ⟨more, gs, hgs, hflat⟩ := clusters_cases (Ident.all_of_isLegal h)
      have hall : ∀ w ∈ (cut ((c :: more) :: gs)).map lowerWord,
          w.all isIdentContinue = true := by
        intro w hw
        obtain ⟨word, hword, rfl⟩ := List.mem_map.mp hw
        exact all_lowerWord hflat hword
      rw [snakeCase, wordsOf, if_neg (by simp), hgs]
      cases hsep : isSeparator (c :: more) with
      | true =>
          rw [cut_of_separator hsep] at hall ⊢
          cases hcut : cut gs with
          | nil => exact absurd hcut (cut_ne_nil gs)
          | cons word words =>
              rw [hcut, List.map_cons] at hall
              have hrest : (['_'].intercalate ((word :: words).map lowerWord)).all isIdentContinue
                  = true :=
                all_intercalate (by decide) fun w hw => hall w (List.mem_cons_of_mem _ hw)
              have hfirst : Ident.isLegal ['_'] = true := by decide
              rw [List.map_cons, List.map_cons, List.intercalate_cons_cons]
              exact Ident.isLegal_append hfirst hrest
      | false =>
          obtain ⟨word, words, hcut⟩ := cut_of_not_separator hsep gs
          rw [hcut, List.map_cons] at hall ⊢
          refine isLegal_intercalate ?_ fun w hw => hall w (List.mem_cons_of_mem _ hw)
          have hword : ((c :: more) :: word).flatten.all isIdentContinue = true :=
            all_of_mem_cut hflat (hcut ▸ List.mem_cons_self)
          obtain ⟨hc, -⟩ := Bool.and_eq_true_iff.mp h
          refine isLegal_lowerText ?_
          rw [List.flatten_cons, List.cons_append] at hword ⊢
          rw [Ident.isLegal, hc, (Bool.and_eq_true_iff.mp hword).2]
          rfl

/-! ## Pascal case -/

/-- Whether the first character that is neither an underscore nor a mark on one may
not start an identifier. -/
def isHeadless : List Char → Bool
  | [] => false
  | c :: rest =>
    if c == '_' then isHeadless rest else !isMark c && !isIdentStart c

theorem isHeadless_cons {c : Char} (h : c ≠ '_') (rest : List Char) :
    isHeadless (c :: rest) = (!isMark c && !isIdentStart c) := by
  rw [isHeadless, if_neg (by simpa using h)]

/-- The words of clusters with capitals. -/
def capitals (gs : List (List Char)) : List Char := (cut gs).flatMap capitalWord

theorem capitals_of_separator {g : List Char} (h : isSeparator g = true)
    (rest : List (List Char)) : capitals (g :: rest) = capitals rest := by
  rw [capitals, cut_of_separator h]
  rfl

theorem all_capitals {gs : List (List Char)} (h : gs.flatten.all isIdentContinue = true) :
    (capitals gs).all isIdentContinue = true := by
  rw [capitals, List.all_flatMap]
  exact List.all_eq_true.mpr fun word hword => all_capitalWord h hword

/-- The first character of a name in pascal case is that of the first cluster, if
this separates nothing. -/
theorem capitals_of_not_separator {c : Char} {more : List Char}
    (h : isSeparator (c :: more) = false) (rest : List (List Char)) :
    ∃ tail, capitals ((c :: more) :: rest) = upperChar c ++ tail := by
  obtain ⟨word, words, hcut⟩ := cut_of_not_separator h rest
  rw [capitals, hcut, List.flatMap_cons, capitalWord, List.flatten_cons, List.cons_append]
  exact ⟨_, List.append_assoc _ _ _⟩

theorem isLegal_capitals_of_start {c : Char} {more : List Char} {gs : List (List Char)}
    (hc : isIdentStart c = true) (hne : c :: more ≠ ['_'])
    (h : ((c :: more) :: gs).flatten.all isIdentContinue = true) :
    Ident.isLegal (capitals ((c :: more) :: gs)) = true := by
  have hcontinue := isIdentContinue_of_start hc
  have hall := all_capitals h
  obtain ⟨tail, htail⟩ := capitals_of_not_separator (isSeparator_eq hcontinue hne) gs
  rw [htail, List.all_append] at hall
  rw [htail]
  exact Ident.isLegal_append (isLegal_of_cases hc (upperChar_cases hcontinue))
    (Bool.and_eq_true_iff.mp hall).2

theorem isLegal_capitals_of_not_start {c : Char} {more : List Char} {gs : List (List Char)}
    {ending : List Char} (hc : isIdentContinue c = true) (hstart : isIdentStart c = false)
    (hmark : isMark c = false) (hne : c :: more ≠ ['_']) :
    Ident.isLegal (capitals ((c :: more) :: gs) ++ ending) = false := by
  have hiota : c.toNat ≠ 0x345 := by
    intro hn
    rw [← Char.ofNat_toNat c, hn] at hmark
    revert hmark
    decide
  obtain ⟨tail, htail⟩ := capitals_of_not_separator (isSeparator_eq hc hne) gs
  rw [htail, upperChar_of_not_isIdentStart hc hstart hiota, List.append_assoc,
    List.singleton_append, Ident.isLegal, hstart]
  rfl

/-- Behind an underscore, the first character that no cluster with an underscore
holds decides. The induction is over the underscores. -/
theorem isLegal_capitals_underscore {ending : List Char} (hending : Ident.isLegal ending = true)
    {rest : List Char} (h : rest.all isIdentContinue = true) :
    Ident.isLegal (capitals (clustersFrom .plain ['_'] rest) ++ ending) = !isHeadless rest := by
  have hsep : isSeparator ['_'] = true := by decide
  have hcontinue : isIdentContinue '_' = true := by decide
  have hending' := Ident.all_of_isLegal hending
  induction rest with
  | nil =>
      rw [clustersFrom, List.reverse_singleton, capitals_of_separator hsep]
      exact hending
  | cons c rest ih =>
      obtain ⟨hc, hrest⟩ := Bool.and_eq_true_iff.mp h
      rw [clustersFrom]
      simp only [ClusterState.plain_joins]
      by_cases hunder : c = '_'
      · subst hunder
        have hmark : isMark '_' = false := by decide
        rw [hmark, clusterRole_underscore, ClusterState.after_other, List.reverse_singleton,
          if_neg (by simp), capitals_of_separator hsep, ih hrest]
        rfl
      · rw [isHeadless_cons hunder]
        cases hmark : isMark c with
        | true =>
            obtain ⟨more, gs, hgs, hall⟩ := clustersFrom_cases
              (ClusterState.plain.after (clusterRole c)) '_' [c] hrest (by simp [hc, hcontinue])
            change clustersFrom _ [c, '_'] rest = _ at hgs
            rw [if_pos rfl, hgs]
            exact Ident.isLegal_append
              (isLegal_capitals_of_start (by decide) (by simp) hall) hending'
        | false =>
            obtain ⟨more, gs, hgs, hall⟩ := clustersFrom_cases
              (ClusterState.plain.after (clusterRole c)) c [] hrest (by simp [hc])
            change clustersFrom _ [c] rest = _ at hgs
            rw [if_neg (by simp), List.reverse_singleton, capitals_of_separator hsep, hgs]
            have hne : c :: more ≠ ['_'] := fun heq => hunder (List.cons.inj heq).1
            cases hstart : isIdentStart c with
            | true =>
                exact Ident.isLegal_append (isLegal_capitals_of_start hstart hne hall) hending'
            | false => exact isLegal_capitals_of_not_start hc hstart hmark hne

/-- A name in pascal case with an ending is an identifier, unless the name has no
head. -/
theorem isLegal_pascalCase {ending text : List Char} (hending : Ident.isLegal ending = true)
    (h : Ident.isLegal text = true) :
    Ident.isLegal (pascalCase text ++ ending) = !isHeadless text := by
  have hall := Ident.all_of_isLegal h
  cases text with
  | nil => cases h
  | cons c rest =>
      obtain ⟨hc, -⟩ := Bool.and_eq_true_iff.mp h
      obtain ⟨-, hrest⟩ := Bool.and_eq_true_iff.mp hall
      rw [pascalCase, wordsOf, if_neg (by simp)]
      change Ident.isLegal (capitals (clusters (c :: rest)) ++ ending) = _
      by_cases hunder : c = '_'
      · subst hunder
        rw [clusters, clusterRole_underscore, ClusterState.after_other]
        exact isLegal_capitals_underscore hending hrest
      · obtain ⟨more, gs, hgs, hflat⟩ := clusters_cases hall
        have hne : c :: more ≠ ['_'] := fun heq => hunder (List.cons.inj heq).1
        rw [hgs, isHeadless_cons hunder, hc]
        simpa using Ident.isLegal_append (isLegal_capitals_of_start hc hne hflat)
          (Ident.all_of_isLegal hending)

end Text

/-! ## The names of a controller -/

namespace Naming

theorem isLegal_stripMarker {name : String} (h : Ident.isLegal name.toList = true) :
    Ident.isLegal (stripMarker name).toList = true := by
  rw [stripMarker]
  split
  · next c next rest heq =>
      split
      · next hmark =>
          rw [heq, Ident.isLegal, List.all_cons] at h
          obtain ⟨-, hnext⟩ := Bool.and_eq_true_iff.mp h
          obtain ⟨hnext, hrest⟩ := Bool.and_eq_true_iff.mp hnext
          have hstart := isIdentStart_of_isUpperChar hnext (Bool.and_eq_true_iff.mp hmark).2
          rw [String.toList_ofList, Ident.isLegal, hstart, hrest]
          rfl
      · exact h
  · exact h

theorem isLegal_unitName {name suffix : String} (h : Ident.isLegal name.toList = true)
    (hsuffix : suffix.toList.all isIdentContinue = true) :
    Ident.isLegal (unitName name suffix).toList = true := by
  rw [unitName, String.toList_append]
  exact Ident.isLegal_append (isLegal_stripMarker h) hsuffix

theorem isLegal_moduleName {unit : String} (h : Ident.isLegal unit.toList = true) :
    Ident.isLegal (moduleName unit).toList = true := by
  rw [moduleName, String.toList_ofList]
  exact Text.isLegal_snakeCase h

/-- The name of a query structure is an identifier exactly if the method name has a
head. -/
theorem isLegal_queryStructName {name : String} (h : Ident.isLegal name.toList = true) :
    Ident.isLegal (queryStructName name).toList = !Text.isHeadless name.toList := by
  rw [queryStructName, String.toList_append, String.toList_ofList]
  exact Text.isLegal_pascalCase (by decide) h

example : (["_1", "__2b", "_a1", "a_1", "__"].map fun name => Text.isHeadless name.toList)
    = [true, true, false, false, false] := by decide

theorem all_queryStructName {name : String} (h : Ident.isLegal name.toList = true) :
    (queryStructName name).toList.all isIdentContinue = true := by
  have hcapitals : (Text.pascalCase name.toList).all isIdentContinue = true := by
    rw [Text.pascalCase, Text.wordsOf]
    split
    · rfl
    · refine Text.all_capitals ?_
      rw [flatten_clusters]
      exact Ident.all_of_isLegal h
  rw [queryStructName, String.toList_append, String.toList_ofList, List.all_append, hcapitals]
  decide

end Naming

end TraitRoutes
