import TraitRoutes.Binding
import TraitRoutes.Proofs.GeneratedNames

/-!
# Names that are keys

Whether a name is a key is read off the text of its identifier, which has a mark in
front if the identifier is raw. The mark changes nothing. It has no case, separates
nothing and is no digit, so it only goes in front of the first word, and no ending of a
key begins with either of its characters.

What takes some care is a name that begins with a combining character: the mark then
shares a cluster with it, and the cluster has to have the case that it had without.
Nor may the mark count as a letter in front of a sigma.
-/

namespace TraitRoutes

open Unicode Text

/-- Some word of the name ends in `id`, `key` or `code`. -/
def HasKeyWord (name : String) : Prop :=
  ∃ word ∈ nameWords name, ∃ ending ∈ ["id", "key", "code"], ending.toList <:+ word

theorem isKeyName_iff {name : String} : isKeyName name = true ↔ HasKeyWord name := by
  simp only [isKeyName, HasKeyWord, keyEndings, List.any_eq_true, List.isSuffixOf_iff_suffix]

/-- An underscore with a combining mark separates no words and is cut at all the same. -/
example : Binding.resolve .simple "id_\u0301x" .get = .route := by decide +kernel

/-- Whether a word ends like a key. -/
def isKeyWord (word : List Char) : Bool := keyEndings.any fun e => e.toList.isSuffixOf word

/-- Whether a word has a piece between underscores that ends like a key. -/
def hasKeyPiece (word : List Char) : Bool := (word.splitOn '_').any isKeyWord

theorem any_splitOn_intercalate (words : List (List Char)) :
    ((['_'].intercalate words).splitOn '_').any isKeyWord = words.any hasKeyPiece := by
  induction words with
  | nil => rfl
  | cons word words ih =>
      cases words with
      | nil => rw [List.intercalate_singleton, List.any_cons, List.any_nil, Bool.or_false]; rfl
      | cons next words =>
          have hcut : (word ++ '_' :: ['_'].intercalate (next :: words)).splitOn '_'
              = word.splitOn '_' ++ (['_'].intercalate (next :: words)).splitOn '_' :=
            List.splitOnP_append_cons _ _ (beq_self_eq_true '_')
          rw [List.intercalate_cons_cons, List.append_assoc, List.singleton_append, hcut,
            List.any_append, ih]
          rfl

theorem isKeyName_eq (name : String) :
    isKeyName name = (wordsOf name.toList).any fun word => hasKeyPiece (lowerWord word) := by
  change (nameWords name).any isKeyWord = _
  rw [nameWords, snakeCase, any_splitOn_intercalate, List.any_map]
  rfl

/-- A character that no ending begins with makes no key of a word. -/
theorem isKeyWord_cons {c : Char} (hc : c ∉ ['i', 'k', 'c']) (word : List Char) :
    isKeyWord (c :: word) = isKeyWord word := by
  have hhead : ∀ e ∈ keyEndings, e.toList.head? ∈ ['i', 'k', 'c'].map some := by decide
  have hending : ∀ e ∈ keyEndings, e.toList.isSuffixOf (c :: word) = e.toList.isSuffixOf word := by
    intro e he
    rw [Bool.eq_iff_iff, List.isSuffixOf_iff_suffix, List.isSuffixOf_iff_suffix,
      List.suffix_cons_iff]
    refine or_iff_right fun heq => hc ?_
    have hmem := hhead e he
    rw [heq, List.head?_cons] at hmem
    obtain ⟨d, hd, hdc⟩ := List.mem_map.mp hmem
    rwa [Option.some.inj hdc] at hd
  rw [isKeyWord, isKeyWord, Bool.eq_iff_iff, List.any_eq_true, List.any_eq_true]
  exact exists_congr fun e => and_congr_right fun he => by rw [hending e he]

theorem hasKeyPiece_cons {c : Char} (hc : c ∉ ['i', 'k', 'c', '_']) (word : List Char) :
    hasKeyPiece (c :: word) = hasKeyPiece word := by
  simp only [List.mem_cons, List.not_mem_nil, or_false, not_or] at hc
  have hsplit : (c :: word).splitOn '_' = (word.splitOn '_').modifyHead (c :: ·) := by
    rw [List.splitOn, List.splitOnP_cons_eq_if_modifyHead, if_neg (by simp [hc.2.2.2])]
    rfl
  obtain ⟨first, rest, hword⟩ := List.exists_cons_of_ne_nil (List.splitOn_ne_nil '_' word)
  rw [hasKeyPiece, hasKeyPiece, hsplit, hword, List.modifyHead_cons, List.any_cons, List.any_cons,
    isKeyWord_cons (by simp [hc])]

/-! ## The mark of raw identifiers -/

theorem meetsCased_mark (before more : List Char) :
    meetsCased (before ++ '#' :: more) = meetsCased before := by
  have hignorable : caseIgnorable.has '#'.toNat = false := by decide
  have hcased : cased.has '#'.toNat = false := by decide
  induction before with
  | nil =>
      rw [List.nil_append, meetsCased, List.dropWhile_cons, hignorable]
      exact hcased
  | cons c before ih =>
      rw [meetsCased, meetsCased, List.cons_append, List.dropWhile_cons, List.dropWhile_cons]
      by_cases hc : caseIgnorable.has c.toNat = true
      · rw [if_pos hc, if_pos hc]
        exact ih
      · rw [if_neg hc, if_neg hc]

/-- The mark is no letter to what is behind it. -/
theorem lowerFrom_mark (before more cs : List Char) :
    lowerFrom (before ++ '#' :: more) cs = lowerFrom before cs := by
  induction cs generalizing before with
  | nil => rfl
  | cons c rest ih => rw [lowerFrom, lowerFrom, meetsCased_mark, ← List.cons_append, ih]

theorem lowerText_mark (cs : List Char) : lowerText ('#' :: cs) = '#' :: lowerText cs := by
  have hmark := lowerFrom_mark [] [] cs
  rw [lowerText, lowerFrom, lowerText, ← hmark]
  rfl

theorem lowerText_raw (cs : List Char) :
    lowerText ('r' :: '#' :: cs) = 'r' :: '#' :: lowerText cs := by
  have hmark := lowerFrom_mark [] ['r'] cs
  rw [lowerText, lowerFrom, lowerFrom, lowerText, ← hmark]
  rfl

theorem upperText_mark (cs : List Char) : upperText ('#' :: cs) = '#' :: upperText cs := by
  rw [upperText, List.flatMap_cons]
  rfl

theorem isLowerCluster_mark (g : List Char) : isLowerCluster ('#' :: g) = isLowerCluster g := by
  rw [isLowerCluster, isLowerCluster, lowerText_mark, upperText_mark]
  simp [bne]

theorem isUpperCluster_mark (g : List Char) : isUpperCluster ('#' :: g) = isUpperCluster g := by
  rw [isUpperCluster, isUpperCluster, lowerText_mark, upperText_mark]
  simp [bne]

theorem endsWord_mark {g : List Char} (hdigit : isDigitCluster g = false)
    (rest : List (List Char)) : endsWord ('#' :: g) rest = endsWord g rest := by
  have hmark : isDigitCluster ('#' :: g) = false := by
    rw [isDigitCluster, List.all_cons]
    rfl
  cases rest with
  | nil => rfl
  | cons h more =>
      rw [endsWord, endsWord, isLowerCluster_mark, isUpperCluster_mark, hmark, hdigit]

/-- Behind the mark, the clusters of a name are what they were, but for the first one if
it begins with a combining character. -/
theorem clusters_mark (c : Char) (rest : List Char) :
    ∃ more gs, clusters (c :: rest) = (c :: more) :: gs ∧
      clusters ('r' :: '#' :: c :: rest)
        = ['r'] :: if isMark c then ('#' :: c :: more) :: gs else ['#'] :: (c :: more) :: gs := by
  obtain ⟨more, gs, hhead⟩ := clustersFrom_head (ClusterState.plain.after (clusterRole c)) rest
  have hother : clusterRole 'r' = .other ∧ clusterRole '#' = .other := by decide
  refine ⟨more, gs, hhead [c], ?_⟩
  rw [clusters, hother.1, ClusterState.after_other, clustersFrom, hother.2]
  change ['r'] :: clustersFrom .plain ['#'] (c :: rest) = _
  rw [clustersFrom]
  simp only [ClusterState.plain_joins, hhead]
  rfl

theorem endsWord_hash (rest : List (List Char)) : endsWord ['#'] rest = false := by
  have hcase : isLowerCluster ['#'] = false ∧ isUpperCluster ['#'] = false ∧
      isDigitCluster ['#'] = false := by
    decide
  cases rest with
  | nil => rfl
  | cons h more =>
      rw [endsWord, hcase.1, hcase.2.1, hcase.2.2]
      rfl

/-- A cluster that separates nothing goes into the first word or is one of its own. -/
theorem cut_cons_cases {g : List Char} {rest word : List (List Char)}
    {words : List (List (List Char))} (hsep : isSeparator g = false)
    (hcut : cut rest = word :: words) :
    cut (g :: rest) = (g :: word) :: words ∨ cut (g :: rest) = [g] :: word :: words := by
  rw [cut, if_neg (by simp [hsep]), hcut]
  split
  · exact .inr rfl
  · exact .inl rfl

theorem not_isDigit_of_isIdentStart {c : Char} (hc : isIdentStart c = true) :
    c.isDigit = false := by
  have hascii : ∀ c : Char, c.toNat < 128 → isIdentStart c = true → c.isDigit = false :=
    forall_ascii (by decide)
  by_cases hlt : c.toNat < 128
  · exact hascii c hlt hc
  · refine Bool.eq_false_iff.mpr fun hdigit => hlt ?_
    have hnine := (Bool.and_eq_true_iff.mp hdigit).2
    simp only [decide_eq_true_eq] at hnine
    have : c.toNat ≤ 57 := hnine
    omega

/-- The words of a raw identifier are those of its name with the mark in front, of which
the letter may be a word of its own. -/
theorem words_mark {c : Char} (hc : isIdentStart c = true) (rest : List Char) :
    ∃ word words marked, wordsOf (c :: rest) = word :: words ∧
      marked.flatten = '#' :: word.flatten ∧
      (wordsOf ('r' :: '#' :: c :: rest) = (['r'] :: marked) :: words ∨
        wordsOf ('r' :: '#' :: c :: rest) = [['r']] :: marked :: words) := by
  obtain ⟨more, gs, hname, hraw⟩ := clusters_mark c rest
  have hsep : isSeparator ['r'] = false ∧ isSeparator ['#'] = false := by decide
  rw [wordsOf, wordsOf, if_neg (by simp), if_neg (by simp), hname, hraw]
  -- A combining character in front shares a cluster with the mark.
  cases hmark : isMark c with
  | false =>
      obtain ⟨word, words, hcut⟩ := List.exists_cons_of_ne_nil (cut_ne_nil ((c :: more) :: gs))
      have hhash : cut (['#'] :: (c :: more) :: gs) = (['#'] :: word) :: words := by
        rw [cut, if_neg (by simp [hsep.2]), endsWord_hash, if_neg (by simp), hcut]
        rfl
      exact ⟨word, words, ['#'] :: word, hcut, rfl, cut_cons_cases hsep.1 hhash⟩
  | true =>
      have hfirst : isSeparator (c :: more) = false := by
        refine isSeparator_eq (isIdentContinue_of_start hc) fun heq => ?_
        rw [(List.cons.inj heq).1] at hmark
        revert hmark
        decide
      have hdigit : isDigitCluster (c :: more) = false := by
        rw [isDigitCluster, List.all_cons, not_isDigit_of_isIdentStart hc, Bool.false_and]
      have hhash : ∃ word words, cut ((c :: more) :: gs) = ((c :: more) :: word) :: words ∧
          cut (('#' :: c :: more) :: gs) = (('#' :: c :: more) :: word) :: words := by
        have hsep : isSeparator ('#' :: c :: more) = false := by
          simp [isSeparator]
        rw [cut, cut, hfirst, hsep, endsWord_mark hdigit]
        cases endsWord (c :: more) gs with
        | true => exact ⟨[], cut gs, rfl, rfl⟩
        | false =>
            obtain ⟨word, words, hcut⟩ := List.exists_cons_of_ne_nil (cut_ne_nil gs)
            rw [hcut]
            exact ⟨word, words, rfl, rfl⟩
      obtain ⟨word, words, hcut, hhash⟩ := hhash
      exact ⟨_, words, _, hcut, rfl, cut_cons_cases hsep.1 hhash⟩

/-- The mark of a raw identifier makes no difference to whether it is a key. -/
theorem isKeyName_text (i : Ident) : isKeyName i.text = isKeyName i.name := by
  have hlegal := i.legal
  rw [Ident.text]
  split
  · rw [isKeyName_eq, isKeyName_eq, String.toList_append]
    cases hcs : i.name.toList with
    | nil => rw [hcs] at hlegal; cases hlegal
    | cons c rest =>
        rw [hcs] at hlegal
        obtain ⟨word, words, marked, hname, hmarked, hraw⟩ :=
          words_mark (Bool.and_eq_true_iff.mp hlegal).1 rest
        have hkey : hasKeyPiece (lowerWord marked) = hasKeyPiece (lowerWord word) := by
          rw [lowerWord, lowerWord, hmarked, lowerText_mark, hasKeyPiece_cons (by decide)]
        have hfirst : hasKeyPiece (lowerWord (['r'] :: marked)) = hasKeyPiece (lowerWord word) := by
          rw [lowerWord, lowerWord, List.flatten_cons, hmarked, List.singleton_append,
            lowerText_raw, hasKeyPiece_cons (by decide), hasKeyPiece_cons (by decide)]
        change (wordsOf ('r' :: '#' :: c :: rest)).any _ = _
        rw [hname, List.any_cons]
        rcases hraw with hraw | hraw
        · rw [hraw, List.any_cons, hfirst]
        · rw [hraw, List.any_cons, List.any_cons, hkey]
          rfl
  · rfl

end TraitRoutes
