import Mathlib.Data.List.Forall2
import TraitRoutes.Http.VerbInference
import TraitRoutes.Proofs.KeyNames
import TraitRoutes.Proofs.PlainNames

/-!
# Styles of names

A name of several words is written in one of three styles, and every style is read as the
same words again. What ends a word is an underscore, or a capital behind a small letter,
and in a name in one of the styles neither stands anywhere else: a word has at least two
letters, so no two capitals meet, and the border that would be seen in front of the last
of several capitals does not come up.

Only the first letter of a word may have another case than the word itself, so its lower
case is the word, and with a capital in front it is the same whatever it was. Route,
query structure and binding follow from one of these two. The verb is read without words,
from the letters in lower case, which are the same in all styles as well.
-/

namespace TraitRoutes.Text

open Unicode

/-- The styles in which the words of a name are written. -/
inductive Style where
  | snake | camel | pascal
deriving DecidableEq, Repr

/-- A word with a capital in front. -/
def capitalized : List Char → List Char
  | [] => []
  | c :: rest => c.toUpper :: rest

namespace Style

/-- The first word of a name. -/
def first : Style → List Char → List Char
  | pascal, word => capitalized word
  | _, word => word

/-- A further word of a name. -/
def next : Style → List Char → List Char
  | snake, word => '_' :: word
  | _, word => capitalized word

/-- The name of the given words. -/
def spell (style : Style) : List (List Char) → List Char
  | [] => []
  | word :: words => style.first word ++ words.flatMap style.next

example : [snake, camel, pascal].map (fun style =>
      String.ofList (style.spell ["get".toList, "item".toList, "async".toList]))
    = ["get_item_async", "getItemAsync", "GetItemAsync"] := by decide

end Style

/-- At least two small letters of ASCII, and nothing else. -/
structure IsWord (word : List Char) : Prop where
  two : 2 ≤ word.length
  small : ∀ c ∈ word, c.isLower = true

/-! ## Letters -/

theorem mem_plainLetters_of_isLower {c : Char} (h : c.isLower = true) : c ∈ plainLetters := by
  have hascii : ∀ c : Char, c.toNat < 128 → c.isLower = true → c ∈ plainLetters :=
    forall_ascii (by decide)
  refine hascii c ?_ h
  have hz := (Bool.and_eq_true_iff.mp h).2
  have : c.toNat ≤ 122 := of_decide_eq_true hz
  omega

/-- A word has a first letter, which alone may be written in another case, and others. -/
theorem IsWord.exists_cons {word : List Char} (h : IsWord word) :
    ∃ c rest, word = c :: rest ∧ c ∈ plainLetters ∧ rest ≠ [] ∧ ∀ d ∈ rest, d ∈ plainLetters := by
  have hletters : ∀ d ∈ word, d ∈ plainLetters := fun d hd =>
    mem_plainLetters_of_isLower (h.small d hd)
  have htwo := h.two
  match word, hletters, htwo with
  | c :: d :: rest, hletters, _ =>
      exact ⟨c, d :: rest, rfl, hletters c List.mem_cons_self, List.cons_ne_nil d rest,
        fun e he => hletters e (List.mem_cons_of_mem c he)⟩

theorem IsWord.not_mem {word : List Char} (h : IsWord word) {c : Char} (hc : c.isLower = false) :
    c ∉ word := by
  intro hmem
  rw [h.small c hmem] at hc
  cases hc

/-- The letters of the names: small ones and their capitals. -/
def nameLetters : List Char := plainLetters ++ plainLetters.map Char.toUpper

theorem nameLetter_cases : ∀ c ∈ nameLetters, clusterRole c = .other ∧
    isSeparator [c] = false ∧ isDigitCluster [c] = false ∧ c ≠ '_' :=
  List.all_iff_forall_prop.mp (by decide)

theorem small_cases : ∀ c ∈ plainLetters, isLowerCluster [c] = true ∧ isUpperCluster [c] = false ∧
    lowerChar c = [c] :=
  List.all_iff_forall_prop.mp (by decide)

theorem toUpper_cases : ∀ c ∈ plainLetters, isUpperCluster [c.toUpper] = true ∧
    lowerChar c.toUpper = [c] ∧ upperChar c.toUpper = [c.toUpper] ∧ (c.toUpper == 'Σ') = false :=
  List.all_iff_forall_prop.mp (by decide)

theorem mem_nameLetters_small {c : Char} (h : c ∈ plainLetters) : c ∈ nameLetters :=
  List.mem_append_left _ h

theorem mem_nameLetters_toUpper {c : Char} (h : c ∈ plainLetters) : c.toUpper ∈ nameLetters :=
  List.mem_append_right _ (List.mem_map_of_mem h)

/-! ## Cutting names into words -/

/-- The characters of a text, each as a cluster. -/
def singles (text : List Char) : List (List Char) := text.map fun c => [c]

/-- Clusters that a word ends in front of, and the words that they are cut into. -/
inductive Behind : List (List Char) → List (List (List Char)) → Prop
  | nothing : Behind [] []
  | underscore (rest : List (List Char)) : Behind (['_'] :: rest) (cut rest)
  | capital {c : Char} (hc : c ∈ plainLetters) (rest : List (List Char)) :
      Behind ([c.toUpper] :: rest) (cut ([c.toUpper] :: rest))

/-- A word ends behind a small letter. -/
theorem cut_last {c : Char} (hc : c ∈ plainLetters) {rest : List (List Char)}
    {words : List (List (List Char))} (h : Behind rest words) :
    cut ([c] :: rest) = [[c]] :: words := by
  obtain ⟨-, hsep, hdigit, -⟩ := nameLetter_cases c (mem_nameLetters_small hc)
  obtain ⟨hlower, hupper, -⟩ := small_cases c hc
  rw [cut, hsep]
  cases h with
  | nothing => rfl
  | underscore rest =>
      have hcase : isUpperCluster ['_'] = false ∧ isDigitCluster ['_'] = false := by decide
      have hends : endsWord [c] (['_'] :: rest) = false := by
        simp [endsWord, hupper, hdigit, hcase]
      rw [hends, cut_of_separator (by decide)]
      rfl
  | @capital d hd rest =>
      have hends : endsWord [c] ([d.toUpper] :: rest) = true := by
        simp [endsWord, hlower, (toUpper_cases d hd).1]
      rw [hends]
      rfl

/-- No word ends in front of a small letter. -/
theorem cut_inside {c d : Char} (hc : c ∈ nameLetters) (hd : d ∈ plainLetters)
    {rest word : List (List Char)} {words : List (List (List Char))}
    (h : cut ([d] :: rest) = word :: words) : cut ([c] :: [d] :: rest) = ([c] :: word) :: words := by
  obtain ⟨-, hsep, hdigit, -⟩ := nameLetter_cases c hc
  obtain ⟨-, -, hdigit', -⟩ := nameLetter_cases d (mem_nameLetters_small hd)
  have hends : endsWord [c] ([d] :: rest) = false := by
    simp [endsWord, hdigit, hdigit', (small_cases d hd).2.1]
  rw [cut, hsep, hends, h]
  rfl

/-- Small letters are one word, with what comes before it in the same word. -/
theorem cut_small {word : List Char} (hne : word ≠ []) (small : ∀ c ∈ word, c ∈ plainLetters)
    {rest : List (List Char)} {words : List (List (List Char))} (h : Behind rest words) :
    cut (singles word ++ rest) = singles word :: words := by
  induction word with
  | nil => exact absurd rfl hne
  | cons c more ih =>
      have hc := small c List.mem_cons_self
      cases more with
      | nil => exact cut_last hc h
      | cons d more =>
          exact cut_inside (mem_nameLetters_small hc) (small d (.tail _ List.mem_cons_self))
            (ih (List.cons_ne_nil d more) fun e he => small e (List.mem_cons_of_mem c he))

theorem cut_capitalized {word : List Char} (hword : IsWord word) {rest : List (List Char)}
    {words : List (List (List Char))} (h : Behind rest words) :
    cut (singles (capitalized word) ++ rest) = singles (capitalized word) :: words := by
  obtain ⟨c, more, rfl, hc, hne, hmore⟩ := hword.exists_cons
  cases more with
  | nil => exact absurd rfl hne
  | cons d more =>
      exact cut_inside (mem_nameLetters_toUpper hc) (hmore d List.mem_cons_self)
        (cut_small hne hmore h)

/-! ## Names are read as their words -/

/-- The clusters are those of the word, in one case or the other. -/
structure Reads (word : List Char) (clusters : List (List Char)) : Prop where
  lower : lowerWord clusters = word
  capital : capitalWord clusters = capitalized word

theorem flatten_singles (text : List Char) : (singles text).flatten = text :=
  List.flatMap_def.symm.trans (List.flatMap_singleton' text)

theorem reads_singles {word : List Char} (h : IsWord word) : Reads word (singles word) := by
  obtain ⟨c, rest, rfl, hc, -, hrest⟩ := h.exists_cons
  have hall : ∀ d ∈ c :: rest, d ∈ plainLetters := List.forall_mem_cons.mpr ⟨hc, hrest⟩
  constructor
  · rw [lowerWord, flatten_singles]
    exact lowerFrom_plain hall
  · rw [capitalWord, flatten_singles]
    show upperChar c ++ lowerFrom [] rest = _
    rw [(capital_cases c hc).1, lowerFrom_plain hrest]
    rfl

theorem reads_capitalized {word : List Char} (h : IsWord word) :
    Reads word (singles (capitalized word)) := by
  obtain ⟨c, rest, rfl, hc, -, hrest⟩ := h.exists_cons
  obtain ⟨-, hlower, hupper, hsigma⟩ := toUpper_cases c hc
  constructor
  · rw [lowerWord, flatten_singles, capitalized, lowerText, lowerFrom, hsigma]
    simp only [Bool.false_eq_true, if_false, hlower, lowerFrom_plain hrest]
    rfl
  · rw [capitalWord, flatten_singles, capitalized]
    show upperChar c.toUpper ++ lowerFrom [] rest = _
    rw [hupper, lowerFrom_plain hrest]
    rfl

variable {words : List (List Char)}

/-- Behind the first word, a style goes on with something that ends a word, and is cut into
the words. -/
theorem Style.exists_behind (style : Style) (hwords : ∀ word ∈ words, IsWord word) :
    ∃ more, Behind (singles (words.flatMap style.next)) more ∧ List.Forall₂ Reads words more := by
  induction words with
  | nil => exact ⟨[], .nothing, .nil⟩
  | cons word words ih =>
      obtain ⟨hword, hrest⟩ := List.forall_mem_cons.mp hwords
      obtain ⟨more, hbehind, hreads⟩ := ih hrest
      obtain ⟨c, rest, rfl, hc, hne, hmore⟩ := hword.exists_cons
      have hcapital : ∃ clusters, Behind (singles (capitalized (c :: rest)
          ++ words.flatMap style.next)) clusters ∧ List.Forall₂ Reads ((c :: rest) :: words)
            clusters := by
        refine ⟨singles (capitalized (c :: rest)) :: more, ?_, .cons (reads_capitalized hword) hreads⟩
        rw [← cut_capitalized hword hbehind, singles, singles, singles, List.map_append]
        exact .capital hc _
      cases style with
      | snake =>
          refine ⟨singles (c :: rest) :: more, ?_, .cons (reads_singles hword) hreads⟩
          rw [← cut_small (List.cons_ne_nil c rest) (List.forall_mem_cons.mpr ⟨hc, hmore⟩) hbehind,
            singles, singles, singles, ← List.map_append]
          exact .underscore _
      | camel => exact hcapital
      | pascal => exact hcapital

/-- A name is all letters and underscores. -/
theorem Style.clusters_spell (style : Style) (hwords : ∀ word ∈ words, IsWord word) :
    clusters (style.spell words) = singles (style.spell words) := by
  have hword : ∀ word, IsWord word → ∀ text ∈ [word, '_' :: word, capitalized word],
      ∀ c ∈ text, clusterRole c = .other := by
    intro word hword
    obtain ⟨c, rest, rfl, hc, -, hrest⟩ := hword.exists_cons
    have hsmall : ∀ {d}, d ∈ plainLetters → clusterRole d = .other := fun hd =>
      (nameLetter_cases _ (mem_nameLetters_small hd)).1
    have hcapital : clusterRole c.toUpper = .other :=
      (nameLetter_cases _ (mem_nameLetters_toUpper hc)).1
    simp only [List.forall_mem_cons, capitalized]
    refine ⟨⟨hsmall hc, fun d hd => hsmall (hrest d hd)⟩,
      ⟨clusterRole_underscore, hsmall hc, fun d hd => hsmall (hrest d hd)⟩,
      ⟨hcapital, fun d hd => hsmall (hrest d hd)⟩, by simp⟩
  refine clusters_other fun c hc => ?_
  cases words with
  | nil => cases hc
  | cons word words =>
      obtain ⟨hfirst, hrest⟩ := List.forall_mem_cons.mp hwords
      rcases List.mem_append.mp hc with hc | hc
      · refine hword word hfirst (style.first word) ?_ c hc
        cases style <;> simp [Style.first]
      · obtain ⟨further, hfurther, hc⟩ := List.mem_flatMap.mp hc
        refine hword further (hrest further hfurther) (style.next further) ?_ c hc
        cases style <;> simp [Style.next]

/-- A name in any style is cut into its words. -/
theorem Style.reads_spell (style : Style) (hwords : ∀ word ∈ words, IsWord word) :
    List.Forall₂ Reads words (wordsOf (style.spell words)) := by
  cases words with
  | nil => exact .nil
  | cons word words =>
      obtain ⟨hword, hrest⟩ := List.forall_mem_cons.mp hwords
      obtain ⟨more, hbehind, hreads⟩ := style.exists_behind hrest
      have hcut : ∃ clusters, cut (singles (style.spell (word :: words))) = clusters :: more ∧
          Reads word clusters := by
        rw [Style.spell, singles, List.map_append]
        obtain ⟨c, rest, rfl, hc, hne, hmore⟩ := hword.exists_cons
        have hsmall := cut_small (List.cons_ne_nil c rest)
          (List.forall_mem_cons.mpr ⟨hc, hmore⟩) hbehind
        cases style with
        | snake => exact ⟨_, hsmall, reads_singles hword⟩
        | camel => exact ⟨_, hsmall, reads_singles hword⟩
        | pascal => exact ⟨_, cut_capitalized hword hbehind, reads_capitalized hword⟩
      obtain ⟨clusters, hclusters, hfirst⟩ := hcut
      have hne : (style.spell (word :: words)).isEmpty = false := by
        obtain ⟨c, rest, rfl, -⟩ := hword.exists_cons
        cases style <;> rfl
      rw [wordsOf, hne, if_neg Bool.false_ne_true, style.clusters_spell hwords, hclusters]
      exact .cons hfirst hreads

/-- Words in lower case are the words, and words with capitals are the words with capitals. -/
theorem map_of_reads {clusters : List (List (List Char))}
    (h : List.Forall₂ Reads words clusters) :
    clusters.map lowerWord = words ∧ clusters.flatMap capitalWord = words.flatMap capitalized := by
  induction h with
  | nil => exact ⟨rfl, rfl⟩
  | cons hword _ ih =>
      rw [List.map_cons, List.flatMap_cons, List.flatMap_cons, hword.lower, hword.capital, ih.1,
        ih.2]
      exact ⟨rfl, rfl⟩

theorem Style.map_lowerWord_spell (style : Style) (hwords : ∀ word ∈ words, IsWord word) :
    (wordsOf (style.spell words)).map lowerWord = words :=
  (map_of_reads (style.reads_spell hwords)).1

theorem Style.kebabCase_spell (style : Style) (hwords : ∀ word ∈ words, IsWord word) :
    kebabCase (style.spell words) = ['-'].intercalate words := by
  rw [kebabCase, style.map_lowerWord_spell hwords]

theorem Style.pascalCase_spell (style : Style) (hwords : ∀ word ∈ words, IsWord word) :
    pascalCase (style.spell words) = words.flatMap capitalized :=
  (map_of_reads (style.reads_spell hwords)).2

/-! ## Names without words -/

theorem lowered_small {text : List Char} (h : ∀ c ∈ text, c ∈ plainLetters) :
    (text.filter (· != '_')).flatMap lowerChar = text := by
  have hkeep : text.filter (· != '_') = text := List.filter_eq_self.mpr fun c hc =>
    bne_iff_ne.mpr (nameLetter_cases c (mem_nameLetters_small (h c hc))).2.2.2
  rw [hkeep, List.flatMap_congr fun c hc => (small_cases c (h c hc)).2.2,
    List.flatMap_singleton']

/-- The letters of a word are the same in every case, and an underscore is none of them. -/
theorem IsWord.lowered {word : List Char} (h : IsWord word) :
    ∀ text ∈ [word, '_' :: word, capitalized word],
      (text.filter (· != '_')).flatMap lowerChar = word := by
  obtain ⟨c, rest, rfl, hc, -, hrest⟩ := h.exists_cons
  have hall := lowered_small (List.forall_mem_cons.mpr ⟨hc, hrest⟩)
  have hcapital : c.toUpper ≠ '_' := (nameLetter_cases _ (mem_nameLetters_toUpper hc)).2.2.2
  simp only [List.forall_mem_cons]
  refine ⟨hall, ?_, ?_, by simp⟩
  · rw [List.filter_cons_of_neg (by simp)]
    exact hall
  · rw [capitalized, List.filter_cons_of_pos (by simpa using hcapital), List.flatMap_cons,
      lowered_small hrest, (toUpper_cases c hc).2.1]
    rfl

/-- Without underscores and in lower case, a name is its words put together. -/
theorem Style.normalizedName_spell (style : Style) (hwords : ∀ word ∈ words, IsWord word) :
    Verb.normalizedName (String.ofList (style.spell words)) = words.flatten := by
  rw [Verb.normalizedName, String.toList_ofList]
  have hnext : ∀ words : List (List Char), (∀ word ∈ words, IsWord word) →
      ((words.flatMap style.next).filter (· != '_')).flatMap lowerChar = words.flatten := by
    intro words hwords
    induction words with
    | nil => rfl
    | cons word words ih =>
        obtain ⟨hword, hrest⟩ := List.forall_mem_cons.mp hwords
        rw [List.flatMap_cons, List.filter_append, List.flatMap_append, ih hrest, List.flatten_cons,
          hword.lowered _ (by cases style <;> simp [Style.next])]
  cases words with
  | nil => rfl
  | cons word words =>
      obtain ⟨hword, hrest⟩ := List.forall_mem_cons.mp hwords
      rw [Style.spell, List.filter_append, List.flatMap_append, hnext words hrest,
        List.flatten_cons, hword.lowered _ (by cases style <;> simp [Style.first])]

end TraitRoutes.Text

/-! ## What is made from a name -/

namespace TraitRoutes

open Text (Style IsWord capitalized)

theorem Verb.infer_congr {a b : String} (h : normalizedName a = normalizedName b) :
    infer a = infer b := by
  rw [infer, infer, h]

namespace Naming

/-- A final word that is joined by a hyphen is `async` if the name ends like this. -/
theorem asyncEnding_suffix_iff {front last : List Char} (hlast : '-' ∉ last) :
    asyncEnding <:+ front ++ '-' :: last ↔ last = "async".toList := by
  constructor
  · intro h
    have hends : '-' :: last <:+ front ++ '-' :: last := List.suffix_append front _
    rcases List.suffix_or_suffix_of_suffix h hends with hshort | hlong
    · rcases List.suffix_cons_iff.mp hshort with heq | hinner
      · exact (List.cons.inj heq).2.symm
      · exact absurd (hinner.subset List.mem_cons_self) hlast
    · rcases List.suffix_cons_iff.mp hlong with heq | hinner
      · exact (List.cons.inj heq).2
      · exact absurd (hinner.subset List.mem_cons_self) (by decide)
  · rintro rfl
    exact List.suffix_append front _

/-- The words of a route: all of a name, but for a final `async` that is not the only one. -/
def routeWords (words : List (List Char)) : List (List Char) :=
  if words.getLast? = some "async".toList ∧ 1 < words.length then words.dropLast else words

theorem intercalate_concat {sep last : List Char} {front : List (List Char)} (h : front ≠ []) :
    sep.intercalate (front ++ [last]) = sep.intercalate front ++ sep ++ last := by
  induction front with
  | nil => exact absurd rfl h
  | cons word front ih =>
      by_cases hfront : front = []
      · subst hfront
        simp
      · rw [List.cons_append, List.intercalate_cons_of_ne_nil (by simp), ih hfront,
          List.intercalate_cons_of_ne_nil hfront]
        simp only [List.append_assoc]

/-- The route of a name leaves out a final `async` that is joined to something. -/
theorem routeSuffix_spell (style : Style) {words : List (List Char)}
    (hwords : ∀ word ∈ words, IsWord word) :
    routeSuffix (String.ofList (style.spell words))
      = String.ofList (['-'].intercalate (routeWords words)) := by
  rw [routeSuffix, String.toList_ofList, style.kebabCase_spell hwords]
  rcases List.eq_nil_or_concat words with rfl | ⟨front, last, rfl⟩
  · rfl
  rw [List.concat_eq_append] at hwords ⊢
  have hlast : '-' ∉ last := (hwords last (by simp)).not_mem (by decide)
  by_cases hfront : front = []
  · subst hfront
    have hno : asyncEnding.isSuffixOf last = false := Bool.eq_false_iff.mpr fun h =>
      hlast ((List.isSuffixOf_iff_suffix.mp h).subset List.mem_cons_self)
    rw [routeWords, List.nil_append, List.intercalate_singleton, hno, if_neg (by simp)]
    simp
  · have hlength : 1 < (front ++ [last]).length := by
      have := List.length_pos_of_ne_nil hfront
      rw [List.length_append, List.length_singleton]
      omega
    have hends : asyncEnding.isSuffixOf (['-'].intercalate front ++ '-' :: last) = true ↔
        last = "async".toList := List.isSuffixOf_iff_suffix.trans (asyncEnding_suffix_iff hlast)
    rw [intercalate_concat hfront, List.append_assoc, List.singleton_append, routeWords,
      List.getLast?_concat, List.dropLast_concat]
    by_cases hasync : last = "async".toList
    · have hstem : (['-'].intercalate front ++ '-' :: last).take
          ((['-'].intercalate front ++ '-' :: last).length - asyncEnding.length)
            = ['-'].intercalate front := by
        rw [hasync, List.length_append, show ('-' :: "async".toList) = asyncEnding from rfl,
          Nat.add_sub_cancel, List.take_left]
      have hne : (['-'].intercalate front).isEmpty = false := by
        obtain ⟨word, rest, rfl⟩ := List.exists_cons_of_ne_nil hfront
        obtain ⟨c, more, rfl, -⟩ := (hwords word (by simp)).exists_cons
        cases rest with
        | nil => rfl
        | cons second rest => rw [List.intercalate_cons_cons]; rfl
      rw [hstem, hends.mpr hasync, hne, if_pos (by decide),
        if_pos ⟨congrArg some hasync, hlength⟩]
    · rw [Bool.eq_false_iff.mpr (mt hends.mp hasync), if_neg (by simp),
        if_neg fun h => hasync (Option.some.inj h.1), intercalate_concat hfront, List.append_assoc,
        List.singleton_append]

theorem queryStructName_spell (style : Style) {words : List (List Char)}
    (hwords : ∀ word ∈ words, IsWord word) :
    queryStructName (String.ofList (style.spell words))
      = String.ofList (words.flatMap capitalized) ++ "Query" := by
  rw [queryStructName, String.toList_ofList, style.pascalCase_spell hwords]

end Naming

theorem hasKeyWord_spell (style : Style) {words : List (List Char)}
    (hwords : ∀ word ∈ words, IsWord word) :
    HasKeyWord (String.ofList (style.spell words)) ↔
      ∃ word ∈ words, ∃ ending ∈ ["id", "key", "code"], ending.toList <:+ word := by
  rw [HasKeyWord, nameWords, Text.snakeCase, String.toList_ofList, style.map_lowerWord_spell hwords]
  cases words with
  | nil => simp
  | cons word words =>
      rw [List.splitOn_intercalate '_' (fun w hw => (hwords w hw).not_mem (by decide))
        (List.cons_ne_nil word words)]

/-- Nothing depends on the style of a name. The verb is inferred from its words put together,
the route and the query structure are made from the words, and a scalar of this name is a
key exactly if one of the words ends like one. -/
theorem spell_agrees {words : List (List Char)} (hwords : ∀ word ∈ words, IsWord word)
    (style : Style) :
    Verb.infer (String.ofList (style.spell words)) = Verb.infer (String.ofList words.flatten) ∧
    Naming.routeSuffix (String.ofList (style.spell words))
      = String.ofList (['-'].intercalate (Naming.routeWords words)) ∧
    Naming.queryStructName (String.ofList (style.spell words))
      = String.ofList (words.flatMap capitalized) ++ "Query" ∧
    ∀ verb : Verb,
      ((∃ word ∈ words, ∃ ending ∈ ["id", "key", "code"], ending.toList <:+ word) →
        Binding.resolve .simple (String.ofList (style.spell words)) verb = .route) ∧
      ((¬ ∃ word ∈ words, ∃ ending ∈ ["id", "key", "code"], ending.toList <:+ word) →
        Binding.resolve .simple (String.ofList (style.spell words)) verb = .query) := by
  refine ⟨Verb.infer_congr ?_, Naming.routeSuffix_spell style hwords,
    Naming.queryStructName_spell style hwords, fun verb => ⟨fun h => ?_, fun h => ?_⟩⟩
  · rw [style.normalizedName_spell hwords, Verb.normalizedName, String.toList_ofList]
    refine (Text.lowered_small fun c hc => ?_).symm
    obtain ⟨word, hword, hc⟩ := List.mem_flatten.mp hc
    exact Text.mem_plainLetters_of_isLower ((hwords word hword).small c hc)
  · rw [← hasKeyWord_spell style hwords, ← isKeyName_iff] at h
    rw [Binding.resolve, if_pos h]
  · rw [← hasKeyWord_spell style hwords, ← isKeyName_iff] at h
    rw [Binding.resolve, if_neg h]

theorem spell_agrees_pascal :
    let words := ["find".toList, "line".toList, "by".toList, "zipcode".toList, "async".toList]
    (∀ word ∈ words, IsWord word) ∧
      String.ofList (Style.pascal.spell words) = "FindLineByZipcodeAsync" ∧
      Verb.infer "FindLineByZipcodeAsync" = .get ∧
      Naming.routeSuffix "FindLineByZipcodeAsync" = "find-line-by-zipcode" ∧
      Naming.queryStructName "FindLineByZipcodeAsync" = "FindLineByZipcodeAsyncQuery" ∧
      Binding.resolve .simple "FindLineByZipcodeAsync" .post = .route := by
  intro words
  have hwords : ∀ word ∈ words, IsWord word := by
    intro word hword
    have hall : words.all (fun w => decide (2 ≤ w.length) && w.all Char.isLower) = true := by decide
    obtain ⟨htwo, hsmall⟩ := Bool.and_eq_true_iff.mp (List.all_eq_true.mp hall word hword)
    exact ⟨of_decide_eq_true htwo, List.all_eq_true.mp hsmall⟩
  obtain ⟨hverb, hroute, hquery, hbinding⟩ := spell_agrees hwords .pascal
  refine ⟨hwords, by decide, hverb.trans (by decide), hroute.trans (by decide),
    hquery.trans (by decide), (hbinding .post).1 ?_⟩
  exact ⟨"zipcode".toList, by simp [words], "code", by simp, by decide⟩

end TraitRoutes
