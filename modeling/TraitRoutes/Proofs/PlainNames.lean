import Mathlib.Data.Bool.AllAny
import TraitRoutes.Proofs.GeneratedNames

/-!
# Plain names in pascal case

Pascal case forgets where the underscores of a name were and which of its letters were
capitals, so different names can come out alike. They do not if they are plain: words
of small letters, one underscore between two of them. In such a name every capital of
the pascal case marks the beginning of a word, and nothing else does, so the name can
be read off again.

Nothing about clusters or the borders of words matters for plain names. Every character
is a cluster of its own, and only underscores cut.
-/

namespace TraitRoutes.Text

open Unicode

/-- The letters of plain names. -/
def plainLetters : List Char := "abcdefghijklmnopqrstuvwxyz".toList

/-- Whether a text goes on with words of letters, one underscore between two of them.
`inWord` holds behind a letter. -/
def isPlainFrom (inWord : Bool) : List Char → Bool
  | [] => inWord
  | c :: rest =>
    if c = '_' then inWord && isPlainFrom false rest
    else plainLetters.contains c && isPlainFrom true rest

/-- Whether a text is words of letters, one underscore between two of them. -/
def isPlain (text : List Char) : Bool := isPlainFrom false text

example : ["get_item", "list", "_get", "get__item", "item2", "getItem"].map
    (fun name => isPlain name.toList) = [true, true, false, false, false, false] := by decide

/-- A text with a capital at the beginning of each word, and without underscores. -/
def humps (inWord : Bool) : List Char → List Char
  | [] => []
  | c :: rest =>
    if c = '_' then humps false rest
    else (if inWord then c else c.toUpper) :: humps true rest

/-- Reads a text with capitals as words again, an underscore in front of each. -/
def readHumps : List Char → List Char
  | [] => []
  | c :: rest =>
    if plainLetters.contains c then c :: readHumps rest
    else '_' :: c.toLower :: readHumps rest

/-! ## Characters -/

theorem plainChar_cases : ∀ c ∈ '_' :: plainLetters,
    clusterRole c = .other ∧ isUpperCluster [c] = false ∧ isDigitCluster [c] = false :=
  List.all_iff_forall_prop.mp (by decide)

theorem plainLetter_cases : ∀ c ∈ plainLetters,
    c ≠ '_' ∧ isSeparator [c] = false ∧ (c == 'Σ') = false ∧ lowerChar c = [c] :=
  List.all_iff_forall_prop.mp (by decide)

theorem capital_cases : ∀ c ∈ plainLetters,
    upperChar c = [c.toUpper] ∧ c.toUpper ∉ plainLetters ∧ c.toUpper.toLower = c :=
  List.all_iff_forall_prop.mp (by decide)

theorem mem_of_isPlainFrom {text : List Char} :
    ∀ {inWord : Bool}, isPlainFrom inWord text = true → ∀ c ∈ text, c ∈ '_' :: plainLetters := by
  induction text with
  | nil => intro inWord _ c hc; cases hc
  | cons d rest ih =>
      intro inWord h c hc
      rw [isPlainFrom] at h
      split at h
      · next hunder =>
          rcases List.mem_cons.mp hc with rfl | hc
          · exact hunder ▸ List.mem_cons_self
          · exact ih (Bool.and_eq_true_iff.mp h).2 c hc
      · obtain ⟨hd, hrest⟩ := Bool.and_eq_true_iff.mp h
        rcases List.mem_cons.mp hc with rfl | hc
        · exact List.mem_cons_of_mem _ (List.contains_iff_mem.mp hd)
        · exact ih hrest c hc

/-! ## Words of plain names -/

theorem clustersFrom_other {c : Char} {rest : List Char}
    (h : ∀ d ∈ rest, clusterRole d = .other) :
    clustersFrom .plain [c] rest = [c] :: rest.map fun d => [d] := by
  induction rest generalizing c with
  | nil => rfl
  | cons d rest ih =>
      rw [clustersFrom, h d List.mem_cons_self]
      exact congrArg ([c] :: ·) (ih fun e he => h e (List.mem_cons_of_mem _ he))

/-- Where no character is special to clusters, each is one of its own. -/
theorem clusters_other {text : List Char} (h : ∀ d ∈ text, clusterRole d = .other) :
    clusters text = text.map fun d => [d] := by
  cases text with
  | nil => rfl
  | cons c rest =>
      rw [clusters, h c List.mem_cons_self, ClusterState.after_other,
        clustersFrom_other fun e he => h e (List.mem_cons_of_mem _ he)]
      rfl

theorem endsWord_plain {c : Char} {rest : List Char} (hc : c ∈ '_' :: plainLetters)
    (h : ∀ d ∈ rest, d ∈ '_' :: plainLetters) :
    endsWord [c] (rest.map fun d => [d]) = false := by
  cases rest with
  | nil => rfl
  | cons d more =>
      obtain ⟨-, hupper, hdigit⟩ := plainChar_cases c hc
      obtain ⟨-, hupper', hdigit'⟩ := plainChar_cases d (h d List.mem_cons_self)
      rw [List.map_cons, endsWord, hupper, hdigit, hupper', hdigit']
      simp

theorem lowerFrom_plain {before text : List Char} (h : ∀ c ∈ text, c ∈ plainLetters) :
    lowerFrom before text = text := by
  induction text generalizing before with
  | nil => rfl
  | cons c rest ih =>
      obtain ⟨-, -, hsigma, hlower⟩ := plainLetter_cases c (h c List.mem_cons_self)
      rw [lowerFrom, hsigma]
      simp only [Bool.false_eq_true, if_false, hlower, List.singleton_append]
      rw [ih fun d hd => h d (List.mem_cons_of_mem _ hd)]

/-- The first word is what is left of a word that was begun, or a word of its own. The
induction is over the text, and both readings are needed for the one behind a letter. -/
theorem cut_plain {text : List Char} (h : ∀ c ∈ text, c ∈ '_' :: plainLetters) :
    ∃ word more, cut (text.map fun c => [c]) = word :: more ∧
      (∀ c ∈ word.flatten, c ∈ plainLetters) ∧
      word.flatten ++ more.flatMap capitalWord = humps true text ∧
      (word :: more).flatMap capitalWord = humps false text := by
  induction text with
  | nil => exact ⟨[], [], rfl, by simp, rfl, rfl⟩
  | cons c rest ih =>
      have hrest : ∀ d ∈ rest, d ∈ '_' :: plainLetters := fun d hd =>
        h d (List.mem_cons_of_mem _ hd)
      obtain ⟨word, more, hcut, hword, hbegun, hwhole⟩ := ih hrest
      by_cases hunder : c = '_'
      · subst hunder
        refine ⟨[], cut (rest.map fun d => [d]), ?_, by simp, ?_, ?_⟩
        · rw [List.map_cons, cut_of_separator (by decide)]
        · rw [hcut, humps, if_pos rfl, ← hwhole]
          rfl
        · rw [hcut, humps, if_pos rfl, ← hwhole]
          rfl
      · have hc : c ∈ plainLetters := (List.mem_cons.mp (h c List.mem_cons_self)).resolve_left hunder
        obtain ⟨-, hsep, -, -⟩ := plainLetter_cases c hc
        refine ⟨[c] :: word, more, ?_, ?_, ?_, ?_⟩
        · rw [List.map_cons, cut, hsep, endsWord_plain (h c List.mem_cons_self) hrest, hcut]
          rfl
        · intro d hd
          rw [List.flatten_cons, List.singleton_append] at hd
          rcases List.mem_cons.mp hd with rfl | hd
          · exact hc
          · exact hword d hd
        · rw [humps, if_neg hunder, ← hbegun]
          rfl
        · have hcapital : capitalWord ([c] :: word) = c.toUpper :: word.flatten := by
            rw [capitalWord, List.flatten_cons, List.singleton_append]
            dsimp only
            rw [(capital_cases c hc).1, lowerText, lowerFrom_plain hword]
            rfl
          rw [List.flatMap_cons, hcapital, humps, if_neg hunder, ← hbegun]
          rfl

theorem pascalCase_plain {text : List Char} (h : ∀ c ∈ text, c ∈ '_' :: plainLetters) :
    pascalCase text = humps false text := by
  obtain ⟨word, more, hcut, -, -, hwhole⟩ := cut_plain h
  rw [pascalCase, wordsOf]
  cases text with
  | nil => rfl
  | cons c rest =>
      rw [if_neg (by simp), clusters_other fun d hd => (plainChar_cases d (h d hd)).1, hcut]
      exact hwhole

/-! ## Reading names -/

theorem readHumps_humps (text : List Char) :
    (isPlainFrom true text = true → readHumps (humps true text) = text) ∧
      (isPlainFrom false text = true → readHumps (humps false text) = '_' :: text) := by
  induction text with
  | nil => exact ⟨fun _ => rfl, fun h => by cases h⟩
  | cons c rest ih =>
      obtain ⟨hbegun, hwhole⟩ := ih
      by_cases hunder : c = '_'
      · subst hunder
        refine ⟨fun h => ?_, fun h => by cases h⟩
        rw [isPlainFrom, if_pos rfl, Bool.true_and] at h
        rw [humps, if_pos rfl]
        exact hwhole h
      · simp only [isPlainFrom, humps, if_neg hunder, Bool.and_eq_true, Bool.false_eq_true,
          if_true, if_false]
        refine ⟨fun ⟨hc, hrest⟩ => ?_, fun ⟨hc, hrest⟩ => ?_⟩
        · rw [readHumps, if_pos hc, hbegun hrest]
        · obtain ⟨-, hcapital, hback⟩ := capital_cases c (List.contains_iff_mem.mp hc)
          rw [readHumps, if_neg (fun hmem => hcapital (List.contains_iff_mem.mp hmem)), hback,
            hbegun hrest]

/-- Plain names that are alike in pascal case are the same. -/
theorem pascalCase_inj {a b : List Char} (ha : isPlain a = true) (hb : isPlain b = true)
    (h : pascalCase a = pascalCase b) : a = b := by
  rw [pascalCase_plain (mem_of_isPlainFrom ha), pascalCase_plain (mem_of_isPlainFrom hb)] at h
  have hread : '_' :: a = '_' :: b := by
    rw [← (readHumps_humps a).2 ha, ← (readHumps_humps b).2 hb, h]
  exact (List.cons.inj hread).2

end TraitRoutes.Text
