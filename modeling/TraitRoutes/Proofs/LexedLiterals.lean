import TraitRoutes.Proofs.LiteralText

/-!
# The literals of lexed texts

Each literal among the tokens of a text was read by the scanner of literals, those of
documentation comments included, whose texts the lexer quotes itself. So lexing the text of one
of them alone, or behind minus signs, gives the same literal again.
-/

namespace TraitRoutes

open Scan

/-! ## Literals that were lexed -/

/-- The lexer reads the literal, where something may follow. -/
def Literal.IsLexed (l : Literal) : Prop :=
  ∃ cs rest, Scan.literal cs = some (l.kind, (l.text.toList, rest))

theorem Literal.isLexed_iff {l : Literal} :
    l.IsLexed ↔ Scan.literal l.text.toList = some (l.kind, (l.text.toList, [])) := by
  constructor
  · rintro ⟨cs, rest, h⟩
    exact literal_cut h
  · exact fun h => ⟨_, _, h⟩

mutual

/-- The literals in a tree. -/
def Token.literals : Token → List Literal
  | .group _ inner => Token.literalsAll inner
  | .literal l => [l]
  | .ident .. | .punct .. => []

/-- The literals in a forest. -/
def Token.literalsAll : List Token → List Literal
  | [] => []
  | t :: rest => t.literals ++ Token.literalsAll rest

end

namespace Token

theorem mem_literalsAll {l : Literal} {ts : List Token} :
    l ∈ literalsAll ts ↔ ∃ t ∈ ts, l ∈ t.literals := by
  induction ts with
  | nil => simp [literalsAll]
  | cons t rest ih => rw [literalsAll, List.mem_append, ih, List.exists_mem_cons_iff]

/-- All literals in the tree were lexed. -/
def IsLexed (t : Token) : Prop := ∀ l ∈ t.literals, l.IsLexed

theorem isLexed_group {d : Delimiter} {inner : List Token} :
    (Token.group d inner).IsLexed ↔ ∀ t ∈ inner, t.IsLexed := by
  unfold IsLexed
  rw [literals]
  simp only [mem_literalsAll]
  constructor
  · exact fun h t ht l hl => h l ⟨t, ht, hl⟩
  · rintro h l ⟨t, ht, hl⟩
    exact h t ht l hl

theorem isLexed_ident (i : Ident) (place : Position) : (Token.ident i place).IsLexed := nofun

theorem isLexed_punct (c : Char) (joint : Bool) : (Token.punct c joint).IsLexed := nofun

theorem isLexed_literal {l : Literal} : (Token.literal l).IsLexed ↔ l.IsLexed := by
  unfold IsLexed
  rw [literals, List.forall_mem_singleton]

end Token

/-! ## Quoted texts -/

namespace Scan

/-- From one state to the other, the scanner of quoted texts goes on over the characters. -/
def Passes (quote : Quote) (state : Cooked) (front : List Char) (next : Cooked) : Prop :=
  ∀ more, quoted quote state (front ++ more) = (quoted quote next more).map (·.append front)

section Passes

variable {quote : Quote} {state middle next : Cooked} {front back : List Char} {c : Char}

theorem Passes.nil : Passes quote state [] state := by
  intro more
  change _ = (quoted quote state more).map id
  rw [Option.map_id]
  rfl

theorem Passes.append (h : Passes quote state front middle) (h' : Passes quote middle back next) :
    Passes quote state (front ++ back) next := by
  intro more
  rw [List.append_assoc, h, h', Option.map_map]
  congr 1
  funext found
  simp [Split.append]

theorem Passes.cons (hgo : (c == '"' && state.mayEnd) = false)
    (hstep : state.step quote c = some middle) (h : Passes quote middle back next) :
    Passes quote state (c :: back) next := by
  intro more
  rw [List.cons_append, quoted, if_neg (by simp [hgo]), hstep, Option.bind_some, h, Option.map_map]
  rfl

end Passes

theorem step_code {d : Nat} (hd : d < 16) (value : Nat) {digits : Nat} (hdigits : digits < 6) :
    Cooked.step .text (.code value digits) (Nat.digitChar d)
      = some (.code (value * 16 + d) (digits + 1)) := by
  have hvalue : ∀ d < 16, hexValue (Nat.digitChar d) = some d := by decide
  rw [Cooked.step, hvalue d hd]
  exact if_pos hdigits

theorem passes_toDigits (n : Nat) (hn : n < 0x1000000) :
    Passes .text (.code 0 0) (Nat.toDigits 16 n) (.code n (Nat.toDigits 16 n).length) := by
  have hquote : ∀ {d : Nat} {state : Cooked}, d < 16 →
      (Nat.digitChar d == '"' && state.mayEnd) = false := by
    intro d state hd
    have hdigit : ∀ d < 16, (Nat.digitChar d == '"') = false := by decide
    rw [hdigit d hd, Bool.false_and]
  induction n using Nat.strongRecOn with
  | ind n ih =>
      by_cases hlt : n < 16
      · rw [Nat.toDigits_of_lt_base hlt]
        have hstep := step_code hlt 0 (show 0 < 6 by decide)
        rw [Nat.zero_mul, Nat.zero_add] at hstep
        exact .cons (hquote hlt) hstep .nil
      · have hle : 16 ≤ n := Nat.not_lt.mp hlt
        have hmod : n % 16 < 16 := Nat.mod_lt n (by decide)
        have hdiv : n / 16 < 16 ^ 5 := by omega
        have hlength : (Nat.toDigits 16 (n / 16)).length ≤ 5 :=
          (Nat.length_toDigits_le_iff (by decide) (by decide)).mpr hdiv
        rw [Nat.toDigits_of_base_le (by decide) hle]
        refine (ih (n / 16) (by omega) (by omega)).append ?_
        have hstep := step_code hmod (n / 16) (Nat.lt_succ_of_le hlength)
        rw [Nat.div_add_mod'] at hstep
        rw [List.length_append]
        exact .cons (hquote hmod) hstep .nil

theorem isScalar_toNat (c : Char) : isScalar c.toNat = true := by
  have hvalid : c.toNat < 0xD800 ∨ 0xDFFF < c.toNat ∧ c.toNat < 0x110000 := c.valid
  simpa [isScalar] using hvalid

theorem passes_plain {c : Char} (hquote : c ≠ '"') (hreturn : c ≠ '\r') (hescape : c ≠ '\\') :
    Passes .text .plain [c] .plain := by
  refine .cons (by simp [hquote]) ?_ .nil
  simp [Cooked.step, Cooked.between, hreturn, hescape, Quote.holds]

theorem passes_escape {c : Char} (hstep : Cooked.step .text .escape c = some .plain) :
    Passes .text .plain ['\\', c] .plain :=
  .cons rfl rfl (.cons (Bool.and_false _) hstep .nil)

/-- A code point between braces is read to its end. -/
theorem passes_code (c : Char) :
    Passes .text .plain (['\\', 'u', '\x7b'] ++ Text.hexDigits c.toNat ++ ['\x7d']) .plain := by
  have hbelow : c.toNat < 0x1000000 := by
    have hscalar := isScalar_toNat c
    simp only [isScalar, Bool.or_eq_true, Bool.and_eq_true, decide_eq_true_eq] at hscalar
    omega
  have hopen : Passes .text .plain ['\\', 'u', '\x7b'] (.code 0 0) :=
    .cons rfl rfl (.cons rfl rfl (.cons rfl rfl .nil))
  refine (hopen.append (passes_toDigits c.toNat hbelow)).append (.cons rfl ?_ .nil)
  have hdigits : (Nat.toDigits 16 c.toNat).length ≠ 0 :=
    List.length_pos_iff.mpr (Nat.toDigits_ne_nil) |>.ne'
  have hclose : hexValue '\x7d' = none := by decide
  rw [Cooked.step, hclose]
  simp [hdigits, isScalar_toNat]

theorem passes_quoteChar (c : Char) : Passes .text .plain (Text.quoteChar c) .plain := by
  unfold Text.quoteChar
  split_ifs with htab hreturn hline hquote hescape hprint
  · exact passes_escape rfl
  · exact passes_escape rfl
  · exact passes_escape rfl
  · exact passes_escape rfl
  · exact passes_escape rfl
  · exact passes_plain (by simpa using hquote) (by simpa using hreturn) (by simpa using hescape)
  · exact passes_code c

theorem passes_quoteChars (cs : List Char) : Passes .text .plain (Text.quoteChars cs) .plain := by
  induction cs with
  | nil => exact .nil
  | cons c rest ih =>
      rw [Text.quoteChars.eq_def]
      refine Passes.append ?_ ih
      have hshort : Passes .text .plain ['\\', '0'] .plain := passes_escape rfl
      have hlong : Passes .text .plain ['\\', 'x', '0', '0'] .plain :=
        .cons rfl rfl (.cons rfl rfl (.cons rfl rfl (.cons rfl rfl .nil)))
      split
      · split
        · split
          · exact hlong
          · exact hshort
        · exact hshort
      · exact passes_quoteChar c

/-- The text that the printer quotes is a literal to the lexer. -/
theorem isLexed_quoteText (text : String) : Literal.IsLexed ⟨.string, Text.quoteText text⟩ := by
  refine ⟨(Text.quoteText text).toList, [], ?_⟩
  rw [literal_eq, Option.or_eq_some_iff]
  refine .inl (quotedLiteral_eq_some_iff.mpr ⟨_, List.mem_cons_self, rfl, ?_⟩)
  have hpass := passes_quoteChars text.toList ['"']
  rw [Text.quoteText, String.toList_ofList]
  change ((((quoted .text .plain (Text.quoteChars text.toList ++ ['"'])).map
    (·.append ['"'])).map withSuffix)) = _
  rw [hpass]
  change some ('"' :: (Text.quoteChars text.toList ++ ['"']) ++ [], []) = _
  rw [List.append_nil]

end Scan

/-! ## Lexing -/

theorem isLexed_docComment (doc : DocComment) (place : Position) :
    ∀ t ∈ doc.tokens place, t.IsLexed := by
  have hdoc : ∀ t ∈ [Token.ident (.plain "doc") place, .lone '=',
      .literal ⟨.string, Text.quoteText (String.ofList doc.body)⟩], t.IsLexed := by
    simp only [List.forall_mem_cons]
    exact ⟨Token.isLexed_ident _ _, Token.isLexed_punct _ _,
      Token.isLexed_literal.mpr (isLexed_quoteText _), nofun⟩
  intro t ht
  rcases List.mem_cons.mp ht with rfl | ht
  · exact Token.isLexed_punct _ _
  rcases List.mem_append.mp ht with ht | ht
  · split at ht
    · rw [List.mem_singleton.mp ht]
      exact Token.isLexed_punct _ _
    · cases ht
  · rw [List.mem_singleton.mp ht]
    exact Token.isLexed_group.mpr hdoc

theorem isLexed_lexLeaf {place : Position} {cs : List Char} {t : Token} {read : Split}
    (h : lexLeaf place cs = some (t, read)) : t.IsLexed := by
  have hpunct : ∀ {c : Char} {joint : Bool} {found : Split},
      some (Token.punct c joint, found) = some (t, read) → t.IsLexed := by
    intro c joint found h
    rw [← (Prod.mk.inj (Option.some.inj h)).1]
    exact Token.isLexed_punct _ _
  unfold lexLeaf at h
  split at h
  · next kind found hliteral =>
      obtain ⟨rfl, rfl⟩ := Prod.mk.inj (Option.some.inj h)
      refine Token.isLexed_literal.mpr ⟨cs, found.2, ?_⟩
      rw [hliteral, String.toList_ofList]
  split at h
  · cases h
  split at h
  · split at h
    · split at h
      · cases h
      · split at h
        · cases h
        · exact hpunct h
    · exact hpunct h
  · obtain ⟨⟨name, found⟩, -, hident⟩ := Option.map_eq_some_iff.mp h
    rw [← (Prod.mk.inj hident).1]
    exact Token.isLexed_ident _ _

/-- All literals in the open groups were lexed. -/
structure OpenLexed (outer : List (Delimiter × List Token)) (done : List Token) : Prop where
  done : ∀ t ∈ done, t.IsLexed
  outer : ∀ g ∈ outer, ∀ t ∈ g.2, t.IsLexed

/-- Each round keeps the literals in the open groups lexed. -/
theorem isLexed_lexRounds {fuel : Nat} {place : Position} {outer : List (Delimiter × List Token)}
    {done : List Token} {cs : List Char} :
    ∀ {ts : List Token}, lexRounds fuel place outer done cs = some ts → OpenLexed outer done →
      ∀ t ∈ ts, t.IsLexed := by
  fun_induction lexRounds fuel place outer done cs with
  | case3 =>
      rename_i doc read _ ih
      intro ts h hopen
      refine ih h ⟨fun t ht => ?_, hopen.outer⟩
      rcases List.mem_append.mp ht with ht | ht
      · exact isLexed_docComment doc _ t (List.mem_reverse.mp ht)
      · exact hopen.done t ht
  | case4 =>
      intro ts h hopen t ht
      rw [← Option.some.inj h] at ht
      exact hopen.done t (List.mem_reverse.mp ht)
  | case6 =>
      rename_i ih
      intro ts h hopen
      exact ih h ⟨nofun, List.forall_mem_cons.mpr ⟨hopen.done, hopen.outer⟩⟩
  | case7 =>
      rename_i ih
      intro ts h hopen
      obtain ⟨hbefore, houter⟩ := List.forall_mem_cons.mp hopen.outer
      refine ih h ⟨List.forall_mem_cons.mpr ⟨?_, hbefore⟩, houter⟩
      exact Token.isLexed_group.mpr fun t ht => hopen.done t (List.mem_reverse.mp ht)
  | case11 =>
      rename_i hleaf _ _ ih
      intro ts h hopen
      exact ih h ⟨List.forall_mem_cons.mpr ⟨isLexed_lexLeaf hleaf, hopen.done⟩, hopen.outer⟩
  | _ => intro ts h; cases h

/-- All literals of a lexed text were lexed. -/
theorem isLexed_lex {text : String} {ts : List Token} (h : lex text = some ts) :
    ∀ t ∈ ts, t.IsLexed := by
  unfold lex at h
  split at h <;> exact isLexed_lexRounds h ⟨nofun, nofun⟩

/-! ## Lexing one literal -/

/-- What a token may begin with that is neither a gap nor a group. -/
structure OpensLeaf (c : Char) : Prop where
  slash : c ≠ '/'
  spacing : isSpacing c = false
  opens : opens c = none
  closes : closes c = none

theorem gap_of_opensLeaf {c : Char} (hc : OpensLeaf c) (rest : List Char) :
    gap .between (c :: rest) = some ([], c :: rest) := by
  have hline : startsLineComment (c :: rest) = false := by
    simp [startsLineComment, startsWith, hc.slash.symm]
  rw [gap]
  · rw [hline, hc.spacing]
    rfl
  · rintro more rfl
    exact absurd rfl hc.slash

theorem docComment_of_opensLeaf {c : Char} (hc : OpensLeaf c) (rest : List Char) :
    docComment (c :: rest) = none := by
  simp [docComment, startsWith, hc.slash.symm]

theorem lexRounds_leaf {c : Char} (hc : OpensLeaf c) (fuel : Nat) (place : Position)
    (outer : List (Delimiter × List Token)) (done : List Token) (rest : List Char) :
    lexRounds (fuel + 1) place outer done (c :: rest) =
      (lexLeaf place (c :: rest)).bind fun (token, read) =>
        lexRounds fuel (place.after read.1) outer (token :: done) read.2 := by
  rw [lexRounds, gap_of_opensLeaf hc]
  dsimp only
  rw [docComment_of_opensLeaf hc]
  dsimp only
  rw [hc.opens, hc.closes]
  dsimp only [Position.after]
  cases lexLeaf place (c :: rest) <;> rfl

theorem opensLeaf_of_isDigit {c : Char} (hc : c.isDigit = true) : OpensLeaf c := by
  have hascii : ∀ c : Char, c.toNat < 128 → c.isDigit = true →
      c ≠ '/' ∧ isSpacing c = false ∧ opens c = none ∧ closes c = none :=
    Unicode.forall_ascii (by decide)
  obtain ⟨hslash, hspacing, hopens, hcloses⟩ := hascii c (toNat_lt_of_isDigit hc) hc
  exact ⟨hslash, hspacing, hopens, hcloses⟩

theorem opensLeaf_of_mark {f : QuotedForm} (hf : f ∈ quotedForms) :
    ∃ c more, f.mark.toList = c :: more ∧ OpensLeaf c ∧ c ≠ '\ufeff' := by
  have hall : ∀ m ∈ quotedForms.map (·.mark), m.toList.head?.any (fun c =>
      c ≠ '/' ∧ isSpacing c = false ∧ opens c = none ∧ closes c = none ∧ c ≠ '\ufeff') = true := by
    decide
  obtain ⟨c, hhead, hc⟩ := (Option.any_eq_true _ _).mp
    (hall _ (List.mem_map_of_mem (f := (·.mark)) hf))
  obtain ⟨more, hmark⟩ := List.head?_eq_some_iff.mp hhead
  obtain ⟨hslash, hspacing, hopens, hcloses, hbom⟩ := of_decide_eq_true hc
  exact ⟨c, more, hmark, ⟨hslash, hspacing, hopens, hcloses⟩, hbom⟩

/-- No literal begins like a gap, a comment or a group. -/
theorem opensLeaf_of_isLexed {l : Literal} (h : l.IsLexed) :
    ∃ c rest, l.text.toList = c :: rest ∧ OpensLeaf c ∧ c ≠ '\ufeff' := by
  have hliteral := Literal.isLexed_iff.mp h
  rw [literal_eq, Option.or_eq_some_iff] at hliteral
  rcases hliteral with hquoted | ⟨-, hnumber⟩
  · obtain ⟨f, hf, -, hread⟩ := quotedLiteral_eq_some_iff.mp hquoted
    obtain ⟨more, hmore⟩ := startsWith_iff.mp (QuotedForm.startsWith_of_read hread)
    obtain ⟨c, mark, hmark, hc⟩ := opensLeaf_of_mark hf
    exact ⟨c, mark ++ more, by rw [← hmore, hmark]; rfl, hc⟩
  · obtain ⟨-, c, more, htext, hc⟩ := number_cut hnumber
    refine ⟨c, more, htext, opensLeaf_of_isDigit hc, ?_⟩
    rintro rfl
    exact absurd hc (by decide)

theorem lexLeaf_minus (place : Position) (rest : List Char) :
    lexLeaf place ('-' :: rest) = some (.punct '-' (startsPunct rest), (['-'], rest)) := by
  have hliteral : literal ('-' :: rest) = none := rfl
  have hpunct : startsPunct ('-' :: rest) = true := rfl
  rw [lexLeaf, hliteral]
  dsimp only
  rw [hpunct]
  rfl

/-- Behind minus signs, a literal is lexed to their tokens and its own. -/
theorem lexRounds_minuses {l : Literal} (h : l.IsLexed) (n : Nat) :
    ∀ {fuel : Nat} {place : Position} {done : List Token}, n + 1 < fuel →
      ∃ joints : List Bool, joints.length = n ∧
        lexRounds fuel place [] done (List.replicate n '-' ++ l.text.toList)
          = some (done.reverse ++ (joints.map (Token.punct '-') ++ [.literal l])) := by
  induction n with
  | zero =>
      intro fuel place done hfuel
      obtain ⟨c, rest, htext, hc, -⟩ := opensLeaf_of_isLexed h
      have hliteral := Literal.isLexed_iff.mp h
      have hleaf : ∀ place, lexLeaf place (c :: rest) = some (.literal l, (c :: rest, [])) := by
        intro place
        rw [htext] at hliteral
        rw [lexLeaf, hliteral]
        dsimp only
        rw [← htext, String.ofList_toList]
      match fuel, hfuel with
      | fuel + 2, _ =>
          refine ⟨[], rfl, ?_⟩
          rw [List.replicate_zero, List.nil_append, htext, lexRounds_leaf hc, hleaf,
            Option.bind_some]
          change some (Token.literal l :: done).reverse = _
          rw [List.reverse_cons]
          rfl
  | succ n ih =>
      intro fuel place done hfuel
      have hminus : OpensLeaf '-' := ⟨by decide, by decide, rfl, rfl⟩
      match fuel, hfuel with
      | fuel + 1, hfuel =>
          obtain ⟨joints, hlength, hrounds⟩ := @ih fuel (place.after ['-'])
            (.punct '-' (startsPunct (List.replicate n '-' ++ l.text.toList)) :: done)
            (Nat.lt_of_succ_lt_succ hfuel)
          refine ⟨startsPunct (List.replicate n '-' ++ l.text.toList) :: joints,
            congrArg (· + 1) hlength, ?_⟩
          rw [List.replicate_succ, List.cons_append, lexRounds_leaf hminus, lexLeaf_minus,
            Option.bind_some]
          dsimp only
          rw [hrounds, List.reverse_cons, List.append_assoc]
          rfl

/-- A literal behind minus signs is lexed to their tokens and its own. -/
theorem lex_minuses {l : Literal} (h : l.IsLexed) (n : Nat) :
    ∃ joints : List Bool, joints.length = n ∧
      lex (String.ofList (List.replicate n '-') ++ l.text)
        = some (joints.map (Token.punct '-') ++ [.literal l]) := by
  obtain ⟨c, rest, htext, -, hbom⟩ := opensLeaf_of_isLexed h
  have hlist : (String.ofList (List.replicate n '-') ++ l.text).toList
      = List.replicate n '-' ++ l.text.toList := by
    rw [String.toList_append, String.toList_ofList]
  have hfuel : n + 1 < (List.replicate n '-' ++ l.text.toList).length + 1 := by
    rw [List.length_append, List.length_replicate, htext, List.length_cons]
    omega
  obtain ⟨joints, hlength, hrounds⟩ := @lexRounds_minuses l h n _ .start [] hfuel
  refine ⟨joints, hlength, ?_⟩
  unfold lex
  rw [hlist]
  split
  · next rest' hfirst =>
      cases n with
      | zero =>
          rw [List.replicate_zero, List.nil_append, htext] at hfirst
          exact absurd (List.cons.inj hfirst).1 hbom
      | succ n => exact absurd (List.cons.inj hfirst).1 (by decide)
  · exact hrounds

end TraitRoutes
