import TraitRoutes.Grammar.Reading
import TraitRoutes.Layout.Trees
import TraitRoutes.Proofs.DefaultGrammar
import TraitRoutes.Proofs.LexedLiterals

/-!
# Literals as expressions

The text of a default is read as an expression of its own. It is a chain of negations around
the literal, as many as there were minus signs, and it is written as the text that was read. So
whatever literals mean, the expression means what the literal meant in the list of defaults.
-/

namespace TraitRoutes

open Grammar

/-! ## Expressions -/

/-- The expression behind a number of minus signs. -/
def Node.negated : Nat → Node → Node
  | 0, n => n
  | k + 1, n => .expr (.unary "-") [negated k n]

namespace DefaultLiteral

/-- The literal, if it has one, was lexed. -/
def IsLexed : DefaultLiteral → Prop
  | number _ l | quoted l => l.IsLexed
  | truth _ => True

/-- The last token of a literal, as it is written. -/
def lastToken : DefaultLiteral → Token
  | number _ l | quoted l => .literal l
  | truth b => .name (truthWord b)

/-- The literal value behind the minus signs. -/
def value : DefaultLiteral → LitValue
  | number _ l | quoted l => .token l
  | truth b => .bool b

/-- The expression of a literal. -/
def node (d : DefaultLiteral) : Node := .negated d.minuses (.expr (.literal d.value) [])

/-- The tokens of a literal, as it is written. -/
def tokens (d : DefaultLiteral) : List Token :=
  List.replicate d.minuses (.lone '-') ++ [d.lastToken]

end DefaultLiteral

/-! ## Reading -/

namespace Grammar

theorem iterate_stop {α : Type} {step : α → TokenParser (α × Bool)} {a : α} {s : ParseState}
    (h : step a s = .ok ((a, false), s)) : TokenParser.iterate step a s = .ok (a, s) := by
  change (step a s >>= _) = _
  rw [h]
  rfl

variable (g : Productions) (structs : Bool) (taken : List Token) (leftover : Option Delimiter)

theorem unaryRule_literal (l : Literal) :
    unaryRule g structs ⟨[.literal l], taken, leftover⟩
      = .ok (.expr (.literal (.token l)) [], ⟨[], .literal l :: taken, leftover⟩) := rfl

theorem unaryRule_truth (b : Bool) (place : Position) :
    unaryRule g structs ⟨[.ident (DefaultLiteral.truthWord b) place], taken, leftover⟩
      = .ok (.expr (.literal (.bool b)) [],
          ⟨[], .name (DefaultLiteral.truthWord b) :: taken, leftover⟩) := by
  cases b <;> rfl

/-- Behind a minus, an operand is read that has no binary operators either. -/
theorem unaryRule_minus (joint : Bool) (rest : List Token) :
    unaryRule g structs ⟨.punct '-' joint :: rest, taken, leftover⟩
      = (do pure (Node.expr (.unary "-") [← g.unary structs]) : TokenParser Node)
          ⟨rest, .lone '-' :: taken, leftover⟩ := rfl

theorem climb_end {first : Node} (htakes : takesOperator first = true) :
    climb g structs .jump first ⟨[], taken, leftover⟩ = .ok (first, ⟨[], taken, leftover⟩) := by
  refine iterate_stop ?_
  change (if !takesOperator first then _ else _ : TokenParser _) _ = _
  rw [htakes]
  rfl

/-- The tokens are read as the node, and written as one token. -/
def ReadsTo (rest : List Token) (n : Node) (last : Token) : Prop :=
  ∀ (g : Productions) (structs : Bool) (taken : List Token) (leftover : Option Delimiter),
    unaryRule g structs ⟨rest, taken, leftover⟩ = .ok (n, ⟨[], last :: taken, leftover⟩)

variable {g structs taken leftover} in
/-- Each minus takes one level of the grammar. -/
theorem unary_minuses {front : List Token} {n : Node} {last : Token} (h : ReadsTo front n last)
    (joints : List Bool) :
    ∀ {depth : Nat} {taken : List Token}, joints.length < depth →
      (Productions.ofDepth depth).unary structs
          ⟨joints.map (Token.punct '-') ++ front, taken, leftover⟩
        = .ok (.negated joints.length n,
            ⟨[], last :: (List.replicate joints.length (.lone '-') ++ taken), leftover⟩) := by
  induction joints with
  | nil =>
      intro depth taken hdepth
      match depth, hdepth with
      | depth + 1, _ => exact h _ _ _ _
  | cons joint joints ih =>
      intro depth taken hdepth
      match depth, hdepth with
      | depth + 1, hdepth =>
          change unaryRule (Productions.ofDepth depth) structs
            ⟨.punct '-' joint :: (joints.map (Token.punct '-') ++ front), taken, leftover⟩ = _
          rw [unaryRule_minus]
          change ((Productions.ofDepth depth).unary structs
            ⟨joints.map (Token.punct '-') ++ front, .lone '-' :: taken, leftover⟩ >>= _) = _
          rw [ih (Nat.lt_of_succ_lt_succ hdepth), List.length_cons, List.replicate_succ',
            List.append_assoc]
          rfl

theorem takesOperator_negated {n : Node} (h : takesOperator n = true) (k : Nat) :
    takesOperator (.negated k n) = true := by
  cases k with
  | zero => exact h
  | succ k => rfl

theorem countAll_minuses (joints : List Bool) (front : List Token) :
    Token.countAll (joints.map (Token.punct '-') ++ front)
      = joints.length + Token.countAll front := by
  induction joints with
  | nil => exact (Nat.zero_add _).symm
  | cons joint joints ih =>
      rw [List.map_cons, List.cons_append, Token.countAll, Token.count, ih, List.length_cons]
      omega

theorem readAll_fragment {ts taken : List Token} {n : Node}
    (h : (Productions.for ts).expr true ⟨ts, [], none⟩ = .ok (n, ⟨[], taken, none⟩)) :
    readAll Productions.fragment ts = .ok (.mk n taken.reverse) := by
  have hfragment : Productions.fragment (.for ts) ⟨ts, [], none⟩
      = .ok (.mk n taken.reverse, ⟨[], taken ++ [], none⟩) := by
    change (TokenParser.capture ((Productions.for ts).expr true) ⟨ts, [], none⟩ >>= _) = _
    rw [TokenParser.capture, TokenParser.retrace]
    dsimp only
    rw [h]
    rfl
  rw [readAll, TokenParser.parseAll, hfragment]
  rfl

/-- Minus signs and what stands behind them are all of an expression. -/
theorem readAll_minuses {front : List Token} {n : Node} {last : Token}
    (h : ReadsTo front n last) (htakes : takesOperator n = true) (joints : List Bool) :
    readAll Productions.fragment (joints.map (Token.punct '-') ++ front)
      = .ok (.mk (.negated joints.length n)
          (List.replicate joints.length (.lone '-') ++ [last])) := by
  have hdepth : joints.length
      < 2 * Token.countAll (joints.map (Token.punct '-') ++ front) + 7 := by
    rw [countAll_minuses]
    omega
  have hexpr : (Productions.for (joints.map (Token.punct '-') ++ front)).expr true
      ⟨joints.map (Token.punct '-') ++ front, [], none⟩
        = .ok (.negated joints.length n,
            ⟨[], last :: (List.replicate joints.length (.lone '-') ++ []), none⟩) := by
    change ((Productions.ofDepth _).unary true ⟨_, [], none⟩ >>= _) = _
    rw [unary_minuses h joints hdepth]
    exact climb_end _ _ _ _ (takesOperator_negated htakes _)
  rw [readAll_fragment hexpr, List.append_nil, List.reverse_cons, List.reverse_replicate]

end Grammar

namespace DefaultLiteral

theorem readExpr_number {l : Literal} (h : l.IsLexed) (minuses : Nat) :
    readExpr (number minuses l).text
      = .ok (.mk (number minuses l).node (number minuses l).tokens) := by
  have hreads : ReadsTo [.literal l] (.expr (.literal (.token l)) []) (.literal l) :=
    fun g structs taken leftover => unaryRule_literal g structs taken leftover l
  obtain ⟨joints, rfl, hlex⟩ := lex_minuses h minuses
  rw [readExpr, text, hlex]
  exact readAll_minuses hreads rfl joints

theorem readExpr_truth (b : Bool) :
    readExpr (truth b).text = .ok (.mk (truth b).node (truth b).tokens) := by
  have hreads : ReadsTo [.ident (truthWord b) .start] (.expr (.literal (.bool b)) [])
      (truth b).lastToken :=
    fun g structs taken leftover => unaryRule_truth g structs taken leftover b .start
  have hlex : lex (truth b).text = some [.ident (truthWord b) .start] := by cases b <;> rfl
  rw [readExpr, hlex]
  exact readAll_minuses hreads rfl []

/-- The text of a literal reads as its expression. -/
theorem readExpr_text {d : DefaultLiteral} (h : d.IsLexed) :
    readExpr d.text = .ok (.mk d.node d.tokens) := by
  cases d with
  | number minuses l => exact readExpr_number h minuses
  | quoted l =>
      have htext : (quoted l).text = (number 0 l).text := by simp [text]
      rw [htext]
      exact readExpr_number h 0
  | truth b => exact readExpr_truth b

end DefaultLiteral

/-! ## What an expression means -/

/-- What literals mean, and a minus. -/
structure Meaning (V : Type) where
  literal : Literal → V
  truth : Bool → V
  negate : V → V

/-- The meaning of an expression made of a literal and minus signs. -/
inductive Node.Means {V : Type} (m : Meaning V) : Node → V → Prop
  | literal (l : Literal) : Means m (.expr (.literal (.token l)) []) (m.literal l)
  | negative (l : Literal) : Means m (.expr (.literal (.negative l)) []) (m.negate (m.literal l))
  | truth (b : Bool) : Means m (.expr (.literal (.bool b)) []) (m.truth b)
  | minus {n : Node} {v : V} (operand : Means m n v) :
      Means m (.expr (.unary "-") [n]) (m.negate v)

theorem Node.Means.unique {V : Type} {m : Meaning V} {n : Node} {v w : V} (h : n.Means m v)
    (h' : n.Means m w) : v = w := by
  induction h generalizing w with
  | literal l => cases h'; rfl
  | negative l => cases h'; rfl
  | truth b => cases h'; rfl
  | minus _ ih =>
      cases h' with
      | minus operand => rw [ih operand]

/-- The meaning of a literal as it stands in a list of defaults. -/
def DefaultLiteral.meaning {V : Type} (m : Meaning V) : DefaultLiteral → V
  | number minuses l => m.negate^[minuses] (m.literal l)
  | quoted l => m.literal l
  | truth b => m.truth b

theorem Node.means_negated {V : Type} {m : Meaning V} {n : Node} {v : V} (h : n.Means m v)
    (k : Nat) : (Node.negated k n).Means m (m.negate^[k] v) := by
  induction k with
  | zero => exact h
  | succ k ih =>
      rw [Function.iterate_succ_apply']
      exact .minus ih

/-- The expression of a literal means what the literal means. -/
theorem DefaultLiteral.means_node {V : Type} (m : Meaning V) (d : DefaultLiteral) :
    d.node.Means m (d.meaning m) := by
  cases d with
  | number minuses l => exact Node.means_negated (.literal l) minuses
  | quoted l => exact .literal l
  | truth b => exact .truth b

/-! ## How an expression is written -/

namespace Layout

theorem ofNode_negated (k : Nat) (n : Node) :
    (ofNode (.negated k n)).plain = List.replicate k (.text "-") ++ (ofNode n).plain := by
  induction k with
  | zero => rfl
  | succ k ih =>
      rw [List.replicate_succ, List.cons_append, ← ih]
      rfl

theorem join_minuses (k : Nat) (text : String) :
    String.join (List.replicate k "-" ++ [text])
      = String.ofList (List.replicate k '-') ++ text := by
  refine String.toList_inj.mp ?_
  rw [String.toList_join, List.flatMap_append, List.flatMap_singleton, String.toList_append,
    String.toList_ofList]
  congr 1
  induction k with
  | zero => rfl
  | succ k ih => rw [List.replicate_succ, List.replicate_succ, List.flatMap_cons, ih]; rfl

/-- The expression of a literal is written as the text that was read. -/
theorem ofNode_literal (d : DefaultLiteral) :
    ∃ parts : List String, (ofNode d.node).plain = parts.map Doc.text ∧
      String.join parts = d.text := by
  refine ⟨List.replicate d.minuses "-" ++ [literalText d.value], ?_, ?_⟩
  · rw [DefaultLiteral.node, ofNode_negated, List.map_append, List.map_replicate]
    rfl
  · rw [join_minuses]
    cases d with
    | number minuses l => rfl
    | quoted l => simp [DefaultLiteral.minuses, DefaultLiteral.value, literalText,
        DefaultLiteral.text]
    | truth b => simp [DefaultLiteral.minuses, DefaultLiteral.value, literalText,
        DefaultLiteral.text]

end Layout

end TraitRoutes
