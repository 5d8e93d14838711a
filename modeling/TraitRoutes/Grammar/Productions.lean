import TraitRoutes.Grammar.Parser

/-!
# The recursion of the grammar

Types contain expressions, expressions contain blocks, blocks contain items, and
items contain all of them. The productions through which this recursion runs are
gathered in a record. Each rule of the grammar is written against such a record,
and the grammar of a given depth is built from the one below it. Between two
passes through the record at least one token is taken, so the number of tokens
is depth enough.
-/

namespace TraitRoutes

/-- How tightly an operator binds, the loosest first. -/
inductive Precedence where
  | jump | assign | range | or | and | binding | compare | bitOr | bitXor | bitAnd | shift | sum
  | product | cast
deriving DecidableEq, Repr

/-- The place of a precedence in their order. -/
def Precedence.rank : Precedence → Nat := Precedence.ctorIdx

/-- Whether the first binds more tightly than the second. -/
def Precedence.above (p q : Precedence) : Bool := q.rank < p.rank

/-- Whether the first binds at least as tightly as the second. -/
def Precedence.atLeast (p q : Precedence) : Bool := q.rank ≤ p.rank

/-- The productions that the grammar is recursive in. -/
structure Productions where
  /-- A type; with `plus`, bounds may follow one another. -/
  ty : (plus : Bool) → TokenParser Ty
  /-- Generic arguments up to the closing mark, and whether a comma ends them. -/
  genericArgs : TokenParser (List GenericArg × Bool)
  genericParam : TokenParser GenericParam
  /-- An expression; with `structs`, a brace after a path opens its fields. -/
  expr : (structs : Bool) → TokenParser Node
  /-- An expression without binary operators. -/
  unary : (structs : Bool) → TokenParser Node
  /-- An expression that begins a statement or ends a match arm. -/
  earlyExpr : TokenParser Node
  /-- The right operand of an operator. -/
  operand : (structs : Bool) → Precedence → TokenParser Node
  /-- A pattern without alternatives. -/
  pattern : TokenParser Node
  /-- The statements of a block, up to its end. -/
  statements : TokenParser (List Node)
  /-- The condition and the blocks of an `if`. -/
  conditional : TokenParser Node
  item : TokenParser (Item × Node)
  useTree : (rooted : Bool) → TokenParser (Option UseTree)

/-- Fails where no depth is left. -/
def TokenParser.tooDeep {α : Type} : TokenParser α := refuse "nested too deeply"

/-- The productions of depth zero read nothing. -/
def Productions.bottom : Productions where
  ty _ := TokenParser.tooDeep
  genericArgs := TokenParser.tooDeep
  genericParam := TokenParser.tooDeep
  expr _ := TokenParser.tooDeep
  unary _ := TokenParser.tooDeep
  earlyExpr := TokenParser.tooDeep
  operand _ _ := TokenParser.tooDeep
  pattern := TokenParser.tooDeep
  statements := TokenParser.tooDeep
  conditional := TokenParser.tooDeep
  item := TokenParser.tooDeep
  useTree _ := TokenParser.tooDeep

namespace Productions

open TokenParser

/-- An expression with the tokens that it consists of. -/
def fragment (g : Productions) : TokenParser Fragment := do
  let (node, tokens) ← capture (g.expr true)
  pure (.mk node tokens)

/-- A block: its statements between braces. -/
def block (g : Productions) : TokenParser Node := do
  pure (.part .braces (← group .brace g.statements))

end Productions

end TraitRoutes
