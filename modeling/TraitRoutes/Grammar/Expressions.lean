import TraitRoutes.Grammar.Patterns

/-!
# Expressions

Binary operators are read by climbing over their precedences; comparisons do not
chain, and a range takes no operator behind it. Where a block must follow, a
brace after a path does not open fields. At the start of a statement or of a
match arm, a construct that ends in a block is a whole expression, unless a
method call or a question mark follows it.
-/

namespace TraitRoutes.Grammar

open TokenParser

variable (g : Productions)

/-! ### Binary operators -/

/-- Operators that take two operands, each before any that it begins with. -/
def binaryOperators : List (String × Precedence) :=
  [("+=", .assign), ("-=", .assign), ("*=", .assign), ("/=", .assign), ("%=", .assign),
   ("^=", .assign), ("&=", .assign), ("|=", .assign), ("<<=", .assign), (">>=", .assign),
   ("&&", .and), ("||", .or), ("<<", .shift), (">>", .shift), ("==", .compare), ("<=", .compare),
   ("!=", .compare), (">=", .compare), ("+", .sum), ("-", .sum), ("*", .product), ("/", .product),
   ("%", .product), ("^", .bitXor), ("&", .bitAnd), ("|", .bitOr), ("<", .compare),
   (">", .compare)]

/-- The binary operator that comes next. -/
def binaryOperator? (ts : List Token) : Option (String × Precedence) :=
  binaryOperators.find? fun entry => Ahead.op entry.1 ts

/-- An equals sign that assigns. -/
def assigns (ts : List Token) : Bool := Ahead.op "=" ts && !Ahead.op "=>" ts

/-- The precedence of what comes next; the loosest if it is no operator. -/
def nextPrecedence (ts : List Token) : Precedence :=
  match binaryOperator? ts with
  | some (_, p) => p
  | none =>
    if assigns ts then .assign
    else if Ahead.op ".." ts then .range
    else if Ahead.word "as" ts then .cast
    else .jump

/-- What cannot stand behind a cast without parentheses. -/
inductive CastFollower where
  | await | methodCall | fieldAccess | tryOperator | indexing | functionCall

/-- How messages name it. -/
def CastFollower.name : CastFollower → String
  | await => "`.await`"
  | methodCall => "a method call"
  | fieldAccess => "a field access"
  | tryOperator => "`?`"
  | indexing => "indexing"
  | functionCall => "a function call"

/-- Looks behind a cast. -/
def castFollower? (ts : List Token) : Option CastFollower :=
  let behind := Ahead.skip ts
  if Ahead.op "." ts && !Ahead.op ".." ts then
    if Ahead.word "await" behind then some .await
    else if Ahead.ident behind
        && (Ahead.group .paren (Ahead.skip behind) || Ahead.op "::" (Ahead.skip behind)) then
      some .methodCall
    else some .fieldAccess
  else if Ahead.op "?" ts then some .tryOperator
  else if Ahead.group .bracket ts then some .indexing
  else if Ahead.group .paren ts then some .functionCall
  else none

/-- What ends a range that has no upper bound. -/
def endsOpenRange (structs : Bool) (ts : List Token) : Bool :=
  ts.isEmpty || Ahead.anyOp [",", ";", "?", "=>", "=", "+", "/", "%", "^", ">", "<=", "!=", "-=",
      "*=", "&=", "|=", "<<="] ts
    || (Ahead.op "." ts && !Ahead.op ".." ts) || (!structs && Ahead.group .brace ts)
    || Ahead.word "as" ts

/-- The dots of a range and its upper bound. -/
def rangeTail (structs : Bool) (low : Option Node) : TokenParser Node := do
  let ts ← ahead
  let closed ←
    if Ahead.op "..=" ts then do op "..="; pure true
    else if Ahead.op ".." ts && !Ahead.op "..." ts then do op ".."; pure false
    else expected ["`..`", "`..=`"]
  let high ←
    if !closed && (← next (endsOpenRange structs)) then pure none
    else some <$> g.operand structs .range
  pure (.expr (.range closed low.isSome high.isSome) (low.toList ++ high.toList))

/-- Whether an operator may stand behind an expression: not behind a range. -/
def takesOperator (left : Node) : Bool :=
  match left.exprForm? with
  | some (.range ..) => false
  | _ => true

/-- The operators that compare. -/
def comparisons : List String := ["==", "<=", "!=", ">=", "<", ">"]

/-- Whether an expression is a comparison. -/
def isComparison (left : Node) : Bool :=
  match left.exprForm? with
  | some (.binary symbol) => comparisons.contains symbol
  | _ => false

/-- Goes on behind an expression with the operators that bind no looser than
`base`. -/
def climb (structs : Bool) (base : Precedence) (first : Node) : TokenParser Node :=
  iterate (fun left => do
    let ts ← ahead
    if !takesOperator left then pure (left, false)
    else
      match binaryOperator? ts with
      | some (symbol, precedence) =>
        if !precedence.atLeast base then pure (left, false)
        else if precedence = .compare && isComparison left then
          fail (.refused "comparison operators cannot be chained")
        else
          let _ ← op? symbol
          let right ← g.operand structs precedence
          pure (.expr (.binary symbol) [left, right], true)
      | none =>
        if Precedence.assign.atLeast base && assigns ts then
          op "="
          let right ← g.operand structs .assign
          pure (.expr .assign [left, right], true)
        else if Precedence.range.atLeast base && Ahead.op ".." ts then
          pure (← rangeTail g structs (some left), true)
        else if Precedence.cast.atLeast base && Ahead.word "as" ts then
          word "as"
          let ty ← type g false
          match castFollower? (← ahead) with
          | some what =>
            refuse ("casts cannot be followed by " ++ what.name) (by cases what <;> decide)
          | none => pure (.expr .cast [left, .type ty], true)
        else pure (left, false)) first

/-- The right operand of an operator of the given precedence. -/
def operandRule (structs : Bool) (precedence : Precedence) : TokenParser Node := do
  let first ← g.unary structs
  iterate (fun right => do
    let before ← ahead
    let following := nextPrecedence before
    if following.above precedence || (following = precedence && precedence = .assign) then
      let right ← climb g structs following right
      let after ← ahead
      pure (right, after.length < before.length)
    else pure (right, false)) first

/-- An expression. -/
def exprRule (structs : Bool) : TokenParser Node := do
  climb g structs .jump (← g.unary structs)

/-! ### Parts of expressions -/

/-- Expressions separated by commas. -/
def arguments : TokenParser (List Node) := do pure (← terminated (g.expr true)).1

/-- The label of a loop or a block. -/
def label : TokenParser Ident := do
  let name ← lifetime
  op ":"
  pure name

/-- The fields of a struct expression, and what gives the others. -/
def structFields : TokenParser (List Node) := do
  let reversed ← iterate (fun (done : List Node) => do
    if ← isEmpty then pure (done, false)
    else if ← op? ".." then
      let base ← if ← isEmpty then pure none else some <$> g.expr true
      pure (.part .otherFields base.toList :: done, false)
    else
      let attrs ← outerNodes g
      let field ← member
      let named := match field with
        | .name _ => true
        | .place _ => false
      let value ←
        if (← next (Ahead.op ":")) || !named then do
          op ":"
          some <$> g.expr true
        else pure none
      let done := (Node.part (.fieldValue field) value.toList).withAttrs attrs :: done
      if ← isEmpty then pure (done, false)
      else
        op ","
        pure (done, true)) []
  pure reversed.reverse

/-- A path, a macro call or a struct expression. -/
def pathExpr (structs : Bool) : TokenParser Node := do
  let ty ← retold Ty.tokens (qualified g true)
  match ← macroCall? ty with
  | some call => pure (.expr (.macroCall call) [])
  | none =>
    if structs && (← next (Ahead.group .brace)) then
      pure (.expr .struct (.type ty :: (← group .brace (structFields g))))
    else pure (.expr .path [.type ty])

/-- An expression in parentheses, or a tuple. -/
def parenExpr : TokenParser Node := group .paren do
  if ← isEmpty then pure (.expr .tuple [])
  else
    let first ← g.expr true
    if ← isEmpty then pure (.expr .paren [first])
    else
      op ","
      pure (.expr .tuple (first :: (← arguments g)))

/-- An array, by its elements or by one of them and their number. -/
def arrayExpr : TokenParser Node := group .bracket do
  if ← isEmpty then pure (.expr .array [])
  else
    let first ← g.expr true
    if ← isEmpty then pure (.expr .array [first])
    else if ← op? "," then pure (.expr .array (first :: (← arguments g)))
    else if ← op? ";" then pure (.expr .repeated [first, ← g.expr true])
    else fail (.refused "expected `,` or `;`")

/-- A parameter of a closure. -/
def closureParam : TokenParser Node := do
  let attrs ← outerNodes g
  let pattern ← g.pattern
  if ← op? ":" then
    let ty ← type g true
    pure ((Node.pattern .typed [pattern, .type ty]).withAttrs attrs)
  else pure (pattern.withAttrs attrs)

/-- A closure. -/
def closureExpr (structs : Bool) : TokenParser Node := do
  let binder ← binder? g
  let words ← ["const", "static", "async", "move"].filterM (word? ·)
  op "|"
  let (params, _) ← separated "," (Ahead.op "|") (closureParam g)
  op "|"
  let (output, result) ←
    if ← next (Ahead.op "->") then do
      let output ← returnType g true
      pure (output, Node.expr (.block (.plain none)) [← g.block])
    else pure (none, ← g.expr structs)
  pure (.expr (.closure words)
    [binderNode binder, .sequence params, .optional (output.map .type), result])

/-- The condition of an `if` or a `while`, up to its block. -/
def condition : TokenParser Node := g.expr false

/-- An `if` with what hangs on it. -/
def conditionalRule : TokenParser Node := do
  word "if"
  let cond ← condition g
  let block ← g.block
  let other ←
    if ← word? "else" then do
      let ts ← ahead
      if Ahead.word "if" ts then some <$> g.conditional
      else if Ahead.group .brace ts then
        pure (some (.expr (.block (.plain none)) [← g.block]))
      else expected ["`if`", "curly braces"]
    else pure none
  pure (.expr .ifThen (cond :: block :: other.toList))

/-- A `while` loop behind its label. -/
def whileExpr (label : Option Ident) : TokenParser Node := do
  word "while"
  let cond ← condition g
  pure (.expr (.whileLoop label) [cond, ← body g])

/-- A `for` loop behind its label. -/
def forExpr (label : Option Ident) : TokenParser Node := do
  word "for"
  let pattern ← anyPattern g
  word "in"
  let elems ← condition g
  pure (.expr (.forLoop label) [pattern, elems, ← body g])

/-- A `loop` behind its label. -/
def loopExpr (label : Option Ident) : TokenParser Node := do
  word "loop"
  pure (.expr (.loopForever label) [← body g])

/-- A loop or a block with a label. -/
def labelled : TokenParser Node := do
  let name ← label
  let ts ← ahead
  if Ahead.word "while" ts then whileExpr g name
  else if Ahead.word "for" ts then forExpr g name
  else if Ahead.word "loop" ts then loopExpr g name
  else if Ahead.group .brace ts then blockExpr g name
  else fail (.refused "expected loop or block expression")

/-- Marks that may begin an expression. -/
def startsExpr (ts : List Token) : Bool :=
  Ahead.anyWord ts || Ahead.group .paren ts || Ahead.group .bracket ts || Ahead.group .brace ts
    || Ahead.isLiteral ts || (Ahead.op "!" ts && !Ahead.op "!=" ts)
    || (Ahead.op "-" ts && !Ahead.anyOp ["-=", "->"] ts) || (Ahead.op "*" ts && !Ahead.op "*=" ts)
    || (Ahead.op "|" ts && !Ahead.op "|=" ts) || (Ahead.op "&" ts && !Ahead.op "&=" ts)
    || Ahead.op ".." ts || (Ahead.op "<" ts && !Ahead.anyOp ["<=", "<<="] ts) || Ahead.op "::" ts
    || Ahead.lifetime ts || Ahead.op "#" ts

/-- The value of a `return` or a `yield`. -/
def value? : TokenParser (List Node) := do
  if ← next startsExpr then pure [← g.expr true] else pure []

/-- A `break` with its label and its value. A loop that has a label of its own is no
value without parentheses. -/
def breakExpr (structs : Bool) : TokenParser Node := do
  word "break"
  let ts ← ahead
  if Ahead.lifetime ts && Ahead.op ":" (Ahead.skip ts) then
    let _ ← g.expr true
    refuse "parentheses required"
  let label ← lifetime?
  let ts ← ahead
  let value ←
    if startsExpr ts && (structs || !Ahead.group .brace ts) then some <$> g.expr true
    else pure none
  pure (.expr (.breakOut label) value.toList)

/-- The pattern and the value of a `let` in a condition. -/
def letExpr (structs : Bool) : TokenParser Node := do
  word "let"
  let pattern ← anyPattern g
  op "="
  let value ← climb g structs .compare (← g.unary structs)
  pure (.expr .letBind [pattern, value])

/-! ### Atoms and what follows them -/

/-- Whether a `for` opens a closure. -/
def startsBoundClosure (ts : List Token) : Bool :=
  Ahead.word "for" ts && startsGenerics (Ahead.skip ts)

/-- Whether a closure comes next. -/
def startsClosure (ts : List Token) : Bool :=
  let behind := Ahead.skip ts
  Ahead.op "|" ts || Ahead.word "move" ts || startsBoundClosure ts
    || (Ahead.word "const" ts && !Ahead.group .brace behind) || Ahead.word "static" ts
    || (Ahead.word "async" ts && (Ahead.op "|" behind || Ahead.word "move" behind))

/-- Whether an `async` block comes next. -/
def startsAsyncBlock (ts : List Token) : Bool :=
  let behind := Ahead.skip ts
  Ahead.word "async" ts
    && (Ahead.group .brace behind
      || (Ahead.word "move" behind && Ahead.group .brace (Ahead.skip behind)))

/-- Whether a path comes next. -/
def startsPath (ts : List Token) : Bool :=
  Ahead.ident ts || Ahead.anyOp ["::", "<"] ts || Ahead.oneOf pathWords ts
    || (Ahead.word "try" ts && Ahead.anyOp ["!", "::"] (Ahead.skip ts))

/-- The arms of a match. -/
def matchArms : TokenParser (List Node) := do
  let reversed ← iterate (fun (done : List Node) => do
    if ← isEmpty then pure (done, false)
    else
      let attrs ← outerNodes g
      let pattern ← anyPattern g
      let guard ← if ← word? "if" then some <$> g.expr true else pure none
      op "=>"
      let result ← g.earlyExpr
      if result.needsEnd && !(← isEmpty) then op ","
      else let _ ← op? ","
      let arm := Node.part .arm [pattern, .optional guard, result]
      pure (arm.withAttrs attrs :: done, true)) []
  pure reversed.reverse

/-- A match. -/
def matchExpr : TokenParser Node := do
  word "match"
  let scrutinee ← condition g
  group .brace do
    let attrs ← innerNodes g
    pure ((Node.expr .matchOn (scrutinee :: (← matchArms g))).withAttrs attrs)

/-- Whether digits go on with an exponent. -/
def hasExponent (part : String) : Bool :=
  match part.toList.dropWhile (fun c => c != 'e' && c != 'E') with
  | [] => false
  | _ :: power =>
    match power.dropWhile (· == '_') with
    | c :: _ => c.isDigit || c == '+' || c == '-'
    | [] => false

/-- A field behind a point that is written in one with a further one, such as `0.1`.
A point at the end is left to what follows, which the flag tells. -/
def joinedPlaces (text : String) : TokenParser (List Nat × Bool) := do
  let parts := text.splitOn "."
  let open_ := parts.getLast? = some ""
  let places ← (if open_ then parts.dropLast else parts).mapM fun part =>
    if hasExponent part then refuse "expected integer literal" else placeOf part
  pure (places, open_)

/-- Calls, fields, indices and question marks behind an expression. -/
def trailers (first : Node) : TokenParser Node := iterate (fun left => do
  let ts ← ahead
  if Ahead.group .paren ts then
    pure (.expr .call (left :: (← group .paren (arguments g))), true)
  else if Ahead.op "." ts && !Ahead.op ".." ts && takesOperator left then
    op "."
    pure (← afterPoint left, true)
  else if Ahead.group .bracket ts then
    pure (.expr .index [left, ← group .bracket (g.expr true)], true)
  else if Ahead.op "?" ts && takesOperator left then
    op "?"
    pure (.expr .tryOperator [left], true)
  else pure (left, false)) first
where
  /-- What stands behind the point of a field or a method. -/
  named (left : Node) : TokenParser Node := do
    if ← word? "await" then pure (.expr .await [left])
    else
      let field ← member
      let name := match field with
        | .name name => some name
        | .place _ => none
      let turbofish ←
        if name.isSome && (← next (Ahead.op "::")) then do
          op "::"
          op "<"
          let (done, trailing) ← retold (fun (done, trailing) =>
            (GenericArgs.angle false done trailing).tokens.tail.dropLast) g.genericArgs
          op ">"
          pure (some (Node.args (.angle true done trailing)))
        else pure none
      match name with
      | some name =>
        if turbofish.isSome || (← next (Ahead.group .paren)) then
          let args ← group .paren (arguments g)
          pure (.expr (.methodCall name) (left :: .optional turbofish :: args))
        else pure (.expr (.field field) [left])
      | none => pure (.expr (.field field) [left])
  /-- What stands behind a point, a field of two parts included. -/
  afterPoint (left : Node) : TokenParser Node := do
    match Ahead.literal (← ahead) with
    | some (.token l, _) =>
      if l.kind == .float then
        let (places, open_) ← joinedPlaces l.text
        let tokens := places.map fun n => [Token.literal ⟨.integer, toString n⟩]
        let points := (tokens.intersperse [.lone '.']).flatten
        advance 1 (points ++ (if open_ then [.lone '.'] else []))
        let left := places.foldl (fun e n => Node.expr (.field (.place n)) [e]) left
        if open_ then named left else pure left
      else named left
    | some (.negative l, _) =>
      if l.kind == .float then refuse "invalid digit found in string" else named left
    | _ => named left

/-- An expression built into the compiler. -/
def builtinExpr : TokenParser Node := do
  builtin
  pure (.expr .verbatim [])

/-- A block behind a keyword. -/
def keywordBlock (kind : BlockKind) (block : TokenParser Node) : TokenParser Node := do
  let _ ← anyWord
  pure (.expr (.block kind) [← block])

/-- An expression that no operator stands in front of. -/
def atom (structs : Bool) : TokenParser Node := do
  let ts ← ahead
  let behind := Ahead.skip ts
  if Ahead.isLiteral ts then pure (.expr (.literal (← literal)) [])
  else if startsAsyncBlock ts then
    word "async"
    let moving ← word? "move"
    pure (.expr (.block (.async moving)) [← g.block])
  else if Ahead.word "try" ts && Ahead.group .brace behind then keywordBlock .tryBlock g.block
  else if startsClosure ts then closureExpr g structs
  else if startsBuiltin ts then builtinExpr
  else if startsPath ts then pathExpr g structs
  else if Ahead.group .paren ts then parenExpr g
  else if Ahead.word "break" ts then breakExpr g structs
  else if Ahead.word "continue" ts then
    word "continue"
    pure (.expr (.continueOn (← lifetime?)) [])
  else if Ahead.word "return" ts then
    word "return"
    pure (.expr .returnFrom (← value? g))
  else if Ahead.word "become" ts then
    word "become"
    let _ ← g.expr true
    pure (.expr .verbatim [])
  else if Ahead.group .bracket ts then arrayExpr g
  else if Ahead.word "let" ts then letExpr g structs
  else if Ahead.word "if" ts then g.conditional
  else if Ahead.word "while" ts then whileExpr g none
  else if Ahead.word "for" ts then forExpr g none
  else if Ahead.word "loop" ts then loopExpr g none
  else if Ahead.word "match" ts then matchExpr g
  else if Ahead.word "yield" ts then
    word "yield"
    pure (.expr .yieldOut (← value? g))
  else if Ahead.word "unsafe" ts then keywordBlock .unsafeBlock (body g)
  else if Ahead.word "const" ts then keywordBlock .constBlock (body g)
  else if Ahead.group .brace ts then blockExpr g none
  else if Ahead.op ".." ts then rangeTail g structs none
  else if Ahead.word "_" ts then
    let _ ← anyWord
    pure (.expr .infer [])
  else if Ahead.lifetime ts then labelled g
  else fail (.refused "expected an expression")

/-- At the start of a statement or an arm: a construct that ends in a block is
complete, unless it is called on. -/
def earlyExprRule : TokenParser Node := do
  let attrs ← outerNodes g
  let ts ← ahead
  let behind := Ahead.skip ts
  let blockLike := Ahead.oneOf ["if", "while", "loop", "match", "unsafe"] ts
    || (Ahead.word "for" ts && !startsBoundClosure ts)
    || (Ahead.oneOf ["try", "const"] ts && Ahead.group .brace behind)
    || Ahead.group .brace ts || Ahead.lifetime ts
  let first ← if blockLike then atom g true else g.unary true
  if first.needsEnd then climb g true .jump (first.withAttrs attrs)
  else
    let ts ← ahead
    if (Ahead.op "." ts && !Ahead.op ".." ts) || Ahead.op "?" ts then
      climb g true .jump ((← trailers g first).withAttrs attrs)
    else pure (first.withAttrs attrs)

/-- An expression without binary operators. -/
def unaryRule (structs : Bool) : TokenParser Node := do
  let attrs ← outerNodes g
  let ts ← ahead
  if Ahead.op "&" ts then
    op "&"
    let ts ← ahead
    let raw := Ahead.word "raw" ts && Ahead.oneOf ["mut", "const"] (Ahead.skip ts)
    if raw then word "raw"
    let mutable ← word? "mut"
    if raw && !mutable then word "const"
    let operand ← g.unary structs
    let form := if raw then ExprForm.rawAddress mutable else .reference mutable
    pure ((Node.expr form [operand]).withAttrs attrs)
  else
    match ["*", "!", "-"].find? (Ahead.op · ts) with
    | some symbol =>
      let _ ← op? symbol
      pure ((Node.expr (.unary symbol) [← g.unary structs]).withAttrs attrs)
    | none =>
      let whole ← trailers g (← atom g structs)
      if !attrs.isEmpty && !takesOperator whole then
        refuse "attributes are not allowed on range expressions starting with `..`"
      pure (whole.withAttrs attrs)

end TraitRoutes.Grammar
