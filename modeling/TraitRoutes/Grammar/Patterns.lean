import TraitRoutes.Grammar.Types
import TraitRoutes.Text.Integer

/-!
# Patterns

An identifier is a binding unless what follows makes it a path. Literals, paths,
ranges, macro calls and blocks of constants are the expressions that they look
like. A slice refuses a range that lacks one of its ends.
-/

namespace TraitRoutes.Grammar

open TokenParser

variable (g : Productions)

/-- Alternatives behind the first pattern. -/
def alternatives (leading : Bool) : TokenParser Node := do
  let bar (ts : List Token) : Bool := Ahead.op "|" ts && !Ahead.anyOp ["||", "|="] ts
  let first ← g.pattern
  let more ← many do
    if ← next bar then
      op "|"
      some <$> g.pattern
    else pure none
  pure (if leading || !more.isEmpty then .pattern .alternatives (first :: more) else first)

/-- A pattern with alternatives, in front of which a bar may stand. -/
def anyPattern : TokenParser Node := do alternatives g (← op? "|")

/-- What ends a range without an upper bound. -/
def endsRange (ts : List Token) : Bool :=
  ts.isEmpty || Ahead.anyOp ["|", "=", ",", ";"] ts || (Ahead.op ":" ts && !Ahead.op "::" ts)
    || Ahead.word "if" ts

/-- A bound of a range pattern, if there is one. -/
def rangeBound : TokenParser (Option Node) := do
  let ts ← ahead
  if endsRange ts then pure none
  else if Ahead.isLiteral ts then pure (some (.expr (.literal (← literal)) []))
  else if Ahead.ident ts || Ahead.anyOp ["::", "<"] ts || Ahead.oneOf pathWords ts then
    pure (some (.expr .path [.type (← retold Ty.tokens (qualified g true))]))
  else if Ahead.word "const" ts then
    word "const"
    pure (some (.expr (.block .constBlock) [← body g]))
  else
    expected ["literal", "identifier", "`::`", "`<`", "`self`", "`Self`", "`super`", "`crate`",
      "`const`"]

/-- The dots of a range, and whether they include the upper bound. Three dots are an
old way to say that they do. -/
def rangeDots (obsolete : Bool) : TokenParser Bool := do
  if ← op? "..=" then pure true
  else if obsolete && (← next (Ahead.op "...")) then
    retold (fun _ => Token.operator ['.', '.', '=']) do
      op "..."
      pure true
  else if ← op? ".." then pure false
  else expected ["`..`", "`..=`", "`...`"]

/-- A range behind its lower bound. -/
def rangeEnd (low : Node) : TokenParser Node := do
  let closed ← rangeDots true
  match ← rangeBound g with
  | some high => pure (.expr (.range closed true true) [low, high])
  | none =>
    if closed then fail (.refused "expected range upper bound")
    else pure (.expr (.range false true false) [low])

/-- The place of a field that an integer literal gives. It is written out in plain
digits, whatever its spelling was. -/
def placeOf (text : String) : TokenParser Nat := do
  let (index, suffix) := Text.integerParts text
  if !suffix.isEmpty then refuse "expected unsuffixed integer"
  else if index ≥ Nat.pow 2 32 then refuse "number too large to fit in target type"
  else pure index

/-- The name or the place of a field. -/
def member : TokenParser Member := do
  match ← ahead with
  | .literal l :: _ =>
    if l.kind == .integer then
      let index ← placeOf l.text
      advance 1 [.literal ⟨.integer, toString index⟩]
      pure (.place index)
    else expected ["identifier or integer"]
  | ts =>
    if Ahead.ident ts then .name <$> ident
    else
      match Ahead.literal ts with
      | some (.negative l, _) =>
        if l.kind == .integer then
          refuse (if (Text.integerParts l.text).2.isEmpty then "invalid digit found in string"
            else "expected unsuffixed integer") (by split <;> decide)
        else expected ["identifier or integer"]
      | _ => expected ["identifier or integer"]

/-- A field of a struct pattern. -/
def fieldPattern : TokenParser Node := do
  let boxed ← word? "box"
  let byRef ← word? "ref"
  let mutable ← word? "mut"
  let short := boxed || byRef || mutable
  let field ← if short then .name <$> ident else member
  let colon ← next (Ahead.op ":")
  match short, colon, field with
  | false, false, .name name | true, _, .name name =>
    pure (.part (.fieldPattern none)
      [if boxed then .pattern .verbatim [] else .pattern (.binding byRef mutable name) []])
  | _, _, field =>
    op ":"
    pure (.part (.fieldPattern (some field)) [← anyPattern g])

/-- The fields of a struct pattern, and the rest of them. -/
def fieldPatterns : TokenParser (List Node) := do
  let reversed ← iterate (fun (done : List Node) => do
    if ← isEmpty then pure (done, false)
    else
      let attrs ← outerNodes g
      if ← op? ".." then pure ((Node.pattern .rest []).withAttrs attrs :: done, false)
      else
        let done := (← fieldPattern g).withAttrs attrs :: done
        if ← isEmpty then pure (done, false)
        else
          op ","
          pure (done, true)) []
  pure reversed.reverse

/-- A pattern that begins with a path. -/
def pathPattern : TokenParser Node := do
  let ty ← retold Ty.tokens (qualified g true)
  let called ← macroCall? ty
  let ts ← ahead
  match called with
  | some call => pure (.expr (.macroCall call) [])
  | none =>
    if Ahead.group .brace ts then
      pure (.pattern .struct (.type ty :: (← group .brace (fieldPatterns g))))
    else if Ahead.group .paren ts then
      let (elems, _) ← group .paren (terminated (anyPattern g))
      pure (.pattern .tupleStruct (.type ty :: elems))
    else if Ahead.op ".." ts then rangeEnd g (.expr .path [.type ty])
    else pure (.expr .path [.type ty])

/-- A binding. -/
def bindingPattern : TokenParser Node := do
  let byRef ← word? "ref"
  let mutable ← word? "mut"
  let name ← if ← next (Ahead.word "self") then do pure (← anyWord).1 else ident
  let inner ← if ← op? "@" then some <$> g.pattern else pure none
  pure (.pattern (.binding byRef mutable name) inner.toList)

/-- A literal or a block of constants, or a range that begins with one. -/
def literalPattern : TokenParser Node := do
  match ← rangeBound g with
  | some low => if ← next (Ahead.op "..") then rangeEnd g low else pure low
  | none => fail (.expected [])

/-- A pattern or several in parentheses. A single pattern is no tuple, unless it
stands for the rest of one. -/
def parenPattern : TokenParser Node := do
  let (elems, trailing) ← group .paren (terminated (anyPattern g))
  match elems, trailing with
  | [.mk (.pattern .rest) attrs parts], false =>
    pure (.pattern (.tuple false) [.mk (.pattern .rest) attrs parts])
  | [inner], false => pure (.pattern .paren [inner])
  | elems, trailing => pure (.pattern (.tuple trailing) elems)

/-- Whether a pattern is a range without one of its ends. -/
def isOpenRange (p : Node) : Bool :=
  match p.exprForm? with
  | some (.range _ low high) => !low || !high
  | _ => false

/-- A pattern for the elements of a slice. -/
def slicePattern : TokenParser Node := do
  let (elems, _) ← group .bracket <| terminated do
    let elem ← anyPattern g
    if isOpenRange elem then
      refuse "range pattern is not allowed unparenthesized inside slice pattern"
    pure elem
  pure (.pattern .slice elems)

/-- A range without a lower bound, or the rest of a sequence. -/
def restPattern : TokenParser Node := do
  let closed ← rangeDots false
  match ← rangeBound g with
  | some high => pure (.expr (.range closed false true) [high])
  | none =>
    if closed then fail (.refused "expected range upper bound") else pure (.pattern .rest [])

/-- A pattern without alternatives. -/
def patternRule : TokenParser Node := do
  let ts ← ahead
  let behind := Ahead.skip ts
  if (Ahead.ident ts && (Ahead.anyOp ["::", "!", ".."] behind || Ahead.group .brace behind
          || Ahead.group .paren behind))
      || (Ahead.word "self" ts && Ahead.op "::" behind) || Ahead.anyOp ["::", "<"] ts
      || Ahead.oneOf ["Self", "super", "crate"] ts then
    pathPattern g
  else if Ahead.word "_" ts then
    let _ ← anyWord
    pure (.pattern .wild [])
  else if Ahead.word "box" ts then
    word "box"
    let _ ← g.pattern
    pure (.pattern .verbatim [])
  else if Ahead.op "-" ts || Ahead.isLiteral ts || Ahead.word "const" ts then literalPattern g
  else if Ahead.oneOf ["ref", "mut", "self"] ts || Ahead.ident ts then bindingPattern g
  else if Ahead.op "&" ts then
    op "&"
    let mutable ← word? "mut"
    pure (.expr (.reference mutable) [← g.pattern])
  else if Ahead.group .paren ts then parenPattern g
  else if Ahead.group .bracket ts then slicePattern g
  else if Ahead.op ".." ts && !Ahead.op "..." ts then restPattern g
  else
    expected ["identifier", "`::`", "`<`", "`_`", "literal", "`const`", "`ref`", "`mut`", "`&`",
      "parentheses", "square brackets", "`..`"]

end TraitRoutes.Grammar
