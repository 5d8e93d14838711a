import TraitRoutes.Grammar.Productions

/-!
# Attributes

An attribute is a path with arguments in brackets, a value behind an equals
sign, or neither. Its arguments stay tokens until someone asks for them.
-/

namespace TraitRoutes.Grammar

open TokenParser

/-- Words that begin a path though they are reserved. -/
def pathWords : List String := ["super", "self", "Self", "crate"]

/-- A path without generic arguments, whose segments the test admits. The messages
say what is missing if there is no segment at all, or none behind a `::`. -/
def pathOf (admits : List Token → Bool) (missing : TokenParser Unit) (behind : String)
    (oneLine : Text.isOneLine behind = true := by exact Text.isOneLine_ofList (by decide)) :
    TokenParser (Bool × List Ident) := do
  let leading ← op? "::"
  let (done, trailing) ← iterate (fun (done, _) => do
    if ← next admits then
      let name := (← anyWord).1
      if ← op? "::" then pure ((name :: done, true), true) else pure ((name :: done, false), false)
    else pure ((done, !done.isEmpty), false)) (([] : List Ident), false)
  if done.isEmpty then missing
  if trailing then fail (.refused behind) oneLine
  pure (leading, done.reverse)

/-- A path without generic arguments, as in attributes and macro calls. -/
def plainPath : TokenParser (Bool × List Ident) :=
  pathOf (fun ts => Ahead.ident ts || Ahead.oneOf pathWords ts) (do let _ ← ident)
    "expected path segment after `::`"

/-- A path of any words. -/
def wordPath : TokenParser (Bool × List Ident) :=
  pathOf Ahead.anyWord (fail (.refused "expected path")) "expected path segment"

variable (g : Productions)

/-- The value behind the equals sign of an attribute. A literal must be all of
it, or the value is read as an expression. -/
def attributeValue : TokenParser Fragment := do
  match Ahead.literal (← ahead) with
  | some (value, []) =>
    advance value.tokens.length value.tokens
    pure (.mk (.expr (.literal value) []) value.tokens)
  | _ =>
    if ← next (fun ts => Ahead.op "#" ts && Ahead.group .bracket (Ahead.skip ts)) then
      fail (.refused "unexpected attribute inside of attribute")
    else g.fragment

/-- What an attribute says behind its path. -/
def attributeArgs : TokenParser AttributeArgs := do
  match ← ahead with
  | .group .. :: _ => do
    let (d, inner) ← rawGroup
    pure (.list d inner)
  | ts =>
    if Ahead.op "=" ts then do
      op "="
      .value <$> attributeValue g
    else pure .word

/-- What an attribute says, without its brackets. -/
def attributeBody : TokenParser Attribute := do
  let (leading, path) ←
    if ← next (Ahead.word "unsafe") then do pure (false, [(← anyWord).1]) else plainPath
  pure ⟨leading, path, ← attributeArgs g⟩

/-- An attribute in front of what it describes. -/
def outerAttribute : TokenParser Attribute := do
  op "#"
  group .bracket (attributeBody g)

/-- The attributes in front of something. -/
def outerAttributes : TokenParser (List Attribute) := many do
  if ← next (Ahead.op "#") then some <$> outerAttribute g else pure none

/-- The attributes in front of something, as nodes. -/
def outerNodes : TokenParser (List Node) := do
  pure ((← outerAttributes g).map (Attribute.node false))

/-- The attributes at the head of the contents that they describe. -/
def innerAttributes : TokenParser (List Attribute) := many do
  if ← next (fun ts => Ahead.op "#" ts && Ahead.op "!" (Ahead.skip ts)) then
    op "#"
    op "!"
    some <$> group .bracket (attributeBody g)
  else pure none

/-- The attributes at the head of the contents that they describe, as nodes. -/
def innerNodes : TokenParser (List Node) := do
  pure ((← innerAttributes g).map (Attribute.node true))

end TraitRoutes.Grammar
