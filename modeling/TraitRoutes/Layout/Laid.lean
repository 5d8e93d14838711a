import TraitRoutes.Layout.Tokens
import TraitRoutes.Syntax.Tree
import TraitRoutes.Text.StringValue

/-!
# Laid out syntax

The layout of a node depends on the node, on the layout of what it consists of,
and on where it stands: a call at the start of a line may keep its receiver there,
and one in a chain shares the chain's indentation. A `Laid` node is a node with
its layout in every place, so the rules for single forms need no recursion.

Attributes are here too, as any form may have them. A text about what follows is
written as the comment that it stands for.
-/

namespace TraitRoutes.Layout

open Doc

/-- Where a node stands, as far as its layout depends on it. -/
inductive Place where
  | plain
  /-- At the start of a line. -/
  | lineStart
  /-- In front of a link of a chain, which itself stands at the start of a line or not. -/
  | link (lineStart : Bool)
  /-- As the result of an arm. -/
  | arm
  /-- Behind an `else`. -/
  | otherwise
  /-- Among values, where a `::` stands in front of generic arguments. -/
  | value
deriving DecidableEq

/-- A node with its layout. -/
structure Laid where
  node : Node
  attrs : List Laid := []
  parts : List Laid := []
  doc : Place → List Doc
  /-- A brace behind it may go to a new line. -/
  wraps : Bool := false
  /-- It may begin a statement as it is. -/
  stands : Bool := true
  /-- As a statement it takes no semicolon, even if one was written. -/
  complete : Bool := false

instance : Inhabited Laid := ⟨{ node := .absent, doc := fun _ => [] }⟩

/-- Text that does not break. -/
def word (s : String) : List Doc := if s.isEmpty then [] else [.text s]

/-- Text if a condition holds. -/
def wordIf (condition : Bool) (s : String) : List Doc := if condition then [.text s] else []

namespace Laid

/-- The form of a laid out expression. -/
def exprForm? (x : Laid) : Option ExprForm := x.node.exprForm?

/-- Whether a part is missing. -/
def isAbsent (x : Laid) : Bool :=
  match x.node.form? with
  | some (.part .absent) => true
  | _ => false

/-- The layout anywhere. -/
def plain (x : Laid) : List Doc := x.doc .plain

/-- Whether attributes stand in front of a node. -/
def hasOuter (x : Laid) : Bool := x.attrs.any fun a => !a.node.isInner

end Laid

/-- The attributes in front of what they describe. -/
def outerDocs (attrs : List Laid) : List Doc :=
  (attrs.filter fun a => !a.node.isInner).flatMap Laid.plain

/-- The attributes at the head of what they describe. -/
def innerDocs (attrs : List Laid) : List Doc :=
  (attrs.filter fun a => a.node.isInner).flatMap Laid.plain

/-! ### Texts in attributes -/

/-- A text without the blanks at its end. -/
def trimEnd (cs : List Char) : List Char := (cs.reverse.dropWhile (· == ' ')).reverse

/-- The lines of a text. -/
def lines : List Char → List (List Char)
  | [] => [[]]
  | c :: rest =>
    if c == '\n' then [] :: lines rest
    else
      match lines rest with
      | first :: more => (c :: first) :: more
      | [] => [[c]]

/-- A text whose lines, but not the last one, have no blanks at their end. -/
def trimLines (cs : List Char) : List Char :=
  match (lines cs).reverse with
  | [] => []
  | last :: before =>
    (((last :: before.map trimEnd).reverse).intersperse ['\n']).flatten

/-- Whether the marks of block comments are balanced, `depth` of them being open. -/
def commentsBalance : Nat → List Char → Bool
  | depth, '/' :: '*' :: rest => commentsBalance (depth + 1) rest
  | depth, '*' :: '/' :: rest =>
    match depth with
    | 0 => false
    | depth + 1 => commentsBalance depth rest
  | depth, _ :: rest => commentsBalance depth rest
  | depth, [] => depth = 0

/-- Whether a text can stand in a block comment. -/
def fitsBlockComment (cs : List Char) : Bool :=
  commentsBalance 0 cs && cs.getLast? != some '/'

/-- A text as a comment that ends its line or as one that spans lines, with the marks
of either; none if it can be neither. -/
def commentDoc (line block : String) (notLine notBlock : List Char) (text : String) :
    Option (List Doc) :=
  let cs := text.toList
  let begins (marks : List Char) : Bool := cs.head?.any marks.contains
  if !cs.contains '\n' && !begins notLine then
    some (.text line :: word (String.ofList (trimEnd cs)) ++ [hard])
  else if fitsBlockComment cs && !begins notBlock then
    some (.text block :: word (String.ofList (trimLines cs)) ++ [.text "*/", hard])
  else none

/-- The text that an attribute gives as its value. -/
def attributeText? (parts : List Laid) : Option String :=
  match parts.map Laid.node with
  | [.mk (.expr (.literal (.token l))) [] _] =>
    if l.kind == .string then some (Text.stringValue l.text) else none
  | _ => none

/-- The comment that an attribute stands for. -/
def attributeComment? (inner leading : Bool) (path : List Ident) (parts : List Laid) :
    Option (List Doc) :=
  match leading, path, attributeText? parts with
  | false, [⟨false, "doc", _⟩], some value =>
    if inner then commentDoc "//!" "/*!" [] [] value
    else commentDoc "///" "/**" ['/'] ['*', '/'] value
  | false, [⟨false, "comment", _⟩], some value => commentDoc "//" "/*" [] ['*', '!'] value
  | _, _, _ => none

/-- The names of a path without generic arguments. -/
def pathText (leading : Bool) (path : List Ident) : String :=
  (if leading then "::" else "") ++ String.intercalate "::" (path.map Ident.text)

/-- An attribute. -/
def attributeDoc (inner leading : Bool) (path : List Ident) (args : Option (Delimiter × List Token))
    (parts : List Laid) : List Doc :=
  match attributeComment? inner leading path parts with
  | some comment => comment
  | none =>
    .text (if inner then "#![" else "#[") :: .text (pathText leading path)
      :: (match args with
        | some (d, tokens) => (attributeTokens .word [.group d tokens]).1
        | none => [])
      ++ (parts.flatMap fun value => .text " = " :: value.plain) ++ [.text "]", space]

/-! ### Macro calls -/

/-- Tokens on lines between brackets. -/
def tokenLines (between : Doc) (tokens : List Doc) : List Doc :=
  [cbox step (closing [between, ibox 0 tokens, between])]

/-- A call of a macro, which may define something under a name. -/
def callDoc (call : MacroCall) (name : Option Ident) (semi : Bool) : List Doc :=
  let between := if call.delimiter = .brace then hard else zero
  .text (pathText call.leading call.path ++ "!")
    :: (match name with
      | some i => [.text (" " ++ i.text)]
      | none => [])
    ++ .text ((if call.delimiter = .brace then " " else "") ++ opener call.delimiter)
    :: (if call.tokens.isEmpty then []
      else tokenLines between (macroTokens false .start true call.tokens))
    ++ .text (closer call.delimiter) :: wordIf (semi && call.delimiter ≠ .brace) ";"

/-- The rules of a macro by example. -/
def macroRules : List Token → List Doc
  | [] => []
  | .group d matcher :: .punct '=' true :: .punct '>' false :: .group _ body :: rest =>
    let rule := .text (opener d)
      :: (if matcher.isEmpty then [] else tokenLines zero (macroTokens true .start true matcher))
      ++ [.text (closer d), .text " =>", .text " \x7b", never]
      ++ (if body.isEmpty then [] else tokenLines hard (macroTokens false .start true body))
      ++ [.text "\x7d"]
    match rest with
    | [] => rule ++ [.text ";", hard]
    | .punct ';' false :: rest => rule ++ [.text ";", hard] ++ macroRules rest
    | _ => [.unknown]
  | _ => [.unknown]

/-- A macro by example. -/
def macroRulesDoc (name : Ident) (rules : List Token) : List Doc :=
  [.text ("macro_rules! " ++ name.text), .text " \x7b",
    cbox step (closing (hardIfNonempty :: macroRules rules)), .text "\x7d"]

/-! ### Blocks -/

/-- Whether a statement is an expression without a semicolon. -/
def Laid.isResult (s : Laid) : Bool :=
  match s.node.form? with
  | some (.statement (.expr false)) => true
  | _ => false

/-- What stands in a block, each statement on a line of its own. -/
def blockLines (block : Laid) : List Doc := innerDocs block.attrs ++ block.parts.flatMap Laid.plain

/-- A block, on one line if there is only an expression in it that fits there. -/
def smallBlock (block : Laid) : List Doc :=
  if block.attrs.isEmpty && block.parts.isEmpty then [.text "\x7b\x7d"]
  else
    let inside := match block.parts with
      | [only] => if only.isResult then [ibox 0 (only.doc .lineStart), space] else only.plain
      | statements => statements.flatMap Laid.plain
    .text "\x7b" :: closing (space :: innerDocs block.attrs ++ inside) ++ [.text "\x7d"]

/-- A block on lines of its own. -/
def bigBlock (contents : List Doc) : List Doc :=
  [cbox step (closing (hardIfNonempty :: contents)), .text "\x7d"]

/-- A label in front of a loop or a block. -/
def labelDoc : Option Ident → List Doc
  | some name => [.text ("'" ++ name.text ++ ": ")]
  | none => []

end TraitRoutes.Layout
