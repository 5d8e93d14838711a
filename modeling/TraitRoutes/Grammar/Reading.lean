import TraitRoutes.Grammar.Items
import TraitRoutes.Token.Lexer

/-!
# Reading source text

Ties the rules of the grammar together, depth by depth, and reads what the
generator takes in: whole files, types, attributes and expressions.
-/

namespace TraitRoutes

open Grammar

/-- The grammar up to a depth of nesting. -/
def Productions.ofDepth : Nat → Productions
  | 0 => .bottom
  | depth + 1 =>
    let g := Productions.ofDepth depth
    { ty := typeRule g
      genericArgs := TokenParser.separated "," (Ahead.op ">") (genericArg g)
      genericParam := Grammar.genericParam g false
      expr := exprRule g
      unary := unaryRule g
      earlyExpr := earlyExprRule g
      operand := operandRule g
      pattern := patternRule g
      statements := statementsRule g
      conditional := conditionalRule g
      item := itemRule g
      useTree := useTreeRule g }

/-- The grammar for a token sequence. Each round of its recursion but a few takes
a token or opens a group. -/
def Productions.for (tokens : List Token) : Productions :=
  .ofDepth (2 * Token.countAll tokens + 8)

/-- Reads all of the tokens by a rule of the grammar. -/
def readAll {α : Type} (rule : Productions → TokenParser α) (tokens : List Token) :
    Except SyntaxError α :=
  TokenParser.parseAll (rule (.for tokens)) tokens

/-- The error of a text that is no token sequence. -/
def SyntaxError.notTokens : SyntaxError :=
  ⟨false, .refused "cannot parse string into token stream"⟩

/-- Reads an expression. -/
def readExpr (text : String) : Except SyntaxError Fragment :=
  match lex text with
  | none => .error .notTokens
  | some tokens => readAll Productions.fragment tokens

/-- Reads a type. -/
def readType (text : String) : Except SyntaxError Ty :=
  match lex text with
  | none => .error .notTokens
  | some tokens => readAll (fun g => Grammar.type g true) tokens

/-- The items of a file, which may begin with inner attributes. -/
def fileRule (g : Productions) : TokenParser (List Item) := do
  let _ ← innerAttributes g
  TokenParser.many do
    if ← TokenParser.isEmpty then pure none else some <$> (do pure (← g.item).1)

/-- The text of a file from where its tokens begin: without a byte order mark and
without a first line that names an interpreter. A first line that opens an inner
attribute is no such line; its line feed stays in any case. -/
def fileBody (text : String) : List Char :=
  let cs := match text.toList with
    | '\ufeff' :: rest => rest
    | cs => cs
  match cs with
  | '#' :: '!' :: rest =>
    let opensAttribute := match Scan.gap .between rest with
      | some (_, '[' :: _) => true
      | _ => false
    if opensAttribute then cs else cs.dropWhile (· != '\n')
  | cs => cs

/-- Reads a source file. -/
def readFile (text : String) : Except SyntaxError (List Item) :=
  match lex (String.ofList (fileBody text)) with
  | none => .error .notTokens
  | some tokens => readAll fileRule tokens

/-- Reads the declaration of a trait. An alias is none. -/
def readTrait (tokens : List Token) : Except SyntaxError TraitDecl :=
  readAll (fun g => do
    let attrs ← outerAttributes g
    match ← traitItems g attrs (← access) with
    | (.interface decl, _) => pure decl
    | _ => TokenParser.expected ["curly braces"]) tokens

/-- Reads the declaration of a method. -/
def readMethod (tokens : List Token) : Except SyntaxError Method :=
  readAll (fun g => do pure (← methodBehind g (← outerAttributes g)).1) tokens

end TraitRoutes
