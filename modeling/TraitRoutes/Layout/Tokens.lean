import TraitRoutes.Layout.Doc
import TraitRoutes.Syntax.Tree

/-!
# Layout of tokens

The arguments of macro calls and of attributes have no structure to lay them out
by, only tokens. In a macro call a blank stands between any two of them, unless
what goes before says otherwise: a name is called, a path or a field goes on, a
comma follows. In an attribute a blank stands only where two words would run
together, around an equals sign and behind a comma.
-/

namespace TraitRoutes.Layout

open Doc

/-- The opening mark of a group. -/
def opener : Delimiter → String
  | .paren => "("
  | .bracket => "["
  | .brace => "\x7b"

/-- The closing mark of a group. -/
def closer : Delimiter → String
  | .paren => ")"
  | .bracket => "]"
  | .brace => "\x7d"

/-! ### Macro calls -/

/-- What went before the next token of a macro call. -/
inductive Before where
  | start
  | dollar | dollarName | dollarNameColon | dollarGroup | dollarGroupSeparator
  | hash | hashBang
  | point | colon | colons
  | name | nameBang
  | group
  | other
deriving DecidableEq

/-- Words in front of which a blank stands even behind a point. -/
def spacedWords : List String :=
  ["as", "async", "await", "box", "break", "const", "continue", "crate", "dyn", "else", "enum",
   "extern", "fn", "for", "if", "impl", "in", "let", "loop", "macro", "match", "mod", "move", "mut",
   "pub", "ref", "return", "static", "struct", "trait", "type", "unsafe", "use", "where", "while",
   "yield"]

/-- Whether a blank stands in front of a token, and what the token is for the next
one. In a `matcher`, the pattern of a macro by example, names have fragments. -/
def Before.step (matcher : Bool) : Before → Token → Bool × Before
  | .dollar, .ident .. => (false, if matcher then .dollarName else .other)
  | .dollarName, .punct ':' false => (false, .dollarNameColon)
  | .dollarNameColon, .ident .. => (false, .other)
  | .dollarGroup, .punct '+' false | .dollarGroup, .punct '*' false
  | .dollarGroup, .punct '?' false => (false, .other)
  | .dollarGroup, .ident .. | .dollarGroup, .literal _ => (false, .dollarGroupSeparator)
  | .dollarGroup, .punct _ true => (false, .dollarGroup)
  | .dollarGroup, .punct _ false => (false, .dollarGroupSeparator)
  | .dollarGroupSeparator, .punct '+' _ | .dollarGroupSeparator, .punct '*' _ => (false, .other)
  | .hash, .punct '!' _ => (false, .hashBang)
  | .dollar, .group .paren _ => (false, .dollarGroup)
  | .hash, .group .bracket _ | .hashBang, .group .bracket _ => (false, .other)
  | .name, .group .paren _ | .name, .group .bracket _ => (false, .group)
  | .name, .punct '!' false => (false, .nameBang)
  | .nameBang, .group .paren _ | .nameBang, .group .bracket _ => (false, .other)
  | .colon, .punct ':' _ => (false, .colons)
  | _, .group .paren _ | _, .group .bracket _ => (true, .group)
  | _, .group .brace _ => (true, .other)
  | before, .ident i _ =>
    if !i.raw && spacedWords.contains i.name then (true, .other)
    else (before ≠ .point && before ≠ .colons, .name)
  | before, .literal _ => (before ≠ .point, .name)
  | _, .punct ',' _ | _, .punct ';' _ => (false, .other)
  | before, .punct '.' _ =>
    if matcher then (true, .other) else (before ≠ .name && before ≠ .group, .point)
  | before, .punct ':' true => (before ≠ .name, .colon)
  | _, .punct '$' _ => (true, .dollar)
  | _, .punct '#' _ => (true, .hash)
  | _, .punct .. => (true, .other)

/-- Whether a token is joined to the next one. -/
def joinsNext : Token → Bool
  | .punct c joint => joint || c == '$'
  | _ => false

mutual

/-- A token of a macro call. -/
def macroToken (matcher : Bool) : Token → List Doc
  | .group d inner =>
    let pad := if d = .brace then [space] else []
    .text (opener d)
      :: (if inner.isEmpty then [] else pad ++ macroTokens matcher .start true inner ++ pad)
      ++ [.text (closer d)]
  | .ident i _ => [.text i.text]
  | .punct c _ => [.text (String.singleton c)]
  | .literal l => [.text l.text]

/-- The tokens of a macro call behind what went before; `tight` holds when that is
joined to them. -/
def macroTokens (matcher : Bool) (before : Before) (tight : Bool) : List Token → List Doc
  | [] => []
  | t :: rest =>
    let (blank, next) := before.step matcher t
    let isPoint := match t with
      | .punct '.' _ => true
      | _ => false
    let gap :=
      if tight then [] else if blank then [space] else if isPoint then [zero] else []
    gap ++ macroToken matcher t ++ macroTokens matcher next (joinsNext t) rest

end

/-! ### Attributes -/

/-- What went before the next token of an attribute. -/
inductive AttributeBefore where
  | word | mark | lastComma
deriving DecidableEq

mutual

/-- A token of an attribute, and what it is for the next one; `last` holds at the end
of a group. -/
def attributeToken (before : AttributeBefore) (last : Bool) :
    Token → List Doc × AttributeBefore
  | .ident i _ => ((if before = .word then [space] else []) ++ [.text i.text], .word)
  | .literal l => ((if before = .word then [space] else []) ++ [.text l.text], .word)
  | .punct c _ =>
    if c == ',' && last then ([lastComma 0], .lastComma)
    else
      ((if before = .word && c == '=' then [Doc.text " "] else [])
          ++ .text (String.singleton c)
          :: (if c == '=' then [.text " "] else if c == ',' then [space] else []),
        .mark)
  | .group d inner =>
    let (docs, state) := attributeTokens .mark inner
    (match d with
      | .paren =>
        let ending := if state = .lastComma then [] else [zero]
        [.text "(", cbox step (closing (zero :: docs ++ ending)), .text ")"]
      | d => .text (opener d) :: docs ++ [.text (closer d)], .mark)

/-- The tokens of an attribute. -/
def attributeTokens (before : AttributeBefore) : List Token → List Doc × AttributeBefore
  | [] => ([], before)
  | t :: rest =>
    let (docs, next) := attributeToken before rest.isEmpty t
    let (more, final) := attributeTokens next rest
    (docs ++ more, final)

end

end TraitRoutes.Layout
