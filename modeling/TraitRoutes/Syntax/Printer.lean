import TraitRoutes.Syntax.Tree
import TraitRoutes.Token.Printer

/-!
# Tokens of syntax trees

Writes types and paths back as tokens. Inside angle brackets lifetimes come
before everything else, whatever their order in the source; apart from that the
tokens are those the tree was read from, every angle bracket standing alone.
-/

namespace TraitRoutes

/-- The tokens of a lifetime. -/
def lifetimeTokens (name : Ident) : List Token := [.punct '\'' true, .name name]

/-- Token sequences separated by commas, the last one with a comma only if
`trailing` holds. -/
def commaSeparated (trailing : Bool) : List (List Token) → List Token
  | [] => []
  | [last] => last ++ (if trailing then [.lone ','] else [])
  | first :: rest => first ++ .lone ',' :: commaSeparated trailing rest

/-- Token sequences separated by plus signs. -/
def plusSeparated (trailing : Bool) : List (List Token) → List Token
  | [] => []
  | [last] => last ++ (if trailing then [.lone '+'] else [])
  | first :: rest => first ++ .lone '+' :: plusSeparated trailing rest

/-- Arguments, each with the comma that follows it in the source or not. -/
def withCommas (trailing : Bool) : List (List Token) → List (List Token × Bool)
  | [] => []
  | [last] => [(last, trailing)]
  | first :: rest => (first, true) :: withCommas trailing rest

/-- Writes arguments behind what came before; `closed` holds when no comma is
missing there. -/
def joinCommas (closed : Bool) : List (List Token × Bool) → List Token
  | [] => []
  | (tokens, comma) :: rest =>
    (if closed then [] else [.lone ',']) ++ tokens ++ (if comma then [.lone ','] else [])
      ++ joinCommas comma rest

/-- Lifetimes first, then the other arguments. The first argument that follows a
lifetime without a comma brings one along. -/
def lifetimesFirst (args : List ((List Token × Bool) × Bool)) : List Token :=
  let lifetimes := (args.filter (·.2)).map (·.1)
  let others := (args.filter (!·.2)).map (·.1)
  lifetimes.flatMap (fun a => a.1 ++ if a.2 then [Token.lone ','] else [])
    ++ joinCommas ((lifetimes.getLast?.map (·.2)).getD true) others

mutual

/-- The tokens of a type. -/
def Ty.tokens : Ty → List Token
  | .path p => p.tokens
  | .qualified self n (.mk leading segments) =>
    [.lone '<'] ++ self.tokens
      ++ (if n = 0 then [Token.lone '>'] else
        Token.word "as" :: (if leading then Token.operator [':', ':'] else []))
      ++ Segment.tokensAll n (n = 0) segments
  | .tuple elems trailing => [.group .paren (commaSeparated trailing (Ty.tokensEach elems))]
  | .array elem len => [.group .bracket (elem.tokens ++ .lone ';' :: len.tokens)]
  | .slice elem => [.group .bracket elem.tokens]
  | .pointer mutable elem =>
    [.lone '*', if mutable then .word "mut" else .word "const"] ++ elem.tokens
  | .reference lifetime mutable elem =>
    [.lone '&'] ++ (match lifetime with
        | some l => lifetimeTokens l
        | none => [])
      ++ (if mutable then [.word "mut"] else []) ++ elem.tokens
  | .implTrait bounds trailing => .word "impl" :: plusSeparated trailing (Bound.tokensEach bounds)
  | .traitObject dyn bounds trailing =>
    (if dyn then [.word "dyn"] else []) ++ plusSeparated trailing (Bound.tokensEach bounds)
  | .paren elem => [.group .paren elem.tokens]
  | .never => [.lone '!']
  | .infer => [.underscore]
  | .other fragment => fragment.tokens

/-- The tokens of each type of a list. -/
def Ty.tokensEach : List Ty → List (List Token)
  | [] => []
  | t :: rest => t.tokens :: Ty.tokensEach rest

/-- The tokens of a path. -/
def Path.tokens : Path → List Token
  | .mk leading segments =>
    (if leading then Token.operator [':', ':'] else []) ++ Segment.tokensAll 0 false segments

/-- The tokens of segments separated by `::`. A closing angle bracket follows
segment number `close`, counted down to one; `between` holds when a separator is
due. -/
def Segment.tokensAll (close : Nat) (between : Bool) : List Segment → List Token
  | [] => []
  | .mk ident args :: rest =>
    (if between then Token.operator [':', ':'] else []) ++ [.name ident] ++ args.tokens
      ++ (if close = 1 then [.lone '>'] else []) ++ Segment.tokensAll (close - 1) true rest

/-- The tokens of generic arguments. -/
def GenericArgs.tokens : GenericArgs → List Token
  | .none => []
  | .angle turbofish args trailing =>
    (if turbofish then Token.operator [':', ':'] else []) ++ [.lone '<']
      ++ lifetimesFirst ((withCommas trailing (GenericArg.tokensEach args)).zip
        (args.map fun
          | .lifetime _ => true
          | _ => false))
      ++ [.lone '>']
  | .paren inputs trailing output =>
    [.group .paren (commaSeparated trailing (Ty.tokensEach inputs))]
      ++ (match output with
        | some ty => Token.operator ['-', '>'] ++ ty.tokens
        | none => [])

/-- The tokens of each generic argument of a list. -/
def GenericArg.tokensEach : List GenericArg → List (List Token)
  | [] => []
  | a :: rest => a.tokens :: GenericArg.tokensEach rest

/-- The tokens of a generic argument. -/
def GenericArg.tokens : GenericArg → List Token
  | .lifetime name => lifetimeTokens name
  | .type ty => ty.tokens
  | .const value => value.tokens
  | .assocType name args ty => .name name :: args.tokens ++ .lone '=' :: ty.tokens
  | .assocConst name args value => .name name :: args.tokens ++ .lone '=' :: value.tokens
  | .constraint name args bounds trailing =>
    .name name :: args.tokens ++ .lone ':' :: plusSeparated trailing (Bound.tokensEach bounds)

/-- The tokens of a bound. -/
def Bound.tokens : Bound → List Token
  | .interface paren relaxed binder path =>
    let inner := (if relaxed then [Token.lone '?'] else [])
      ++ (match binder with
        | some b => b.tokens
        | none => [])
      ++ path.tokens
    if paren then [.group .paren inner] else inner
  | .lifetime name => lifetimeTokens name
  | .other fragment => fragment.tokens

/-- The tokens of each bound of a list. -/
def Bound.tokensEach : List Bound → List (List Token)
  | [] => []
  | b :: rest => b.tokens :: Bound.tokensEach rest

end

/-- A type as text. -/
def Ty.text (t : Ty) : String := Token.renderAll t.tokens

/-- The tokens of generic parameters between their brackets, in source order. -/
def Generics.paramTokens (g : Generics) : List Token :=
  commaSeparated g.trailing (g.params.map GenericParam.tokens)

/-- The tokens of generics with their brackets, lifetimes first; nothing without
parameters. -/
def Generics.tokens (g : Generics) : List Token :=
  if g.params.isEmpty then []
  else [.lone '<'] ++ lifetimesFirst ((withCommas g.trailing (g.params.map GenericParam.tokens)).zip
      (g.params.map (·.kind == .lifetime))) ++ [.lone '>']

/-- The tokens of an attribute's path. -/
def Attribute.pathTokens (a : Attribute) : List Token :=
  Segment.tokensAll 0 a.leading (a.path.map (.mk · .none))

end TraitRoutes
