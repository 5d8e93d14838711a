import TraitRoutes.Grammar.Attributes

/-!
# Types, paths, bounds and generics

The rules for types follow the first token. Two of them need care: a parenthesis
may open a tuple, a type in parentheses or the first of several bounds, and a
path that a plus sign follows is no type but a bound, provided the place admits
several.
-/

namespace TraitRoutes.Grammar

open TokenParser

variable (g : Productions)

/-- A type whose tokens are those of its tree. -/
def type (plus : Bool) : TokenParser Ty := retold Ty.tokens (g.ty plus)

/-- The type behind an arrow, if there is one. -/
def returnType (plus : Bool) : TokenParser (Option Ty) := do
  if ← op? "->" then some <$> type g plus else pure none

/-! ### Paths -/

/-- Inner attributes and statements between braces. -/
def body : TokenParser Node := group .brace do
  let attrs ← innerNodes g
  pure ((Node.part .braces (← g.statements)).withAttrs attrs)

/-- A block as an expression. -/
def blockExpr (label : Option Ident) : TokenParser Node := do
  pure (.expr (.block (.plain label)) [← body g])

/-- A block or a single word or literal as a generic argument. -/
def constArgument : TokenParser Fragment := do
  let (node, tokens) ← capture do
    match Ahead.literal (← ahead) with
    | some (value, _) =>
      advance value.tokens.length value.tokens
      pure (Node.expr (.literal value) [])
    | none =>
      if ← next Ahead.ident then
        pure (Node.expr .path [.type (.path (.ofIdent (← ident)))])
      else if ← next (Ahead.group .brace) then blockExpr g none
      else fail (.expected [])
  pure (.mk node tokens)

/-- Marks that may open another bound behind a plus sign. -/
def startsBound (ts : List Token) : Bool :=
  Ahead.anyWord ts || Ahead.op "::" ts || Ahead.op "?" ts || Ahead.lifetime ts
    || Ahead.group .paren ts

/-- Whether an angle bracket behind `impl`, `for` or `where` opens parameters rather
than a path. -/
def startsGenerics (ts : List Token) : Bool :=
  let second := Ahead.skip ts
  let third := Ahead.skip second
  Ahead.op "<" ts
    && (Ahead.anyOp [">", "#"] second || Ahead.word "const" second
      || ((Ahead.lifetime second || Ahead.ident second)
        && ((Ahead.op ":" third && !Ahead.op "::" third) || Ahead.anyOp [",", ">", "="] third)))

/-- The parameters of a `for<..>` in front of a bound or a function type. -/
def binder : TokenParser Fragment := do
  let (params, tokens) ← capture do
    word "for"
    op "<"
    let (params, _) ← separated "," (Ahead.op ">") g.genericParam
    op ">"
    pure params
  pure (.mk (.part .binder (params.map (·.fragment.node))) tokens)

/-- Such parameters if they are there. -/
def binder? : TokenParser (Option Fragment) := do
  if ← next (Ahead.word "for") then some <$> binder g else pure none

/-- The node of a binder that may be missing. -/
def binderNode (binder : Option Fragment) : Node := .optional (binder.map (·.node))

/-- What may end a list of bounds among generic parameters. -/
def endsParamBounds (ts : List Token) : Bool :=
  ts.isEmpty || Ahead.op "," ts || Ahead.op ">" ts || Ahead.op "=" ts

/-- Where the bounds of a type stand; it decides which forms are admitted. -/
structure BoundPlace where
  /-- A `use<..>` may list what is captured. -/
  captures : Bool
  /-- A bound may be `const`. -/
  const : Bool

/-- Bounds of generic parameters and traits. -/
def BoundPlace.param : BoundPlace := ⟨false, true⟩

/-- Bounds behind `dyn` and of the alias of a trait. -/
def BoundPlace.object : BoundPlace := ⟨false, false⟩

/-- Bounds behind `impl`. -/
def BoundPlace.hidden : BoundPlace := ⟨true, true⟩

/-- A segment of a path; in an expression its generic arguments need a `::`. -/
def segment (inExpr : Bool) : TokenParser Segment := do
  if ← next (Ahead.oneOf ["super", "self", "crate", "try"]) then
    pure (.mk (← anyWord).1 .none)
  else
    let name ← if ← next (Ahead.word "Self") then do pure (← anyWord).1 else ident
    let ts ← ahead
    if (!inExpr && Ahead.op "<" ts && !Ahead.op "<=" ts)
        || (Ahead.op "::" ts && Ahead.op "<" (Ahead.skip2 ts)) then
      let turbofish ← op? "::"
      op "<"
      let (done, trailing) ← g.genericArgs
      op ">"
      pure (.mk name (.angle turbofish done trailing))
    else pure (.mk name .none)

/-- A path; in an expression its generic arguments need a `::`. -/
def path (inExpr : Bool) : TokenParser Path := do
  let leading ← op? "::"
  let first ← segment g inExpr
  let more ← many do
    let ts ← ahead
    if Ahead.op "::" ts && !Ahead.group .paren (Ahead.skip2 ts) then
      op "::"
      some <$> segment g inExpr
    else pure none
  pure (.mk leading (first :: more))

/-- Sets the generic arguments of the last segment. -/
def withLastArgs (args : GenericArgs) (segments : List Segment) : List Segment :=
  match segments.getLast? with
  | some (.mk name _) => segments.dropLast ++ [.mk name args]
  | none => []

/-- Whether the last segment has no generic arguments. -/
def lastIsBare (segments : List Segment) : Bool :=
  match segments.getLast? with
  | some (.mk _ .none) => true
  | some (.mk _ (.angle _ args _)) => args.isEmpty
  | _ => false

/-- What a type may capture: lifetimes, which the flag marks, and parameters. -/
def captures : TokenParser Bound := do
  let (params, tokens) ← capture do
    word "use"
    op "<"
    let (params, _) ← separated "," (Ahead.op ">") do
      if ← next Ahead.lifetime then pure (true, ← lifetime)
      else if ← next (fun ts => Ahead.ident ts || Ahead.word "Self" ts) then
        pure (false, (← anyWord).1)
      else expected ["lifetime", "identifier"]
    op ">"
    pure params
  pure (.other (.mk (.part (.captures params) []) tokens))

/-- A bound. -/
def bound (place : BoundPlace) : TokenParser Bound := do
  -- `none` for a bound under `const`, which is only recognised.
  let unparenthesised : TokenParser (Option (Bool × Option Fragment × Path)) := do
    let early ← binder? g
    let constant ←
      if ← next (Ahead.group .bracket) then do
        group .bracket (word "const")
        if !place.const then refuse "`[const]` is not allowed here"
        pure true
      else if ← word? "const" then do
        if !place.const then refuse "`const` is not allowed here"
        pure true
      else pure false
    let relaxed ← op? "?"
    let late ← if early.isNone && relaxed then binder? g else pure none
    let binder := early <|> late
    let .mk leading segs ← path g false
    let ts ← ahead
    let args ←
      if lastIsBare segs
          && (Ahead.group .paren ts || (Ahead.op "::" ts && Ahead.group .paren (Ahead.skip2 ts)))
      then do
        let _ ← op? "::"
        let (inputs, trailing) ← group .paren (terminated (type g true))
        let output ← returnType g false
        pure (some (GenericArgs.paren inputs trailing output))
      else pure none
    if relaxed && binder.isSome then
      refuse "`for<...>` binder not allowed with `?` trait polarity modifier"
    let segs := match args with
      | some args => withLastArgs args segs
      | none => segs
    pure (if constant then none else some (relaxed, binder, .mk leading segs))
  if ← next Ahead.lifetime then pure (.lifetime (← lifetime))
  else if ← next (Ahead.word "use") then
    let found ← captures
    if place.captures then pure found
    else refuse "`use<...>` precise capturing syntax is not allowed here"
  else
    let parenthesised ← next (Ahead.group .paren)
    let (found, tokens) ← capture
      (if parenthesised then group .paren unparenthesised else unparenthesised)
    pure (match found with
      | some (relaxed, binder, path) => .interface parenthesised relaxed binder path
      | none => .other (.mk (.expr .verbatim []) tokens))

/-- Whether a bound names a trait. -/
def namesTrait : Bound → Bool
  | .interface .. => true
  | _ => false

/-- A generic argument. -/
def genericArg : TokenParser GenericArg := do
  let ts ← ahead
  if Ahead.lifetime ts && !Ahead.op "+" (Ahead.skip ts) then pure (.lifetime (← lifetime))
  else if Ahead.isLiteral ts || Ahead.group .brace ts then .const <$> constArgument g
  else
    let ty ← type g true
    match ty with
    | .path (.mk false [.mk name args]) =>
      let simple := match args with
        | .paren .. => false
        | _ => true
      if simple && (← next (Ahead.op "=")) then
        op "="
        if ← next (fun ts => Ahead.isLiteral ts || Ahead.group .brace ts) then
          pure (.assocConst name args (← constArgument g))
        else pure (.assocType name args (← type g true))
      else if simple && (← next (Ahead.op ":")) then
        op ":"
        let (bounds, trailing) ← plusWhile
          (fun ts => Ahead.op "," ts || Ahead.op ">" ts) (bound g .param)
        pure (.constraint name args bounds trailing)
      else pure (.type ty)
    | ty => pure (.type ty)

/-- Bounds behind a colon. A colon without bounds leaves no trace. -/
def colonBounds {α : Type} (tokens : α → List Token) (bounds : TokenParser (List α × Bool)) :
    TokenParser (List α) := do
  let (done, _) ← retold (fun (done : List α × Bool) =>
    if done.1.isEmpty then [] else .lone ':' :: plusSeparated done.2 (done.1.map tokens)) do
      if ← op? ":" then bounds else pure ([], false)
  pure done

/-- A generic parameter behind its attributes. With `unnamed`, a type parameter may
be an underscore. -/
def genericParamBehind (unnamed : Bool) : TokenParser (GenericKind × Node) := do
  let ts ← ahead
  if Ahead.lifetime ts then
    let name ← lifetime
    let bounds ← colonBounds lifetimeTokens (plusWhile endsParamBounds lifetime)
    pure (.lifetime, .part (.lifetimeParam name bounds) [])
  else if Ahead.ident ts then
    let name ← ident
    let bounds ← colonBounds Bound.tokens (plusWhile endsParamBounds (bound g .param))
    let default ← if ← op? "=" then some <$> type g true else pure none
    pure (.type, .part (.typeParam name default.isSome)
      (bounds.map .bound ++ (default.map Node.type).toList))
  else if Ahead.word "const" ts then
    word "const"
    let name ← ident
    op ":"
    let ty ← type g true
    let default ← if ← op? "=" then some <$> constArgument g else pure none
    pure (.const, .part (.constParam name) (.type ty :: (default.map (·.node)).toList))
  else if unnamed && Ahead.word "_" ts then
    let (name, _) ← anyWord
    pure (.type, .part (.typeParam name false) [])
  else expected (if unnamed then ["lifetime", "identifier", "`const`"]
    else ["identifier", "lifetime", "`const`"]) (by cases unnamed <;> decide)

/-- A generic parameter with its attributes. -/
def genericParam (unnamed : Bool) : TokenParser GenericParam := do
  let ((kind, node), tokens) ← capture do
    let attrs ← outerNodes g
    let (kind, node) ← genericParamBehind g unnamed
    pure (kind, node.withAttrs attrs)
  pure ⟨kind, .mk node tokens⟩

/-! ### Generics of a declaration -/

/-- The parameters of a declaration in angle brackets, if there are any. -/
def generics : TokenParser Generics := do
  if ← next (Ahead.op "<") then
    op "<"
    let (params, trailing) ← separated "," (Ahead.op ">") (genericParam g true)
    op ">"
    pure ⟨params, trailing, none⟩
  else pure .empty

/-- What may end the predicates of a `where` clause. -/
def endsPredicates (ts : List Token) : Bool :=
  ts.isEmpty || Ahead.group .brace ts || Ahead.anyOp [",", ";", "="] ts
    || (Ahead.op ":" ts && !Ahead.op "::" ts)

/-- A predicate of a `where` clause. -/
def predicate : TokenParser Node := do
  let ts ← ahead
  if Ahead.lifetime ts && Ahead.op ":" (Ahead.skip ts) then
    let name ← lifetime
    op ":"
    let (bounds, _) ← plusWhile endsPredicates lifetime
    pure (.part (.lifetimePredicate name bounds) [])
  else
    let binder ← binder? g
    let ty ← type g true
    op ":"
    let (bounds, _) ← plusWhile endsPredicates (bound g .param)
    pure (.part .typePredicate (binderNode binder :: .type ty :: bounds.map .bound))

/-- A `where` clause, if there is one. -/
def whereClause : TokenParser (Option Node) := do
  if ← word? "where" then
    if ← next startsGenerics then
      fail (.refused "generic parameters on `where` clauses are reserved for future use")
    let predicates ← iterate (fun done => do
      if ← next endsPredicates then pure (done, false)
      else
        let p ← predicate g
        pure (p :: done, ← op? ",")) ([] : List Node)
    pure (some (.part .whereClause predicates.reverse))
  else pure none

/-! ### Types -/

/-- Bounds joined by plus signs. -/
def bounds (plus : Bool) (place : BoundPlace) : TokenParser (List Bound × Bool) := do
  let (done, trailing) ← iterate (fun (done, _) => do
    let b ← bound g place
    if plus && (← op? "+") then
      let ts ← ahead
      let more := startsBound ts
        || (place.const && (Ahead.group .bracket ts || Ahead.word "const" ts))
      pure ((b :: done, true), more)
    else pure ((b :: done, false), false)) (([] : List Bound), false)
  pure (done.reverse, trailing)

/-- Bounds of a trait object: one of them must be a trait. -/
def objectBounds (plus : Bool) : TokenParser (List Bound × Bool) := do
  let (found, trailing) ← bounds g plus .object
  if found.any namesTrait then pure (found, trailing)
  else refuse "at least one trait is required for an object type"

/-- The bounds that follow the first, each behind a plus sign. -/
def moreBounds : TokenParser (List Bound) := many do
  if ← op? "+" then some <$> bound g .object else pure none

/-- A type that begins with a parenthesis. -/
def parenthesised (plus : Bool) : TokenParser Ty := do
  let objectOf (first : Bound) : TokenParser Ty := do
    pure (.traitObject false (first :: (← moreBounds g)) false)
  let found : Sum Bound Ty ← group .paren do
    let ts ← ahead
    if ts.isEmpty then pure (.inr (.tuple [] false))
    else if Ahead.lifetime ts then
      let (found, trailing) ← objectBounds g true
      pure (.inr (.paren (.traitObject false found trailing)))
    else if Ahead.op "?" ts then .inl <$> bound g .object
    else
      let first ← type g true
      if ← op? "," then
        let (others, trailing) ← terminated (type g true)
        pure (.inr (.tuple (first :: others) (others.isEmpty || trailing)))
      else pure (.inr (.paren first))
  match found with
  | .inl (.interface _ relaxed binder path) => objectOf (.interface true relaxed binder path)
  | .inl other => objectOf other
  | .inr (.paren first) =>
    if plus && (← next (Ahead.op "+")) then
      match first with
      | .path p => objectOf (.interface true false none p)
      | .traitObject false [.interface _ relaxed binder p] false =>
        objectOf (.interface true relaxed binder p)
      | .traitObject false [other] false => objectOf other
      | first => pure (.paren first)
    else pure (.paren first)
  | .inr ty => pure ty

/-- An `extern` with the name of a calling convention, if it is there. -/
def convention? : TokenParser (Option Convention) := do
  if ← word? "extern" then
    match ← ahead with
    | .literal l :: _ =>
      if l.kind == .string then
        anyToken
        pure (some ⟨some l⟩)
      else pure (some ⟨none⟩)
    | _ => pure (some ⟨none⟩)
  else pure none

/-- A name and a colon in front of the parameter of a function type. -/
def inputName (first : Bool) (ts : List Token) : Bool :=
  (Ahead.ident ts || Ahead.word "_" ts || (first && Ahead.word "self" ts))
    && Ahead.op ":" (Ahead.skip ts) && !Ahead.op "::" (Ahead.skip ts)

/-- A parameter of a function type. Only the first may be a receiver, and one that
says `mut` is only recognised. -/
def functionTypeInput (first : Bool) : TokenParser Node := do
  let receives ← next fun ts =>
    first && Ahead.word "mut" ts && Ahead.word "self" (Ahead.skip ts)
  if receives then word "mut"
  let name ←
    if ← next (inputName first) then do
      let (name, _) ← anyWord
      op ":"
      pure (some name)
    else pure none
  let hidden := Node.part (.typeInput none) [.expr .verbatim []]
  let typed := match name with
    | some i => !i.raw && i.name == "self"
    | none => false
  if ← next (fun ts => first && !typed && Ahead.word "mut" ts
      && Ahead.word "self" (Ahead.skip ts)) then
    word "mut"
    word "self"
    pure hidden
  else if receives && name.isNone then
    word "self"
    pure hidden
  else
    let ty ← type g true
    pure (if receives then hidden else .part (.typeInput name) [.type ty])

/-- The dots behind the parameters of a function type. -/
def functionTypeVariadic : TokenParser Node := do
  let name ←
    if ← op? "..." then pure none
    else do
      let (name, _) ← anyWord
      op ":"
      op "..."
      pure (some name)
  let _ ← op? ","
  pure (.part (.typeVariadic name) [])

/-- The parameters of a function type. -/
def functionTypeInputs : TokenParser (List Node) := do
  let dots (ts : List Token) : Bool :=
    Ahead.op "..." ts
      || ((Ahead.ident ts || Ahead.word "_" ts) && Ahead.op ":" (Ahead.skip ts)
        && Ahead.op "..." (Ahead.skip2 ts))
  let reversed ← iterate (fun (done : List Node) => do
    if ← isEmpty then pure (done, false)
    else
      let attrs ← outerNodes g
      if ← next dots then
        pure ((← functionTypeVariadic).withAttrs attrs :: done, false)
      else
        let input ← functionTypeInput g done.isEmpty
        let done := input.withAttrs attrs :: done
        if ← isEmpty then pure (done, false)
        else
          op ","
          pure (done, true)) []
  pure reversed.reverse

/-- A function type behind its `for<..>`. -/
def functionType (binder : Option Fragment) : TokenParser Node := do
  let unsafety ← word? "unsafe"
  let convention ← convention?
  word "fn"
  let inputs ← group .paren (functionTypeInputs g)
  let output ← returnType g false
  pure (.part (.functionType unsafety convention)
    (binderNode binder :: .sequence inputs :: (output.map Node.type).toList))

/-- A path, or a path of an associated item of a type, as a type. -/
def qualified (inExpr : Bool) : TokenParser Ty := do
  if ← next (Ahead.op "<") then
    op "<"
    let self ← type g true
    let interface ← if ← word? "as" then some <$> path g false else pure none
    op ">"
    op "::"
    let first ← segment g inExpr
    let more ← many do
      if ← op? "::" then some <$> segment g inExpr else pure none
    pure (match interface with
      | some (.mk leading segs) =>
        .qualified self segs.length (.mk leading (segs ++ first :: more))
      | none => .qualified self 0 (.mk true (first :: more)))
  else .path <$> path g inExpr

/-- The segments of a path without generic arguments. -/
def plainSegments? (p : Path) : Option (List Ident) :=
  p.segments.mapM fun
    | .mk name .none => some name
    | _ => none

/-- The macro call that a path opens if a bang follows it. -/
def macroCall? : Ty → TokenParser (Option MacroCall)
  | .path p => do
    match plainSegments? p with
    | some names =>
      if ← next fun ts => Ahead.op "!" ts && !Ahead.op "!=" ts then
        op "!"
        let (d, tokens) ← rawGroup
        pure (some ⟨p.leading, names, d, tokens⟩)
      else pure none
    | none => pure none
  | _ => pure none

/-- A form built into the compiler, whose arguments may be any tokens. -/
def builtin : TokenParser Unit := do
  word "builtin"
  op "#"
  let _ ← ident
  let (d, _) ← rawGroup
  if d ≠ .paren then expected ["parentheses"]

/-- Whether a form built into the compiler comes next. -/
def startsBuiltin (ts : List Token) : Bool :=
  Ahead.word "builtin" ts && Ahead.op "#" (Ahead.skip ts)

/-- The type behind an optional `for<..>`. -/
def unboundType (plus : Bool) (binder : Option Fragment) : TokenParser Ty := do
  let bound := binder.isSome
  let front := (binder.map (·.tokens)).getD []
  let recognised (tokens : List Token) : Ty := .other (.mk (.expr .verbatim []) tokens)
  let ts ← ahead
  if Ahead.group .paren ts && !bound then parenthesised g plus
  else if Ahead.oneOf ["fn", "unsafe", "extern"] ts then
    let (node, tokens) ← capture (functionType g binder)
    pure (.other (.mk node (front ++ tokens)))
  else if startsBuiltin ts && !bound then
    recognised <$> (do pure (← capture builtin).2)
  else if Ahead.ident ts || Ahead.oneOf pathWords ts
      || (!bound && (Ahead.op "::" ts || Ahead.op "<" ts)) then
    let (ty, tokens) ← capture (qualified g false)
    let (called, bang) ← capture (macroCall? ty)
    match called, ty with
    | some call, _ => pure (.other (.mk (.expr (.macroCall call) []) (tokens ++ bang)))
    | none, .path p =>
      if bound || (plus && (← next (Ahead.op "+"))) then
        let first := Bound.interface false false binder p
        let (more, trailing) ←
          if plus && (← op? "+") then
            if ← next startsBound then bounds g true .object else pure ([], true)
          else pure ([], false)
        pure (.traitObject false (first :: more) trailing)
      else pure ty
    | none, ty => pure ty
  else if bound then
    expected
      ["identifier", "`fn`", "`unsafe`", "`extern`", "`super`", "`self`", "`Self`", "`crate`"]
  else if Ahead.word "dyn" ts then
    let ((star, found, trailing), tokens) ← capture do
      word "dyn"
      let star ← op? "*"
      pure (star, ← objectBounds g plus)
    pure (if star then recognised tokens else .traitObject true found trailing)
  else if Ahead.group .bracket ts then
    group .bracket do
      let elem ← type g true
      if ← op? ";" then pure (.array elem (← g.fragment)) else pure (.slice elem)
  else if Ahead.op "*" ts then
    op "*"
    let mutable ←
      if ← word? "mut" then pure true
      else if ← word? "const" then pure false
      else expected ["`const`", "`mut`"]
    pure (.pointer mutable (← type g false))
  else if Ahead.op "&" ts then
    op "&"
    let lifetime ← lifetime?
    let mutable ← word? "mut"
    pure (.reference lifetime mutable (← type g false))
  else if Ahead.op "!" ts && !Ahead.op "=" ts then
    op "!"
    pure .never
  else if Ahead.word "impl" ts then
    word "impl"
    let (found, trailing) ← bounds g plus .hidden
    let traits := found.any fun
      | .interface .. => true
      | .other f => !Ahead.word "use" f.tokens
      | .lifetime _ => false
    if traits then pure (.implTrait found trailing)
    else refuse "at least one trait must be specified"
  else if Ahead.word "_" ts then
    let _ ← anyWord
    pure .infer
  else if Ahead.lifetime ts then
    let (found, trailing) ← objectBounds g true
    pure (.traitObject false found trailing)
  else
    expected ["`for`", "parentheses", "`fn`", "`unsafe`", "`extern`", "identifier", "`::`", "`<`",
      "`dyn`", "square brackets", "`*`", "`&`", "`!`", "`impl`", "`_`", "lifetime"]

/-- A type. -/
def typeRule (plus : Bool) : TokenParser Ty := do unboundType g plus (← binder? g)

end TraitRoutes.Grammar
