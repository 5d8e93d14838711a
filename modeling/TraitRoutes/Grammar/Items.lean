import TraitRoutes.Grammar.Expressions

/-!
# Items

What a file, a block, a trait or an `impl` consists of. The generator looks at
traits, imports and inline modules alone; everything else is read to the end, for
a file with a mistake anywhere is no source. An item inside of an expression is
written again with it, so each rule also gives the node of what it read.
-/

namespace TraitRoutes.Grammar

open TokenParser

variable (g : Productions)

/-! ### Visibility and functions -/

/-- A visibility. `pub` may be restricted to a path in parentheses, unless those are
the type of a field. -/
def access : TokenParser Access := do
  if ← word? "pub" then
    match ← ahead with
    | .group .paren inner :: _ =>
      if Ahead.oneOf ["crate", "self", "super"] inner && (Ahead.skip inner).isEmpty then
        group .paren do pure (.within false [(← anyWord).1])
      else if Ahead.word "in" inner then
        group .paren do
          word "in"
          let (leading, path) ← plainPath
          pure (.within leading path)
      else pure .everyone
    | _ => pure .everyone
  else pure .inherited

/-- Whether nothing is said about who may see an item. -/
def isInherited : Access → Bool
  | .inherited => true
  | _ => false

/-- What stands in front of `fn`. -/
structure FunctionHead where
  words : List String
  /-- The function is called `safe`, which is only recognised. -/
  safe : Bool
  convention : Option Convention

/-- Whether a function is `async`. -/
def FunctionHead.async (h : FunctionHead) : Bool := h.words.contains "async"

/-- Reads what stands in front of `fn`. -/
def functionHead (safe : Bool) : TokenParser FunctionHead := do
  let words ← ["const", "async"].filterM (word? ·)
  if safe && (← next fun ts => Ahead.word "safe" ts && !Ahead.op "::" (Ahead.skip ts)) then
    word "safe"
    pure ⟨words, true, ← convention?⟩
  else
    let unsafety ← word? "unsafe"
    pure ⟨words ++ (if unsafety then ["unsafe"] else []), false, ← convention?⟩

/-- Whether a function signature comes next. -/
def startsFunction (safe : Bool) : TokenParser Bool := do
  if ← next (Ahead.word "fn") then pure true
  else
    would do
      let _ ← functionHead safe
      word "fn"

/-- Whether the receiver of a method comes next, and not a path from `self`. -/
def startsReceiver (ts : List Token) : Bool :=
  let ts := if Ahead.op "&" ts then
      let behind := Ahead.skip ts
      if Ahead.lifetime behind then Ahead.skip behind else behind
    else ts
  let ts := if Ahead.word "mut" ts then Ahead.skip ts else ts
  Ahead.word "self" ts && !Ahead.op "::" (Ahead.skip ts)

/-- The receiver of a method. -/
def receiver : TokenParser (Receiver × Node) := do
  let reference ← op? "&"
  let lifetime ← if reference then lifetime? else pure none
  let mutable ← word? "mut"
  word "self"
  let typed ← if reference then pure false else op? ":"
  let ty ← if typed then some <$> type g true else pure none
  pure (⟨reference, mutable, typed⟩,
    .part (.receiver (if reference then some lifetime else none) mutable)
      (ty.map Node.type).toList)

/-- A parameter of a function. -/
inductive FunctionParam where
  | receiver (self : Receiver)
  | input (input : Input)
  | variadic

/-- A binding as the pattern of a parameter. -/
def asPattern (node : Node) (tokens : List Token) : Pattern :=
  match node with
  | .mk (.pattern (.binding byRef _ name)) _ inner =>
    ⟨some name, byRef || !inner.isEmpty, tokens⟩
  | _ => ⟨none, false, tokens⟩

/-- A parameter behind its attributes. -/
def functionParam : TokenParser (FunctionParam × Node) := do
  if ← op? "..." then pure (.variadic, .part .variadic [])
  else if ← next startsReceiver then
    let (self, node) ← receiver g
    pure (.receiver self, node)
  else if ← next (fun ts => Ahead.ident ts && Ahead.op "<" (Ahead.skip ts)) then
    let ty ← type g true
    pure (.input ⟨⟨none, false, [.underscore]⟩, ty⟩,
      .pattern .typed [.pattern .wild [], .type ty])
  else
    let (pattern, tokens) ← capture g.pattern
    op ":"
    if ← op? "..." then pure (.variadic, .part .variadic [pattern])
    else
      let ty ← type g true
      pure (.input ⟨asPattern pattern tokens, ty⟩, .pattern .typed [pattern, .type ty])

/-- The parameters of a function read so far, the latest first. -/
structure FunctionParams where
  self : Option Receiver := none
  inputs : List Input := []
  variadic : Bool := false
  nodes : List Node := []

/-- The parameters of a function: a receiver comes first or not at all, and
nothing follows the dots of a variadic one. -/
def functionParams : TokenParser FunctionParams := do
  let done ← iterate (fun (done : FunctionParams) => do
    if ← isEmpty then pure (done, false)
    else
      let attrs ← outerNodes g
      let (param, node) ← functionParam g
      let done := { done with nodes := node.withAttrs attrs :: done.nodes }
      match param with
      | .variadic =>
        if !(← isEmpty) then op ","
        pure ({ done with variadic := true }, false)
      | .receiver r =>
        if done.self.isSome then refuse "unexpected second method receiver"
        if !done.inputs.isEmpty then refuse "unexpected method receiver"
        more { done with self := some r }
      | .input i => more { done with inputs := i :: done.inputs }) {}
  pure { done with inputs := done.inputs.reverse, nodes := done.nodes.reverse }
where
  /-- Goes on behind a comma. -/
  more (done : FunctionParams) : TokenParser (FunctionParams × Bool) := do
    if ← isEmpty then pure (done, false)
    else
      op ","
      pure (done, true)

/-- A signature, its node and that of its `where` clause, and whether it is one of a
`safe` function. -/
def signature (safe : Bool) : TokenParser (Signature × List Node × Bool) := do
  let head ← functionHead safe
  word "fn"
  let name ← ident
  let params ← generics g
  let inputs ← group .paren (functionParams g)
  let output ← returnType g true
  let clause ← whereClause g
  let params := { params with clause }
  pure (⟨head.async, name, params, inputs.self, inputs.inputs, inputs.variadic, output⟩,
    [.part (.signature head.words head.convention name)
        [params.node, .sequence inputs.nodes, .optional (output.map .type)],
      params.clauseNode],
    head.safe)

/-- The body of a function; its inner attributes belong to the function. -/
def functionBody : TokenParser (List Attribute × Node) := group .brace do
  let attrs ← innerAttributes g
  let node := Node.part .braces (← g.statements)
  pure (attrs, node.withAttrs (attrs.map (Attribute.node true)))

/-- A path with the bang and the group of a macro call. With `named`, a name may
stand in front of the group. Without braces a semicolon ends it. -/
def itemCall (named : Bool) : TokenParser Node := do
  let (leading, path) ← plainPath
  op "!"
  let name ←
    if named && (← next fun ts => Ahead.ident ts || Ahead.word "try" ts) then
      some <$> (do pure (← anyWord).1)
    else pure none
  let (d, tokens) ← rawGroup
  if d ≠ .brace then op ";"
  pure (.item (.macroCall ⟨leading, path, d, tokens⟩ name) [])

/-- Whether a macro call may come next. -/
def startsCall (ts : List Token) : Bool :=
  Ahead.ident ts || Ahead.oneOf ["self", "super", "crate"] ts || Ahead.op "::" ts

/-! ### Associated types and constants -/

/-- An associated or a free type alias, with bounds, a definition and a `where`
clause, each or none of them. The clause of a free alias stands in front of the
definition, that of an associated one behind it. -/
def typeAlias (access : Access) (default : Bool) (place : AliasPlace) : TokenParser Node := do
  word "type"
  let name ← ident
  let params ← generics g
  let ends (ts : List Token) : Bool := Ahead.word "where" ts || Ahead.anyOp ["=", ";"] ts
  let bounded ← op? ":"
  let (bounds, _) ← if bounded then separated "+" ends (bound g .param) else pure ([], false)
  let early ←
    if place = .free || place = .foreign then whereClause g else pure none
  let ty ← if ← op? "=" then some <$> type g true else pure none
  let late ←
    if place ≠ .free && early.isNone then whereClause g else pure none
  op ";"
  let admitted := match place with
    | .interface => isInherited access && !default
    | .free | .implementation => !bounded && ty.isSome
    | .foreign => !bounded && ty.isNone
  let params := { params with clause := early <|> late }
  pure (if admitted then
      .item (.alias access default place name)
        (params.node :: params.clauseNode :: .optional (ty.map .type) :: bounds.map .bound)
    else .item .verbatim [])

/-- A constant behind its keyword. Without a value, which `optional` admits, and with
parameters of its own it is only recognised. -/
def constant (access : Access) (default optional : Bool) : TokenParser Node := do
  let ts ← ahead
  if Ahead.ident ts || Ahead.word "_" ts then
    let (name, _) ← anyWord
    let bracket ← next (Ahead.op "<")
    let _ ← generics g
    op ":"
    let ty ← type g true
    let value ← if ← op? "=" then some <$> g.expr true else pure none
    let clause ← whereClause g
    op ";"
    pure (if bracket || clause.isSome || (value.isNone && !optional) then .item .verbatim []
      else .item (.constant access default name) (.type ty :: value.toList))
  else expected ["identifier", "`_`"]

/-! ### Traits -/

/-- A method behind its attributes. -/
def methodBehind (attrs : List Attribute) : TokenParser (Method × Node) := do
  let (sig, nodes, _) ← signature g false
  let (inner, block) ←
    if ← op? ";" then pure ([], none)
    else if ← next (Ahead.group .brace) then do
      let (inner, block) ← functionBody g
      pure (inner, some block)
    else expected ["curly braces", "`;`"]
  pure (⟨attrs ++ inner, sig⟩,
    (Node.item (.function .inherited false) (nodes ++ block.toList)).withAttrs
      (attrs.map (Attribute.node false)))

/-- An item of a trait: a method, or nothing of interest. -/
def traitItem : TokenParser (Option Method × Node) := do
  let attrs ← outerAttributes g
  let access ← access
  let default ← word? "default"
  let plain := isInherited access && !default
  let ts ← ahead
  let behind := Ahead.skip ts
  let outer (node : Node) : Option Method × Node :=
    (none, if plain then node.withAttrs (attrs.map (Attribute.node false))
      else .item .verbatim [])
  if ← startsFunction false then
    let (method, node) ← methodBehind g attrs
    pure (if plain then (some method, node) else (none, .item .verbatim []))
  else if Ahead.word "const" ts && (Ahead.ident behind || Ahead.word "_" behind) then
    word "const"
    outer <$> constant g .inherited false true
  else if Ahead.word "type" ts then outer <$> typeAlias g access default .interface
  else if plain && startsCall ts then outer <$> itemCall false
  else expected ["`fn`", "`const`", "`type`", "identifier", "`self`", "`super`", "`crate`", "`::`"]

/-- What ends the supertraits of a trait. -/
def endsSupertraits (ts : List Token) : Bool := Ahead.word "where" ts || Ahead.group .brace ts

/-- A trait or an alias of one behind its attributes and its visibility. -/
def traitItems (attrs : List Attribute) (access : Access) : TokenParser (Item × Node) := do
  let marked ← word? "unsafe"
  let auto ← word? "auto"
  word "trait"
  let (name, place) ← placedIdent
  let params ← generics g
  if !marked && !auto && (← next (Ahead.op "=")) then
    op "="
    let ends (ts : List Token) : Bool := Ahead.word "where" ts || Ahead.op ";" ts
    let (bounds, _) ← separated "+" ends (bound g .object)
    let params := { params with clause := ← whereClause g }
    op ";"
    pure (.other, .item (.interfaceAlias access name)
      (params.node :: params.clauseNode :: bounds.map .bound))
  else
    let (supertraits, _) ←
      if ← op? ":" then separated "+" endsSupertraits (bound g .param) else pure ([], false)
    let params := { params with clause := ← whereClause g }
    let (inner, items) ← group .brace do
      let inner ← innerAttributes g
      let items ← many do
        if ← isEmpty then pure none else some <$> traitItem g
      pure (inner, items)
    let words := (if marked then ["unsafe"] else []) ++ (if auto then ["auto"] else [])
    let node := Node.item (.interface access words name)
      (params.node :: params.clauseNode :: .sequence (supertraits.map .bound)
        :: items.map (·.2))
    pure (.interface ⟨attrs ++ inner, name, place, params, supertraits,
        items.filterMap (·.1)⟩,
      node.withAttrs (inner.map (Attribute.node true)))

/-! ### Implementations -/

/-- An item of an `impl`. -/
def implItem : TokenParser Node := do
  let attrs ← outerNodes g
  let access ← access
  let default ←
    if ← next (fun ts => Ahead.word "default" ts && !Ahead.op "!" (Ahead.skip ts)) then
      word? "default"
    else pure false
  let ts ← ahead
  let node ←
    if ← startsFunction false then do
      let (_, nodes, _) ← signature g false
      if ← op? ";" then pure (Node.item .verbatim [])
      else
        let (_, block) ← functionBody g
        pure (.item (.function access default) (nodes ++ [block]))
    else if Ahead.word "const" ts then do
      word "const"
      constant g access default false
    else if Ahead.word "type" ts then typeAlias g access default .implementation
    else if isInherited access && !default && startsCall ts then itemCall false
    else
      expected
        ["`fn`", "`const`", "`type`", "identifier", "`self`", "`super`", "`crate`", "`::`"]
  pure (node.withAttrs attrs)

/-- An `impl` behind its visibility. A negative one must name a trait. -/
def implBlock (access : Access) : TokenParser Node := do
  let words ← ["default", "unsafe"].filterM (word? ·)
  word "impl"
  let params ← if ← next startsGenerics then generics g else pure .empty
  let asked ←
    if ← next (fun ts => Ahead.op "?" ts && Ahead.word "const" (Ahead.skip ts)) then op? "?"
    else pure false
  let constant ← word? "const"
  let negative ←
    if ← next (fun ts => Ahead.op "!" ts && !Ahead.group .brace (Ahead.skip ts)) then op? "!"
    else pure false
  let first ← type g true
  let interface := match first with
    | .path _ => true
    | _ => false
  let target ← if ← word? "for" then some <$> type g true else pure none
  if negative && target.isNone then refuse "inherent impls cannot be negative"
  let params := { params with clause := ← whereClause g }
  let (attrs, items) ← group .brace do
    let attrs ← innerNodes g
    pure (attrs, ← many do
      if ← isEmpty then pure none else some <$> implItem g)
  let subject := match target with
    | some ty => [Node.type first, .type ty]
    | none => [.absent, .type first]
  pure (if !isInherited access || asked || constant || (target.isSome && !interface) then
      .item .verbatim []
    else (Node.item (.implementation words negative)
      (params.node :: params.clauseNode :: subject ++ items)).withAttrs attrs)

/-! ### Foreign items -/

/-- A static variable behind its visibility. A free one that has no value or no type,
and a foreign one that has a value, is only recognised. -/
def staticItem (access : Access) (foreign : Bool) : TokenParser Node := do
  word "static"
  let mutable ← word? "mut"
  let name ← ident
  let ty ←
    if !foreign && (← next (Ahead.op "=")) then pure none
    else do
      op ":"
      some <$> type g true
  let value ← if ← op? "=" then some <$> g.expr true else pure none
  op ";"
  match ty with
  | some ty =>
    pure (if value.isSome == foreign then .item .verbatim []
      else .item (.static access mutable name) (.type ty :: value.toList))
  | none => pure (.item .verbatim [])

/-- An item of an `extern` block. -/
def foreignItem : TokenParser Node := do
  let attrs ← outerNodes g
  let access ← access
  let ts ← ahead
  let node ←
    if ← startsFunction true then do
      let (_, nodes, safe) ← signature g true
      if ← next (Ahead.group .brace) then
        let _ ← functionBody g
        pure (Node.item .verbatim [])
      else
        op ";"
        pure (if safe then .item .verbatim [] else .item (.function access false) nodes)
    else if Ahead.word "static" ts then staticItem g access true
    else if Ahead.oneOf ["unsafe", "safe"] ts && Ahead.word "static" (Ahead.skip ts) then do
      let _ ← anyWord
      let _ ← staticItem g access true
      pure (Node.item .verbatim [])
    else if Ahead.word "type" ts then typeAlias g access false .foreign
    else if isInherited access && startsCall ts then itemCall false
    else
      expected
        ["`fn`", "`static`", "`type`", "identifier", "`self`", "`super`", "`crate`", "`::`"]
  pure (node.withAttrs attrs)

/-- An `extern` block. -/
def foreignBlock : TokenParser Node := do
  let unsafety ← word? "unsafe"
  let convention := (← convention?).getD ⟨none⟩
  group .brace do
    let attrs ← innerNodes g
    let items ← many do
      if ← isEmpty then pure none else some <$> foreignItem g
    pure ((Node.item (.foreign unsafety convention) items).withAttrs attrs)

/-! ### Structures -/

/-- A structure without a name, which is only recognised. -/
def anonymousStruct (fields : TokenParser Node) : TokenParser Node := do
  let _ ← anyWord
  let _ ← fields
  pure (.expr .verbatim [])

/-- Fields with names. A field may be called `_`, and only then its type may be a
structure of its own; those nest on fuel. -/
def namedFieldsAt : Nat → TokenParser Node
  | 0 => tooDeep
  | depth + 1 => group .brace do
    let (fields, _) ← terminated do
      let attrs ← outerNodes g
      let access ← access
      let unnamed ← next (Ahead.word "_")
      let name ← if unnamed then do pure (← anyWord).1 else ident
      op ":"
      let ty ←
        if unnamed && (← next fun ts => Ahead.word "struct" ts
            || (Ahead.word "union" ts && Ahead.group .brace (Ahead.skip ts))) then
          anonymousStruct (namedFieldsAt depth)
        else .type <$> type g true
      pure ((Node.item (.field access (some name)) [ty]).withAttrs attrs)
    pure (.item .namedFields fields)

/-- Fields with names. -/
def namedFields : TokenParser Node := do namedFieldsAt g (Token.countAll (← ahead) + 1)

/-- Fields without names. -/
def tupleFields : TokenParser Node := group .paren do
  let (fields, _) ← terminated do
    let attrs ← outerNodes g
    let access ← access
    let ty ← type g true
    pure ((Node.item (.field access none) [.type ty]).withAttrs attrs)
  pure (.item .tupleFields fields)

/-- A structure behind its visibility. -/
def structItem (access : Access) : TokenParser Node := do
  word "struct"
  let name ← ident
  let params ← generics g
  let early ← whereClause g
  let ts ← ahead
  let (late, fields) ←
    if early.isNone && Ahead.group .paren ts then do
      let fields ← tupleFields g
      let late ← whereClause g
      op ";"
      pure (late, fields)
    else if Ahead.group .brace ts then do
      pure (none, ← namedFields g)
    else do
      op ";"
      pure (none, Node.absent)
  let params := { params with clause := early <|> late }
  pure (.item (.struct access "struct" name) [params.node, params.clauseNode, fields])

/-- An enumeration behind its visibility. -/
def enumItem (access : Access) : TokenParser Node := do
  word "enum"
  let name ← ident
  let params ← generics g
  let params := { params with clause := ← whereClause g }
  let (variants, _) ← group .brace <| terminated do
    let attrs ← outerNodes g
    let _ ← Grammar.access
    let name ← ident
    let ts ← ahead
    let fields ←
      if Ahead.group .brace ts then namedFields g
      else if Ahead.group .paren ts then tupleFields g
      else pure .absent
    let value ← if ← op? "=" then some <$> g.expr true else pure none
    pure ((Node.item (.variant name) (fields :: value.toList)).withAttrs attrs)
  pure (.item (.enum access name) (params.node :: params.clauseNode :: variants))

/-- A union behind its visibility. -/
def unionItem (access : Access) : TokenParser Node := do
  word "union"
  let name ← ident
  let params ← generics g
  let params := { params with clause := ← whereClause g }
  let fields ← namedFields g
  pure (.item (.struct access "union" name) [params.node, params.clauseNode, fields])

/-! ### Imports and modules -/

/-- An import tree. A group may hold paths from the root of all crates, which
`rooted` admits; such a tree imports nothing that is known. -/
def useTreeRule (rooted : Bool) : TokenParser (Option UseTree) := do
  let ts ← ahead
  if Ahead.ident ts || Ahead.oneOf ["self", "super", "crate", "try"] ts then
    let (name, _) ← anyWord
    if ← op? "::" then
      match ← g.useTree false with
      | some tree => pure (some (.path name tree))
      | none => pure none
    else if ← word? "as" then
      if ← next (fun ts => Ahead.ident ts || Ahead.word "_" ts) then
        pure (some (.rename name (← anyWord).1))
      else fail (.refused "expected identifier or underscore")
    else pure (some (.name name))
  else if ← op? "*" then pure (some .glob)
  else if Ahead.group .brace ts then
    group .brace do
      let (trees, _) ← terminated do
        let absolute ← if rooted then op? "::" else pure false
        let tree ← g.useTree (rooted && !absolute)
        pure (if absolute then none else tree)
      pure (if trees.all Option.isSome then some (.group (trees.filterMap id)) else none)
  else expected ["identifier", "`self`", "`super`", "`crate`", "`try`", "`*`", "curly braces"]

/-- An import behind its visibility. -/
def useItem (access : Access) : TokenParser (Item × Node) := do
  word "use"
  let absolute ← op? "::"
  let tree ← useTreeRule g (!absolute)
  op ";"
  pure (match tree with
    | some tree => (.imports tree, .item (.imports access absolute tree) [])
    | none => (.other, .item .verbatim []))

/-- A module behind its visibility; only an inline one has items. -/
def moduleItem (access : Access) : TokenParser (Item × Node) := do
  let unsafety ← word? "unsafe"
  word "mod"
  let name ← identOrTry
  if ← op? ";" then pure (.other, .item (.module access unsafety false name) [])
  else if ← next (Ahead.group .brace) then
    group .brace do
      let attrs ← innerNodes g
      let items ← many do
        if ← isEmpty then pure none else some <$> g.item
      let node := Node.item (.module access unsafety true name) (items.map (·.2))
      pure (.module name (items.map (·.1)), node.withAttrs attrs)
  else expected ["`;`", "curly braces"]

/-- The import of a crate behind its visibility. -/
def externCrate (access : Access) : TokenParser Node := do
  word "extern"
  word "crate"
  let name ← if ← next (Ahead.word "self") then do pure (← anyWord).1 else ident
  let new ←
    if ← word? "as" then
      if ← next (Ahead.word "_") then some <$> (do pure (← anyWord).1) else some <$> ident
    else pure none
  op ";"
  pure (.item (.externCrate access name new) [])

/-- A macro by definition behind its visibility, which is only recognised. -/
def macroItem : TokenParser Node := do
  let _ ← anyWord
  let _ ← ident
  if ← next (Ahead.group .paren) then let _ ← rawGroup
  group .brace do
    let _ ← many do
      if ← isEmpty then pure none else some <$> anyToken
  pure (.item .verbatim [])

/-! ### All items -/

/-- An item behind its attributes. -/
def itemBehind (attrs : List Attribute) : TokenParser (Item × Node) := do
  let access ← access
  let visible := !isInherited access
  let ts ← ahead
  let behind := Ahead.skip ts
  let plain (p : TokenParser Node) : TokenParser (Item × Node) := do pure (.other, ← p)
  let (item, node) ←
    if ← startsFunction false then
      plain do
        let (_, nodes, _) ← signature g false
        if ← op? ";" then pure (Node.item .verbatim [])
        else
          let (_, block) ← functionBody g
          pure (.item (.function access false) (nodes ++ [block]))
    else if Ahead.word "extern" ts then
      if Ahead.word "crate" behind then plain (externCrate access)
      else if visible then expected ["`extern`"]
      else plain (foreignBlock g)
    else if Ahead.word "use" ts then useItem g access
    else if Ahead.word "static" ts then plain (staticItem g access false)
    else if Ahead.word "const" ts then
      plain do
        word "const"
        constant g access false false
    else if !visible && Ahead.word "unsafe" ts && Ahead.word "extern" behind then
      plain (foreignBlock g)
    else if Ahead.word "unsafe" ts && Ahead.word "impl" behind then plain (implBlock g access)
    else if Ahead.word "unsafe" ts && Ahead.word "mod" behind then moduleItem g access
    else if Ahead.oneOf ["unsafe", "trait"] ts
        || (Ahead.word "auto" ts && Ahead.word "trait" behind) then traitItems g attrs access
    else if Ahead.word "mod" ts then moduleItem g access
    else if Ahead.word "type" ts then plain (typeAlias g access false .free)
    else if Ahead.word "struct" ts then plain (structItem g access)
    else if Ahead.word "enum" ts then plain (enumItem g access)
    else if Ahead.word "union" ts && Ahead.ident behind then plain (unionItem g access)
    else if Ahead.word "impl" ts || (Ahead.word "default" ts && !Ahead.op "!" behind) then
      plain (implBlock g access)
    else if Ahead.word "macro" ts then plain macroItem
    else if !visible && startsCall ts then plain (itemCall true)
    else
      expected ["`fn`", "`extern`", "`use`", "`static`", "`const`", "`unsafe`", "`mod`", "`type`",
        "`struct`", "`enum`", "`union`", "`trait`", "`auto`", "`impl`", "`default`", "`macro`",
        "identifier", "`self`", "`super`", "`crate`", "`::`"]
  pure (item, node.withAttrs (attrs.map (Attribute.node false)))

/-- An item. -/
def itemRule : TokenParser (Item × Node) := do itemBehind g (← outerAttributes g)

/-! ### Statements -/

/-- Whether an item that is no macro call begins a statement. -/
def startsItem (ts : List Token) : Bool :=
  let second := Ahead.skip ts
  let third := Ahead.skip second
  Ahead.oneOf ["pub", "extern", "use", "fn", "mod", "type", "struct", "enum", "trait", "impl",
      "macro"] ts
    || (Ahead.word "crate" ts && !Ahead.op "::" second)
    || (Ahead.word "static" ts && (Ahead.word "mut" second || Ahead.ident second))
    || (Ahead.word "const" ts
      && !(Ahead.group .brace second || Ahead.word "static" second
        || (Ahead.word "async" second && !Ahead.oneOf ["unsafe", "extern", "fn"] third)
        || Ahead.word "move" second || Ahead.op "|" second))
    || (Ahead.word "unsafe" ts && !Ahead.group .brace second)
    || (Ahead.word "async" ts && Ahead.oneOf ["unsafe", "extern", "fn"] second)
    || (Ahead.word "union" ts && Ahead.ident second)
    || (Ahead.word "auto" ts && Ahead.word "trait" second)
    || (Ahead.word "default" ts && Ahead.oneOf ["unsafe", "impl"] second)

/-- What a statement that begins with a macro call is. -/
inductive CallStatement where
  /-- It names what it defines. -/
  | item
  /-- Its braces end it. -/
  | braced
  | none

/-- Looks behind the path of a macro call at the start of a statement. -/
def callStatement : TokenParser CallStatement := do
  match ← peek plainPath with
  | none => pure .none
  | some (_, ts) =>
    let second := Ahead.skip ts
    let third := Ahead.skip second
    if !Ahead.op "!" ts then pure .none
    else if Ahead.ident second || Ahead.word "try" second then pure .item
    else if Ahead.group .brace second
        && !((Ahead.op "." third && !Ahead.op ".." third) || Ahead.op "?" third) then pure .braced
    else pure .none

/-- Whether the last token read is a group in braces. -/
def endedInBraces : TokenParser Bool := do
  match ← lastTaken? with
  | some (.group .brace _) => pure true
  | _ => pure false

/-- A `let` statement behind its attributes. -/
def letStatement : TokenParser Node := do
  word "let"
  let bare ← g.pattern
  let pattern ←
    if ← op? ":" then do pure (Node.pattern .typed [bare, .type (← type g true)])
    else pure bare
  let (value, other) ←
    if ← op? "=" then do
      let value ← g.expr true
      let other ←
        if !(← endedInBraces) && (← word? "else") then some <$> g.block else pure none
      pure (some value, other)
    else pure (none, none)
  op ";"
  pure (.statement .letBind (pattern :: .optional value :: other.toList))

/-- Puts attributes on the leftmost operand of an expression. -/
def attributeLeftmost (attrs : List Node) : Nat → Node → Node
  | fuel + 1, .mk (.expr form) own (first :: rest) =>
    match form with
    | .assign | .binary _ | .cast =>
      .mk (.expr form) own (attributeLeftmost attrs fuel first :: rest)
    | _ => (Node.mk (.expr form) own (first :: rest)).withAttrs attrs
  | _, n => n.withAttrs attrs

/-- A statement, and whether a semicolon is still due behind it. -/
def statement : TokenParser (Node × Bool) := do
  let before ← ahead
  let attrs ← outerAttributes g
  let nodes := attrs.map (Attribute.node false)
  let ts ← ahead
  match ← callStatement with
  | .braced => do
    let (leading, path) ← plainPath
    op "!"
    let (d, tokens) ← rawGroup
    let _ ← op? ";"
    pure ((Node.statement (.macroCall ⟨leading, path, d, tokens⟩) []).withAttrs nodes, false)
  | call => do
    let isItem := match call with
      | .item => true
      | _ => false
    if Ahead.word "let" ts then
      pure ((← letStatement g).withAttrs nodes, false)
    else if startsItem ts || isItem then
      let (_, node) ← itemBehind g attrs
      pure (node, false)
    else
      let e := attributeLeftmost nodes before.length (← earlyExprRule g)
      let semi ← op? ";"
      match e with
      | .mk (.expr (.macroCall call)) attrs _ =>
        let braced := call.delimiter = .brace
        pure (if semi || braced then .mk (.statement (.macroCall call)) attrs []
          else .statement (.expr false) [e], !semi && !braced)
      | e => pure (.statement (.expr semi) [e], !semi && e.needsEnd)

/-- The statements of a block. A lone semicolon is an empty one. -/
def statementsRule : TokenParser (List Node) := do
  let reversed ← iterate (fun (done : List Node) => do
    let empty ← many do
      if ← op? ";" then pure (some (Node.statement .empty [])) else pure none
    let done := empty ++ done
    if ← isEmpty then pure (done, false)
    else
      let (node, due) ← statement g
      let done := node :: done
      if ← isEmpty then pure (done, false)
      else if due then fail (.refused "unexpected token, expected `;`")
      else pure (done, true)) []
  pure reversed.reverse

end TraitRoutes.Grammar
