import TraitRoutes.Layout.Laid

/-!
# Layout of expressions

Calls and fields in a row form a chain, which breaks in front of each link or
nowhere. The result of an arm and the body of a closure get braces when they do
not fit, or parentheses if they would be read differently at the start of a
statement.
-/

namespace TraitRoutes.Layout

open Doc

/-! ### Properties of expressions -/

/-- Operators that assign what they compute. -/
def assigningOperators : List String :=
  ["+=", "-=", "*=", "/=", "%=", "^=", "&=", "|=", "<<=", ">>="]

/-- Whether a semicolon is put behind an expression that has none as a statement. -/
def takesSemicolon (e : Laid) : Bool :=
  match e.exprForm? with
  | some .assign | some (.breakOut _) | some (.continueOn _) | some .returnFrom
  | some .yieldOut => true
  | some (.binary op) => assigningOperators.contains op
  | _ => false

/-- Whether a brace behind an expression may go to a new line. -/
def wrapsOf (form : ExprForm) (parts : List Laid) : Bool :=
  match form, parts with
  | .assign, _ | .await, _ | .binary _, _ | .cast, _ | .field _, _ | .index, _
  | .methodCall _, _ => true
  | .breakOut _, e :: _ | .call, e :: _ | .letBind, _ :: e :: _ | .paren, e :: _
  | .rawAddress _, e :: _ | .reference _, e :: _ | .returnFrom, e :: _ | .tryOperator, e :: _
  | .unary _, e :: _ | .yieldOut, e :: _ => e.wraps
  | .range _ _ true, parts => parts.getLast?.any (·.wraps)
  | _, _ => false

/-- Whether an expression may begin a statement as it is: it does not begin with one
that would be a statement of its own. -/
def standsOf (form : ExprForm) (parts : List Laid) : Bool :=
  match form, parts with
  | .assign, e :: _ | .await, e :: _ | .field _, e :: _ | .methodCall _, e :: _
  | .tryOperator, e :: _ => e.stands
  | .binary _, e :: _ | .call, e :: _ | .cast, e :: _ | .index, e :: _ | .range _ true _, e :: _ =>
    e.node.needsEnd && e.stands
  | _, _ => true

/-- Whether an expression takes no semicolon as a statement. -/
def completeOf (form : ExprForm) (parts : List Laid) : Bool :=
  match form, parts with
  | .forLoop _, _ | .whileLoop _, _ => true
  | .ifThen, [_, _] => true
  | .ifThen, [_, _, other] => other.complete
  | _, _ => false

/-- Whether an expression goes between the parentheses of a call without a break. -/
def Laid.isBlockLike (e : Laid) : Bool :=
  !e.hasOuter && match e.exprForm? with
    | some .array | some (.block _) | some (.closure _) | some .struct | some .tuple => true
    | _ => false

/-- Whether an expression is a name that is not longer than a step of indentation. -/
def Laid.isShortName (e : Laid) : Bool :=
  e.attrs.isEmpty && e.node.ident?.any fun i => i.text.utf8ByteSize ≤ 4

/-- Whether an array of such elements fills its lines. -/
def isSimpleElement (e : Laid) : Bool :=
  match e.exprForm? with
  | some (.literal (.bool _)) => true
  | some (.literal (.token l)) | some (.literal (.negative l)) =>
    l.kind == .byte || l.kind == .char || l.kind == .integer
  | _ => false

/-! ### Parts -/

/-- A literal. -/
def literalText : LitValue → String
  | .token l => l.text
  | .negative l => "-" ++ l.text
  | .bool value => if value then "true" else "false"

/-- The name or the place of a field. -/
def memberText : Member → String
  | .name i => i.text
  | .place n => toString n

/-- The arguments of a call. -/
def argumentDocs (args : List Laid) : List Doc :=
  match args with
  | [only] => if only.isBlockLike then only.plain else several args
  | args => several args
where
  /-- The arguments one to a line, if they do not fit. -/
  several (args : List Laid) : List Doc := [cbox step (zero :: commaList (args.map Laid.plain))]

/-- Parts between brackets. A single one keeps its comma. -/
def tupleDoc (elems : List Laid) : List Doc :=
  match elems with
  | [only] => [.text "(", cbox step (zero :: only.plain ++ [.text ",", zeroBack]), .text ")"]
  | elems => [.text "(", cbox step (zero :: commaList (elems.map Laid.plain)), .text ")"]

/-- An array. -/
def arrayDoc (elems : List Laid) : List Doc :=
  if elems.isEmpty then [.text "[]"]
  else if elems.all isSimpleElement then
    [cbox step [.text "[", zero, ibox 0 (joined [.text ",", space] (elems.map Laid.plain)),
      lastComma (-step), .text "]"]]
  else [.text "[", cbox step (zero :: commaList (elems.map Laid.plain)), .text "]"]

/-- A condition in front of a block. -/
def conditionDoc (e : Laid) : List Doc :=
  [cbox 0 (e.plain ++ [if e.wraps then space else .text " "])]

/-- What goes on with a struct expression or pattern. -/
def isRest (x : Laid) : Bool :=
  match x.node.form? with
  | some (.part .otherFields) | some (.pattern .rest) => true
  | _ => false

/-- The fields of a struct expression or pattern, the rest of them last. -/
def fieldDocs (fields : List Laid) : List Doc :=
  let rest := fields.filter isRest
  let closed := !rest.any fun r => !r.plain.isEmpty
  spaceIfNonempty :: spacedList closed ((fields.filter (!isRest ·)).map Laid.plain)
    ++ rest.flatMap fun r => if r.plain.isEmpty then [] else r.plain ++ [space]

/-- A struct expression. -/
def structDoc (path : Laid) (fields : List Laid) : List Doc :=
  [capped 34
      (closing (ibox (-step) (path.doc .value) :: .text " \x7b" :: fieldDocs fields)),
    .text "\x7d"]

/-! ### Chains -/

/-- The break in front of a link, behind its receiver. -/
def linkBreak (lineStart : Bool) (receiver : Laid) : List Doc :=
  if lineStart && receiver.isShortName then [] else [.brk { apart := true }]

/-- The call of a method. With `unindent`, the arguments are a step back. -/
def methodDoc (lineStart unindent : Bool) (name : Ident) (receiver turbofish : Laid)
    (args : List Laid) : List Doc :=
  receiver.doc (.link lineStart) ++ linkBreak lineStart receiver
    ++ .text "." :: .text name.text :: turbofish.plain
    ++ [cbox (if unindent then -step else 0) (.text "(" :: argumentDocs args ++ [.text ")"])]

/-- The links of a chain, without the group around it. -/
def linkDoc? (lineStart : Bool) (form : ExprForm) (parts : List Laid) : Option (List Doc) :=
  match form, parts with
  | .await, [base] =>
    some (base.doc (.link lineStart) ++ linkBreak lineStart base ++ [.text ".await"])
  | .field member, [base] =>
    some (base.doc (.link lineStart) ++ linkBreak lineStart base
      ++ [.text "." , .text (memberText member)])
  | .methodCall name, receiver :: turbofish :: args =>
    some (methodDoc lineStart false name receiver turbofish args)
  | .call, function :: args =>
    some (function.doc (.link false) ++ .text "(" :: argumentDocs args ++ [.text ")"])
  | .index, [base, index] =>
    some (base.doc (.link lineStart) ++ .text "[" :: index.plain ++ [.text "]"])
  | .tryOperator, [base] => some (base.doc (.link lineStart) ++ [.text "?"])
  | _, _ => none

/-! ### Bodies that may get braces -/

/-- An expression between breaks at which braces appear, or parentheses if it could not
begin a statement. `follow` stands behind the parentheses, `flat` behind it if it fits. -/
def bracedDoc (e : Laid) (place : Place) (follow flat : String) : List Doc :=
  [cbox step (.brk { before := if e.stands then "\x7b" else "(" } :: e.doc place
    ++ [.brk {
      offset := -step
      before := if e.stands && takesSemicolon e then ";" else ""
      after := if e.stands then "\x7d" else ")" ++ follow
      unbroken := flat }])]

/-- The body of a closure. -/
def closureBody (body : Laid) : List Doc :=
  let bare := match body.exprForm? with
    | some .matchOn | some .call => !body.hasOuter
    | _ => body.isBlockLike
  if bare then body.plain else bracedDoc body .plain "" ""

/-- A closure. -/
def closureDoc (words : List String) (binder params output body : Laid) : List Doc :=
  let head := binder.plain ++ words.map fun w => .text (w ++ " ")
  let opening := .text "|"
    :: (if params.parts.isEmpty then []
      else zero :: joined [.text ",", space] (params.parts.map Laid.plain))
  if output.isAbsent then
    [ibox 0 (head ++ [cbox step (opening ++ [.text "|", .brk { blank := 1, offset := -step }]),
      never] ++ closureBody body)]
  else
    let comma := if params.parts.isEmpty then [] else [lastComma (-step)]
    [ibox 0 (head ++ [cbox step (opening ++ comma ++ [.text "|"]), .text " -> "] ++ output.plain
      ++ [.text " ", never] ++ body.plain)]

/-- Whether a block holds nothing but the expression that is its value. -/
def isOnlyResult (block : Laid) : Bool :=
  block.attrs.isEmpty && match block.parts with
    | [only] => only.isResult
    | _ => false

/-- The result of an arm. Blocks around a single expression are left out, and an empty
tuple is written as an empty block. -/
def resultDoc (form : ExprForm) (e : Laid) : List Doc :=
  match form, e.attrs, e.parts with
  | .block (.plain none), [], [block] =>
    if isOnlyResult block then block.parts.flatMap (·.doc .arm)
    else .text "\x7b" :: never :: bigBlock (blockLines block)
  | .block (.plain label), _, [block] =>
    labelDoc label ++ .text "\x7b" :: never :: bigBlock (blockLines block)
  | .tuple, [], [] => [.text "\x7b\x7d"]
  | _, _, _ => never :: bracedDoc e .lineStart "," (if e.node.needsEnd then "," else "")

/-- A `match`. -/
def matchDoc (inner : List Doc) (scrutinee : Laid) (arms : List Laid) : List Doc :=
  [ibox 0 (.text "match " :: conditionDoc scrutinee ++ .text "\x7b" :: never
    :: bigBlock (inner ++ arms.flatMap fun a => a.plain ++ [hard]))]

/-- An arm. -/
def armDoc (pattern guard result : Laid) : List Doc :=
  [ibox 0 (pattern.plain ++ (if guard.isAbsent then [] else .text " if " :: guard.plain)
    ++ .text " => " :: result.doc .arm)]

/-! ### Conditions -/

/-- The head of an `if`. -/
def ifHead (cond : Laid) : List Doc := [.text "if ", cbox (-step) (conditionDoc cond)]

/-- An `if` with what hangs on it; `further` holds when it hangs on another one. -/
def ifDoc (further : Bool) (parts : List Laid) : List Doc :=
  match parts with
  | [cond, block, other] =>
    ifHead cond ++ smallBlock block ++ .text " else " :: other.doc .otherwise
  | [cond, block] =>
    ifHead cond
      ++ (if further then smallBlock block
        else if block.parts.isEmpty then [.text "\x7b\x7d"]
        else .text "\x7b" :: closing (hard :: block.parts.flatMap Laid.plain) ++ [.text "\x7d"])
  | _ => []

/-! ### Expressions -/

/-- The word in front of a block. -/
def blockWord : BlockKind → List Doc
  | .plain label => labelDoc label
  | .unsafeBlock => [.text "unsafe "]
  | .constBlock => [.text "const "]
  | .tryBlock => [.text "try "]
  | .async moving => .text "async " :: wordIf moving "move "

/-- A jump with its label and its value. -/
def jumpDoc (keyword : String) (label : Option Ident) (value : List Laid) : List Doc :=
  .text keyword
    :: (match label with
      | some name => [.text " ", .text ("'" ++ name.text)]
      | none => [])
    ++ value.flatMap fun e => .text " " :: e.plain

/-- The dots of a range between its bounds. -/
def rangeDoc (closed low high : Bool) (bounds : List Laid) : List Doc :=
  let dots : Doc := .text (if closed then "..=" else "..")
  match low, high, bounds with
  | true, true, [a, b] => a.plain ++ dots :: b.plain
  | true, _, a :: _ => a.plain ++ [dots]
  | _, true, b :: _ => .apart :: dots :: b.plain
  | _, _, _ => [.apart, dots]

/-- An operator between its operands. -/
def infixDoc (operator : String) (left right : List Doc) : List Doc :=
  [ibox step (ibox (-step) left :: space :: .text (operator ++ " ") :: right)]

/-- An expression without its attributes, at the start of a line or elsewhere. -/
def exprDoc (lineStart : Bool) (inner : List Doc) (form : ExprForm) (parts : List Laid) :
    List Doc :=
  let place : Place := if lineStart then .lineStart else .plain
  match form, parts with
  | .literal value, _ => [.text (literalText value)]
  | .path, [ty] => ty.doc .value
  | .macroCall call, _ => callDoc call none false
  | .infer, _ => [.text "_"]
  | .array, elems => arrayDoc elems
  | .repeated, [elem, count] => .text "[" :: elem.plain ++ .text "; " :: count.plain ++ [.text "]"]
  | .tuple, elems => tupleDoc elems
  | .paren, [e] => .text "(" :: e.plain ++ [.text ")"]
  | .assign, [left, right] => [ibox 0 (left.plain ++ .text " = " :: never :: right.plain)]
  | .binary op, [left, right] => infixDoc op left.plain right.plain
  | .cast, [e, ty] => infixDoc "as" e.plain ty.plain
  | .unary op, [e] => .text op :: e.plain
  | .reference mutable, [e] => .text "&" :: wordIf mutable "mut " ++ e.plain
  | .rawAddress mutable, [e] =>
    .text "&raw " :: .text (if mutable then "mut " else "const ") :: e.plain
  | .range closed low high, bounds => rangeDoc closed low high bounds
  | .call, function :: args => function.doc place ++ .text "(" :: argumentDocs args ++ [.text ")"]
  | .index, [base, index] => base.doc place ++ .text "[" :: index.plain ++ [.text "]"]
  | .tryOperator, [base] => base.doc place ++ [.text "?"]
  | .methodCall name, receiver :: turbofish :: args =>
    [cbox step (methodDoc lineStart (lineStart && receiver.isShortName) name receiver turbofish
      args)]
  | .struct, path :: fields => structDoc path fields
  | .block kind, [block] => blockWord kind ++ [cbox step (smallBlock block)]
  | .whileLoop label, [cond, block] =>
    labelDoc label ++ .text "while " :: conditionDoc cond ++ .text "\x7b" :: never
      :: bigBlock (blockLines block)
  | .forLoop label, [pattern, elems, block] =>
    [ibox 0 (labelDoc label ++ .text "for " :: pattern.plain ++ .text " in " :: never
      :: conditionDoc elems ++ .text "\x7b" :: never :: bigBlock (blockLines block))]
  | .loopForever label, [block] =>
    labelDoc label ++ .text "loop \x7b" :: bigBlock (blockLines block)
  | .ifThen, parts => [cbox step (ifDoc false parts)]
  | .matchOn, scrutinee :: arms => matchDoc inner scrutinee arms
  | .closure words, [binder, params, output, body] => closureDoc words binder params output body
  | .letBind, [pattern, e] =>
    [ibox 0 [.text "let ", ibox 0 pattern.plain, .text " = ", never, ibox 0 e.plain]]
  | .breakOut label, value => jumpDoc "break" label value
  | .continueOn label, _ => jumpDoc "continue" label []
  | .returnFrom, value => jumpDoc "return" none value
  | .yieldOut, value => jumpDoc "yield" none value
  | form, parts =>
    match linkDoc? lineStart form parts with
    | some links => [cbox step links]
    | none => [.unknown]

/-- The layout of an expression with its attributes. -/
def exprPlaced (self : Laid) (form : ExprForm) : Place → List Doc
  | .link lineStart =>
    match linkDoc? lineStart form self.parts with
    | some links => links
    | none => [cbox (-step) (outerDocs self.attrs ++ exprDoc false (innerDocs self.attrs) form
        self.parts)]
  | .arm => resultDoc form self
  | .otherwise =>
    match form, self.parts with
    | .ifThen, parts => ifDoc true parts
    | .block (.plain _), [block] => smallBlock block
    | form, parts =>
      .text "\x7b" :: closing [space, ibox step (exprDoc false [] form parts), space]
        ++ [.text "\x7d"]
  | place =>
    outerDocs self.attrs
      ++ exprDoc (place = .lineStart) (innerDocs self.attrs) form self.parts

/-- An expression of laid out parts. -/
def exprLaid (form : ExprForm) (attrs parts : List Laid) : Laid :=
  let bare : Laid := {
    node := .mk (.expr form) (attrs.map Laid.node) (parts.map Laid.node)
    attrs := attrs
    parts := parts
    doc := fun _ => []
    wraps := wrapsOf form parts
    stands := standsOf form parts
    complete := completeOf form parts }
  -- Where the rules for a place need the expression itself, it is laid out without them.
  let usual (place : Place) : List Doc :=
    outerDocs attrs ++ exprDoc (place = .lineStart) (innerDocs attrs) form parts
  { bare with doc := exprPlaced { bare with doc := usual } form }

end TraitRoutes.Layout
