import TraitRoutes.Layout.Expressions

/-!
# Layout of patterns and of the parts of expressions

Patterns break like the expressions they look like. Alternatives stand one to a
line if they do not fit, except for literals, which fill their lines.
-/

namespace TraitRoutes.Layout

open Doc

/-- Whether a case of alternatives is a literal or the pattern for everything. -/
def isSimpleCase (p : Laid) : Bool :=
  match p.node.form? with
  | some (.expr (.literal _)) | some (.pattern .wild) => true
  | _ => false

/-- Alternatives. -/
def alternativesDoc (cases : List Laid) : List Doc :=
  [.group 0 (!cases.all isSimpleCase) (joined [space, .text "| "] (cases.map Laid.plain))]

/-- A tuple pattern. A single element has a comma only if it was written. -/
def tuplePatternDoc (trailing : Bool) (elems : List Laid) : List Doc :=
  match elems with
  | [only] =>
    [.text "(", cbox step (zero :: only.plain ++ wordIf trailing "," ++ [zeroBack]), .text ")"]
  | elems => [.text "(", cbox step (zero :: commaList (elems.map Laid.plain)), .text ")"]

/-- The elements of a slice pattern, which break with what is around it. -/
def sliceElements : List (List Doc) → List Doc
  | [] => []
  | [last] => last ++ [lastComma 0]
  | first :: rest => first ++ .text "," :: space :: sliceElements rest

/-- A pattern without its attributes. -/
def patternDoc (form : PatternForm) (parts : List Laid) : List Doc :=
  match form, parts with
  | .binding byRef mutable name, inner =>
    wordIf byRef "ref " ++ wordIf mutable "mut " ++ .text name.text
      :: inner.flatMap fun p => .text " @ " :: p.plain
  | .alternatives, cases => alternativesDoc cases
  | .paren, [p] => .text "(" :: p.plain ++ [.text ")"]
  | .wild, _ => [.text "_"]
  | .rest, _ => [.text ".."]
  | .slice, elems => .text "[" :: sliceElements (elems.map Laid.plain) ++ [.text "]"]
  | .tuple trailing, elems => tuplePatternDoc trailing elems
  | .struct, path :: fields =>
    [cbox step (closing (path.doc .value ++ .text " \x7b" :: fieldDocs fields)), .text "\x7d"]
  | .tupleStruct, path :: elems =>
    path.doc .value
      ++ [.text "(", cbox step (zero :: commaList (elems.map Laid.plain)), .text ")"]
  | .typed, [p, ty] => p.plain ++ .text ": " :: ty.plain
  | _, _ => [.unknown]

/-! ### Generic parameters -/

/-- Bounds behind a colon that a blank follows. -/
def boundDocs (bounds : List (List Doc)) : List Doc :=
  if bounds.isEmpty then [] else .text ": " :: joined [space, .text "+ "] bounds

/-- Whether a generic parameter is a lifetime. -/
def isLifetimeParam (p : Laid) : Bool :=
  match p.node.form? with
  | some (.part (.lifetimeParam ..)) => true
  | _ => false

/-- Generic parameters in angle brackets, lifetimes first. -/
def genericsDoc (params : List Laid) : List Doc :=
  if params.isEmpty then []
  else
    let ordered := params.filter isLifetimeParam ++ params.filter (!isLifetimeParam ·)
    [.text "<", cbox 0 (zero :: commaList (ordered.map Laid.plain)), .text ">"]

/-- A constant in the place of a type: all but names, literals and blocks in braces. -/
def constDoc (value : Laid) : List Doc :=
  match value.exprForm? with
  | some (.literal _) | some .path | some (.block (.plain _)) => value.plain
  | _ => .text "\x7b" :: value.plain ++ [.text "\x7d"]

/-- A lifetime with the lifetimes that it outlives. -/
def lifetimeDoc (name : Ident) (bounds : List Ident) : List Doc :=
  .text ("'" ++ name.text)
    :: (if bounds.isEmpty then []
      else .text ": " :: joined [.text " + "] (bounds.map fun b => [.text ("'" ++ b.text)]))

/-- A type parameter with its bounds, and its default as the last part if it has one. -/
def typeParamDoc (name : Ident) (default : Bool) (parts : List Laid) : List Doc :=
  let bounds := if default then parts.dropLast else parts
  [.text name.text,
    ibox step (boundDocs (bounds.map Laid.plain)
      ++ (if default then parts.drop bounds.length else []).flatMap fun ty =>
        space :: .text "= " :: ty.plain)]

/-- Bounds of a predicate, behind its colon. -/
def predicateBounds (offset : Int) (bounds : List (List Doc)) : List Doc :=
  [ibox offset (if bounds.isEmpty then [] else .text " " :: joined [space, .text "+ "] bounds)]

/-- Predicates, each with a comma behind it, but a semicolon behind the last one if
`semi` holds. -/
def predicateDocs (between last : Doc) (comma semi : Bool) : List (List Doc) → List Doc
  | [] => []
  | [p] => p ++ (if semi then [.text ";"] else wordIf comma "," ++ [last])
  | p :: rest => p ++ .text "," :: between :: predicateDocs between last comma semi rest

/-- A `where` clause in front of a body or of a semicolon, which is part of it. Without
predicates there is a blank or the semicolon. -/
def whereDoc (onLines semi : Bool) (clause : Laid) : List Doc :=
  let predicates := clause.parts.map Laid.plain
  if predicates.isEmpty then [.text (if semi then ";" else " ")]
  else if onLines then
    hardBack :: .text "where" :: hard :: predicateDocs hard hardBack true semi predicates
  else
    .brk { blank := 1, offset := -step } :: .text "where" :: space
      :: predicateDocs space (.brk { blank := 1, before := ",", offset := -step }) false semi
        predicates

/-! ### Signatures and function types -/

/-- An `extern` with the name of a convention. -/
def conventionDoc : Option Convention → List Doc
  | some c =>
    .text "extern " :: (match c.name with
      | some l => [.text l.text, .text " "]
      | none => [])
  | none => []

/-- Whether a parameter is the dots that stand for any further ones. -/
def isVariadic (p : Laid) : Bool :=
  match p.node.form? with
  | some (.part .variadic) | some (.part (.typeVariadic _)) => true
  | _ => false

/-- Parameters one to a line, if they do not fit. -/
def paramDocs (params : List Laid) : List Doc :=
  let dots := params.filter isVariadic
  if dots.isEmpty then zero :: commaList (params.map Laid.plain)
  else
    zero :: (params.filter (!isVariadic ·)).flatMap (fun p => p.plain ++ [.text ",", space])
      ++ dots.flatMap Laid.plain ++ [zeroBack]

/-- A result type behind its arrow, if there is one. -/
def arrowDoc (output : List Laid) : List Doc :=
  output.flatMap fun ty => if ty.isAbsent then [] else .text " -> " :: ty.plain

/-- A signature without its `where` clause. -/
def signatureDoc (words : List String) (convention : Option Convention) (name : Ident)
    (params inputs output : Laid) : List Doc :=
  words.map (fun w => .text (w ++ " ")) ++ conventionDoc convention ++ .text "fn "
    :: .text name.text :: params.plain
    ++ [.text "(", never, cbox 0 (paramDocs inputs.parts), .text ")",
      cbox (-step) (arrowDoc [output])]

/-- A name and a colon. -/
def nameDoc : Option Ident → List Doc
  | some name => [.text name.text, .text ": "]
  | none => []

/-! ### Parts -/

/-- A part of something else without its attributes. -/
def partDoc (form : PartForm) (parts : List Laid) : List Doc :=
  match form, parts with
  | .absent, _ | .sequence, _ | .braces, _ | .whereClause, _ => []
  | .attribute inner leading path args, parts => attributeDoc inner leading path args parts
  | .fieldValue field, value =>
    .text (memberText field) :: value.flatMap fun e => [.text ": ", ibox 0 e.plain]
  | .otherFields, value => value.flatMap fun e => .text ".." :: e.plain
  | .fieldPattern field, [p] =>
    (match field with
      | some m => [.text (memberText m), .text ": "]
      | none => []) ++ p.plain
  | .arm, [pattern, guard, result] => armDoc pattern guard result
  | .binder, params =>
    .text "for<" :: joined [.text ", "] (params.map Laid.plain) ++ [.text "> "]
  | .generics, params => genericsDoc params
  | .lifetimeParam name bounds, _ => lifetimeDoc name bounds
  | .typeParam name default, parts => typeParamDoc name default parts
  | .constParam name, ty :: default =>
    .text "const " :: .text name.text :: .text ": " :: ty.plain
      ++ default.flatMap fun e => .text " = " :: constDoc e
  | .captures params, _ =>
    .text "use<" :: joined [.text ", "] (params.map fun (lifetime, name) =>
      [.text ((if lifetime then "'" else "") ++ name.text)]) ++ [.text ">"]
  | .lifetimePredicate name bounds, _ =>
    .text ("'" ++ name.text) :: .text ":"
      :: predicateBounds step (bounds.map fun b => [.text ("'" ++ b.text)])
  | .typePredicate, binder :: ty :: bounds =>
    binder.plain ++ ty.plain ++ .text ":"
      :: predicateBounds (if bounds.length = 1 then 0 else step) (bounds.map Laid.plain)
  | .typeInput name, [ty] => nameDoc name ++ ty.plain
  | .typeVariadic name, _ => nameDoc name ++ [.text "..."]
  | .functionType unsafety convention, binder :: inputs :: output =>
    binder.plain ++ wordIf unsafety "unsafe " ++ conventionDoc convention
      ++ .text "fn(" :: cbox step (paramDocs inputs.parts) :: .text ")" :: arrowDoc output
  | .receiver reference mutable, ty =>
    (match reference with
      | some (some l) => [.text "&", .text ("'" ++ l.text), .text " "]
      | some none => [.text "&"]
      | none => []) ++ wordIf mutable "mut " ++ .text "self"
      :: ty.flatMap fun t => .text ": " :: t.plain
  | .variadic, p => (p.flatMap fun p => p.plain ++ [.text ": "]) ++ [.text "..."]
  | .signature words convention name, [params, inputs, output] =>
    signatureDoc words convention name params inputs output
  | _, _ => [.unknown]

end TraitRoutes.Layout
