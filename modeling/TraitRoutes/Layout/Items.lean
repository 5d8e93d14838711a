import TraitRoutes.Layout.Patterns

/-!
# Layout of statements and items

Each stands on lines of its own. What an item contains is indented, its `where`
clause stands between its head and its body, and an alias keeps its type on the
line if it can.
-/

namespace TraitRoutes.Layout

open Doc

/-! ### Statements -/

/-- An expression as a statement. A loop takes no semicolon, and what jumps or assigns
always has one. -/
def statementEnd (semi : Bool) (e : Laid) : List Doc :=
  wordIf (if semi then !e.complete else takesSemicolon e) ";"

/-- A statement without its attributes. -/
def statementDoc (form : StatementForm) (parts : List Laid) (place : Place) : List Doc :=
  match form, parts with
  | .empty, _ => []
  | .letBind, pattern :: value :: other =>
    let start := .text "let " :: pattern.plain
      ++ (if value.isAbsent then [] else .text " = " :: never :: value.plain)
    match other with
    | [] => [ibox 0 start, .text ";", hard]
    | block =>
      [ibox 0 (start ++ [space, .text "else "]), never, cbox step (block.flatMap smallBlock),
        .text ";", hard]
  | .expr semi, [e] =>
    match place with
    | .plain => [ibox 0 (e.doc .lineStart ++ statementEnd semi e), hard]
    | place => e.doc place
  | .macroCall call, _ => callDoc call none true ++ [hard]
  | _, _ => [.unknown]

/-! ### Heads of items -/

/-- Who may see an item. -/
def accessDoc : Access → List Doc
  | .inherited => []
  | .everyone => [.text "pub "]
  | .within leading path =>
    let bare := !leading && match path with
      | [⟨false, name, _⟩] => ["self", "super", "crate"].contains name
      | _ => false
    .text "pub(" :: wordIf (!bare) "in " ++ [.text (pathText leading path), .text ") "]

/-- The tail of an import that ends in a group. -/
def endsInGroup : UseTree → Bool
  | .path _ tree => endsInGroup tree
  | .group _ => true
  | _ => false

mutual

/-- The tree of an import. -/
def importDoc : UseTree → List Doc
  | .path name tree => .text name.text :: .text "::" :: importDoc tree
  | .name name => [.text name.text]
  | .rename name new => [.text name.text, .text " as ", .text new.text]
  | .glob => [.text "*"]
  | .group trees =>
    [.text "\x7b", cbox step [zero, ibox 0 (importDocs trees), lastComma (-step)], .text "\x7d"]

/-- Trees in a group. One that ends in a group of its own also ends its line. -/
def importDocs : List UseTree → List Doc
  | [] => []
  | [last] => importDoc last
  | first :: rest =>
    importDoc first ++ .text "," :: (if endsInGroup first then hard else space) :: importDocs rest

end

/-! ### Bodies of items -/

/-- An item with a head and lines between braces. -/
def bracedItem (head lines : List Doc) : List Doc :=
  [cbox step (closing (head ++ .text "\x7b" :: hardIfNonempty :: lines)), .text "\x7d", hard]

/-- Fields or variants, each with a comma. -/
def commaLines (fields : List Laid) : List Doc :=
  fields.flatMap fun f => f.plain ++ [.text ",", hard]

/-- Fields between parentheses. -/
def tupleFieldDocs (fields : List Laid) : List Doc :=
  [.text "(", cbox step (zero :: commaList (fields.map Laid.plain)), .text ")"]

/-- Fields behind the name of a variant. -/
def variantFields (fields : Laid) : List Doc :=
  match fields.node.form? with
  | some (.item .namedFields) =>
    .text " \x7b" :: cbox step (closing (space :: spacedList true (fields.parts.map Laid.plain)))
      :: [.text "\x7d"]
  | some (.item .tupleFields) => tupleFieldDocs fields.parts
  | _ => []

/-- A structure behind its generics. -/
def structItemDoc (head : List Doc) (clause fields : Laid) : List Doc :=
  match fields.node.form? with
  | some (.item .namedFields) => bracedItem (head ++ whereDoc true false clause)
      (commaLines fields.parts)
  | some (.item .tupleFields) =>
    [cbox step (head ++ tupleFieldDocs fields.parts ++ whereDoc true true clause), hard]
  | _ => [cbox step (head ++ whereDoc true true clause), hard]

/-- A function behind what precedes its signature. -/
def functionDoc (head : List Doc) (signature clause : Laid) (body : List Laid) : List Doc :=
  match body with
  | [block] => bracedItem (head ++ signature.plain ++ whereDoc true false clause)
      (blockLines block)
  | _ => [cbox step (head ++ signature.plain ++ whereDoc true true clause), hard]

/-- A constant or a variable behind its name. -/
def valueDoc (head : List Doc) (ty : Laid) (value : List Laid) : List Doc :=
  [cbox 0 (head ++ .text ": " :: ty.plain
    ++ (value.flatMap fun e => .text " = " :: never :: e.plain) ++ [.text ";"]), hard]

/-- A type alias behind its generics. -/
def aliasDoc (place : AliasPlace) (head : List Doc) (clause ty : Laid) (bounds : List Laid) :
    List Doc :=
  let definition := if ty.isAbsent then [] else never :: [ibox (-step) ty.plain]
  match place with
  | .free =>
    [cbox step (head ++ whereDoc false false clause ++ .text "= " :: definition ++ [.text ";"]),
      hard]
  | .foreign => [cbox 0 (head ++ [.text ";"]), hard]
  | .interface | .implementation =>
    [cbox step (head ++ boundDocs (bounds.map Laid.plain)
      ++ (if definition.isEmpty then [] else .text " = " :: definition)
      ++ whereDoc false true clause), hard]

/-- An implementation. -/
def implementationDoc (words : List String) (negative : Bool) (inner : List Doc)
    (params clause interface ty : Laid) (items : List Laid) : List Doc :=
  let subject := if interface.isAbsent then ty.plain
    else wordIf negative "!" ++ interface.plain ++ space :: .text "for " :: ty.plain
  let head := cbox step (words.map (fun w => .text (w ++ " ")) ++ .text "impl" :: params.plain)
  bracedItem (ibox (-step) (head :: .text " " :: subject) :: whereDoc true false clause)
    (inner ++ items.flatMap Laid.plain)

/-! ### Items -/

/-- An item without the attributes in front of it. -/
def itemDoc (form : ItemForm) (inner : List Doc) (parts : List Laid) : List Doc :=
  match form, parts with
  | .function access default, signature :: clause :: body =>
    functionDoc (accessDoc access ++ wordIf default "default ") signature clause body
  | .constant access default name, ty :: value =>
    valueDoc (accessDoc access ++ wordIf default "default " ++ [.text "const ", .text name.text])
      ty value
  | .static access mutable name, ty :: value =>
    valueDoc (accessDoc access ++ .text "static " :: wordIf mutable "mut " ++ [.text name.text])
      ty value
  | .struct access keyword name, [params, clause, fields] =>
    structItemDoc (accessDoc access ++ .text (keyword ++ " ") :: .text name.text :: params.plain)
      clause fields
  | .field access name, [ty] => accessDoc access ++ nameDoc name ++ ty.plain
  | .enum access name, params :: clause :: variants =>
    bracedItem (accessDoc access ++ .text "enum " :: .text name.text :: params.plain
      ++ whereDoc true false clause) (commaLines variants)
  | .variant name, fields :: value =>
    .text name.text :: variantFields fields ++ value.flatMap fun e => .text " = " :: e.plain
  | .alias access default place name, params :: clause :: ty :: bounds =>
    aliasDoc place (accessDoc access ++ wordIf default "default " ++ .text "type "
      :: .text name.text :: params.plain) clause ty bounds
  | .interface access words name, params :: clause :: supertraits :: items =>
    let bounds := supertraits.parts.map Laid.plain
    bracedItem (accessDoc access ++ words.map (fun w => .text (w ++ " ")) ++ .text "trait "
        :: .text name.text :: params.plain
        ++ (if bounds.isEmpty then [] else .text ": " :: joined [.text " + "] bounds)
        ++ whereDoc true false clause)
      (inner ++ items.flatMap Laid.plain)
  | .interfaceAlias access name, params :: clause :: bounds =>
    [cbox step (accessDoc access ++ .text "trait " :: .text name.text :: params.plain
      ++ .text " = " :: never :: joined [space, .text "+ "] (bounds.map Laid.plain)
      ++ whereDoc true true clause), hard]
  | .implementation words negative, params :: clause :: interface :: ty :: items =>
    implementationDoc words negative inner params clause interface ty items
  | .foreign unsafety convention, items =>
    bracedItem (wordIf unsafety "unsafe " ++ conventionDoc (some convention))
      (inner ++ items.flatMap Laid.plain)
  | .module access unsafety inline name, items =>
    let head := accessDoc access ++ wordIf unsafety "unsafe " ++ [.text "mod ", .text name.text]
    if inline then bracedItem (head ++ [.text " "]) (inner ++ items.flatMap Laid.plain)
    else [cbox step (head ++ [.text ";"]), hard]
  | .imports access leading tree, _ =>
    accessDoc access ++ .text "use " :: wordIf leading "::" ++ importDoc tree ++ [.text ";", hard]
  | .externCrate access name new, _ =>
    accessDoc access ++ [.text "extern crate ", .text name.text]
      ++ (match new with
        | some i => [.text " as ", .text i.text]
        | none => []) ++ [.text ";", hard]
  | .macroCall call (some name), _ =>
    match call.leading, call.path with
    | false, [⟨false, "macro_rules", _⟩] => macroRulesDoc name call.tokens ++ [hard]
    | _, _ => callDoc call (some name) true ++ [hard]
  | .macroCall call none, _ => callDoc call none true ++ [hard]
  | .namedFields, _ | .tupleFields, _ => []
  | _, _ => [.unknown]

end TraitRoutes.Layout
