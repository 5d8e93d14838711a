import TraitRoutes.Grammar.Reading
import TraitRoutes.Text.Similarity
import TraitRoutes.Text.StringValue

/-!
# Documentation settings

The arguments of `api_explorer_settings`: whether to leave a controller out of
the documentation, and the group to list it under. All mistakes in the arguments
are reported together, each under the field that it was made in.
-/

namespace TraitRoutes

/-- The settings given by an attribute. -/
structure ExplorerSettings where
  ignoreApi : Option Bool := none
  groupName : Option String := none
deriving DecidableEq, Repr, Inhabited

/-- How a controller appears in the documentation. -/
structure Visibility where
  hidden : Bool := false
  groupName : Option String := none
deriving DecidableEq, Repr, Inhabited

/-- The visibility under the given settings; without them a controller is shown
and in no group. -/
def ExplorerSettings.visibility (s : ExplorerSettings) : Visibility :=
  ⟨s.ignoreApi.getD false, s.groupName⟩

/-- A mistake in the settings. -/
inductive SettingsProblem where
  | syntaxError (error : SyntaxError)
  | wrongType (name : String)
  | wrongForm (name : String)
  | unknownValue (text : String)
  | unknownField (name : String)
  | duplicateField (name : String)
deriving DecidableEq, Repr

/-- A mistake with the field that it was made in. -/
structure SettingsFault where
  problem : SettingsProblem
  field : Option String := none
deriving DecidableEq, Repr

/-- The fields that settings may have, in the order of their names. -/
def settingsFields : List String := ["group_name", "ignore_api"]

/-- The wording of a mistake. -/
def SettingsProblem.message : SettingsProblem → String
  | .syntaxError e => e.message
  | .wrongType name => "Unexpected type `" ++ name ++ "`"
  | .wrongForm name => "Unexpected meta-item format `" ++ name ++ "`"
  | .unknownValue text => "Unknown value: `" ++ text ++ "`"
  | .unknownField name =>
    "Unknown field: `" ++ name ++ "`. " ++
      match Text.mostSimilar? name settingsFields with
      | some known => "Did you mean `" ++ known ++ "`?"
      | none => "Available values: `group_name`, `ignore_api`"
  | .duplicateField name => "Duplicate field `" ++ name ++ "`"

/-- The wording of a mistake with its field. -/
def SettingsFault.message (f : SettingsFault) : String :=
  match f.field with
  | some name => f.problem.message ++ " at " ++ name
  | none => f.problem.message

/-- Why settings were refused: at least one mistake. -/
structure SettingsError where
  first : SettingsFault
  more : List SettingsFault := []
deriving DecidableEq, Repr

/-- All mistakes of an error. -/
def SettingsError.faults (e : SettingsError) : List SettingsFault := e.first :: e.more

/-- The wording of an error. -/
def SettingsError.message (e : SettingsError) : String :=
  match e.more with
  | [] => e.first.message
  | _ => "Multiple errors: (" ++ ", ".intercalate (e.faults.map SettingsFault.message) ++ ")"

/-- A syntax error in the arguments. -/
def SettingsError.ofSyntax (e : SyntaxError) : SettingsError := ⟨⟨.syntaxError e, none⟩, []⟩

namespace ExplorerSettings

/-- An argument: a literal, or something like the body of an attribute. -/
inductive Arg where
  | literal
  | named (body : Attribute)

/-- Reads an argument. -/
def readArg (g : Productions) : TokenParser Arg := do
  let ts ← TokenParser.ahead
  let truthValueNamed := Ahead.oneOf ["true", "false"] ts && Ahead.op "=" (Ahead.skip ts)
  if Ahead.isLiteral ts && !truthValueNamed then
    let _ ← TokenParser.literal
    pure .literal
  else if Ahead.anyWord ts || (Ahead.op "::" ts && Ahead.anyWord (Ahead.skip2 ts)) then
    let (leading, path) ← Grammar.wordPath
    pure (.named ⟨leading, path, ← Grammar.attributeArgs g⟩)
  else TokenParser.fail (.refused "expected identifier or literal")

/-- Reads arguments separated by commas. -/
def readArgs (ts : List Token) : Except SyntaxError (List Arg) :=
  readAll (fun g => do pure (← TokenParser.terminated (readArg g)).1) ts

/-- How messages name the form of an expression. -/
def formName : ExprForm → String
  | .literal _ => "lit"
  | .path => "path"
  | .binary _ => "binary"
  | .array => "array"
  | .assign => "assign"
  | .await => "await"
  | .block (.plain _) => "block"
  | .block (.async _) => "async"
  | .block .constBlock => "const"
  | .block .tryBlock => "try_block"
  | .block .unsafeBlock => "unsafe"
  | .breakOut _ => "break"
  | .call => "call"
  | .cast => "cast"
  | .closure _ => "closure"
  | .continueOn _ => "continue"
  | .field _ => "field"
  | .forLoop _ => "for_loop"
  | .ifThen => "if"
  | .index => "index"
  | .infer => "infer"
  | .letBind => "let"
  | .loopForever _ => "loop"
  | .macroCall _ => "macro"
  | .matchOn => "match"
  | .methodCall _ => "method_call"
  | .paren => "paren"
  | .range .. => "range"
  | .rawAddress _ => "unknown"
  | .reference _ => "reference"
  | .repeated => "repeat"
  | .returnFrom => "return"
  | .struct => "struct"
  | .tryOperator => "try"
  | .tuple => "tuple"
  | .unary _ => "unary"
  | .verbatim => "verbatim"
  | .whileLoop _ => "while"
  | .yieldOut => "yield"

/-- How messages name the type of a literal. -/
def literalName : LitValue → String
  | .bool _ => "bool"
  | .negative l | .token l =>
    match l.kind with
    | .string => "string"
    | .byteString => "byte string"
    | .cString => "unknown"
    | .byte => "byte"
    | .char => "char"
    | .integer => "int"
    | .float => "float"

/-- A truth value, which may be spelled in a string. -/
def boolOf : ExprForm → Except SettingsProblem Bool
  | .literal (.bool b) => .ok b
  | .literal (.token l) =>
    if l.kind = .string then
      let text := Text.stringValue l.text
      if text == "true" then .ok true
      else if text == "false" then .ok false
      else .error (.unknownValue text)
    else .error (.wrongType (literalName (.token l)))
  | .literal value => .error (.wrongType (literalName value))
  | form => .error (.wrongType (formName form))

/-- A text, which a string gives. -/
def textOf : ExprForm → Except SettingsProblem String
  | .literal (.token l) =>
    if l.kind = .string then .ok (Text.stringValue l.text)
    else .error (.wrongType (literalName (.token l)))
  | .literal value => .error (.wrongType (literalName value))
  | form => .error (.wrongType (formName form))

/-- The value of a field. A list of arguments is no value, but must be one. -/
def valueOf {α : Type} (word : Except SettingsProblem α)
    (ofExpr : ExprForm → Except SettingsProblem α) : AttributeArgs → Except SettingsProblem α
  | .word => word
  | .value e => ofExpr (e.exprForm?.getD .verbatim)
  | .list _ ts =>
    match readArgs ts with
    | .error e => .error (.syntaxError e)
    | .ok _ => .error (.wrongForm "list")

/-- The settings read so far, the fields seen and the mistakes made. -/
structure Reading where
  settings : ExplorerSettings := {}
  seen : List String := []
  faults : List SettingsFault := []

/-- Notes a mistake. -/
def Reading.fault (r : Reading) (problem : SettingsProblem) (field : Option String) : Reading :=
  { r with faults := r.faults ++ [⟨problem, field⟩] }

/-- Takes in a field: the first one counts, and a further one is a mistake. -/
def Reading.take {α : Type} (r : Reading) (name : String) (value : Except SettingsProblem α)
    (set : α → ExplorerSettings → ExplorerSettings) : Reading :=
  if r.seen.contains name then r.fault (.duplicateField name) none
  else
    let r := { r with seen := name :: r.seen }
    match value with
    | .ok v => { r with settings := set v r.settings }
    | .error problem => r.fault problem (some name)

/-- Takes in an argument. -/
def Reading.step (r : Reading) : Arg → Reading
  | .literal => r.fault (.wrongForm "literal") none
  | .named body =>
    let name := "::".intercalate (body.path.map Ident.text)
    if name == "ignore_api" then
      r.take name (valueOf (.ok true) boolOf body.args) fun v s => { s with ignoreApi := some v }
    else if name == "group_name" then
      r.take name (valueOf (.error (.wrongForm "word")) textOf body.args) fun v s =>
        { s with groupName := some v }
    else r.fault (.unknownField name) none

/-- The settings that a list of arguments gives. -/
def ofArgs (args : List Arg) : Except SettingsError ExplorerSettings :=
  let final := args.foldl Reading.step {}
  match final.faults with
  | [] => .ok final.settings
  | first :: more => .error ⟨first, more⟩

/-- Reads settings. -/
def parse (ts : List Token) : Except SettingsError ExplorerSettings :=
  match readArgs ts with
  | .error e => .error (.ofSyntax e)
  | .ok args => ofArgs args

end ExplorerSettings

end TraitRoutes
