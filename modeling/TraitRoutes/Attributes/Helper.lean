import TraitRoutes.Attributes.Defaults
import TraitRoutes.Attributes.Settings
import TraitRoutes.Http.Verb

/-!
# Helper attributes

Four attributes adjust what is generated. Each is read in two ways: from its
bare arguments, and from the list of attributes of a declaration, where it is
known by the last segment of its path, may stand once, and may come without
arguments. Both ways share one grammar.
-/

namespace TraitRoutes

/-- The helper attributes. -/
inductive Helper where
  | routePrefix | explorerSettings | httpMethod | defaultValue
deriving DecidableEq, Repr

namespace Helper

/-- The name of a helper attribute. -/
def name : Helper → String
  | routePrefix => "route_prefix"
  | explorerSettings => "api_explorer_settings"
  | httpMethod => "http_method"
  | defaultValue => "default_value"

/-- All helper attributes. -/
def all : List Helper := [routePrefix, explorerSettings, httpMethod, defaultValue]

/-- The helper attribute of a name. -/
def ofName? (text : String) : Option Helper := all.find? fun h => h.name == text

/-- Whether an attribute is the helper. -/
def isNamed (h : Helper) (a : Attribute) : Bool :=
  (a.path.getLast?.map fun i => i.text == h.name).getD false

/-- A complaint that is not about the grammar. -/
def complaint (text : String) : SyntaxError := ⟨false, .refused text⟩

/-- The helper among the attributes of a declaration; a second one is an error. -/
def find? (h : Helper) (attrs : List Attribute) : Except SyntaxError (Option Attribute) :=
  match attrs.filter h.isNamed with
  | [] => .ok none
  | [a] => .ok (some a)
  | _ => .error (complaint ("`#[" ++ h.name ++ "]` may only appear once"))

/-- The arguments of an attribute; a bare one has none. -/
def arguments (a : Attribute) : Except SyntaxError (List Token) :=
  match a.args with
  | .word => .ok []
  | .list _ ts => .ok ts
  | .value _ => .error (complaint "expected parenthesized arguments")

/-! ### Readers of arguments -/

/-- Reads exactly one string literal. -/
def readString (ts : List Token) : Except SyntaxError String :=
  match ts with
  | .literal l :: rest =>
    if l.kind = .string then
      if rest.isEmpty then .ok (Text.stringValue l.text)
      else .error ⟨false, .unexpected none⟩
    else .error (complaint "expected string literal")
  | _ => .error ⟨ts.isEmpty, .refused "expected string literal"⟩

/-- Reads the arguments of `route_prefix`. -/
def readPrefix (ts : List Token) : Except SyntaxError String :=
  if ts.isEmpty then
    .error (complaint "route_prefix requires a string value: #[route_prefix(\"/api/...\")]")
  else readString ts

/-- The verb that a text names. -/
def verbOf (text : String) : Except SyntaxError Verb :=
  match Verb.ofName? text with
  | some verb => .ok verb
  | none => .error (complaint (Verb.unknownMessage text))

/-- Reads the arguments of `http_method`: a verb in a string, or as the last
segment of a path; without arguments, `POST` is meant. -/
def readVerb (ts : List Token) : Except SyntaxError Verb :=
  if ts.isEmpty then .ok .post
  else
    match readString ts with
    | .ok text => verbOf text
    | .error _ => do
      let path ← readAll (fun g => Grammar.path g false) ts
      match path.last? with
      | some segment => verbOf segment.ident.text
      | none => .error (complaint "expected an HTTP verb")

/-! ### Readers of attribute lists -/

/-- The explicit prefix of a trait. An attribute without arguments is refused here already. -/
def prefixIn (attrs : List Attribute) : Except SyntaxError (Option String) := do
  match ← find? .routePrefix attrs with
  | none => pure none
  | some a =>
    let ts ← arguments a
    if ts.isEmpty then
      .error (complaint "route_prefix requires a string value: #[route_prefix(\"/api/...\")]")
    else some <$> readPrefix ts

/-- The reader refuses an attribute without arguments in the same words. -/
theorem prefixIn_eq_readPrefix (attrs : List Attribute) :
    prefixIn attrs = (do
      match ← find? .routePrefix attrs with
      | none => pure none
      | some a => some <$> readPrefix (← arguments a)) := by
  have hread : (fun ts : List Token =>
      if ts.isEmpty then
        .error (complaint "route_prefix requires a string value: #[route_prefix(\"/api/...\")]")
      else some <$> readPrefix ts) = fun ts => some <$> readPrefix ts := by
    funext ts
    cases ts <;> rfl
  unfold prefixIn
  congr 1
  funext found
  cases found with
  | none => rfl
  | some a => exact congrArg (arguments a >>= ·) hread

/-- The explicit verb of a method. -/
def verbIn (attrs : List Attribute) : Except SyntaxError (Option Verb) := do
  match ← find? .httpMethod attrs with
  | none => pure none
  | some a => some <$> readVerb (← arguments a)

/-- The defaults of a method. -/
def defaultsIn (attrs : List Attribute) : Except SyntaxError (List DefaultEntry) := do
  match ← find? .defaultValue attrs with
  | none => pure []
  | some a => DefaultEntry.parse (← arguments a)

/-- The visibility of a trait. -/
def visibilityIn (attrs : List Attribute) : Except SettingsError Visibility :=
  match find? .explorerSettings attrs with
  | .error e => .error (.ofSyntax e)
  | .ok none => .ok {}
  | .ok (some a) =>
    match arguments a with
    | .error e => .error (.ofSyntax e)
    | .ok ts => (ExplorerSettings.parse ts).map ExplorerSettings.visibility

end Helper

end TraitRoutes
