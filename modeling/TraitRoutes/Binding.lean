import TraitRoutes.Options
import TraitRoutes.Http.Verb
import TraitRoutes.Syntax.Tree
import TraitRoutes.Text.Words

/-!
# Binding parameters

Where in a request the value of a parameter comes from follows from its type and
its name. Uploaded files come from the form, everything that is no scalar from
the body, and scalars from the route if their name looks like a key, otherwise
from the query string. The type is looked at through one `Option` and through
parentheses, and only the last segment of its path counts.
-/

namespace TraitRoutes

/-- The forms in which a parameter takes uploaded files. -/
inductive FileShape where
  | single | collection | sequence
deriving DecidableEq, Repr

/-- What the type of a parameter amounts to. -/
inductive TypeShape where
  | simple | complex
  | file (shape : FileShape)
deriving DecidableEq, Repr

/-- The part of a request that a parameter is read from. -/
inductive Binding where
  | form | body | route | query
deriving DecidableEq, Repr, Inhabited

namespace Binding

/-- The name of a binding in metadata and messages. -/
def name : Binding → String
  | form => "form"
  | body => "body"
  | route => "route"
  | query => "query"

/-- The name of a binding in generated code. -/
def variantName : Binding → String
  | form => "Form"
  | body => "Body"
  | route => "Route"
  | query => "Query"

end Binding

/-! ### Looking into types -/

namespace Ty

/-- The path that a type is, parentheses aside. -/
def path? : Ty → Option Path
  | .path p => some p
  | .paren t => t.path?
  | _ => none

/-- The last identifier of a type that is a path, as written. -/
def lastName? (t : Ty) : Option String :=
  t.path?.bind fun p => p.last?.map fun s => s.ident.text

/-- The argument of a type `wrapper<T>`. -/
def argumentOf? (wrapper : String) (t : Ty) : Option Ty :=
  match t.path?.bind Path.last? with
  | some (.mk ident (.angle _ [.type inner] _)) =>
    if ident.text == wrapper then some inner else none
  | _ => none

/-- The type inside an `Option`. -/
def optionInner? (t : Ty) : Option Ty := argumentOf? "Option" t

end Ty

/-! ### Classes of types -/

/-- Scalars of the language and of well known libraries. -/
def scalarTypes : List String :=
  ["bool", "char", "i8", "i16", "i32", "i64", "i128", "isize", "u8", "u16", "u32", "u64", "u128",
   "usize", "f32", "f64", "String", "Decimal", "DateTime", "NaiveDate", "NaiveDateTime",
   "NaiveTime", "Date", "Time", "OffsetDateTime", "PrimitiveDateTime", "Uuid", "Ulid", "Duration",
   "SystemTime", "Value"]

/-- Whether a type of this name is a scalar. -/
def Options.isSimpleName (options : Options) (name : String) : Bool :=
  scalarTypes.contains name || options.simpleTypes.contains name

/-- The files that a type takes, if it takes files. -/
def FileShape.ofType? (t : Ty) : Option FileShape :=
  match t.argumentOf? "Vec" with
  | some inner => if inner.lastName? == some "FormFile" then some .sequence else none
  | none =>
    if t.lastName? == some "FormFile" then some .single
    else if t.lastName? == some "FormFileCollection" then some .collection
    else none

/-- The shape of a type without an `Option` around it. -/
def TypeShape.ofInner (options : Options) (t : Ty) : TypeShape :=
  match FileShape.ofType? t with
  | some shape => .file shape
  | none =>
    match t.lastName? with
    | some name => if options.isSimpleName name then .simple else .complex
    | none => .complex

/-- The shape of a declared type. -/
def TypeShape.classify (options : Options) (t : Ty) : TypeShape :=
  .ofInner options (t.optionInner?.getD t)

/-! ### The binding of a parameter -/

/-- Endings of words that make a name a key. -/
def keyEndings : List String := ["id", "key", "code"]

/-- What stands between the underscores of a name in snake case. These are its words in lower
case, but for an underscore with an accent, which separates no words and is cut at here. -/
def nameWords (name : String) : List (List Char) := (Text.snakeCase name.toList).splitOn '_'

/-- Whether a name has a word that ends like a key. -/
def isKeyName (name : String) : Bool :=
  (nameWords name).any fun w => keyEndings.any fun e => e.toList.isSuffixOf w

/-- The binding of a parameter of the given shape and name. The verb is taken
into account by no rule. -/
def Binding.resolve (shape : TypeShape) (name : String) (_verb : Verb) : Binding :=
  match shape with
  | .file _ => .form
  | .complex => .body
  | .simple => if isKeyName name then .route else .query

/-! ### Defaults -/

/-- What an omitted parameter is set to. -/
inductive DefaultValue where
  /-- The default of its type. -/
  | zero
  /-- A literal, as written. -/
  | literal (text : String)
deriving DecidableEq, Repr

/-- The expression for the default of a type. -/
def DefaultValue.zeroExpr : String := "::core::default::Default::default()"

/-- The expression for a default. -/
def DefaultValue.expr : DefaultValue → String
  | .zero => zeroExpr
  | .literal text => text

/-- The default that an attribute asks for, by a literal or without one. -/
def DefaultValue.ofLiteral : Option String → DefaultValue
  | none => .zero
  | some text => .literal text

end TraitRoutes
