import TraitRoutes.Token.Basic

/-!
# Syntax trees

Two things are kept of what was read. Of a source file there are its traits with
their attributes and method signatures, its imports and its inline modules. And
all that may be written into a controller again, which is types and expressions
with whatever stands inside them, is kept whole.

Types are classified and taken apart, so they are trees of their own. Everything
else is a `Node`: a form with attributes and parts, and the parts in the order in
which they are written. What a form's parts are is said beside the form. A part
that may be missing is a node of the form `absent`, unless it comes last.
-/

namespace TraitRoutes

/-- A literal in expression position: a literal token, a number with a minus in
front that belongs to it, or a truth value. -/
inductive LitValue where
  | token (literal : Literal)
  | negative (literal : Literal)
  | bool (value : Bool)
deriving DecidableEq, Repr, Inhabited

/-- A field, by its name or by its place. -/
inductive Member where
  | name (name : Ident)
  | place (index : Nat)
deriving DecidableEq, Repr

/-- A call of a macro: a path without generic arguments, and tokens in brackets. -/
structure MacroCall where
  leading : Bool
  path : List Ident
  delimiter : Delimiter
  tokens : List Token

/-- Who may see an item. -/
inductive Access where
  /-- Those who see what it stands in. -/
  | inherited
  | everyone
  /-- The module of a path. -/
  | within (leading : Bool) (path : List Ident)

/-- An `extern` in front of a function, which may name a calling convention. -/
structure Convention where
  name : Option Literal

/-- The tree of an import. -/
inductive UseTree where
  | path (name : Ident) (tree : UseTree)
  | name (name : Ident)
  | rename (name new : Ident)
  | glob
  | group (trees : List UseTree)

/-- How much an expression in braces says about when it runs. -/
inductive BlockKind where
  | plain (label : Option Ident)
  | unsafeBlock
  | constBlock
  | tryBlock
  | async (moving : Bool)

/-- The forms of expressions. Literals, paths, macro calls, ranges, references and
blocks of constants are also patterns. -/
inductive ExprForm where
  | literal (value : LitValue)
  /-- Its path, as a type. -/
  | path
  | macroCall (call : MacroCall)
  | infer
  /-- What the grammar admits and the library does not know how to write. -/
  | verbatim
  /-- The elements. -/
  | array
  /-- An element and a number. -/
  | repeated
  /-- The elements. -/
  | tuple
  | paren
  /-- The place and the value. -/
  | assign
  /-- The operands. -/
  | binary (op : String)
  /-- The operand and a type. -/
  | cast
  | unary (op : String)
  | reference (mutable : Bool)
  | rawAddress (mutable : Bool)
  /-- The bounds that it has. -/
  | range (closed low high : Bool)
  /-- The function and the arguments. -/
  | call
  /-- The receiver, generic arguments or none, and the arguments. -/
  | methodCall (name : Ident)
  | field (member : Member)
  /-- The indexed and the index. -/
  | index
  | tryOperator
  | await
  /-- The path as a type, the fields, and last what gives the others. -/
  | struct
  /-- A block. -/
  | block (kind : BlockKind)
  /-- The condition and a block. -/
  | whileLoop (label : Option Ident)
  /-- The pattern, what is run through, and a block. -/
  | forLoop (label : Option Ident)
  /-- A block. -/
  | loopForever (label : Option Ident)
  /-- The condition, a block, and an expression for the other case. -/
  | ifThen
  /-- What is matched and the arms. -/
  | matchOn
  /-- A binder or none, a sequence of parameters, a result type or none, the body. -/
  | closure (words : List String)
  /-- The pattern and what it is matched with. -/
  | letBind
  /-- The value, if there is one. -/
  | breakOut (label : Option Ident)
  | continueOn (label : Option Ident)
  /-- The value, if there is one. -/
  | returnFrom
  /-- The value, if there is one. -/
  | yieldOut

/-- The forms of patterns that are no expressions. -/
inductive PatternForm where
  /-- A binding, with the pattern that narrows it if there is one. -/
  | binding (byRef mutable : Bool) (name : Ident)
  /-- The cases. -/
  | alternatives
  | paren
  | wild
  | rest
  /-- The elements. -/
  | slice
  /-- The elements. -/
  | tuple (trailing : Bool)
  /-- The path as a type, the fields, and last the rest of them. -/
  | struct
  /-- The path as a type and the elements. -/
  | tupleStruct
  /-- The pattern and a type. -/
  | typed
  /-- What the grammar admits and the library does not know how to write. -/
  | verbatim

/-- The forms of what expressions and items consist of. -/
inductive PartForm where
  | absent
  | sequence
  /-- The value behind an equals sign, if there is one. -/
  | attribute (inner leading : Bool) (path : List Ident) (args : Option (Delimiter × List Token))
  /-- The statements of a block; its inner attributes are the node's own. -/
  | braces
  /-- A field of a struct expression, with a value unless it is short. -/
  | fieldValue (member : Member)
  /-- What gives the other fields of a struct expression, if it is said. -/
  | otherFields
  /-- A field of a struct pattern, with its pattern; without a member it is short. -/
  | fieldPattern (member : Option Member)
  /-- The pattern, a guard or none, and the result. -/
  | arm
  /-- The parameters of a `for<..>`. -/
  | binder
  /-- Parameters in angle brackets. -/
  | generics
  | lifetimeParam (name : Ident) (bounds : List Ident)
  /-- The bounds, and the default if there is one. -/
  | typeParam (name : Ident) (default : Bool)
  /-- The type, and the default if there is one. -/
  | constParam (name : Ident)
  /-- What a type may capture, lifetimes marked. -/
  | captures (params : List (Bool × Ident))
  /-- The predicates. -/
  | whereClause
  | lifetimePredicate (name : Ident) (bounds : List Ident)
  /-- A binder or none, the type and its bounds. -/
  | typePredicate
  /-- A parameter of a function type: its type. -/
  | typeInput (name : Option Ident)
  /-- The dots behind the parameters of a function type. -/
  | typeVariadic (name : Option Ident)
  /-- A function type: a binder or none, a sequence of parameters, and the result type
  if there is one. -/
  | functionType (unsafety : Bool) (convention : Option Convention)
  /-- The receiver of a method, with its type if it is given. -/
  | receiver (reference : Option (Option Ident)) (mutable : Bool)
  /-- The dots behind the parameters of a function, with a pattern if there is one. -/
  | variadic
  /-- Generics, a sequence of parameters, and a result type or none. -/
  | signature (words : List String) (convention : Option Convention) (name : Ident)

/-- The forms of statements that are neither items nor empty. -/
inductive StatementForm where
  | empty
  /-- The pattern, a value or none, and a block for when it does not match. -/
  | letBind
  /-- An expression. -/
  | expr (semi : Bool)
  /-- A call that is a statement of its own. -/
  | macroCall (call : MacroCall)

/-- Where a type alias stands. -/
inductive AliasPlace where
  | free | interface | implementation | foreign
deriving DecidableEq, Repr

/-- The forms of items, those of traits, implementations and `extern` blocks
included. -/
inductive ItemForm where
  /-- A signature, a `where` clause, and a block if there is one. -/
  | function (access : Access) (default : Bool)
  /-- A type, and a value if there is one. -/
  | constant (access : Access) (default : Bool) (name : Ident)
  /-- A type, and a value if there is one. -/
  | static (access : Access) (mutable : Bool) (name : Ident)
  /-- Generics, a `where` clause and the fields. -/
  | struct (access : Access) (keyword : String) (name : Ident)
  /-- The fields between braces. -/
  | namedFields
  /-- The fields between parentheses. -/
  | tupleFields
  /-- A type. -/
  | field (access : Access) (name : Option Ident)
  /-- Generics, a `where` clause and the variants. -/
  | enum (access : Access) (name : Ident)
  /-- The fields or none, and a value if there is one. -/
  | variant (name : Ident)
  /-- A type alias: generics, a `where` clause, a type or none, and the bounds. -/
  | alias (access : Access) (default : Bool) (place : AliasPlace) (name : Ident)
  /-- Generics, a `where` clause, a sequence of supertraits, and the items. -/
  | interface (access : Access) (words : List String) (name : Ident)
  /-- Generics, a `where` clause and the bounds. -/
  | interfaceAlias (access : Access) (name : Ident)
  /-- Generics, a `where` clause, a trait or none, a type, and the items. -/
  | implementation (words : List String) (negative : Bool)
  /-- The items. -/
  | foreign (unsafety : Bool) (convention : Convention)
  /-- The items, if the module is inline. -/
  | module (access : Access) (unsafety inline : Bool) (name : Ident)
  | imports (access : Access) (leading : Bool) (tree : UseTree)
  | externCrate (access : Access) (name : Ident) (new : Option Ident)
  | macroCall (call : MacroCall) (name : Option Ident)
  | verbatim

/-- What a node is. -/
inductive Form where
  | expr (form : ExprForm)
  | pattern (form : PatternForm)
  | part (form : PartForm)
  | statement (form : StatementForm)
  | item (form : ItemForm)

mutual

/-- A piece of syntax. -/
inductive Node where
  | mk (form : Form) (attrs parts : List Node)
  | type (ty : Ty)
  | args (args : GenericArgs)
  | bound (bound : Bound)

/-- A piece of syntax with the tokens that it was read from, operators cut apart. -/
inductive Fragment where
  | mk (node : Node) (tokens : List Token)

/-- A type. -/
inductive Ty where
  | path (path : Path)
  /-- `<self as A::B>::C`, where the first `interface` segments are those of the
  trait. -/
  | qualified (self : Ty) (interface : Nat) (path : Path)
  | tuple (elems : List Ty) (trailing : Bool)
  | array (elem : Ty) (length : Fragment)
  | slice (elem : Ty)
  | pointer (mutable : Bool) (elem : Ty)
  | reference (lifetime : Option Ident) (mutable : Bool) (elem : Ty)
  | implTrait (bounds : List Bound) (trailing : Bool)
  | traitObject (dyn : Bool) (bounds : List Bound) (trailing : Bool)
  | paren (elem : Ty)
  | never
  | infer
  /-- Function pointers, macro calls and forms that are only recognised. -/
  | other (fragment : Fragment)

/-- A path of segments, with a leading `::` or not. -/
inductive Path where
  | mk (leading : Bool) (segments : List Segment)

/-- A segment of a path. -/
inductive Segment where
  | mk (ident : Ident) (args : GenericArgs)

/-- Generic arguments of a segment. -/
inductive GenericArgs where
  | none
  | angle (turbofish : Bool) (args : List GenericArg) (trailing : Bool)
  | paren (inputs : List Ty) (trailing : Bool) (output : Option Ty)

/-- One generic argument between angle brackets. -/
inductive GenericArg where
  | lifetime (name : Ident)
  | type (ty : Ty)
  | const (value : Fragment)
  | assocType (name : Ident) (args : GenericArgs) (ty : Ty)
  | assocConst (name : Ident) (args : GenericArgs) (value : Fragment)
  | constraint (name : Ident) (args : GenericArgs) (bounds : List Bound) (trailing : Bool)

/-- A bound on a type. -/
inductive Bound where
  /-- A trait, possibly in parentheses, relaxed by `?`, or under a `for<..>`. -/
  | interface (paren relaxed : Bool) (binder : Option Fragment) (path : Path)
  | lifetime (name : Ident)
  /-- What a type may capture, and forms that are only recognised. -/
  | other (fragment : Fragment)

end

instance : Inhabited Ty := ⟨.never⟩

/-! ### Nodes -/

namespace Node

/-- An expression. -/
def expr (form : ExprForm) (parts : List Node) : Node := .mk (.expr form) [] parts

/-- A pattern. -/
def pattern (form : PatternForm) (parts : List Node) : Node := .mk (.pattern form) [] parts

/-- A part of something else. -/
def part (form : PartForm) (parts : List Node) : Node := .mk (.part form) [] parts

/-- A statement. -/
def statement (form : StatementForm) (parts : List Node) : Node := .mk (.statement form) [] parts

/-- An item. -/
def item (form : ItemForm) (parts : List Node) : Node := .mk (.item form) [] parts

/-- Nothing, in the place of a part that is missing. -/
def absent : Node := part .absent []

/-- Nodes in the place of one. -/
def sequence (nodes : List Node) : Node := part .sequence nodes

/-- A part that may be missing. -/
def optional : Option Node → Node
  | some n => n
  | none => absent

/-- The form of a node that has one. -/
def form? : Node → Option Form
  | .mk form _ _ => some form
  | _ => none

/-- The form of an expression. -/
def exprForm? (n : Node) : Option ExprForm :=
  match n.form? with
  | some (.expr form) => some form
  | _ => none

/-- The attributes of a node. -/
def attrs : Node → List Node
  | .mk _ attrs _ => attrs
  | _ => []

/-- The parts of a node. -/
def parts : Node → List Node
  | .mk _ _ parts => parts
  | _ => []

/-- A node with attributes in front of its own. -/
def withAttrs (before : List Node) : Node → Node
  | .mk form attrs parts => .mk form (before ++ attrs) parts
  | n => n

/-- Whether an attribute stands inside of what it describes. -/
def isInner : Node → Bool
  | .mk (.part (.attribute inner ..)) _ _ => inner
  | _ => false

/-- Whether an expression needs a comma or a semicolon behind it; one that ends in
its own block does not. -/
def needsEnd (e : Node) : Bool :=
  match e.exprForm? with
  | some (.block (.async _)) => true
  | some .ifThen | some .matchOn | some (.block _) | some (.whileLoop _) | some (.loopForever _)
  | some (.forLoop _) => false
  | _ => true

end Node

/-- The node of a fragment. -/
def Fragment.node : Fragment → Node
  | .mk node _ => node

/-- The tokens of a fragment. -/
def Fragment.tokens : Fragment → List Token
  | .mk _ tokens => tokens

/-- The form of a fragment that is an expression. -/
def Fragment.exprForm? (f : Fragment) : Option ExprForm := f.node.exprForm?

/-! ### Paths -/

/-- Whether a path begins with `::`. -/
def Path.leading : Path → Bool
  | .mk leading _ => leading

/-- The segments of a path. -/
def Path.segments : Path → List Segment
  | .mk _ segments => segments

/-- The identifier of a segment. -/
def Segment.ident : Segment → Ident
  | .mk ident _ => ident

/-- The generic arguments of a segment. -/
def Segment.args : Segment → GenericArgs
  | .mk _ args => args

/-- The last segment of a path. -/
def Path.last? (p : Path) : Option Segment := p.segments.getLast?

/-- A path that is one identifier. -/
def Path.ofIdent (i : Ident) : Path := .mk false [.mk i .none]

/-- The identifier that an expression is, if it is a path of nothing else. -/
def Node.ident? : Node → Option Ident
  | .mk (.expr .path) _ [.type (.path (.mk false [.mk name .none]))] => some name
  | _ => none

/-! ### Declarations -/

/-- A pattern: the name it binds, if it is a plain binding, and its tokens. -/
structure Pattern where
  /-- The name bound, when the pattern is a binding. -/
  name : Option Ident
  /-- The binding takes a reference, or narrows by a further pattern. -/
  elaborate : Bool
  tokens : List Token
deriving Inhabited

/-- What an attribute says after its path. -/
inductive AttributeArgs where
  | word
  | list (delimiter : Delimiter) (tokens : List Token)
  | value (expr : Fragment)

/-- An attribute of a declaration. -/
structure Attribute where
  leading : Bool
  path : List Ident
  args : AttributeArgs

/-- An attribute as a node. -/
def Attribute.node (inner : Bool) (a : Attribute) : Node :=
  match a.args with
  | .word => .part (.attribute inner a.leading a.path none) []
  | .list d tokens => .part (.attribute inner a.leading a.path (some (d, tokens))) []
  | .value e => .part (.attribute inner a.leading a.path none) [e.node]

/-- The kinds of generic parameters. -/
inductive GenericKind where
  | lifetime | type | const
deriving DecidableEq, Repr

/-- A generic parameter with its bounds and default. -/
structure GenericParam where
  kind : GenericKind
  fragment : Fragment

/-- The tokens of a generic parameter. -/
def GenericParam.tokens (p : GenericParam) : List Token := p.fragment.tokens

/-- The generics of a declaration. -/
structure Generics where
  params : List GenericParam
  /-- A comma follows the last parameter. -/
  trailing : Bool
  /-- The `where` clause, if there is one. -/
  clause : Option Node

/-- No generics at all. -/
def Generics.empty : Generics := ⟨[], false, none⟩

/-- The parameters of generics as a node. -/
def Generics.node (g : Generics) : Node := .part .generics (g.params.map (·.fragment.node))

/-- The `where` clause of generics as a node. -/
def Generics.clauseNode (g : Generics) : Node := .optional g.clause

/-- Whether generics have a `where` clause. -/
def Generics.constrained (g : Generics) : Bool := g.clause.isSome

/-- The receiver of a method. -/
structure Receiver where
  /-- `&self`, with or without a lifetime. -/
  reference : Bool
  mutable : Bool
  /-- `self: Type`. -/
  typed : Bool
deriving DecidableEq, Repr

/-- A parameter of a method other than its receiver. -/
structure Input where
  pattern : Pattern
  ty : Ty

/-- The signature of a method. -/
structure Signature where
  async : Bool
  ident : Ident
  generics : Generics
  receiver : Option Receiver
  inputs : List Input
  variadic : Bool
  output : Option Ty

/-- A method of a trait. -/
structure Method where
  attrs : List Attribute
  sig : Signature

/-- A trait as declared. -/
structure TraitDecl where
  attrs : List Attribute
  ident : Ident
  /-- Where the identifier stands. -/
  place : Position
  generics : Generics
  supertraits : List Bound
  methods : List Method

/-- An item, as far as the generator looks at it. -/
inductive Item where
  | interface (decl : TraitDecl)
  | module (name : Ident) (items : List Item)
  | imports (tree : UseTree)
  | other

end TraitRoutes
