import TraitRoutes.Layout.Items

/-!
# Layout of trees

Puts the rules for single forms together, along the tree, with those for types and
paths. Generic arguments are laid out one to a line when they do not fit, lifetimes
first; a trait object says `dyn` whether it did in the source or not.
-/

namespace TraitRoutes.Layout

open Doc

/-- The layout of a node of any form, from that of its parts. -/
def Laid.of (form : Form) (attrs parts : List Laid) : Laid :=
  let node : Node := .mk form (attrs.map Laid.node) (parts.map Laid.node)
  let before (docs : List Doc) : List Doc := outerDocs attrs ++ docs
  match form with
  | .expr form => exprLaid form attrs parts
  | .pattern form => { node, attrs, parts, doc := fun _ => before (patternDoc form parts) }
  | .part form => { node, attrs, parts, doc := fun _ => before (partDoc form parts) }
  | .statement form =>
    { node, attrs, parts, doc := fun place => before (statementDoc form parts place) }
  | .item form =>
    { node, attrs, parts, doc := fun _ => before (itemDoc form (innerDocs attrs) parts) }

/-- Generic arguments in angle brackets, those that are lifetimes first. -/
def anglesDoc (value : Bool) (args : List (Bool × List Doc)) : List Doc :=
  let ordered := args.filter (·.1) ++ args.filter (!·.1)
  if ordered.isEmpty then []
  else wordIf value "::" ++ bracketed "<" ">" (ordered.map (·.2))

/-- Whether a generic argument is a lifetime. -/
def isLifetimeArg : GenericArg → Bool
  | .lifetime _ => true
  | _ => false

mutual

/-- The layout of a node. -/
def ofNode : Node → Laid
  | .mk form attrs parts => Laid.of form (ofNodes attrs) (ofNodes parts)
  | .type ty => { node := .type ty, doc := fun place => ofType (place = .value) ty }
  | .args args => { node := .args args, doc := fun _ => ofArgs true args }
  | .bound b => { node := .bound b, doc := fun _ => ofBound b }

/-- The layouts of nodes. -/
def ofNodes : List Node → List Laid
  | [] => []
  | n :: rest => ofNode n :: ofNodes rest

/-- The layout of a fragment. -/
def ofFragment : Fragment → Laid
  | .mk node _ => ofNode node

/-- The layout of a type. As the path of a value it has a `::` in front of generic
arguments. -/
def ofType (value : Bool) : Ty → List Doc
  | .path p => ofPath value p
  | .qualified self n (.mk leading segments) =>
    .text "<" :: ofType false self ++ (if n = 0 then [Doc.text ">"] else [Doc.text " as "])
      ++ ofSegments value n (n = 0 || leading) segments
  | .tuple elems _ =>
    match ofTypes elems with
    | [only] => [.text "(", cbox step (zero :: only ++ [.text ",", zeroBack]), .text ")"]
    | docs => [.text "(", cbox step (zero :: commaList docs), .text ")"]
  | .array elem len =>
    .text "[" :: ofType false elem ++ .text "; " :: (ofFragment len).plain ++ [.text "]"]
  | .slice elem => .text "[" :: ofType false elem ++ [.text "]"]
  | .pointer mutable elem => .text (if mutable then "*mut " else "*const ") :: ofType false elem
  | .reference lifetime mutable elem =>
    .text ("&" ++ (match lifetime with
        | some l => "'" ++ l.text ++ " "
        | none => "") ++ (if mutable then "mut " else "")) :: ofType false elem
  | .implTrait bounds _ => .text "impl " :: joined [.text " + "] (ofBounds bounds)
  | .traitObject _ bounds _ => .text "dyn " :: joined [.text " + "] (ofBounds bounds)
  | .paren elem => .text "(" :: ofType false elem ++ [.text ")"]
  | .never => [.text "!"]
  | .infer => [.text "_"]
  | .other fragment => (ofFragment fragment).plain

/-- The layouts of types. -/
def ofTypes : List Ty → List (List Doc)
  | [] => []
  | t :: rest => ofType false t :: ofTypes rest

/-- The layout of a path. -/
def ofPath (value : Bool) : Path → List Doc
  | .mk leading segments => ofSegments value 0 leading segments

/-- The layout of segments. A closing angle bracket follows segment number
`close`, counted down to one; what stands up to it is part of a type. -/
def ofSegments (value : Bool) (close : Nat) (between : Bool) : List Segment → List Doc
  | [] => []
  | .mk ident args :: rest =>
    .text ((if between then "::" else "") ++ ident.text) :: ofArgs (value && close = 0) args
      ++ (if close = 1 then [Doc.text ">"] else []) ++ ofSegments value (close - 1) true rest

/-- The layout of generic arguments. -/
def ofArgs (value : Bool) : GenericArgs → List Doc
  | .none => []
  | .angle _ args _ => anglesDoc value ((args.map isLifetimeArg).zip (ofGenericArgs args))
  | .paren inputs _ output =>
    [cbox step (.text "("
      :: (if inputs.isEmpty then [zeroBack] else zero :: commaList (ofTypes inputs))
      ++ .text ")" :: (match output with
        | some ty => .text " -> " :: ofType false ty
        | none => []))]

/-- The layouts of generic arguments. -/
def ofGenericArgs : List GenericArg → List (List Doc)
  | [] => []
  | a :: rest => ofGenericArg a :: ofGenericArgs rest

/-- The layout of a generic argument. -/
def ofGenericArg : GenericArg → List Doc
  | .lifetime name => [.text ("'" ++ name.text)]
  | .type ty => ofType false ty
  | .const value => constDoc (ofFragment value)
  | .assocType name args ty =>
    .text name.text :: ofArgs false args ++ .text " = " :: ofType false ty
  | .assocConst name args value =>
    .text name.text :: ofArgs false args ++ .text " = " :: (ofFragment value).plain
  | .constraint name args bounds _ =>
    .text name.text :: ofArgs false args ++ [ibox step (boundDocs (ofBounds bounds))]

/-- The layout of a bound. -/
def ofBound : Bound → List Doc
  | .interface paren relaxed binder path =>
    wordIf paren "(" ++ (match binder with
        | some b => (ofFragment b).plain
        | none => [])
      ++ wordIf relaxed "?" ++ ofPath false path ++ wordIf paren ")"
  | .lifetime name => [.text ("'" ++ name.text)]
  | .other fragment => (ofFragment fragment).plain

/-- The layouts of bounds. -/
def ofBounds : List Bound → List (List Doc)
  | [] => []
  | b :: rest => ofBound b :: ofBounds rest

end

end TraitRoutes.Layout
