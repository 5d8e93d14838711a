import TraitRoutes.Controller.Printer

/-!
# What cannot be written

A controller cannot be written if something in it cannot, and all that can stand
in the way is what the printer took over from the trait: types and default
values. The layout itself adds text and breaks. So the question goes down the
document part by part: groups, lists and brackets are written if their elements
are, whatever breaks are moved or left out on the way.
-/

namespace TraitRoutes.Layout

namespace Doc

theorem known_dropLastBreak (pieces : List Piece) :
    (dropLastBreak pieces).all Piece.isKnown = pieces.all Piece.isKnown := by
  unfold dropLastBreak
  split
  · next b hlast =>
      split
      · obtain ⟨front, rfl⟩ := List.getLast?_eq_some_iff.mp hlast
        simp [Piece.isKnown]
      · rfl
  · rfl

theorem known_enclose (offset : Int) (consistent : Bool) (pieces : List Piece) :
    (enclose offset consistent pieces).all Piece.isKnown = pieces.all Piece.isKnown := by
  unfold enclose
  split
  · rfl
  · simp [known_dropLastBreak, Piece.isKnown]

@[simp]
theorem isWritable_nil : isWritable [] = true := rfl

theorem isWritable_cons (d : Doc) (rest : List Doc) :
    isWritable (d :: rest) = (isWritable [d] && isWritable rest) := by
  simp [isWritable, Doc.piecesAll]

@[simp]
theorem isWritable_text (s : String) (rest : List Doc) :
    isWritable (.text s :: rest) = isWritable rest := by
  simp [isWritable, Doc.piecesAll, Doc.pieces, Piece.isKnown]

@[simp]
theorem isWritable_brk (b : Break) (rest : List Doc) :
    isWritable (.brk b :: rest) = isWritable rest := by
  simp [isWritable, Doc.piecesAll, Doc.pieces, Piece.isKnown]

@[simp]
theorem isWritable_group (offset : Int) (consistent : Bool) (parts rest : List Doc) :
    isWritable (.group offset consistent parts :: rest)
      = (isWritable parts && isWritable rest) := by
  simp [isWritable, Doc.piecesAll, Doc.pieces, known_enclose]

@[simp]
theorem isWritable_append (a b : List Doc) :
    isWritable (a ++ b) = (isWritable a && isWritable b) := by
  induction a with
  | nil => rfl
  | cons d rest ih =>
      rw [List.cons_append, isWritable_cons, ih, isWritable_cons d rest, Bool.and_assoc]

@[simp]
theorem isWritable_flatMap {α : Type} (f : α → List Doc) (xs : List α) :
    isWritable (xs.flatMap f) = xs.all fun x => isWritable (f x) := by
  induction xs with
  | nil => rfl
  | cons x rest ih => rw [List.flatMap_cons, isWritable_append, ih, List.all_cons]

/-- Moving a last break writes the same. -/
@[simp]
theorem isWritable_closing (parts : List Doc) : isWritable (closing parts) = isWritable parts := by
  unfold closing
  split
  · next b hlast =>
      obtain ⟨front, rfl⟩ := List.getLast?_eq_some_iff.mp hlast
      simp
  · rfl

@[simp]
theorem isWritable_commaList (docs : List (List Doc)) :
    isWritable (commaList docs) = docs.all isWritable := by
  induction docs with
  | nil => rfl
  | cons d rest ih =>
      cases rest with
      | nil => simp [commaList, lastComma]
      | cons next more => simp [commaList, space, ih]

@[simp]
theorem isWritable_bracketed (opening closing : String) (docs : List (List Doc)) :
    isWritable (bracketed opening closing docs) = docs.all isWritable := by
  unfold bracketed
  cases docs with
  | nil => rfl
  | cons d rest => simp [cbox, zero]

end Doc

end TraitRoutes.Layout

namespace TraitRoutes

open Layout Layout.Doc

/-! ## What is taken over -/

/-- Whether a type can be written. -/
def Ty.isWritable (ty : Ty) : Bool := Doc.isWritable (ofType false ty)

/-- Whether a default value can be written; a literal always can. -/
def Fallback.isWritable : Fallback → Bool
  | .converted _ => true
  | .plain e => Doc.isWritable (ofFragment e).plain

/-- Whether what is passed for a parameter can be written. -/
def Argument.isWritable : Argument → Bool
  | .fieldOr _ d | .fieldUnwrap _ d => d.isWritable
  | _ => true

/-- Whether the types of an extractor can be written. -/
def Extractor.isWritable : Extractor → Bool
  | .path captures => captures.all fun c => c.2.isWritable
  | .json _ ty => ty.isWritable
  | _ => true

/-- Whether the type of an error can be written; that of a result is not. -/
def Reply.isWritable : Reply → Bool
  | .fallible _ (some err) => err.isWritable
  | _ => true

/-- Whether all that a handler takes over from the trait can be written. -/
def HandlerFn.isWritable (h : HandlerFn) : Bool :=
  (h.query.all fun q => q.fields.all fun f => f.ty.isWritable)
    && h.extractors.all Extractor.isWritable && h.args.all Argument.isWritable
    && h.reply.isWritable

namespace Controller

/-! ## Expressions and statements -/

@[simp]
theorem isWritable_call (callee : String) (args : List (List Doc)) :
    Doc.isWritable (call callee args) = args.all Doc.isWritable := by
  simp [call]

@[simp]
theorem isWritable_respond (value : List Doc) :
    Doc.isWritable (respond value) = Doc.isWritable value := by
  simp [respond]

@[simp]
theorem isWritable_chainStart (s : String) (rest : List Doc) :
    Doc.isWritable (chainStart s :: rest) = Doc.isWritable rest := by
  simp [chainStart, cbox]

@[simp]
theorem isWritable_chainCall (method : String) (args : List Doc) :
    Doc.isWritable (chainCall method args) = Doc.isWritable args := by
  simp [chainCall, cbox, zero]

@[simp]
theorem isWritable_chainArgs (args : List (List Doc)) :
    Doc.isWritable (chainArgs args) = args.all Doc.isWritable := by
  cases args with
  | nil => rfl
  | cons d rest => simp [chainArgs, cbox, zero]

@[simp]
theorem isWritable_chainField (field : String) : Doc.isWritable (chainField field) = true := by
  simp [chainField, zero]

@[simp]
theorem isWritable_chain (parts rest : List Doc) :
    Doc.isWritable (chain parts :: rest) = (Doc.isWritable parts && Doc.isWritable rest) := by
  simp [chain, cbox]

@[simp]
theorem isWritable_onlyArg (arg : List Doc × Bool) :
    Doc.isWritable (onlyArg arg) = Doc.isWritable arg.1 := by
  unfold onlyArg
  split <;> simp

@[simp]
theorem isWritable_statement (parts : List Doc) :
    Doc.isWritable (statement parts) = Doc.isWritable parts := by
  simp [statement, ibox, hard]

@[simp]
theorem isWritable_letStatement (name : String) (value : List Doc) :
    Doc.isWritable (letStatement name value) = Doc.isWritable value := by
  simp [letStatement, never]

@[simp]
theorem isWritable_arm (pattern : String) (value rest : List Doc) :
    Doc.isWritable (arm pattern value :: rest)
      = (Doc.isWritable value && Doc.isWritable rest) := by
  simp [arm, ibox, cbox, never]

@[simp]
theorem isWritable_rejectArm (rest : List Doc) :
    Doc.isWritable (rejectArm :: rest) = Doc.isWritable rest := by
  simp [rejectArm, blockArm, ibox, cbox, never, hardIfNonempty]

@[simp]
theorem isWritable_matchOn (scrutinee : List Doc) (chained : Bool) (arms rest : List Doc) :
    Doc.isWritable (matchOn scrutinee chained arms :: rest)
      = (Doc.isWritable scrutinee && Doc.isWritable arms && Doc.isWritable rest) := by
  have harms : Doc.isWritable (arms.flatMap fun a => [a, hard]) = Doc.isWritable arms := by
    induction arms with
    | nil => rfl
    | cons a more ih =>
        rw [List.flatMap_cons, isWritable_append, ih, isWritable_cons a more,
          isWritable_cons a [hard]]
        simp [hard]
  cases chained <;> simp [matchOn, ibox, cbox, never, hardIfNonempty, space, harms, Bool.and_assoc]

/-! ## Handlers -/

@[simp]
theorem isWritable_readForm : Doc.isWritable readForm = true := by
  simp [readForm, cbox]

@[simp]
theorem isWritable_fileStatement (f : FileBinding) :
    Doc.isWritable (fileStatement f) = true := by
  rw [fileStatement, isWritable_letStatement]
  cases f.read <;> simp [fileExpr, filesChain, nonempty]

theorem isWritable_fallbackDoc (d : Fallback) :
    Doc.isWritable (fallbackDoc d).1 = d.isWritable := by
  cases d with
  | converted l => simp [fallbackDoc, Fallback.isWritable]
  | plain e => rfl

@[simp]
theorem isWritable_argumentDoc (a : Argument) :
    Doc.isWritable (argumentDoc a) = a.isWritable := by
  cases a with
  | fieldOr i d =>
      cases hblock : (fallbackDoc d).2 <;>
        simp [argumentDoc, hblock, Argument.isWritable, isWritable_fallbackDoc]
  | fieldUnwrap i d => simp [argumentDoc, Argument.isWritable, isWritable_fallbackDoc]
  | _ => simp [argumentDoc, Argument.isWritable]

@[simp]
theorem isWritable_methodCall (interface : Ident) (h : HandlerFn) :
    Doc.isWritable (methodCall interface h) = h.args.all Argument.isWritable := by
  unfold methodCall
  cases h.async <;> simp [List.all_map, Function.comp_def]

@[simp]
theorem isWritable_errorAnswer (err : Option Ty) :
    Doc.isWritable (errorAnswer err) = err.all Ty.isWritable := by
  cases err with
  | none => simp [errorAnswer]
  | some ty => simp [errorAnswer, Ty.isWritable]

@[simp]
theorem isWritable_answer (interface : Ident) (h : HandlerFn) :
    Doc.isWritable (answer interface h)
      = (h.args.all Argument.isWritable && h.reply.isWritable) := by
  unfold answer
  cases h.reply with
  | unit => simp [noContent, Reply.isWritable]
  | value ty => simp [jsonAnswer, Reply.isWritable]
  | fallible ok err =>
      cases hunit : Controller.isUnit ok <;> cases err <;>
        simp [hunit, noContent, jsonAnswer, Reply.isWritable]

@[simp]
theorem isWritable_extractorDoc (e : Extractor) :
    Doc.isWritable (extractorDoc e) = e.isWritable := by
  unfold extractorDoc
  split <;>
    simp [extractorDoc.both, tuple, Extractor.isWritable, Ty.isWritable, List.all_map,
      Function.comp_def]

@[simp]
theorem isWritable_docLine (text : String) : Doc.isWritable (docLine text) = true := by
  simp [docLine, hard]

@[simp]
theorem isWritable_function (head name : String) (params : List (List Doc)) (result : String)
    (interface : Ident) (lines : List Doc) :
    Doc.isWritable (function head name params result interface lines)
      = (params.all Doc.isWritable && Doc.isWritable lines) := by
  simp [function, function.genericParam, serviceBound, cbox, ibox, zero, never, space, hard,
    hardBack, hardIfNonempty]

@[simp]
theorem isWritable_queryDoc (method : String) (q : QueryStruct) :
    Doc.isWritable (queryDoc method q) = q.fields.all fun f => f.ty.isWritable := by
  have hfield : ∀ f : QueryField, Doc.isWritable (fieldDoc f) = f.ty.isWritable := by
    intro f
    cases hwrapped : f.wrapped <;> simp [fieldDoc, hwrapped, hard, Ty.isWritable]
  simp [queryDoc, cbox, hard, hardIfNonempty, hfield]

@[simp]
theorem isWritable_handlerDoc (interface : Ident) (h : HandlerFn) :
    Doc.isWritable (handlerDoc interface h) = h.isWritable := by
  have hfiles : (h.files.all fun _ => true) = true := by simp
  unfold handlerDoc HandlerFn.isWritable
  cases h.query <;> cases h.files.isEmpty <;>
    simp [List.all_map, Function.comp_def, Bool.and_assoc, hfiles]

/-! ## The rest of the file -/

@[simp]
theorem isWritable_structDoc (path : String) (fields : List (String × List Doc))
    (h : ∀ f ∈ fields, Doc.isWritable f.2 = true) :
    Doc.isWritable (structDoc path fields) = true := by
  have hlines : Doc.isWritable (structDoc.lines fields) = true := by
    induction fields with
    | nil => rfl
    | cons f rest ih =>
        have hf := h f List.mem_cons_self
        have hrest := ih fun g hg => h g (List.mem_cons_of_mem _ hg)
        cases rest with
        | nil => simp [structDoc.lines, ibox, hardBack, hf]
        | cons g more => simp [structDoc.lines, ibox, hard, hf, hrest]
  simp [structDoc, cbox, hard, hlines]

@[simp]
theorem isWritable_optionDoc (value : Option String) :
    Doc.isWritable (optionDoc value) = true := by
  cases value <;> simp [optionDoc]

@[simp]
theorem isWritable_constantDoc (doc name ty : String) (value : List Doc) :
    Doc.isWritable (constantDoc doc name ty value) = Doc.isWritable value := by
  simp [constantDoc, cbox, never, hard]

theorem isWritable_endpointDoc (e : EndpointMeta) : Doc.isWritable (endpointDoc e) = true := by
  have hparam : ∀ p : ParameterMeta, Doc.isWritable (parameterDoc p) = true := by
    intro p
    simp [parameterDoc]
  simp [endpointDoc, List.all_map, Function.comp_def, hparam]

@[simp]
theorem isWritable_metadataDoc (c : Controller) : Doc.isWritable (metadataDoc c) = true := by
  simp [metadataDoc, List.all_map, Function.comp_def, isWritable_endpointDoc]

@[simp]
theorem isWritable_routerDoc (c : Controller) : Doc.isWritable (routerDoc c) = true := by
  simp [routerDoc, routeDoc]

/-- A controller can be written if each handler can. -/
theorem isWritable_eq (c : Controller) : c.isWritable = c.handlers.all HandlerFn.isWritable := by
  simp [isWritable, doc, cbox, hard, hardIfNonempty]

end Controller

end TraitRoutes
