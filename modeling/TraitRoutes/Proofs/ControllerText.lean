import TraitRoutes.Proofs.ControllerSyntax

/-!
# The text of a controller

The printer has a function for each form of code. What it lays out is written in the language of
that form as soon as its parts are in theirs, so one rule for each function carries the parts up
to the file. The layout of a form only has to start with something that is written, or be a
group whose first break may be nothing.
-/

namespace TraitRoutes.Controller

open Layout Layout.Doc

/-! ## Forms -/

section Forms

variable {docs : List (List Doc)} {Ls : List (Language Char)} {parts value lines : List Doc}
variable {L M : Language Char}

/-- What the printer quotes denotes the text again. -/
theorem written_quoted (text : String) :
    written [.text (Text.quoteText text)] ≤ Code.quoted text := by
  rw [written_singleton, lit_le, Code.quoted]
  refine ⟨?_, ?_⟩ <;> rw [String.ofList_toList]
  · exact Scan.isLexed_quoteText text
  · exact Text.stringValue_quoteText text

theorem written_call {callee : String} (h : List.Forall₂ (fun d L => written d ≤ L) docs Ls) :
    written (call callee docs) ≤ Code.call callee Ls := by
  rw [call, written_text]
  exact mul_le_mul_right (written_bracketed h) _

theorem written_call_one {callee : String} (h : written value ≤ L) :
    written (call callee [value]) ≤ Code.call callee [L] :=
  written_call (.cons h .nil)

theorem written_respond (h : written value ≤ L) : written (respond value) ≤ Code.response L :=
  written_call_one h

/-- A chain is written as where it starts, and its parts behind. -/
theorem written_chain (s : String) :
    written [chain (chainStart s :: parts)] ≤ lit s * written parts := by
  refine (written_group rfl).trans ?_
  refine written_cons_le ?_ le_rfl
  exact (written_group rfl).trans_eq (mul_one _)

theorem written_chainedCall (s : String) (h : List.Forall₂ (fun d L => written d ≤ L) docs Ls)
    (rest : List Doc) :
    written [chain (chainStart s :: bracketed "(" ")" docs ++ rest)]
      ≤ Code.call s Ls * written rest := by
  rw [List.cons_append]
  refine (written_chain s).trans ?_
  rw [written_append, ← mul_assoc]
  exact mul_le_mul_left (mul_le_mul_right (written_bracketed h) _) _

theorem written_chainField (name : String) : written (chainField name) = Code.field name := by
  rw [chainField, written_zero, written_text, written_nil, mul_one, Code.field]

theorem written_chainArgs (h : List.Forall₂ (fun d L => written d ≤ L) docs Ls) :
    written (chainArgs docs) ≤ gap * items Ls := by
  rw [chainArgs]
  split
  · next hempty =>
      rw [List.isEmpty_iff] at hempty
      subst hempty
      cases h
      rw [written_nil, items, mul_one]
      exact one_le_gap
  · exact written_items h

theorem written_chainCall {method : String} (h : written parts ≤ gap * items Ls) :
    written (chainCall method parts) ≤ Code.method method Ls := by
  rw [chainCall, written_zero, written_text, Code.method, enclosed, ← mul_assoc]
  refine mul_le_mul_right ((written_group rfl).trans ?_) _
  simp only [List.cons_append, written_text, written_append, written_nil, mul_one, mul_assoc]
  rw [← mul_assoc gap]
  gcongr

theorem written_statement (hfirm : firm (piecesAll parts) = true) (h : written parts ≤ L) :
    written (statement parts) ≤ L * line := by
  rw [statement]
  refine written_cons_le ((written_group hfirm).trans h) ?_
  rw [written_hard, written_nil, mul_one]

theorem written_letStatement {name : String} (h : written value ≤ L) :
    written (letStatement name value) ≤ Code.binding name L := by
  rw [letStatement, Code.binding]
  refine written_statement rfl ?_
  simp only [List.cons_append, written_text, written_never, written_append, written_nil, mul_one,
    mul_assoc]
  gcongr

/-- A value that does not fit behind its pattern gets braces. -/
theorem written_arm {pattern : String} (h : written value ≤ L) :
    written [arm pattern value] ≤ Code.arm pattern L := by
  have hlone : isLoneBreak (piecesAll (.brk { before := "\x7b" } :: value
      ++ [.brk { offset := -step, after := "\x7d", unbroken := "," }])) = false := by
    rw [piecesAll_append, piecesAll]
    change isLoneBreak (.brk _ :: (piecesAll value ++ _)) = false
    cases piecesAll value <;> rfl
  have hvalue : ∀ m, textsAll m value ≤ L := fun m => (textsAll_le_written m value).trans h
  rw [arm, Code.arm]
  refine (written_group rfl).trans ?_
  rw [written_text, written_never, written_cbox hlone, ← mul_assoc]
  simp only [List.cons_append, textsAll, textsAll_append, texts]
  rw [Break.texts_flat (by decide), Break.texts_flat (by decide), Break.texts_broken,
    Break.texts_broken]
  refine mul_le_mul_right (add_le_add ?_ ?_) _
  · simp only [lit_empty, mul_one, mul_assoc]
    gcongr
    exact hvalue _
  · simp only [Code.block, lit_empty, mul_one, one_mul, mul_assoc]
    gcongr
    · exact line_le_gap
    · exact hvalue _

/-- The lines of an arm that ends the handler. -/
theorem written_rejectArm : written [rejectArm] ≤ Code.rejection := by
  have hreturn : written (statement (.text "return " :: respond [.text "err"] ++ [.text ";"]))
      ≤ lit "return " * Code.response (lit "err") * lit ";" * line := by
    refine written_statement rfl ?_
    rw [List.cons_append, written_text, written_append, written_text, written_nil, mul_one,
      mul_assoc]
    exact mul_le_mul_right (mul_le_mul_left (written_respond (written_singleton _).le) _) _
  have hopening : errPattern ++ " => \x7b" = "::core::result::Result::Err(err) => " ++ "\x7b" :=
    by decide
  rw [rejectArm, blockArm]
  refine (written_group rfl).trans ?_
  rw [written_text, written_never, written_cons, written_text, written_nil, mul_one, hopening,
    lit_append, Code.rejection, Code.block, mul_assoc]
  refine mul_le_mul_right ?_ _
  calc lit "\x7b" * (gap * (written [cbox step (closing (hardIfNonempty
        :: statement (.text "return " :: respond [.text "err"] ++ [.text ";"])))] * lit "\x7d"))
      ≤ lit "\x7b" * (gap * (gap * (lit "return " * Code.response (lit "err") * lit ";" * line)
        * lit "\x7d")) := by
        gcongr
        exact (written_lines _).trans (mul_le_mul_right hreturn _)
    _ = lit "\x7b" * gap * (lit "return " * Code.response (lit "err") * lit ";" * line)
        * lit "\x7d" := by
        simp only [mul_assoc, gap_mul_gap_mul]

/-- A match has two arms, of which each ends a line. -/
theorem written_matchOn {chained : Bool} {success failure : Doc} {S F : Language Char}
    (hvalue : written value ≤ L) (hfirm : firm (piecesAll value) = true)
    (hsuccess : written [success] ≤ S) (hfailure : written [failure] ≤ F) :
    written [matchOn value chained [success, failure]] ≤ Code.matching L S F := by
  have hscrutinee : written [cbox 0 (value ++ [if chained then space else .text " "])]
      ≤ L * gap := by
    refine (written_group ?_).trans ?_
    · rw [piecesAll_append]
      exact firm_append hfirm
    · rw [written_append]
      refine mul_le_mul' hvalue ?_
      cases chained
      · exact (mul_one _).trans_le (blanks_le_gap 1)
      · exact written_space.trans_le (mul_one _).le
  have harms : written [cbox step (closing (hardIfNonempty ::
      [success, failure].flatMap fun a => [a, hard]))] ≤ gap * (S * line * (F * line)) := by
    refine (written_lines _).trans (mul_le_mul_right ?_ _)
    have harm : ∀ {d : Doc} {A : Language Char}, written [d] ≤ A →
        written [d, hard] ≤ A * line := fun h =>
      written_cons_le h (written_hard.trans_le (mul_one _).le)
    simp only [List.flatMap_cons, List.flatMap_nil, List.append_nil, written_append]
    exact mul_le_mul' (harm hsuccess) (harm hfailure)
  rw [matchOn, Code.matching, Code.block]
  refine (written_group rfl).trans ?_
  rw [written_text, written_cons _ (_ :: _), written_text, written_never, written_cons _ [_],
    written_text, written_nil, mul_one]
  calc lit "match " * (written [cbox 0 (value ++ [if chained then space else .text " "])]
        * (lit "\x7b" * (gap * (written [cbox step (closing (hardIfNonempty ::
          [success, failure].flatMap fun a => [a, hard]))] * lit "\x7d"))))
      ≤ lit "match " * (L * gap * (lit "\x7b" * (gap * (gap * (S * line * (F * line))
        * lit "\x7d")))) := by gcongr
    _ = lit "match " * L * gap * (lit "\x7b" * gap * (S * line * (F * line)) * lit "\x7d") := by
        simp only [mul_assoc, gap_mul_gap_mul]

theorem lit_opening (s : String) : lit (s ++ " \x7b") = lit (s ++ " ") * lit "\x7b" := by
  rw [← lit_append, String.append_assoc]
  rfl

/-- Lines between braces, with what stands in front of them in their group. -/
theorem written_braced {head : String} (h : written lines ≤ L) (rest : List Doc) :
    written (cbox step (closing (.text (head ++ " \x7b") :: hardIfNonempty :: lines))
        :: .text "\x7d" :: hard :: rest)
      ≤ lit (head ++ " ") * Code.block L * line * written rest := by
  have hgroup : written [cbox step (closing (.text (head ++ " \x7b") :: hardIfNonempty :: lines))]
      ≤ lit (head ++ " ") * (lit "\x7b" * gap * L) := by
    refine (written_group (firm_closing rfl)).trans ?_
    rw [written_closing, written_text, written_hardIfNonempty, lit_opening, mul_assoc, mul_assoc]
    exact mul_le_mul_right (mul_le_mul_right (mul_le_mul' (add_le line_le_gap one_le_gap) h) _) _
  rw [written_cons, written_text, written_hard, Code.block]
  refine (mul_le_mul_left hgroup _).trans_eq ?_
  simp only [mul_assoc]

theorem written_onlyArg {arg : List Doc × Bool} (h : written arg.1 ≤ L) :
    written (onlyArg arg) ≤ gap * items [L] := by
  unfold onlyArg
  split
  · exact h.trans (le_items L)
  · exact written_chainArgs (.cons h .nil)

end Forms

/-! ## Handlers -/

theorem written_fallbackDoc (d : Fallback) : written (fallbackDoc d).1 ≤ d.code := by
  cases d with
  | converted l => exact written_call_one (written_singleton _).le
  | plain e => exact le_rfl

theorem written_argumentDoc (a : Argument) : written (argumentDoc a) ≤ a.code := by
  have hfield : ∀ i : Ident, written (chainField i.text) ≤ Code.field i.text := fun i =>
    (written_chainField _).le
  cases a with
  | bound i => exact (written_singleton _).le
  | wrapped i => exact written_call_one (written_singleton _).le
  | field i => exact (written_chain _).trans (mul_le_mul_right (hfield i) _)
  | fieldOr i d =>
      have hpresent : ∀ inner : List Doc × Bool, written inner.1 ≤ d.code →
          written (if inner.2 then
              [Doc.text "::core::option::Option::Some("] ++ inner.1 ++ [.text ")"]
            else call "::core::option::Option::Some" [inner.1]) ≤ Code.present d.code := by
        intro inner hinner
        split
        · have hopening : lit "::core::option::Option::Some("
              = lit "::core::option::Option::Some" * lit "(" := by
            rw [← lit_append]
            rfl
          rw [written_append, written_append, written_singleton, written_singleton, hopening]
          have hitems : written inner.1 ≤ gap * items [d.code] := hinner.trans (le_items _)
          refine (mul_le_mul_left (mul_le_mul_right hitems _) _).trans_eq ?_
          simp only [Code.present, Code.call, enclosed, mul_assoc]
        · exact written_call_one hinner
      rw [argumentDoc, List.cons_append]
      refine (written_chain _).trans ?_
      rw [written_append, Argument.code, mul_assoc]
      refine mul_le_mul_right (mul_le_mul' (hfield i) (written_chainCall ?_)) _
      exact written_chainArgs (.cons (hpresent _ (written_fallbackDoc d)) .nil)
  | fieldUnwrap i d =>
      rw [argumentDoc, List.cons_append]
      refine (written_chain _).trans ?_
      rw [written_append, Argument.code, mul_assoc]
      refine mul_le_mul_right (mul_le_mul' (hfield i) (written_chainCall ?_)) _
      exact written_onlyArg (written_fallbackDoc d)

/-- What is taken from the files. -/
theorem written_filesCall (method name : String) (rest : List Doc) :
    written [filesChain (chainCall method (chainArgs [[.text (Text.quoteText name)]]) ++ rest)]
      ≤ lit "__files" * (Code.method method [Code.quoted name] * written rest) := by
  refine (written_chain _).trans (mul_le_mul_right ?_ _)
  rw [written_append]
  exact mul_le_mul_left (written_chainCall (written_chainArgs (.cons (written_quoted name) .nil))) _

theorem written_nonempty {value : List Doc} {L : Language Char} (h : written value ≤ L) :
    written [nonempty value]
      ≤ Code.present L * Code.method "filter" [lit "|files| !files.is_empty()"] := by
  refine (written_chainedCall _ (.cons h .nil) _).trans (mul_le_mul_right ?_ _)
  exact written_chainCall ((written_singleton _).le.trans (le_items _))

theorem written_fileExpr (name : String) (r : FileRead) :
    written (fileExpr (Text.quoteText name) r) ≤ r.code name := by
  have hall : written [filesChain (chainCall "take_all" (chainArgs [[.text (Text.quoteText name)]])
      ++ chainCall "into_vec" [])] ≤ FileRead.code.all name := by
    refine (written_filesCall _ _ _).trans ?_
    rw [FileRead.code.all, mul_assoc]
    exact mul_le_mul_right (mul_le_mul_right (written_chainCall (written_chainArgs .nil)) _) _
  have hrest : written (call "::core::mem::take" [[.text "&mut __files"]])
      ≤ FileRead.code.remaining := written_call_one (written_singleton _).le
  cases r with
  | require =>
      have hcall := written_filesCall "require" name []
      rw [List.append_nil, written_nil, mul_one] at hcall
      exact written_matchOn hcall rfl (written_arm (written_singleton _).le) written_rejectArm
  | take =>
      have htake := written_filesCall "take" name []
      rw [List.append_nil, written_nil, mul_one] at htake
      exact htake
  | takeAll => exact hall
  | takeAny => exact written_nonempty hall
  | rest => exact hrest
  | restAny => exact written_nonempty hrest

theorem written_fileStatement (b : FileBinding) : written (fileStatement b) ≤ b.code :=
  written_letStatement (written_fileExpr _ _)

/-- The form is read before files are taken from it. -/
theorem written_readForm : written readForm ≤ Code.binding "mut __files" (Code.matching
    (Code.call "::dynamic_api::form::read_multipart" [lit "__multipart"] * Code.field "await")
    (Code.arm (Code.ok "files") (lit "files")) Code.rejection) := by
  refine written_letStatement (written_matchOn ?_ rfl (written_arm (written_singleton _).le)
    written_rejectArm)
  refine (written_chainedCall _ (.cons (written_singleton _).le .nil) _).trans ?_
  exact mul_le_mul' le_rfl (written_chainField _).le

section Handlers

variable (interface : Ident) (fn : HandlerFn)

theorem written_methodCall : written (methodCall interface fn) ≤ fn.callCode interface := by
  have hargs : List.Forall₂ (fun d L => written d ≤ L)
      ([.text "&*__service"] :: fn.args.map argumentDoc)
      (lit "&*__service" :: fn.args.map Argument.code) := by
    exact .cons (written_singleton _).le (forall₂_map written_argumentDoc _)
  rw [methodCall, HandlerFn.callCode]
  split
  · refine (written_chainedCall _ hargs _).trans (mul_le_mul_right ?_ _)
    exact (written_chainField _).le
  · rw [mul_one]
    exact written_call hargs

theorem firm_methodCall : firm (piecesAll (methodCall interface fn)) = true := by
  rw [methodCall]
  split <;> rfl

theorem written_noContent : written noContent ≤ HandlerFn.noContent :=
  written_respond (written_singleton _).le

theorem written_jsonAnswer (name : String) : written (jsonAnswer name) ≤ HandlerFn.json name :=
  written_respond (written_call_one (written_singleton _).le)

theorem written_errorAnswer (err : Option Ty) :
    written (errorAnswer err) ≤ HandlerFn.errorCode err := by
  cases err with
  | none => exact written_respond (written_singleton _).le
  | some ty =>
      have hcast : " as " ++ intoResponse ++ ">::into_response"
          = " as ::dynamic_api::__private::axum::response::IntoResponse>"
            ++ "::into_response" := by decide
      rw [errorAnswer, hcast]
      refine (written_text_le (written_append_le (written_ofType ty)
        (written_text_le (written_bracketed (.cons (written_singleton _).le .nil))))).trans_eq ?_
      rw [HandlerFn.errorCode, lit_append, Code.call]
      simp only [mul_assoc]

theorem written_success (ty : Ty) :
    written [if isUnit ty then arm (okPattern "()") noContent
      else arm (okPattern "value") (jsonAnswer "value")] ≤ HandlerFn.successCode ty := by
  have hvalue : written [arm (okPattern "value") (jsonAnswer "value")]
      ≤ Code.arm (Code.ok "value") (HandlerFn.json "value") := written_arm (written_jsonAnswer _)
  cases ty with
  | tuple elements trailing =>
      cases elements with
      | nil => exact written_arm written_noContent
      | cons first rest => exact hvalue
  | _ => exact hvalue

theorem written_answer : written (answer interface fn) ≤ fn.answerCode interface := by
  rw [answer, HandlerFn.answerCode]
  have hcall := written_methodCall interface fn
  cases fn.reply with
  | unit =>
      dsimp only
      rw [written_append, mul_assoc _ HandlerFn.noContent]
      refine mul_le_mul' (written_statement ?_ ?_) (written_statement rfl written_noContent)
      · rw [piecesAll_append]
        exact firm_append (firm_methodCall _ _)
      · rw [written_append, written_singleton]
        exact mul_le_mul_left hcall _
  | value ty =>
      dsimp only
      rw [written_append, mul_assoc _ (HandlerFn.json _)]
      exact mul_le_mul' (written_letStatement hcall)
        (written_statement rfl (written_jsonAnswer _))
  | fallible ok err =>
      exact written_statement rfl (written_matchOn hcall (firm_methodCall _ _)
        (written_success ok) (written_arm (written_errorAnswer err)))

end Handlers

theorem written_extractorDoc (e : Extractor) : written (extractorDoc e) ≤ e.code := by
  have hboth : ∀ (name : String) {pattern ty : List Doc} {P T : Language Char},
      written pattern ≤ P → written ty ≤ T →
      written (extractorDoc.both name pattern ty) ≤ Extractor.unwrapping name P T := by
    intro name pattern ty P T hpattern hty
    rw [extractorDoc.both, written_append, written_text, Extractor.unwrapping, mul_assoc]
    exact mul_le_mul' (written_call_one hpattern)
      (mul_le_mul_right (written_bracketed (.cons hty .nil)) _)
  have htuple : ∀ {captures : List (Ident × Ty)} {f : Ident × Ty → List Doc}
      {g : Ident × Ty → Language Char}, (∀ c, written (f c) ≤ g c) →
      written (tuple (captures.map f)) ≤ enclosed "(" ")" (captures.map g) := fun h =>
    written_bracketed (forall₂_map h _)
  cases e with
  | service => exact hboth _ (written_singleton _).le (written_singleton _).le
  | path captures =>
      rcases captures with _ | ⟨c, _ | ⟨c', rest⟩⟩
      · exact hboth _ (htuple fun _ => (written_singleton _).le) (htuple fun _ => written_ofType _)
      · exact hboth _ (written_singleton _).le (written_ofType _)
      · exact hboth _ (htuple fun _ => (written_singleton _).le) (htuple fun _ => written_ofType _)
  | query struct => exact hboth _ (written_singleton _).le (written_singleton _).le
  | json i ty => exact hboth _ (written_singleton _).le (written_ofType ty)
  | multipart => exact (written_singleton _).le

theorem written_docLine (text : String) : written (docLine text) = Code.doc text := by
  rw [docLine, written_text, written_hard, written_nil, mul_one, Code.doc]

section Functions

variable {interface : Ident} {params : List (List Doc)} {Ps : List (Language Char)}

theorem written_serviceBound (interface : Ident) :
    written (serviceBound interface)
      ≤ line * lit "where" * line * lit ("S: " ++ interface.text) * gap
        * lit "+ ::core::marker::Send" * gap * lit "+ ::core::marker::Sync" * gap
        * lit "+ 'static," * line := by
  have hname : lit ("S: " ++ interface.text) = lit "S:" * lit (" " ++ interface.text) := by
    rw [← lit_append, ← String.append_assoc]
    rfl
  have hlast : lit "+ 'static," = lit "+ 'static" * lit "," := by
    rw [← lit_append]
    rfl
  have hbounds : written [ibox step [.text (" " ++ interface.text), space,
      .text "+ ::core::marker::Send", space, .text "+ ::core::marker::Sync", space,
      .text "+ 'static"]]
      ≤ lit (" " ++ interface.text) * gap * lit "+ ::core::marker::Send" * gap
        * lit "+ ::core::marker::Sync" * gap * lit "+ 'static" := by
    refine (written_group rfl).trans_eq ?_
    simp only [written_text, written_space, written_nil, mul_one, mul_assoc]
  rw [serviceBound, hname, hlast]
  refine (written_hardBack_le (written_text_le (written_hard_le (written_text_le (written_cons_le
    hbounds (written_text_le (written_hardBack_le written_nil.le))))))).trans_eq ?_
  simp only [mul_one, mul_assoc]

theorem written_function {head name output : String} {lines : List Doc} {L : Language Char}
    (hparams : List.Forall₂ (fun d L => written d ≤ L) params Ps) (hlines : written lines ≤ L) :
    written (function head name params output interface lines)
      ≤ Code.function (head ++ name) Ps output interface L := by
  have hgeneric : written function.genericParam ≤ enclosed "<" ">" [lit "S"] := by
    rw [function.genericParam, written_text, written_cons, written_singleton, enclosed,
      mul_assoc (lit "<"), mul_assoc]
    exact mul_le_mul_right (mul_le_mul_left
      (written_items (.cons (written_singleton _).le .nil)) _) _
  have hlist : written [.text "(", never, cbox 0 (zero :: commaList params), .text ")",
      cbox (-step) [.text (" -> " ++ output)]] ≤ enclosed "(" ")" Ps * lit (" -> " ++ output) := by
    have houtput : written [cbox (-step) [.text (" -> " ++ output)]] ≤ lit (" -> " ++ output) :=
      (written_group rfl).trans_eq (written_singleton _)
    rw [written_text, written_never, written_cons _ (_ :: _), written_text]
    calc lit "(" * (gap * (written [cbox 0 (zero :: commaList params)]
          * (lit ")" * written [cbox (-step) [.text (" -> " ++ output)]])))
        ≤ lit "(" * (gap * (gap * items Ps * (lit ")" * lit (" -> " ++ output)))) := by
          gcongr
          exact written_items hparams
      _ = enclosed "(" ")" Ps * lit (" -> " ++ output) := by
          rw [enclosed]
          simp only [mul_assoc, gap_mul_gap_mul]
  have hbody : written (.text "\x7b" :: closing (hardIfNonempty :: lines))
      ≤ lit "\x7b" * gap * L := by
    rw [written_text, written_closing, written_hardIfNonempty, mul_assoc]
    exact mul_le_mul_right (mul_le_mul' (add_le line_le_gap one_le_gap) hlines) _
  rw [function, written_cons, written_text, written_hard, written_nil, mul_one]
  refine (mul_le_mul_left (written_group rfl) _).trans ?_
  simp only [written_append, written_singleton]
  refine (mul_le_mul_left (mul_le_mul' (mul_le_mul' (mul_le_mul' (mul_le_mul_right hgeneric _)
    hlist) (written_serviceBound _)) hbody) _).trans_eq ?_
  rw [Code.function, Code.block]
  simp only [mul_assoc]

end Functions

theorem written_fieldDoc (f : QueryField) : written (fieldDoc f) ≤ f.code := by
  have hty : written (if f.wrapped then .text "::core::option::Option"
        :: bracketed "<" ">" [ofType false f.ty] else ofType false f.ty)
      ≤ if f.wrapped then lit "::core::option::Option" * enclosed "<" ">" [f.ty.code]
        else f.ty.code := by
    split
    · exact mul_le_mul_right (written_bracketed (.cons (written_ofType _) .nil)) _
    · exact written_ofType _
  rw [fieldDoc, List.cons_append, written_text, written_append, written_text, written_hard,
    written_nil, mul_one, QueryField.code, mul_assoc _ (lit ","), mul_assoc]
  exact mul_le_mul_right (mul_le_mul_left hty _) _

theorem written_queryDoc (method : String) (q : QueryStruct) :
    written (queryDoc method q) ≤ Code.doc ("Query string of [`" ++ method ++ "`].") * q.code := by
  have hfields : written (q.fields.flatMap fieldDoc) ≤ (q.fields.map QueryField.code).prod :=
    written_flatMap _ fun f _ => written_fieldDoc f
  rw [queryDoc]
  refine (written_append_le (written_docLine _).le (written_text_le (written_hard_le
    (written_text_le (written_hard_le (written_braced hfields [])))))).trans_eq ?_
  rw [QueryStruct.code, written_nil, mul_one]
  simp only [mul_assoc]

theorem written_handlerDoc (interface : Ident) (fn : HandlerFn) :
    written (handlerDoc interface fn) ≤ fn.code interface := by
  have hreading : written ((if fn.files.isEmpty then [] else readForm)
      ++ fn.files.flatMap fileStatement) ≤ fn.readingCode := by
    rw [written_append, HandlerFn.readingCode]
    cases hfiles : fn.files with
    | nil => exact (mul_one _).le
    | cons b rest =>
        exact mul_le_mul' written_readForm (written_flatMap _ fun b _ => written_fileStatement b)
  rw [handlerDoc, written_append, written_append, written_docLine, HandlerFn.code]
  refine mul_le_mul' (mul_le_mul_left ?_ _) (written_function (forall₂_map written_extractorDoc _)
    ((written_append _ _).trans_le (mul_le_mul' hreading (written_answer _ _))))
  rw [HandlerFn.queryCode]
  cases fn.query with
  | none => exact le_rfl
  | some q => exact written_queryDoc _ q

/-! ## Documentation and routes -/

theorem written_structDoc {path : String} {fields : List (String × List Doc)}
    {codes : List (String × Language Char)}
    (h : List.Forall₂ (fun f c => f.1 = c.1 ∧ firm (piecesAll f.2) = true ∧ written f.2 ≤ c.2)
      fields codes) :
    written (structDoc path fields) ≤ Code.record path codes := by
  have hlines : written (structDoc.lines fields)
      ≤ (codes.map fun f => lit (f.1 ++ ": ") * f.2 * lit "," * line).prod := by
    induction h with
    | nil => exact le_rfl
    | @cons f c fields codes hfield hrest ih =>
        obtain ⟨name, value⟩ := f
        obtain ⟨rfl, hfirm, hvalue⟩ := hfield
        have hgroup : written [ibox 0 value] ≤ c.2 := (written_group hfirm).trans hvalue
        cases hrest with
        | nil =>
            rw [structDoc.lines, List.map_singleton, List.prod_singleton]
            refine (written_text_le (written_cons_le hgroup (written_text_le
              (written_hardBack_le written_nil.le)))).trans_eq ?_
            simp only [mul_one, mul_assoc]
        | cons hfield' hrest' =>
            rw [structDoc.lines, List.map_cons, List.prod_cons]
            · refine (written_text_le (written_cons_le hgroup (written_text_le
                (written_hard_le ih)))).trans_eq ?_
              simp only [mul_assoc]
            · exact nofun
  rw [structDoc, written_cons, written_singleton, Code.record]
  refine mul_le_mul_left (le_trans (written_group ?_) ?_) _
  · rfl
  · rw [mul_assoc]
    exact written_text_le (written_hard_le hlines)

theorem written_optionDoc (value : Option String) :
    written (optionDoc value) ≤ optionCode value := by
  cases value with
  | none => exact (written_singleton _).le
  | some text => exact written_call_one (written_quoted text)

theorem firm_optionDoc (value : Option String) : firm (piecesAll (optionDoc value)) = true := by
  cases value <;> rfl

theorem written_boolText (b : Bool) :
    written [.text (boolText b)] ≤ lit (if b then "true" else "false") := (written_singleton _).le

theorem written_parameterDoc (p : ParameterMeta) : written (parameterDoc p) ≤ p.code := by
  have hsource : written [.text (runtime ("BindingSource::" ++ p.binding.variantName))]
      ≤ lit p.binding.code := by
    have hname : ∀ b : Binding, runtime ("BindingSource::" ++ b.variantName) = b.code := by
      intro b
      cases b <;> decide
    rw [hname, written_singleton]
  exact written_structDoc (.cons ⟨rfl, rfl, written_quoted _⟩ (.cons ⟨rfl, rfl, hsource⟩
    (.cons ⟨rfl, rfl, written_boolText _⟩
      (.cons ⟨rfl, firm_optionDoc _, written_optionDoc _⟩ .nil))))

theorem firm_bracketed {opening closing : String} {docs : List (List Doc)} :
    firm (piecesAll (bracketed opening closing docs)) = true := by
  unfold bracketed
  split <;> rfl

theorem written_endpointDoc (e : EndpointMeta) : written (endpointDoc e) ≤ e.code := by
  have hverb : written [.text (runtime ("HttpMethod::" ++ e.verb.variantName))]
      ≤ lit e.verb.code := by
    have hname : ∀ v : Verb, runtime ("HttpMethod::" ++ v.variantName) = v.code := by
      intro v
      cases v <;> decide
    rw [hname, written_singleton]
  exact written_structDoc (.cons ⟨rfl, rfl, written_quoted _⟩ (.cons ⟨rfl, rfl, hverb⟩
    (.cons ⟨rfl, rfl, written_quoted _⟩
      (.cons ⟨rfl, firm_bracketed, written_bracketed (forall₂_map written_parameterDoc _)⟩ .nil))))

theorem written_constantDoc {doc name ty : String} {value : List Doc} {L : Language Char}
    (h : written value ≤ L) :
    written (constantDoc doc name ty value) ≤ Code.doc doc * Code.constant name ty L := by
  have hgroup : written [cbox 0 (.text ("pub const " ++ name ++ ": " ++ ty ++ " = ") :: never ::
      value ++ [.text ";"])] ≤ lit ("pub const " ++ name ++ ": " ++ ty ++ " = ") * gap * L
        * lit ";" := by
    refine (written_group rfl).trans ?_
    rw [List.cons_append, written_text, List.cons_append, written_never, written_append,
      written_singleton, ← mul_assoc, ← mul_assoc]
    exact mul_le_mul_left (mul_le_mul_right h _) _
  rw [constantDoc, written_append, written_docLine, written_cons, written_hard, written_nil,
    mul_one]
  exact mul_le_mul_right (mul_le_mul_left hgroup _) _

theorem written_metadataDoc (c : Controller) : written (metadataDoc c) ≤ c.constantsCode := by
  have hsettings : written (structDoc (runtime "ApiExplorerSettings")
      [("ignore_api", [.text (boolText c.visibility.hidden)]),
        ("group_name", optionDoc c.visibility.groupName)])
      ≤ Code.record "::dynamic_api::ApiExplorerSettings"
        [("ignore_api", lit (if c.visibility.hidden then "true" else "false")),
          ("group_name", optionCode c.visibility.groupName)] :=
    written_structDoc (.cons ⟨rfl, rfl, written_boolText _⟩
      (.cons ⟨rfl, firm_optionDoc _, written_optionDoc _⟩ .nil))
  rw [metadataDoc, written_append, written_append]
  refine (mul_le_mul' (mul_le_mul' (written_constantDoc (written_quoted _))
    (written_constantDoc hsettings))
    (written_constantDoc (written_bracketed (forall₂_map written_endpointDoc _)))).trans_eq ?_
  rw [constantsCode]
  simp only [mul_assoc]
  rfl

theorem written_routeDoc (r : Route) : written (routeDoc r) ≤ r.code := by
  have hname : ∀ v : Verb, framework ("routing::" ++ v.routingName) = v.routingCode := by
    intro v
    cases v <;> decide
  refine written_chainCall (written_chainArgs (.cons (written_quoted _) (.cons ?_ .nil)))
  rw [hname]
  exact written_call_one (written_singleton _).le

theorem written_routerDoc (c : Controller) : written (routerDoc c) ≤ c.routerCode := by
  have hchain : written [chain (chainStart (framework "Router::new") :: .text "()"
        :: c.routes.flatMap routeDoc ++ chainCall "with_state" (chainArgs [[.text "service"]]))]
      ≤ Code.call (Code.axum "Router::new") [] * (c.routes.map Route.code).prod
        * Code.method "with_state" [lit "service"] := by
    have hempty : lit "()" ≤ enclosed "(" ")" [] := by
      have hparens : "()" = "(" ++ ")" := by decide
      rw [enclosed, items, mul_one, hparens, lit_append]
      exact mul_le_mul_left (le_mul_of_one_le_right' one_le_gap) _
    rw [List.cons_append]
    refine (written_chain _).trans ?_
    rw [written_append, written_text, ← mul_assoc, ← mul_assoc]
    refine mul_le_mul' (mul_le_mul' (mul_le_mul_right hempty _) ?_) ?_
    · exact written_flatMap _ fun r _ => written_routeDoc r
    · exact written_chainCall (written_chainArgs (.cons (written_singleton _).le .nil))
  rw [routerDoc, written_append, written_docLine, routerCode]
  refine mul_le_mul_right (written_function (.cons (written_singleton _).le .nil) ?_) _
  exact written_statement rfl hchain

/-! ## The file -/

theorem written_lines_of_doc (c : Controller) :
    written (.text "use super::*;" :: hard :: (c.handlers.flatMap (handlerDoc c.interface)
      ++ [.text ("/**HTTP controller for [`" ++ c.interface.name ++ "`].\n\nMount it with `"
          ++ c.unit.text ++ "::router(service)`.*/"), hard,
        .text "#[derive(Debug, Clone, Copy, Default)]", hard,
        .text ("pub struct " ++ c.unit.text ++ ";"), hard,
        cbox step (closing (.text ("impl " ++ c.unit.text ++ " \x7b") :: hardIfNonempty
          :: (metadataDoc c ++ routerDoc c))), .text "\x7d", hard])) ≤ c.linesCode := by
  have hhandlers : written (c.handlers.flatMap (handlerDoc c.interface))
      ≤ (c.handlers.map (HandlerFn.code c.interface)).prod :=
    written_flatMap _ fun fn _ => written_handlerDoc _ fn
  have hunit : written (metadataDoc c ++ routerDoc c) ≤ c.constantsCode * c.routerCode :=
    written_append_le (written_metadataDoc c) (written_routerDoc c)
  refine (written_text_le (written_hard_le (written_append_le hhandlers (written_text_le
    (written_hard_le (written_text_le (written_hard_le (written_text_le (written_hard_le
      (written_braced hunit [])))))))))).trans_eq ?_
  rw [linesCode, written_nil, mul_one]
  simp only [mul_assoc]

theorem written_doc (c : Controller) :
    written c.doc ≤ Code.doc ("Controller generated from [`" ++ c.interface.name ++ "`].")
      * lit ("pub mod " ++ c.module.text ++ " ") * Code.block c.linesCode * line
      * lit ("pub use " ++ c.module.text ++ "::" ++ c.unit.text ++ ";") * line := by
  simp only [doc, List.cons_append, List.nil_append]
  rw [written_append, written_docLine]
  refine (mul_le_mul_right (written_braced (written_lines_of_doc c) _) _).trans_eq ?_
  rw [written_text, written_hard, written_nil]
  simp only [mul_one, mul_assoc]

/-- The source file of a controller is one of its texts. -/
theorem source_mem (c : Controller) (space : String) : (c.source space).toList ∈ c.code space := by
  have hheader : header ++ "\n// Source: "
      = "// @generated by dynamic-api-codegen. Do not edit.\n" ++ "// Source: " := by decide
  have hsource : c.source space = "// @generated by dynamic-api-codegen. Do not edit.\n"
      ++ ("// Source: " ++ space ++ "::" ++ c.interface.name ++ "\n\n") ++ render c.doc := by
    rw [source, hheader]
    simp only [String.append_assoc]
  have hrendered : lit (render c.doc) ≤ written c.doc := lit_le.mpr (render_mem _)
  rw [← lit_le, hsource, lit_append, lit_append]
  refine (mul_le_mul_right (hrendered.trans (written_doc c)) _).trans_eq ?_
  rw [code]
  simp only [mul_assoc]

end TraitRoutes.Controller
