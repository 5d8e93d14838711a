import TraitRoutes.Proofs.AttributeErrors
import TraitRoutes.Proofs.Batch
import TraitRoutes.Proofs.RoutePlanning

/-!
# Lines of a build script

A diagnostic is printed as one line, and everything behind a line break in it is taken
for another line. What it is put together from is the place of the trait, its name and
the wording of a fault. Names are one word, and most wordings are fixed but for names and
numbers.

Seven faults repeat more of the source than that, and repeat it as it is: tokens of a
trait or of a pattern, the value of a string in an attribute, a prefix with its route,
the text of a default, and the module of a trait that came first. The line is broken
exactly if one of these is, or the path of the file.
-/

namespace TraitRoutes

open Text (isOneLine_between isOneLine_behind isOneLine_ofList)

/-! ## Routes -/

theorem Naming.isOneLine_routeSuffix {name : String} (h : Ident.isLegal name.toList = true) :
    Text.isOneLine (routeSuffix name) = true :=
  Text.isOneLine_of_all (all_routeSuffix h) (by decide) (by decide)

theorem Naming.isOneLine_routeTemplate {suffix : String} {names : List String}
    (hsuffix : Text.isOneLine suffix = true) (hnames : ∀ name ∈ names, Text.isOneLine name = true)
    (routePrefix : String) :
    Text.isOneLine (routeTemplate routePrefix suffix names) = Text.isOneLine routePrefix := by
  have hcaptures : Text.isOneLine (String.join (names.map capture)) = true := by
    rw [Text.isOneLine, String.toList_join, List.all_flatMap, List.all_map, List.all_eq_true]
    intro name hname
    exact (isOneLine_between (isOneLine_ofList (by decide)) name (by decide)).trans
      (hnames name hname)
  obtain ⟨slashes, hsplit, hslashes⟩ := Template.exists_trimEnd routePrefix.toList
  have hbase : (trimEnd '/' routePrefix.toList).all (fun c => c != '\n' && c != '\r')
      = Text.isOneLine routePrefix := by
    rw [Text.isOneLine, ← hsplit, List.all_append]
    have hall : slashes.all (fun c => c != '\n' && c != '\r') = true :=
      List.all_eq_true.mpr fun c hc => by rw [hslashes c hc]; decide
    rw [hall, Bool.and_true, hsplit]
  unfold routeTemplate
  dsimp only
  rw [Text.isOneLine_append, Text.isOneLine_append, Text.isOneLine_append, hcaptures, hsuffix,
    Bool.and_true, Bool.and_true, ← hbase, Text.isOneLine, String.toList_ofList,
    show Text.isOneLine "/" = true by decide, Bool.and_true]
  split
  · next hnil => rw [hnil]
  · rfl
  · rfl

theorem Handler.isOneLine_route (routePrefix : String) (h : Handler) :
    Text.isOneLine (h.route routePrefix) = Text.isOneLine routePrefix := by
  refine Naming.isOneLine_routeTemplate (Naming.isOneLine_routeSuffix h.ident.legal) ?_ routePrefix
  intro name hname
  obtain ⟨p, -, rfl⟩ := List.mem_map.mp hname
  exact p.ident.isOneLine_name

/-! ## Wordings -/

namespace Fault

theorem isOneLine_ofSyntax {e : SyntaxError} (h : e.fault.isOneLine = true) :
    Text.isOneLine (ofSyntax e).message = true :=
  SyntaxError.isOneLine_message h

theorem isOneLine_unsupportedMethod (method : Ident) {reason : String}
    (h : Text.isOneLine reason = true) :
    Text.isOneLine (unsupportedMethod method.text reason).message = true := by
  show Text.isOneLine ("method `" ++ method.text ++ "` " ++ reason) = true
  rw [Text.isOneLine_append, isOneLine_between (by decide) _ (by decide), method.isOneLine_text, h]
  rfl

theorem isOneLine_unsupportedParameter (method : Ident) (parameter : String) {reason : String}
    (h : Text.isOneLine reason = true) :
    Text.isOneLine (unsupportedParameter method.text parameter reason).message
      = Text.isOneLine parameter := by
  show Text.isOneLine ("parameter `" ++ parameter ++ "` of `" ++ method.text ++ "` " ++ reason) = _
  rw [Text.isOneLine_append, Text.isOneLine_append, Text.isOneLine_append,
    isOneLine_between (isOneLine_ofList (by decide)) _ (by decide), method.isOneLine_text, h,
    show Text.isOneLine "` " = true by decide, Bool.and_true, Bool.and_true, Bool.and_true]

/-- The fault of a parameter that is no plain binding. -/
def ofPattern (method : Ident) (pattern : Pattern) : Fault :=
  .unsupportedParameter method.text (Token.renderAll pattern.tokens) "must be a plain identifier"

theorem isOneLine_ofPattern (method : Ident) (pattern : Pattern) :
    Text.isOneLine (ofPattern method pattern).message
      = Text.isOneLine (Token.renderAll pattern.tokens) :=
  isOneLine_unsupportedParameter method _ (isOneLine_ofList (by decide))

theorem isOneLine_duplicateRoute (routePrefix : String) (h first : Handler) :
    Text.isOneLine (duplicateRoute (h.route routePrefix) first.name h.name).message
      = Text.isOneLine routePrefix := by
  show Text.isOneLine ("methods `" ++ first.ident.name ++ "` and `" ++ h.ident.name
    ++ "` both resolve to route `" ++ h.route routePrefix ++ "`") = _
  rw [Text.isOneLine_append, Text.isOneLine_append, Text.isOneLine_append, Text.isOneLine_append,
    isOneLine_between (by decide) _ (by decide), first.ident.isOneLine_name,
    h.ident.isOneLine_name, Handler.isOneLine_route,
    show Text.isOneLine "` both resolve to route `" = true from isOneLine_ofList (by decide)]
  exact Bool.and_true _

theorem isOneLine_fileConflict {file : String} (hfile : Text.isOneLine file = true)
    (owner : Declaration) :
    Text.isOneLine (fileConflict file owner.qualifiedName).message
      = Text.isOneLine owner.space := by
  show Text.isOneLine ("controller file `" ++ file ++ "` is already generated for `"
    ++ (owner.space ++ "::" ++ owner.ident.name) ++ "`, rename one of the traits") = _
  rw [Text.isOneLine_append, Text.isOneLine_append,
    isOneLine_between (isOneLine_ofList (by decide)) _ (isOneLine_ofList (by decide)), hfile,
    Text.isOneLine_append, owner.ident.isOneLine_name, Text.isOneLine_append,
    show Text.isOneLine "::" = true by decide,
    show Text.isOneLine "`, rename one of the traits" = true from isOneLine_ofList (by decide),
    Bool.true_and, Bool.and_true, Bool.and_true, Bool.and_true]

/-- The fault of a trait with parameters. -/
def ofGenerics (g : Generics) : Fault :=
  .unsupportedTrait ("is generic over `" ++ Token.renderAll g.paramTokens
    ++ "`, controllers need a concrete trait")

theorem isOneLine_ofGenerics (g : Generics) :
    Text.isOneLine (ofGenerics g).message = Text.isOneLine (Token.renderAll g.paramTokens) := by
  show Text.isOneLine ("the trait " ++ ("is generic over `" ++ Token.renderAll g.paramTokens
    ++ "`, controllers need a concrete trait")) = _
  rw [isOneLine_behind (by decide),
    isOneLine_between (isOneLine_ofList (by decide)) _ (isOneLine_ofList (by decide))]

theorem isOneLine_unknownVerb (text : String) :
    Text.isOneLine (ofSyntax (Helper.unknownVerb text)).message = Text.isOneLine text := by
  have hverbs : (Verb.all.map Verb.variantName).all Text.isOneLine = true := by decide +kernel
  show Text.isOneLine ("unknown HTTP method `" ++ text ++ "`, expected one of: "
    ++ ", ".intercalate (Verb.all.map Verb.variantName)) = _
  rw [Text.isOneLine_append,
    isOneLine_between (isOneLine_ofList (by decide)) _ (isOneLine_ofList (by decide)),
    Text.isOneLine_intercalate (by decide), hverbs, Bool.and_true]

/-- The fault of a default that is no expression. -/
def ofDefault (p : Parameter) (text reason : String) : Fault :=
  .malformed ("default value `" ++ text ++ "` of parameter `" ++ p.name
    ++ "` is not an expression: " ++ reason)

theorem isOneLine_ofDefault (p : Parameter) (text : String) {reason : String}
    (h : Text.isOneLine reason = true) :
    Text.isOneLine (ofDefault p text reason).message = Text.isOneLine text := by
  show Text.isOneLine ("default value `" ++ text ++ "` of parameter `" ++ p.ident.name
    ++ "` is not an expression: " ++ reason) = _
  rw [Text.isOneLine_append, Text.isOneLine_append, Text.isOneLine_append,
    isOneLine_between (isOneLine_ofList (by decide)) _ (isOneLine_ofList (by decide)),
    p.ident.isOneLine_name, h,
    show Text.isOneLine "` is not an expression: " = true from isOneLine_ofList (by decide),
    Bool.and_true, Bool.and_true, Bool.and_true]

end Fault

/-! ## Faults of resolution -/

namespace Resolution

variable {o : Options} {fault : Fault}

theorem checkGenerics_error {g : Generics} (h : checkGenerics g = .error fault) :
    Text.isOneLine fault.message = true ∨ fault = .ofGenerics g := by
  unfold checkGenerics at h
  split at h
  · exact .inr (Except.error.inj h).symm
  split at h
  · refine .inl (Except.error.inj h ▸ ?_)
    exact (isOneLine_behind (by decide) _).trans (isOneLine_ofList (by decide))
  · cases h

theorem isOneLine_checkSignature {method : Ident} {sig : Signature}
    (h : checkSignature method.text sig = .error fault) :
    Text.isOneLine fault.message = true := by
  unfold checkSignature at h
  split at h
  · exact Except.error.inj h ▸ Fault.isOneLine_unsupportedMethod _ (isOneLine_ofList (by decide))
  split at h
  · exact Except.error.inj h ▸ Fault.isOneLine_unsupportedMethod _ (isOneLine_ofList (by decide))
  split at h
  · cases h
  · exact Except.error.inj h ▸ Fault.isOneLine_unsupportedMethod _ (isOneLine_ofList (by decide))

theorem isOneLine_replyOf {method : Ident} {output : Option Ty}
    (h : replyOf method.text output = .error fault) : Text.isOneLine fault.message = true := by
  unfold replyOf at h
  split at h
  · cases h
  split at h
  · cases h
  split at h
  · exact Except.error.inj h ▸ Fault.isOneLine_unsupportedMethod _ (isOneLine_ofList (by decide))
  split at h
  · exact Except.error.inj h ▸ Fault.isOneLine_unsupportedMethod _ (isOneLine_ofList (by decide))
  split at h
  · cases h
  · cases h

theorem parameter_error {method : Ident} {verb : Verb} {defaults : List DefaultEntry}
    {input : Input} (h : parameter o method.text verb defaults input = .error fault) :
    Text.isOneLine fault.message = true ∨ fault = .ofPattern method input.pattern := by
  rcases bind_error_iff.mp h with h | ⟨i, -, h⟩
  · unfold plainName at h
    split at h
    · cases h
    · exact .inr (Except.error.inj h).symm
  · refine .inl ?_
    have hparameter : ∀ {reason : String}, Text.isOneLine reason = true →
        Text.isOneLine (Fault.unsupportedParameter method.text i.text reason).message = true :=
      fun hreason => (Fault.isOneLine_unsupportedParameter _ _ hreason).trans i.isOneLine_text
    dsimp only at h
    split at h
    · exact Except.error.inj h ▸ hparameter (isOneLine_ofList (by decide))
    split at h
    · exact Except.error.inj h ▸ hparameter (isOneLine_ofList (by decide))
    split at h
    · refine Except.error.inj h ▸ hparameter ?_
      generalize Binding.resolve _ _ _ = binding
      rw [isOneLine_between (isOneLine_ofList (by decide)) _ (isOneLine_ofList (by decide))]
      cases binding <;> decide
    · cases h

theorem parameters_error {method : Ident} {verb : Verb} {inputs : List Input} :
    ∀ {defaults : List DefaultEntry},
      parameters o method.text verb defaults inputs = .error fault →
      Text.isOneLine fault.message = true ∨
        ∃ input ∈ inputs, fault = .ofPattern method input.pattern := by
  induction inputs with
  | nil =>
      intro defaults h
      cases h
  | cons input rest ih =>
      intro defaults h
      rw [parameters] at h
      rcases bind_error_iff.mp h with h | ⟨⟨p, left⟩, -, h⟩
      · exact (parameter_error h).imp_right fun heq => ⟨input, List.mem_cons_self, heq⟩
      · rcases bind_error_iff.mp h with h | ⟨_, -, h⟩
        · refine (ih h).imp_right ?_
          rintro ⟨i, hi, heq⟩
          exact ⟨i, List.mem_cons_of_mem _ hi, heq⟩
        · cases h

theorem handler_error {interface : String} {m : Method}
    (h : handler o interface m = .error fault) :
    Text.isOneLine fault.message = true ∨
      (∃ text, Helper.verbIn m.attrs = .error (Helper.unknownVerb text) ∧
        fault = .ofSyntax (Helper.unknownVerb text)) ∨
      ∃ input ∈ m.sig.inputs, fault = .ofPattern m.sig.ident input.pattern := by
  unfold handler at h
  dsimp only at h
  rcases bind_error_iff.mp h with h | ⟨_, -, h⟩
  · exact .inl (isOneLine_checkSignature h)
  rcases bind_error_iff.mp h with h | ⟨reply, -, h⟩
  · exact .inl (isOneLine_replyOf h)
  rcases bind_error_iff.mp h with h | ⟨explicit, -, h⟩
  · obtain ⟨e, he, rfl⟩ := mapError_error_iff.mp h
    rcases Helper.verbIn_error he with honeLine | ⟨text, rfl⟩
    · exact .inl (Fault.isOneLine_ofSyntax honeLine)
    · exact .inr (.inl ⟨text, he, rfl⟩)
  rcases bind_error_iff.mp h with h | ⟨defaults, -, h⟩
  · obtain ⟨e, he, rfl⟩ := mapError_error_iff.mp h
    exact .inl (Fault.isOneLine_ofSyntax (Helper.isOneLine_defaultsIn he))
  rcases bind_error_iff.mp h with h | ⟨⟨params, left⟩, -, h⟩
  · exact (parameters_error h).imp_right .inr
  · dsimp only at h
    split at h
    · next e _ =>
        refine .inl (Except.error.inj h ▸ ?_)
        exact (Fault.isOneLine_unsupportedParameter _ _ (isOneLine_ofList (by decide))).trans
          e.name.isOneLine_text
    · cases h

theorem handlers_error {interface : String} {ms : List Method} :
    ∀ {hs : List Handler}, handlers o interface ms = (hs, some fault) →
      ∃ m ∈ ms, handler o interface m = .error fault := by
  induction ms with
  | nil =>
      intro hs h
      cases h
  | cons m rest ih =>
      intro hs h
      rw [handlers] at h
      split at h
      · next e he =>
          obtain ⟨-, hfault⟩ := Prod.mk.inj h
          exact ⟨m, List.mem_cons_self, Option.some.inj hfault ▸ he⟩
      · obtain ⟨-, hfault⟩ := Prod.mk.inj h
        obtain ⟨m', hm', herror⟩ := ih (Prod.ext rfl hfault)
        exact ⟨m', List.mem_cons_of_mem _ hm', herror⟩

end Resolution

/-! ## Faults of rendering -/

namespace Service

variable {fault : Fault}

theorem isOneLine_checkBody {h : Handler} (herror : h.checkBody = .error fault) :
    Text.isOneLine fault.message = true := by
  have hbody : ∀ {reason : String}, Text.isOneLine reason = true →
      Text.isOneLine (Fault.conflictingBody h.name reason).message = true := by
    intro reason hreason
    show Text.isOneLine ("method `" ++ h.ident.name ++ "` binds " ++ reason) = true
    rw [Text.isOneLine_append, isOneLine_between (by decide) _ (by decide),
      h.ident.isOneLine_name, hreason]
    rfl
  unfold Handler.checkBody at herror
  dsimp only at herror
  split at herror
  · refine Except.error.inj herror ▸ hbody ?_
    rw [Text.isOneLine_append, Text.isOneLine_repr, Bool.true_and]
    exact isOneLine_ofList (by decide)
  split at herror
  · exact Except.error.inj herror ▸ hbody (isOneLine_ofList (by decide))
  · cases herror

theorem isOneLine_checkBodies {hs : List Handler} (h : checkBodies hs = .error fault) :
    Text.isOneLine fault.message = true := by
  induction hs with
  | nil => cases h
  | cons first rest ih =>
      rcases bind_error_iff.mp h with h | ⟨_, -, h⟩
      · exact isOneLine_checkBody h
      · exact ih h

/-- Of two equal routes, the fault names the methods. -/
theorem argument_error {p : Parameter} (h : Synthesis.argument p = .error fault) :
    ∃ (default : DefaultValue) (e : SyntaxError), p.default = some default ∧
      e.fault.isOneLine = true ∧ fault = .ofDefault p default.expr e.message := by
  have hfallback : ∀ {text : String}, Synthesis.fallback p.name text = .error fault →
      ∃ e : SyntaxError, e.fault.isOneLine = true ∧ fault = .ofDefault p text e.message := by
    intro text h
    unfold Synthesis.fallback at h
    split at h
    · split at h <;> cases h
    · next e he => exact ⟨e, isOneLine_readExpr he, (Except.error.inj h).symm⟩
  unfold Synthesis.argument at h
  split at h
  · cases h
  · cases h
  · cases h
  · unfold Synthesis.queryArgument at h
    split at h
    · next text hdefault _ =>
        obtain ⟨e, he, rfl⟩ := hfallback (map_error_iff.mp h)
        exact ⟨_, e, hdefault, he, rfl⟩
    · next default hdefault _ =>
        obtain ⟨e, he, rfl⟩ := hfallback (map_error_iff.mp h)
        exact ⟨_, e, hdefault, he, rfl⟩
    · cases h

theorem handlerFn_fault {h : Handler} (herror : Synthesis.handlerFn h = .error (.fault fault)) :
    ∃ p ∈ h.params, Synthesis.argument p = .error fault := by
  rcases bind_error_iff.mp herror with herror | ⟨i, -, herror⟩
  · unfold Synthesis.identOf at herror
    split at herror <;> cases herror
  rcases bind_error_iff.mp herror with herror | ⟨args, -, herror⟩
  · obtain ⟨fault', hfault, heq⟩ := Synthesis.lift_error_iff.mp herror
    obtain rfl := Stop.fault.inj heq
    obtain ⟨before, p, after, hsplit, -, hp⟩ := mapM_error_iff.mp hfault
    exact ⟨p, hsplit ▸ List.mem_append_right before List.mem_cons_self, hp⟩
  · cases herror

theorem isOneLine_checkKeyword {module : Bool} {i : Ident}
    (h : Synthesis.checkKeyword module i = .error (.fault fault)) :
    Text.isOneLine fault.message = true := by
  unfold Synthesis.checkKeyword at h
  split at h
  · exact Stop.fault.inj (Except.error.inj h) ▸ Fault.isOneLine_ofSyntax i.isOneLine_name
  · cases h

/-- A service that is not rendered for a fault has a fault of one line, two equal routes or
a default that is no expression. -/
theorem render_fault {s : Service} {suffix : String}
    (h : s.render suffix = .error (.fault fault)) :
    Text.isOneLine fault.message = true ∨
      (∃ h ∈ s.handlers, ∃ first ∈ s.handlers,
        fault = .duplicateRoute (h.route s.routePrefix) first.name h.name) ∨
      ∃ h ∈ s.handlers, ∃ p ∈ h.params, ∃ (default : DefaultValue) (e : SyntaxError),
        p.default = some default ∧ e.fault.isOneLine = true ∧
          fault = .ofDefault p default.expr e.message := by
  rcases bind_error_iff.mp h with h | ⟨c, -, h⟩
  · rcases bind_error_iff.mp h with h | ⟨_, -, h⟩
    · obtain ⟨fault', hfault, heq⟩ := Synthesis.lift_error_iff.mp h
      obtain rfl := Stop.fault.inj heq
      exact .inl (isOneLine_checkBodies hfault)
    rcases bind_error_iff.mp h with h | ⟨paths, -, h⟩
    · obtain ⟨fault', hfault, heq⟩ := Synthesis.lift_error_iff.mp h
      obtain rfl := Stop.fault.inj heq
      obtain ⟨i, j, first, m, hfirst, hm, -, rfl⟩ := repeatsFirst_of_planRoutes hfault
      exact .inr (.inl ⟨m, List.mem_of_getElem? hm, first, List.mem_of_getElem? hfirst, rfl⟩)
    rcases bind_error_iff.mp h with h | ⟨unit, -, h⟩
    · unfold Synthesis.identOf at h
      split at h <;> cases h
    rcases bind_error_iff.mp h with h | ⟨module, -, h⟩
    · unfold Synthesis.identOf at h
      split at h <;> cases h
    rcases bind_error_iff.mp h with h | ⟨fns, -, h⟩
    · obtain ⟨before, m, after, hsplit, -, hm⟩ := mapM_error_iff.mp h
      obtain ⟨p, hp, hargument⟩ := handlerFn_fault hm
      exact .inr (.inr ⟨m, hsplit ▸ List.mem_append_right before List.mem_cons_self, p, hp,
        argument_error hargument⟩)
    rcases bind_error_iff.mp h with h | ⟨_, -, h⟩
    · exact .inl (isOneLine_checkKeyword h)
    rcases bind_error_iff.mp h with h | ⟨_, -, h⟩
    · exact .inl (isOneLine_checkKeyword h)
    · cases h
  · dsimp only at h
    split at h <;> cases h

end Service

theorem Synthesis.isOneLine_of_identOf {name : String} {i : Ident} (h : identOf name = .ok i) :
    Text.isOneLine name = true :=
  Text.isOneLine_of_all (Synthesis.all_of_identOf h) (by decide) (by decide)

theorem Declaration.Yields.isOneLine_fileName {o : Options} {d : Declaration} {a : Artifact}
    (h : d.Yields o a) : Text.isOneLine a.fileName = true := by
  obtain ⟨s, -, hrender⟩ := h
  obtain ⟨module, i, hmodule, hfile⟩ := Service.fileName_of_render_ok hrender
  rw [hfile, Text.isOneLine_append, Synthesis.isOneLine_of_identOf hmodule]
  exact isOneLine_ofList (by decide)

/-! ## What a fault repeats -/

/-- The fault of a trait repeats a text with a line break as it is. Only the module in a file
conflict is another candidate's. -/
inductive Declaration.Spills (o : Options) (ds : List Declaration) (d : Declaration) :
    Fault → Prop where
  | generics (broken : Text.isOneLine (Token.renderAll d.generics.paramTokens) = false) :
      d.Spills o ds (.ofGenerics d.generics)
  | setting {e : SettingsError} {f : SettingsFault} {text : String}
      (refused : Helper.visibilityIn d.attrs = .error e) (mem : f ∈ e.faults)
      (unknown : f.problem = .unknownValue text) (broken : Text.isOneLine text = false) :
      d.Spills o ds (.attributeArgs e.message)
  | verb {m : Method} {text : String} (mem : m ∈ d.methods)
      (unknown : Helper.verbIn m.attrs = .error (Helper.unknownVerb text))
      (broken : Text.isOneLine text = false) :
      d.Spills o ds (.ofSyntax (Helper.unknownVerb text))
  | pattern {m : Method} {input : Input} (mem : m ∈ d.methods) (bound : input ∈ m.sig.inputs)
      (broken : Text.isOneLine (Token.renderAll input.pattern.tokens) = false) :
      d.Spills o ds (.ofPattern m.sig.ident input.pattern)
  | route {s : Service} {h first : Handler} (resolved : d.resolve o = .ok s)
      (mem : h ∈ s.handlers) (other : first ∈ s.handlers)
      (broken : Text.isOneLine s.routePrefix = false) :
      d.Spills o ds (.duplicateRoute (h.route s.routePrefix) first.name h.name)
  | default {s : Service} {h : Handler} {p : Parameter} {default : DefaultValue} {e : SyntaxError}
      (resolved : d.resolve o = .ok s) (mem : h ∈ s.handlers) (param : p ∈ h.params)
      (declared : p.default = some default) (line : e.fault.isOneLine = true)
      (broken : Text.isOneLine default.expr = false) :
      d.Spills o ds (.ofDefault p default.expr e.message)
  | file {a : Artifact} {owner : Declaration} (yields : d.Yields o a) (mem : owner ∈ ds)
      (broken : Text.isOneLine owner.space = false) :
      d.Spills o ds (.fileConflict a.fileName owner.qualifiedName)

namespace Declaration

variable {o : Options} {ds : List Declaration} {d : Declaration} {fault : Fault}

theorem Spills.isOneLine_message (h : d.Spills o ds fault) :
    Text.isOneLine fault.message = false := by
  cases h with
  | generics broken => exact (Fault.isOneLine_ofGenerics _).trans broken
  | setting refused mem unknown broken =>
      exact (SettingsError.breaks_iff (Helper.repeats_visibilityIn refused)).mpr
        ⟨_, mem, _, unknown, broken⟩
  | verb mem unknown broken => exact (Fault.isOneLine_unknownVerb _).trans broken
  | pattern mem bound broken => exact (Fault.isOneLine_ofPattern _ _).trans broken
  | route resolved mem other broken => exact (Fault.isOneLine_duplicateRoute _ _ _).trans broken
  | default resolved mem param declared line broken =>
      exact (Fault.isOneLine_ofDefault _ _ (SyntaxError.isOneLine_message line)).trans broken
  | file yields mem broken =>
      exact (Fault.isOneLine_fileConflict yields.isOneLine_fileName _).trans broken

/-- A wording that is one line exactly if a text in it is, breaks for that text only. -/
theorem line_or_spills {text : String}
    (hmessage : Text.isOneLine fault.message = Text.isOneLine text)
    (hspills : Text.isOneLine text = false → d.Spills o ds fault) :
    Text.isOneLine fault.message = true ∨ d.Spills o ds fault := by
  cases htext : Text.isOneLine text with
  | true => exact .inl (hmessage.trans htext)
  | false => exact .inr (hspills htext)

theorem header_error (h : Resolution.header d = .error fault) :
    Text.isOneLine fault.message = true ∨ d.Spills o ds fault := by
  rcases bind_error_iff.mp h with h | ⟨_, -, h⟩
  · rcases Resolution.checkGenerics_error h with honeLine | rfl
    · exact .inl honeLine
    · exact line_or_spills (Fault.isOneLine_ofGenerics _) .generics
  rcases bind_error_iff.mp h with h | ⟨explicit, -, h⟩
  · obtain ⟨e, he, rfl⟩ := mapError_error_iff.mp h
    exact .inl (Fault.isOneLine_ofSyntax (Helper.isOneLine_prefixIn he))
  rcases bind_error_iff.mp h with h | ⟨visibility, -, h⟩
  · obtain ⟨e, he, rfl⟩ := mapError_error_iff.mp h
    cases hline : Text.isOneLine e.message with
    | true => exact .inl hline
    | false =>
        obtain ⟨f, hf, text, hproblem, htext⟩ :=
          (SettingsError.breaks_iff (Helper.repeats_visibilityIn he)).mp hline
        exact .inr (.setting he hf hproblem htext)
  · cases h

theorem resolve_error (h : d.resolve o = .error fault) :
    Text.isOneLine fault.message = true ∨ d.Spills o ds fault := by
  unfold resolve resolution at h
  split at h
  · next hheader => exact Except.error.inj h ▸ header_error hheader
  · dsimp only at h
    split at h
    · next hfault =>
        obtain rfl := Except.error.inj h
        obtain ⟨m, hm, hhandler⟩ := Resolution.handlers_error (Prod.ext rfl hfault)
        rcases Resolution.handler_error hhandler with
          honeLine | ⟨text, hverb, rfl⟩ | ⟨input, hinput, rfl⟩
        · exact .inl honeLine
        · exact line_or_spills (Fault.isOneLine_unknownVerb _) (.verb hm hverb)
        · exact line_or_spills (Fault.isOneLine_ofPattern _ _) (.pattern hm hinput)
    · cases h

theorem line_or_spills_of_fails (h : d.Fails o fault) :
    Text.isOneLine fault.message = true ∨ d.Spills o ds fault := by
  rcases h with h | ⟨s, hs, h⟩
  · exact resolve_error h
  rcases Service.render_fault h with
    honeLine | ⟨m, hm, first, hfirst, rfl⟩ | ⟨m, hm, p, hp, default, e, hdefault, he, rfl⟩
  · exact .inl honeLine
  · exact line_or_spills (Fault.isOneLine_duplicateRoute _ _ _) (.route hs hm hfirst)
  · exact line_or_spills (Fault.isOneLine_ofDefault _ _ (SyntaxError.isOneLine_message he))
      (.default hs hm hp hdefault he)

end Declaration

/-! ## Lines -/

theorem Diagnostic.isOneLine_buildLine (d : Declaration) (fault : Fault) :
    Text.isOneLine (failed d.name d.location fault).buildLine
      = (Text.isOneLine d.location.file && Text.isOneLine fault.message) := by
  show Text.isOneLine ("cargo:warning=" ++ (d.location.file ++ ":" ++ toString d.location.line
    ++ ":" ++ toString d.location.column ++ ": " ++ severity ++ "[" ++ generationFailed ++ "]: "
    ++ ("Failed to generate controller for `" ++ d.ident.name ++ "`: " ++ fault.message))) = _
  rw [isOneLine_behind (isOneLine_ofList (by decide))]
  repeat rw [Text.isOneLine_append]
  rw [Text.isOneLine_repr, Text.isOneLine_repr, d.ident.isOneLine_name,
    show Text.isOneLine ":" = true by decide, show Text.isOneLine ": " = true by decide,
    show Text.isOneLine severity = true by decide, show Text.isOneLine "[" = true by decide,
    show Text.isOneLine generationFailed = true by decide,
    show Text.isOneLine "]: " = true by decide,
    show Text.isOneLine "Failed to generate controller for `" = true
      from isOneLine_ofList (by decide),
    show Text.isOneLine "`: " = true by decide]
  simp only [Bool.and_true, Bool.true_and]

/-- Every diagnostic is that of a candidate and its fault. It is printed as one line unless
the path of the file has a line break or the fault repeats a text that has one. -/
theorem buildLine_breaks_iff {c : Corpus} {o : Options} {g : Generation} {diag : Diagnostic}
    (generated : c.generate o = .ok g) (reported : diag ∈ g.diagnostics) :
    ∃ d ∈ c.candidates o.marker, ∃ fault, diag = .failed d.name d.location fault ∧
      (Text.isOneLine diag.buildLine = false ↔
        Text.isOneLine d.location.file = false ∨ d.Spills o (c.candidates o.marker) fault) := by
  have enabled : o.disabled = false := by
    cases hdisabled : o.disabled with
    | false => rfl
    | true =>
        rw [Corpus.generate, hdisabled, if_pos rfl] at generated
        obtain rfl := Except.ok.inj generated
        cases reported
  obtain ⟨l, hfst, hl, hg⟩ := Generation.generate_reflects enabled generated
  have hmem : ∀ {d e}, (d, e) ∈ l → d ∈ c.candidates o.marker := by
    intro d e h
    rw [← hfst]
    exact List.mem_map_of_mem h
  rw [hg.diagnostics] at reported
  obtain ⟨⟨d, e⟩, he, hdiag⟩ := List.mem_filterMap.mp reported
  cases e with
  | generated a => cases hdiag
  | refused fault =>
      obtain rfl := Option.some.inj hdiag
      obtain ⟨before, after, hsplit⟩ := List.append_of_mem he
      have hline : Text.isOneLine fault.message = true ∨
          d.Spills o (c.candidates o.marker) fault := by
        rcases hl before d (.refused fault) after hsplit with
          hfails | ⟨a, owner, ha, ⟨b, hb, -⟩, rfl⟩
        · exact Declaration.line_or_spills_of_fails hfails
        · exact Declaration.line_or_spills
            (Fault.isOneLine_fileConflict ha.isOneLine_fileName owner)
            (.file ha (hmem (hsplit ▸ List.mem_append_left _ hb)))
      refine ⟨d, hmem he, fault, rfl, ?_⟩
      rw [Diagnostic.isOneLine_buildLine, Bool.and_eq_false_iff]
      refine or_congr_right ⟨fun hbroken => ?_, fun hspills => hspills.isOneLine_message⟩
      rcases hline with honeLine | hspills
      · rw [honeLine] at hbroken
        cases hbroken
      · exact hspills

/-- A trait with a verb that goes over two lines. -/
def twoLined : String :=
  "use dynamic_api::DynamicController;\n"
    ++ "pub trait IUsers: DynamicController \x7b\n"
    ++ "  #[http_method(\"GE\\nT\")]\n  async fn get(&self);\n\x7d"

/-- What is printed of it. -/
def twoLinedWarning : String :=
  "cargo:warning=src/lib.rs:2:11: warning[DA001]: Failed to generate controller for `IUsers`: "
    ++ "unknown HTTP method `GE\nT`, "
    ++ "expected one of: Get, Post, Put, Delete, Patch, Head, Options, Trace"

theorem not_isOneLine_twoLinedWarning : Text.isOneLine twoLinedWarning = false := by
  have hbroken : Text.isOneLine "unknown HTTP method `GE\nT`, " = false := by decide +kernel
  unfold twoLinedWarning
  rw [Text.isOneLine_append, Text.isOneLine_append, hbroken, Bool.and_false, Bool.false_and]

theorem twoLined_reported :
    ∃ draft g diag, [("src/lib.rs", "crate", twoLined)].foldlM
        (fun draft s => Draft.addSource draft s.1 s.2.1 s.2.2) {} = .ok draft ∧
      draft.build.generate {} = .ok g ∧ diag ∈ g.diagnostics ∧
      diag.location.file = "src/lib.rs" ∧ diag.buildLine = twoLinedWarning := by
  have hrun : ([("src/lib.rs", "crate", twoLined)].foldlM
      (fun draft s => Draft.addSource draft s.1 s.2.1 s.2.2) {}).toOption.bind (fun draft =>
        (draft.build.generate {}).toOption.map fun g =>
          g.diagnostics.map fun diag => (diag.location.file, diag.buildLine))
        = some [("src/lib.rs", twoLinedWarning)] := by
    decide +kernel
  cases hdraft : [("src/lib.rs", "crate", twoLined)].foldlM
      (fun draft s => Draft.addSource draft s.1 s.2.1 s.2.2) {} with
  | error fault => rw [hdraft] at hrun; cases hrun
  | ok draft =>
      rw [hdraft, Except.toOption, Option.bind_some] at hrun
      cases hgen : draft.build.generate {} with
      | error stop => rw [hgen] at hrun; cases hrun
      | ok g =>
          rw [hgen] at hrun
          obtain ⟨diag, rest, hdiag, hpair, -⟩ := List.map_eq_cons_iff.mp (Option.some.inj hrun)
          obtain ⟨hfile, hline⟩ := Prod.mk.inj hpair
          exact ⟨draft, g, diag, rfl, hgen, hdiag ▸ List.mem_cons_self, hfile, hline⟩

/-- The line is broken by the value of the attribute, not by the path. -/
theorem buildLine_breaks_iff_twoLined :
    ∃ draft g diag, ∃ (d : Declaration) (fault : Fault), [("src/lib.rs", "crate", twoLined)].foldlM
        (fun draft s => Draft.addSource draft s.1 s.2.1 s.2.2) {} = .ok draft ∧
      draft.build.generate {} = .ok g ∧ diag ∈ g.diagnostics ∧
      diag = .failed d.name d.location fault ∧
      d.Spills {} (draft.build.candidates "DynamicController") fault := by
  obtain ⟨draft, g, diag, hdraft, hgen, hdiag, hfile, hline⟩ := twoLined_reported
  obtain ⟨d, hd, fault, rfl, hbreaks⟩ := buildLine_breaks_iff hgen hdiag
  refine ⟨draft, g, _, d, fault, hdraft, hgen, hdiag, rfl, ?_⟩
  have hpath : Text.isOneLine d.location.file = true := by
    rw [show d.location.file = "src/lib.rs" from hfile]
    decide
  rcases hbreaks.mp (hline ▸ not_isOneLine_twoLinedWarning) with hbroken | hspills
  · rw [hpath] at hbroken
    cases hbroken
  · exact hspills

/-- Not every warning about sources in files and modules without line breaks is one line. -/
theorem not_forall_isOneLine_buildLine :
    ¬ ∀ (sources : List (String × String × String)) (draft : Draft) (o : Options)
        (g : Generation), (∀ s ∈ sources, Text.isOneLine s.1 = true ∧ Text.isOneLine s.2.1 = true) →
      sources.foldlM (fun draft s => Draft.addSource draft s.1 s.2.1 s.2.2) {} = .ok draft →
      draft.build.generate o = .ok g →
      ∀ diag ∈ g.diagnostics, Text.isOneLine diag.buildLine = true := by
  intro h
  obtain ⟨draft, g, diag, hdraft, hgen, hdiag, -, hline⟩ := twoLined_reported
  have honeLine := h _ draft {} g (by decide) hdraft hgen diag hdiag
  rw [hline, not_isOneLine_twoLinedWarning] at honeLine
  cases honeLine

end TraitRoutes
