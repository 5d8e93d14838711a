import TraitRoutes.Generation
import TraitRoutes.Proofs.GeneratedNames
import TraitRoutes.Proofs.Sequencing
import TraitRoutes.Proofs.Writability

/-!
# What ends a pass

A fault of one candidate is reported and the pass goes on. Two things end it.
One is a generated name that is no identifier: the names of the controller and
its module always are one, so this can only be the name of a query structure,
which every method gets, whether it has a query string or not. The other is a
type or a default value that cannot be written.

Neither comes up if a fault is found before it. A candidate that does not resolve
gets no names, and neither does one with a method that reads the body twice or
with two equal routes; its methods are gone through in order, and a default that
does not read ends this before the next name is made. So a pass ends at the first
candidate that gets as far as that, and a candidate that does not end the pass
is of no consequence for the others.
-/

namespace TraitRoutes

/-! ## Handlers -/

/-- Whether what a handler takes over for a parameter can be written: its type,
unless files are bound to it, and the default of a query parameter. -/
def Parameter.isWritable (p : Parameter) : Bool :=
  match p.binding with
  | .route => (Synthesis.captureType p).isWritable
  | .query => p.ty.isWritable && (Synthesis.queryArgument p).toOption.all Argument.isWritable
  | .body => p.ty.isWritable
  | .form => true

namespace Handler

theorem isLegal_name (h : Handler) : Ident.isLegal h.name.toList = true := h.ident.legal

/-- The name of the query structure is no identifier. -/
def Headless (h : Handler) : Prop := Text.isHeadless h.name.toList = true

/-- The handler has a function: its query structure can be named, and its defaults
read as expressions. -/
def HasFunction (h : Handler) : Prop :=
  ¬ h.Headless ∧ ∀ p ∈ h.params, ∃ a, Synthesis.argument p = .ok a

/-- Whether all that the function takes over from the method can be written. -/
def isWritable (h : Handler) : Bool := h.params.all Parameter.isWritable && h.reply.isWritable

end Handler

namespace Synthesis

theorem lift_ok_iff {α : Type} {e : Except Fault α} {a : α} : lift e = .ok a ↔ e = .ok a :=
  mapError_ok_iff

theorem lift_error_iff {α : Type} {e : Except Fault α} {stop : Stop} :
    lift e = .error stop ↔ ∃ fault, e = .error fault ∧ stop = .fault fault :=
  mapError_error_iff

theorem identOf_of_headless {h : Handler} (hh : h.Headless) :
    identOf (Naming.queryStructName h.name)
      = .error (.illegalName (Naming.queryStructName h.name)) := by
  refine identOf_of_not_isLegal (Naming.all_queryStructName h.isLegal_name) ?_
  rw [Naming.isLegal_queryStructName h.isLegal_name, hh]
  rfl

theorem identOf_of_not_headless {h : Handler} (hh : ¬ h.Headless) :
    ∃ i, identOf (Naming.queryStructName h.name) = .ok i := by
  refine identOf_of_isLegal ?_
  rw [Naming.isLegal_queryStructName h.isLegal_name]
  simpa [Handler.Headless] using hh

/-- How a function is put together from its name and its arguments. -/
theorem handlerFn_ok_iff {h : Handler} {fn : HandlerFn} :
    handlerFn h = .ok fn ↔
      ∃ i args, identOf (Naming.queryStructName h.name) = .ok i ∧
        h.params.mapM argument = .ok args ∧
        fn = {
          ident := h.ident, name := h.name, query := queryStruct i h, files := fileBindings h
          args, async := h.async, reply := h.reply
          extractors :=
            [.service] ++ pathExtractor h
              ++ (if (queryStruct i h).isSome then [.query i] else []) ++ bodyExtractor h
              ++ (if (fileBindings h).isEmpty then [] else [.multipart]) } := by
  rw [handlerFn]
  simp only [bind_ok_iff, lift_ok_iff]
  constructor
  · rintro ⟨i, hi, args, hargs, hfn⟩
    exact ⟨i, args, hi, hargs, (Except.ok.inj hfn).symm⟩
  · rintro ⟨i, args, hi, hargs, rfl⟩
    exact ⟨i, hi, args, hargs, rfl⟩

theorem hasFunction_iff {h : Handler} : h.HasFunction ↔ ∃ fn, handlerFn h = .ok fn := by
  simp only [handlerFn_ok_iff]
  constructor
  · rintro ⟨hh, hargs⟩
    obtain ⟨i, hi⟩ := identOf_of_not_headless hh
    obtain ⟨args, hargs⟩ := exists_mapM_ok_iff.mpr hargs
    exact ⟨_, i, args, hi, hargs, rfl⟩
  · rintro ⟨fn, i, args, hi, hargs, -⟩
    refine ⟨fun hh => ?_, exists_mapM_ok_iff.mp ⟨args, hargs⟩⟩
    rw [identOf_of_headless hh] at hi
    cases hi

/-- A name is the only thing that goes wrong beyond a fault. -/
theorem handlerFn_error_iff {h : Handler} {stop : Stop} (hstop : ∀ fault, stop ≠ .fault fault) :
    handlerFn h = .error stop ↔
      h.Headless ∧ stop = .illegalName (Naming.queryStructName h.name) := by
  rw [handlerFn, bind_error_iff]
  by_cases hh : h.Headless
  · rw [identOf_of_headless hh]
    constructor
    · rintro (hname | ⟨i, hi, -⟩)
      · exact ⟨hh, (Except.error.inj hname).symm⟩
      · cases hi
    · rintro ⟨-, rfl⟩
      exact .inl rfl
  · obtain ⟨i, hi⟩ := identOf_of_not_headless hh
    simp only [hi, hh, false_and, iff_false, bind_error_iff, lift_error_iff]
    rintro (hname | ⟨j, -, ⟨fault, -, hfault⟩ | ⟨args, -, hpure⟩⟩)
    · cases hname
    · exact hstop fault hfault
    · cases hpure

theorem isWritable_argument {p : Parameter} {a : Argument} (h : argument p = .ok a) :
    a.isWritable = (p.binding != .query
      || (queryArgument p).toOption.all Argument.isWritable) := by
  rw [argument] at h
  cases hb : p.binding <;> rw [hb] at h
  case query => simp [h, Except.toOption]
  case route =>
    obtain rfl := Except.ok.inj h
    cases p.nullable <;> rfl
  all_goals
    obtain rfl := Except.ok.inj h
    rfl

theorem isWritable_parameter_iff (p : Parameter) :
    p.isWritable = true ↔
      (p.binding = .query → p.ty.isWritable = true) ∧
      (p.binding = .route → (captureType p).isWritable = true) ∧
      (p.binding = .body → p.ty.isWritable = true) ∧
      (p.binding != .query || (queryArgument p).toOption.all Argument.isWritable) = true := by
  unfold Parameter.isWritable
  cases p.binding <;> simp

/-- What is written for the parameters of a method, by what they are bound to. -/
theorem all_params (h : Handler) :
    h.params.all Parameter.isWritable
      = ((h.boundTo .query).all (fun p => p.ty.isWritable)
        && (h.boundTo .route).all (fun p => (captureType p).isWritable)
        && (h.boundTo .body).all (fun p => p.ty.isWritable)
        && h.params.all fun p =>
          p.binding != .query || (queryArgument p).toOption.all Argument.isWritable) := by
  rw [Bool.eq_iff_iff]
  simp only [Bool.and_eq_true, List.all_eq_true, isWritable_parameter_iff, Handler.boundTo,
    List.mem_filter, decide_eq_true_eq]
  constructor
  · intro hall
    exact ⟨⟨⟨fun p hp => (hall p hp.1).1 hp.2, fun p hp => (hall p hp.1).2.1 hp.2⟩,
      fun p hp => (hall p hp.1).2.2.1 hp.2⟩, fun p hp => (hall p hp).2.2.2⟩
  · rintro ⟨⟨⟨hquery, hroute⟩, hbody⟩, hdefault⟩ p hp
    exact ⟨fun hb => hquery p ⟨hp, hb⟩, fun hb => hroute p ⟨hp, hb⟩,
      fun hb => hbody p ⟨hp, hb⟩, hdefault p hp⟩

theorem all_queryStruct (i : Ident) (h : Handler) :
    ((queryStruct i h).all fun q => q.fields.all fun f => f.ty.isWritable)
      = (h.boundTo .query).all fun p => p.ty.isWritable := by
  unfold queryStruct
  split
  · next hnil => rw [hnil]; rfl
  · simp [queryField, List.all_map, Function.comp_def]

theorem all_pathExtractor (h : Handler) :
    (pathExtractor h).all Extractor.isWritable
      = (h.boundTo .route).all fun p => (captureType p).isWritable := by
  unfold pathExtractor
  split
  · next hnil => rw [hnil]; rfl
  · simp [Extractor.isWritable, List.all_map, Function.comp_def]

/-- Only the first parameter from the body is extracted; a second one would be a
fault. -/
theorem all_bodyExtractor {h : Handler} (hbody : h.checkBody = .ok ()) :
    (bodyExtractor h).all Extractor.isWritable
      = (h.boundTo .body).all fun p => p.ty.isWritable := by
  rw [Handler.checkBody] at hbody
  unfold bodyExtractor
  cases hb : h.boundTo .body with
  | nil => rfl
  | cons p rest =>
      cases rest with
      | nil => rfl
      | cons q more =>
          rw [hb, if_pos (by simp)] at hbody
          cases hbody

theorem isWritable_handlerFn {h : Handler} {fn : HandlerFn} (hbody : h.checkBody = .ok ())
    (hfn : handlerFn h = .ok fn) : fn.isWritable = h.isWritable := by
  obtain ⟨i, args, -, hargs, rfl⟩ := handlerFn_ok_iff.mp hfn
  have hall : args.all Argument.isWritable = h.params.all fun p =>
      p.binding != .query || (queryArgument p).toOption.all Argument.isWritable :=
    all_of_mapM_ok (fun p _ a ha => isWritable_argument ha) hargs
  have hservice : [Extractor.service].all Extractor.isWritable = true := rfl
  have hquery : ∀ b : Bool,
      (if b then [Extractor.query i] else []).all Extractor.isWritable = true := by
    intro b
    cases b <;> rfl
  have hform : ∀ b : Bool,
      (if b then [] else [Extractor.multipart]).all Extractor.isWritable = true := by
    intro b
    cases b <;> rfl
  rw [HandlerFn.isWritable, Handler.isWritable, all_params, ← hall]
  simp only [List.all_append, all_queryStruct, all_pathExtractor, all_bodyExtractor hbody,
    hquery, hform, hservice, Bool.true_and, Bool.and_true, Bool.and_assoc]

end Synthesis

/-! ## Services -/

namespace Service

/-- The service gets as far as its names: no method reads the body twice, and each has
a route of its own. -/
def IsRouted (s : Service) : Prop :=
  checkBodies s.handlers = .ok () ∧ ∃ paths, s.planRoutes = .ok paths

/-- Neither the controller nor its module is named by a keyword. -/
def HasNames (s : Service) (suffix : String) : Prop :=
  ∃ unit module, Synthesis.identOf (Naming.unitName s.name suffix) = .ok unit ∧
    Synthesis.identOf (Naming.moduleName (Naming.unitName s.name suffix)) = .ok module ∧
    Synthesis.checkKeyword true module = .ok () ∧ Synthesis.checkKeyword false unit = .ok ()

/-- What ends the pass when the service is rendered. -/
inductive Stops (s : Service) (suffix : String) : Stop → Prop
  | headless {before h after} (routed : s.IsRouted) (split : s.handlers = before ++ h :: after)
      (functions : ∀ b ∈ before, b.HasFunction) (headless : h.Headless) :
      Stops s suffix (.illegalName (Naming.queryStructName h.name))
  | unwritable {h} (routed : s.IsRouted) (functions : ∀ b ∈ s.handlers, b.HasFunction)
      (names : s.HasNames suffix) (mem : h ∈ s.handlers) (unwritable : h.isWritable = false) :
      Stops s suffix .unwritable

theorem isLegal_name (s : Service) : Ident.isLegal s.name.toList = true := s.ident.legal

theorem identOf_unitName (s : Service) {suffix : String}
    (hsuffix : suffix.toList.all Unicode.isIdentContinue = true) :
    ∃ unit, Synthesis.identOf (Naming.unitName s.name suffix) = .ok unit :=
  Synthesis.identOf_of_isLegal (Naming.isLegal_unitName s.isLegal_name hsuffix)

theorem identOf_moduleName (s : Service) {suffix : String}
    (hsuffix : suffix.toList.all Unicode.isIdentContinue = true) :
    ∃ module, Synthesis.identOf (Naming.moduleName (Naming.unitName s.name suffix)) = .ok module :=
  Synthesis.identOf_of_isLegal
    (Naming.isLegal_moduleName (Naming.isLegal_unitName s.isLegal_name hsuffix))

theorem checkBody_of_checkBodies {hs : List Handler} (hall : checkBodies hs = .ok ()) :
    ∀ h ∈ hs, h.checkBody = .ok () := by
  induction hs with
  | nil => intro h hh; cases hh
  | cons first rest ih =>
      intro h hh
      rw [checkBodies, bind_ok_iff] at hall
      obtain ⟨u, hfirst, hrest⟩ := hall
      rcases List.mem_cons.mp hh with rfl | hh
      · exact hfirst
      · exact ih hrest h hh

theorem checkKeyword_error {module : Bool} {i : Ident} {stop : Stop}
    (hstop : ∀ fault, stop ≠ .fault fault) : Synthesis.checkKeyword module i ≠ .error stop := by
  rw [Synthesis.checkKeyword]
  split
  · intro h
    exact hstop _ (Except.error.inj h).symm
  · intro h
    cases h

/-- How a controller is put together from its names, its functions and its routes. -/
theorem controller_ok_iff {s : Service} {suffix : String} {c : Controller} :
    s.controller suffix = .ok c ↔
      ∃ paths unit module fns, checkBodies s.handlers = .ok () ∧ s.planRoutes = .ok paths ∧
        Synthesis.identOf (Naming.unitName s.name suffix) = .ok unit ∧
        Synthesis.identOf (Naming.moduleName (Naming.unitName s.name suffix)) = .ok module ∧
        s.handlers.mapM Synthesis.handlerFn = .ok fns ∧
        Synthesis.checkKeyword true module = .ok () ∧
        Synthesis.checkKeyword false unit = .ok () ∧
        c = {
          interface := s.ident, unit, module, routePrefix := s.routePrefix
          visibility := s.visibility, handlers := fns
          endpoints := (s.handlers.zip paths).map fun (h, path) => Synthesis.endpointMeta h path
          routes := (s.handlers.zip paths).map fun (h, path) => ⟨path, h.verb, h.ident⟩ } := by
  rw [controller]
  simp only [bind_ok_iff, Synthesis.lift_ok_iff]
  constructor
  · rintro ⟨_, hbodies, paths, hpaths, unit, hunit, module, hmodule, fns, hfns, _, hkeyword, _,
      hkeyword', hc⟩
    exact ⟨paths, unit, module, fns, hbodies, hpaths, hunit, hmodule, hfns, hkeyword, hkeyword',
      (Except.ok.inj hc).symm⟩
  · rintro ⟨paths, unit, module, fns, hbodies, hpaths, hunit, hmodule, hfns, hkeyword,
      hkeyword', rfl⟩
    exact ⟨(), hbodies, paths, hpaths, unit, hunit, module, hmodule, fns, hfns, (), hkeyword,
      (), hkeyword', rfl⟩

/-- When there is a controller, and how much of it can be written. -/
theorem of_controller_ok {s : Service} {suffix : String} {c : Controller}
    (h : s.controller suffix = .ok c) :
    s.IsRouted ∧ s.HasNames suffix ∧ (∀ h ∈ s.handlers, h.HasFunction) ∧
      c.isWritable = s.handlers.all Handler.isWritable := by
  obtain ⟨paths, unit, module, fns, hbodies, hpaths, hunit, hmodule, hfns, hkeyword, hkeyword',
    rfl⟩ := controller_ok_iff.mp h
  refine ⟨⟨hbodies, paths, hpaths⟩, ⟨unit, module, hunit, hmodule, hkeyword, hkeyword'⟩,
    ?_, ?_⟩
  · intro h hh
    exact Synthesis.hasFunction_iff.mpr (exists_mapM_ok_iff.mp ⟨fns, hfns⟩ h hh)
  · rw [Controller.isWritable_eq]
    exact all_of_mapM_ok (fun h hh fn hfn =>
      Synthesis.isWritable_handlerFn (checkBody_of_checkBodies hbodies h hh) hfn) hfns

/-- A file is named by the identifier of its module. -/
theorem fileName_of_render_ok {s : Service} {suffix : String} {a : Artifact}
    (h : s.render suffix = .ok a) :
    ∃ module i, Synthesis.identOf module = .ok i ∧ a.fileName = module ++ ".rs" := by
  rw [render, bind_ok_iff] at h
  obtain ⟨c, hc, h⟩ := h
  dsimp only at h
  split at h
  · obtain rfl := Except.ok.inj h
    obtain ⟨-, -, i, -, -, -, -, hmodule, -⟩ := controller_ok_iff.mp hc
    exact ⟨_, i, hmodule, rfl⟩
  · cases h

theorem exists_controller {s : Service} {suffix : String} (routed : s.IsRouted)
    (names : s.HasNames suffix) (functions : ∀ h ∈ s.handlers, h.HasFunction) :
    ∃ c, s.controller suffix = .ok c := by
  obtain ⟨hbodies, paths, hpaths⟩ := routed
  obtain ⟨unit, module, hunit, hmodule, hkeyword, hkeyword'⟩ := names
  obtain ⟨fns, hfns⟩ := exists_mapM_ok_iff.mpr fun h hh =>
    Synthesis.hasFunction_iff.mp (functions h hh)
  exact ⟨_, controller_ok_iff.mpr ⟨paths, unit, module, fns, hbodies, hpaths, hunit, hmodule,
    hfns, hkeyword, hkeyword', rfl⟩⟩

/-- Without a controller, and without a fault to report, the first headless method is to
blame. -/
theorem controller_error_iff {s : Service} {suffix : String} {stop : Stop}
    (hsuffix : suffix.toList.all Unicode.isIdentContinue = true)
    (hstop : ∀ fault, stop ≠ .fault fault) :
    s.controller suffix = .error stop ↔
      s.IsRouted ∧ ∃ before h after, s.handlers = before ++ h :: after ∧
        (∀ b ∈ before, b.HasFunction) ∧ h.Headless ∧
        stop = .illegalName (Naming.queryStructName h.name) := by
  obtain ⟨unit, hunit⟩ := s.identOf_unitName hsuffix
  obtain ⟨module, hmodule⟩ := s.identOf_moduleName hsuffix
  rw [controller]
  simp only [bind_error_iff, Synthesis.lift_error_iff, Synthesis.lift_ok_iff, mapM_error_iff]
  constructor
  · rintro (⟨fault, -, hfault⟩ | ⟨_, hbodies, ⟨fault, -, hfault⟩ | ⟨paths, hpaths, h⟩⟩)
    · exact absurd hfault (hstop fault)
    · exact absurd hfault (hstop fault)
    · rcases h with hname | ⟨_, -, hname | ⟨_, -, h⟩⟩
      · rw [hunit] at hname
        cases hname
      · rw [hmodule] at hname
        cases hname
      · rcases h with ⟨before, b, after, hsplit, hbefore, hb⟩ | ⟨_, -, hkeyword⟩
        · obtain ⟨hheadless, hname⟩ := (Synthesis.handlerFn_error_iff hstop).mp hb
          exact ⟨⟨hbodies, paths, hpaths⟩, before, b, after, hsplit,
            fun a ha => Synthesis.hasFunction_iff.mpr (hbefore a ha), hheadless, hname⟩
        · rcases hkeyword with hkeyword | ⟨_, -, hkeyword | ⟨_, -, hpure⟩⟩
          · exact absurd hkeyword (checkKeyword_error hstop)
          · exact absurd hkeyword (checkKeyword_error hstop)
          · cases hpure
  · rintro ⟨⟨hbodies, paths, hpaths⟩, before, b, after, hsplit, hbefore, hheadless, hname⟩
    have hb := (Synthesis.handlerFn_error_iff hstop).mpr ⟨hheadless, hname⟩
    exact .inr ⟨(), hbodies, .inr ⟨paths, hpaths, .inr ⟨unit, hunit, .inr ⟨module, hmodule,
      .inl ⟨before, b, after, hsplit,
        fun a ha => Synthesis.hasFunction_iff.mp (hbefore a ha), hb⟩⟩⟩⟩⟩

/-- Rendering a service ends the pass exactly for one of the two reasons. -/
theorem render_error_iff {s : Service} {suffix : String} {stop : Stop}
    (hsuffix : suffix.toList.all Unicode.isIdentContinue = true)
    (hstop : ∀ fault, stop ≠ .fault fault) :
    s.render suffix = .error stop ↔ s.Stops suffix stop := by
  rw [render, bind_error_iff, controller_error_iff hsuffix hstop]
  constructor
  · rintro (⟨routed, before, h, after, hsplit, hbefore, hheadless, rfl⟩ | ⟨c, hc, hwrite⟩)
    · exact .headless routed hsplit hbefore hheadless
    · obtain ⟨routed, names, functions, hwritable⟩ := of_controller_ok hc
      dsimp only at hwrite
      split at hwrite
      · cases hwrite
      · next hunwritable =>
          obtain rfl := Except.error.inj hwrite
          rw [hwritable, Bool.not_eq_true, List.all_eq_false] at hunwritable
          obtain ⟨b, hb, hbw⟩ := hunwritable
          exact .unwritable routed functions names hb (Bool.eq_false_iff.mpr hbw)
  · intro h
    cases h with
    | headless routed split functions headless =>
        exact .inl ⟨routed, _, _, _, split, functions, headless, rfl⟩
    | unwritable routed functions names mem unwritable =>
        obtain ⟨c, hc⟩ := exists_controller routed names functions
        obtain ⟨-, -, -, hwritable⟩ := of_controller_ok hc
        have hno : ¬ c.isWritable = true := by
          rw [hwritable, Bool.not_eq_true, List.all_eq_false]
          exact ⟨_, mem, Bool.eq_false_iff.mp unwritable⟩
        exact .inr ⟨c, hc, if_neg hno⟩

end Service

/-! ## Candidates -/

/-- What ends the pass when the candidate is generated. -/
def Declaration.Stops (o : Options) (d : Declaration) (stop : Stop) : Prop :=
  ∃ s, d.resolve o = .ok s ∧ s.Stops o.unitSuffix stop

namespace Service

theorem Stops.ne_fault {s : Service} {suffix : String} {stop : Stop} (h : s.Stops suffix stop) :
    ∀ fault, stop ≠ .fault fault := by
  intro fault heq
  subst heq
  cases h

end Service

namespace Generation

variable {o : Options}

theorem artifactOf_error_iff {d : Declaration} {stop : Stop}
    (hsuffix : o.unitSuffix.toList.all Unicode.isIdentContinue = true)
    (hstop : ∀ fault, stop ≠ .fault fault) :
    artifactOf o d = .error stop ↔ d.Stops o stop := by
  rw [artifactOf]
  simp only [bind_error_iff, mapError_error_iff, mapError_ok_iff,
    Service.render_error_iff hsuffix hstop]
  constructor
  · rintro (⟨fault, -, hfault⟩ | h)
    · exact absurd hfault (hstop fault)
    · exact h
  · exact .inr

/-- A step does not depend on what the pass has come to. -/
theorem step_error_iff {g : Generation} {d : Declaration} {stop : Stop}
    (hsuffix : o.unitSuffix.toList.all Unicode.isIdentContinue = true) :
    step o g d = .error stop ↔ d.Stops o stop := by
  rw [step]
  constructor
  · intro h
    split at h
    · cases h
    · cases h
    · next stop' hfault hstop' =>
        obtain rfl := Except.error.inj h
        exact (artifactOf_error_iff hsuffix hfault).mp hstop'
  · intro h
    have hstop : ∀ fault, stop ≠ .fault fault := by
      obtain ⟨s, -, hs⟩ := h
      exact hs.ne_fault
    have herror := (artifactOf_error_iff hsuffix hstop).mpr h
    simp only [herror]

/-- A pass over candidates ends early at the first one that ends it. -/
theorem steps_error_iff {ds : List Declaration} {stop : Stop}
    (hsuffix : o.unitSuffix.toList.all Unicode.isIdentContinue = true) :
    ∀ {g : Generation}, steps o g ds = .error stop ↔
      ∃ before d after, ds = before ++ d :: after ∧
        (∀ b ∈ before, ∀ stop', ¬ b.Stops o stop') ∧ d.Stops o stop := by
  induction ds with
  | nil =>
      intro g
      constructor
      · intro h
        cases h
      · rintro ⟨before, d, after, hsplit, -⟩
        cases before <;> cases hsplit
  | cons d ds ih =>
      intro g
      rw [steps, List.foldlM_cons, bind_error_iff]
      constructor
      · rintro (hd | ⟨mid, hmid, hrest⟩)
        · exact ⟨[], d, ds, rfl, by simp, (step_error_iff hsuffix).mp hd⟩
        · obtain ⟨before, x, after, rfl, hbefore, hx⟩ := ih.mp hrest
          refine ⟨d :: before, x, after, rfl, ?_, hx⟩
          intro b hb stop' hb'
          rcases List.mem_cons.mp hb with rfl | hb
          · rw [(step_error_iff hsuffix).mpr hb'] at hmid
            cases hmid
          · exact hbefore b hb stop' hb'
      · rintro ⟨before, x, after, hsplit, hbefore, hx⟩
        cases before with
        | nil =>
            obtain ⟨rfl, -⟩ := List.cons.inj hsplit
            exact .inl ((step_error_iff hsuffix).mpr hx)
        | cons b more =>
            obtain ⟨rfl, rfl⟩ := List.cons.inj hsplit
            cases hd : step o g d with
            | error stop' =>
                exact absurd ((step_error_iff hsuffix).mp hd)
                  (hbefore d List.mem_cons_self stop')
            | ok mid =>
                exact .inr ⟨mid, rfl, ih.mpr ⟨more, x, after, rfl,
                  fun c hc => hbefore c (List.mem_cons_of_mem _ hc), hx⟩⟩

end Generation

/-- The names of a controller and its module are identifiers. A pass ends early at
the first candidate that has a headless method where a function is due, or that has
all of its functions and takes over what cannot be written. -/
theorem generate_error_iff (c : Corpus) (o : Options)
    (hsuffix : o.unitSuffix.toList.all Unicode.isIdentContinue = true) :
    (∀ s : Service, (∃ unit, Synthesis.identOf (Naming.unitName s.name o.unitSuffix) = .ok unit) ∧
      ∃ module, Synthesis.identOf (Naming.moduleName (Naming.unitName s.name o.unitSuffix))
        = .ok module) ∧
    ∀ stop, c.generate o = .error stop ↔
      o.disabled = false ∧ ∃ before d after, c.candidates o.marker = before ++ d :: after ∧
        (∀ b ∈ before, ∀ stop', ¬ b.Stops o stop') ∧ d.Stops o stop := by
  refine ⟨fun s => ⟨s.identOf_unitName hsuffix, s.identOf_moduleName hsuffix⟩, fun stop => ?_⟩
  rw [Corpus.generate]
  cases hdisabled : o.disabled with
  | true => simp
  | false =>
      simp only [Bool.false_eq_true, if_false, true_and]
      rw [bind_error_iff, Generation.steps_error_iff hsuffix]
      constructor
      · rintro (h | ⟨g, -, hpure⟩)
        · exact h
        · cases hpure
      · exact .inl

/-- Two traits, of which the first has a method that is called by a number. -/
def numbered : String :=
  "use dynamic_api::DynamicController;\n"
    ++ "pub trait IBad: DynamicController \x7b async fn _1(&self); \x7d\n"
    ++ "pub trait IGood: DynamicController \x7b async fn get(&self); \x7d"

theorem numbered_generate_error :
    ∃ draft, [("src/lib.rs", "crate", numbered)].foldlM
        (fun draft s => Draft.addSource draft s.1 s.2.1 s.2.2) {} = .ok draft ∧
      draft.build.generate {} = .error (.illegalName "1Query") := by
  have hrun : ([("src/lib.rs", "crate", numbered)].foldlM
      (fun draft s => Draft.addSource draft s.1 s.2.1 s.2.2) {}).toOption.map (fun draft =>
        match draft.build.generate {} with
        | .error stop => some stop
        | .ok _ => none) = some (some (.illegalName "1Query")) := by
    decide +kernel
  cases hdraft : [("src/lib.rs", "crate", numbered)].foldlM
      (fun draft s => Draft.addSource draft s.1 s.2.1 s.2.2) {} with
  | error fault => rw [hdraft] at hrun; cases hrun
  | ok draft =>
      rw [hdraft] at hrun
      cases hgen : draft.build.generate {} with
      | ok g => simp [Except.toOption, hgen] at hrun
      | error stop =>
          simp only [Except.toOption, Option.map_some, hgen, Option.some.injEq] at hrun
          exact ⟨draft, rfl, hrun ▸ hgen⟩

/-- The method name becomes a structure name that starts with its digit. -/
theorem generate_error_iff_numbered :
    ∃ draft, [("src/lib.rs", "crate", numbered)].foldlM
        (fun draft s => Draft.addSource draft s.1 s.2.1 s.2.2) {} = .ok draft ∧
      ∃ before d after, draft.build.candidates "DynamicController" = before ++ d :: after ∧
        d.Stops {} (.illegalName "1Query") := by
  obtain ⟨draft, hdraft, herror⟩ := numbered_generate_error
  obtain ⟨-, before, d, after, hsplit, -, hd⟩ :=
    ((generate_error_iff draft.build {} (by decide)).2 _).mp herror
  exact ⟨draft, hdraft, before, d, after, hsplit, hd⟩

/-- A pass over sources that parse can end early. -/
theorem not_forall_generate_ok :
    ¬ ∀ (sources : List (String × String × String)) (draft : Draft) (o : Options),
      sources.foldlM (fun draft s => Draft.addSource draft s.1 s.2.1 s.2.2) {} = .ok draft →
      o.unitSuffix.toList.all Unicode.isIdentContinue = true →
      ∃ g, draft.build.generate o = .ok g := by
  intro h
  obtain ⟨draft, hdraft, herror⟩ := numbered_generate_error
  obtain ⟨g, hg⟩ := h _ draft {} hdraft (by decide)
  rw [hg] at herror
  cases herror

end TraitRoutes
