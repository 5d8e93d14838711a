import TraitRoutes.Proofs.Spans
import TraitRoutes.Proofs.Wiring

/-!
# Captures of routes

A router takes the captures of a route from its text, while the extractor of a handler
is made from the parameters, and neither looks at the other. What the two have in common
is the end of the route, which is written from the same parameters: the suffix has no
brace, nor has the name of a parameter, so behind a slash that is outside of all braces
the captures are these names and nothing else.

The prefix stands in front of that and is taken as it was written. Its captures come
first in the route, and a brace that it leaves open runs on to the first brace that is
closed behind it. A prefix that is made from the name of a trait has no brace.
-/

namespace TraitRoutes

open Synthesis

/-! ## Templates -/

namespace Template

/-- What stands in braces, and what stands behind a brace that is left open. A brace that
is doubled is part of the text. -/
def scan : Option (List Char) → List Char → List (List Char) × Option (List Char)
  | none, '\x7b' :: '\x7b' :: rest => scan none rest
  | none, '\x7b' :: rest => scan (some []) rest
  | none, _ :: rest => scan none rest
  | some name, '\x7d' :: '\x7d' :: rest => scan (some (name ++ ['\x7d'])) rest
  | some name, '\x7d' :: rest => (name :: (scan none rest).1, (scan none rest).2)
  | some name, c :: rest => scan (some (name ++ [c])) rest
  | opened, [] => ([], opened)

/-- The names that a template captures, in order. -/
def captures (template : String) : List String :=
  (scan none template.toList).1.map String.ofList

/-- Every brace is closed. -/
def Closed (template : String) : Prop := (scan none template.toList).2 = none

instance (template : String) : Decidable (Closed template) :=
  inferInstanceAs (Decidable (_ = none))

example : captures "/api/\x7btenant\x7d/v\x7bn\x7d/\x7b\x7bx" = ["tenant", "n"] := by decide

example : (["/api/\x7btenant\x7d", "/api/\x7btenant", "/api/\x7b\x7b"].map
    fun text => decide (Closed text)) = [true, false, true] := by decide

theorem scan_text {cs : List Char} (plain : '\x7b' ∉ cs) (rest : List Char) :
    scan none (cs ++ rest) = scan none rest := by
  induction cs with
  | nil => rfl
  | cons c cs ih =>
      obtain ⟨hc, hcs⟩ := List.ne_and_not_mem_of_not_mem_cons plain
      rw [List.cons_append, scan]
      · exact ih hcs
      · exact fun _ h _ => hc h.symm
      · exact fun h => hc h.symm

theorem scan_name {cs : List Char} (plain : '\x7d' ∉ cs) (name rest : List Char) :
    scan (some name) (cs ++ rest) = scan (some (name ++ cs)) rest := by
  induction cs generalizing name with
  | nil => rw [List.nil_append, List.append_nil]
  | cons c cs ih =>
      obtain ⟨hc, hcs⟩ := List.ne_and_not_mem_of_not_mem_cons plain
      rw [List.cons_append, scan]
      · rw [ih hcs, List.append_assoc, List.singleton_append]
      · exact fun _ h _ => hc h.symm
      · exact fun h => hc h.symm

theorem scan_open {rest : List Char} (single : rest.head? ≠ some '\x7b') :
    scan none ('\x7b' :: rest) = scan (some []) rest := by
  rw [scan]
  rintro rest' rfl
  exact single rfl

theorem scan_close {name rest : List Char} (single : rest.head? ≠ some '\x7d') :
    scan (some name) ('\x7d' :: rest) = (name :: (scan none rest).1, (scan none rest).2) := by
  rw [scan]
  rintro rest' rfl
  exact single rfl

/-- Reading goes on at a slash, which doubles no brace. -/
theorem scan_append (opened : Option (List Char)) (cs rest : List Char) :
    scan opened (cs ++ '/' :: rest)
      = ((scan opened cs).1 ++ (scan (scan opened cs).2 ('/' :: rest)).1,
        (scan (scan opened cs).2 ('/' :: rest)).2) := by
  -- A brace that ends a template is not doubled by the slash either.
  have hslash : ∀ {c : Char} {cs : List Char}, c ≠ '/' → (∀ cs', ¬ cs = c :: cs') →
      (cs ++ '/' :: rest).head? ≠ some c := by
    intro c cs hc hcs
    cases cs with
    | nil => exact fun h => hc (Option.some.inj h).symm
    | cons d cs => exact fun h => hcs cs (Option.some.inj h ▸ rfl)
  fun_induction scan opened cs with
  | case1 cs ih => exact ih
  | case2 cs hcs ih => rw [List.cons_append, scan_open (hslash (by decide) hcs), ih]
  | case3 c cs _ hc ih =>
      rw [List.cons_append, scan]
      · exact ih
      · exact fun _ h _ => hc h
      · exact hc
  | case4 name cs ih => exact ih
  | case5 name cs hcs ih => rw [List.cons_append, scan_close (hslash (by decide) hcs), ih]; rfl
  | case6 name c cs _ hc ih =>
      rw [List.cons_append, scan]
      · exact ih
      · exact fun _ h _ => hc h
      · exact hc
  | case7 opened => rfl

/-- Slashes at the end of a template capture nothing, and close nothing. -/
theorem scan_slashes (opened : Option (List Char)) {cs slashes : List Char}
    (h : ∀ c ∈ slashes, c = '/') :
    (scan opened (cs ++ slashes)).1 = (scan opened cs).1 ∧
      ((scan opened (cs ++ slashes)).2 = none ↔ (scan opened cs).2 = none) := by
  cases slashes with
  | nil => rw [List.append_nil]; exact ⟨rfl, .rfl⟩
  | cons c slashes =>
      have hplain : ∀ brace, brace ≠ '/' → brace ∉ c :: slashes := fun brace hne hmem =>
        hne (h brace hmem)
      obtain rfl := h c List.mem_cons_self
      rw [scan_append]
      cases (scan opened cs).2 with
      | none =>
          rw [← List.append_nil ('/' :: slashes), scan_text (hplain _ (by decide)), scan]
          exact ⟨List.append_nil _, .rfl⟩
      | some name =>
          rw [← List.append_nil ('/' :: slashes), scan_name (hplain _ (by decide)), scan]
          exact ⟨List.append_nil _, by simp⟩

/-! ## Templates of routes -/

section Route

/-- A part of a route in which no brace is meant. -/
def Plain (text : String) : Prop := '\x7b' ∉ text.toList ∧ '\x7d' ∉ text.toList

instance (text : String) : Decidable (Plain text) :=
  inferInstanceAs (Decidable (_ ∧ _))

/-- The captures of the names, as characters. -/
def ending (names : List String) : List Char :=
  names.flatMap fun name => '/' :: '\x7b' :: (name.toList ++ ['\x7d'])

theorem toList_join_capture (names : List String) :
    (String.join (names.map Naming.capture)).toList = ending names := by
  rw [String.toList_join, List.flatMap_map]
  simp [ending, Naming.capture]

variable {names : List String}

theorem scan_capture {name : String} (plain : Plain name) (names : List String) :
    scan (some []) (name.toList ++ '\x7d' :: ending names)
      = (name.toList :: (scan none (ending names)).1, (scan none (ending names)).2) := by
  rw [scan_name plain.2, scan_close, List.nil_append]
  cases names <;> simp [ending]

theorem scan_ending (plain : ∀ name ∈ names, Plain name) :
    scan none (ending names) = (names.map String.toList, none) := by
  induction names with
  | nil => rfl
  | cons name rest ih =>
      have hname := plain name List.mem_cons_self
      have hsingle : (name.toList ++ '\x7d' :: ending rest).head? ≠ some '\x7b' := by
        cases hcs : name.toList with
        | nil => simp
        | cons c cs =>
            intro h
            obtain rfl := Option.some.inj h
            exact hname.1 (hcs ▸ List.mem_cons_self)
      have hsplit : ending (name :: rest)
          = ['/'] ++ '\x7b' :: (name.toList ++ '\x7d' :: ending rest) := by
        simp [ending]
      rw [hsplit, scan_text (by simp), scan_open hsingle, scan_capture hname,
        ih fun n hn => plain n (List.mem_cons_of_mem _ hn), List.map_cons]

/-- What is put behind a prefix captures the names, unless a brace of the prefix is
open: then the first of them is part of a longer name. -/
theorem scan_tail {suffix : String} (hsuffix : Plain suffix)
    (plain : ∀ name ∈ names, Plain name) :
    scan none ('/' :: (suffix.toList ++ ending names)) = (names.map String.toList, none) ∧
      ∀ opened, ∃ tail, (scan (some opened) ('/' :: (suffix.toList ++ ending names))).1 = tail ∧
        tail.length = names.length ∧ ∀ name, tail.head? = some name → '/' ∈ name := by
  have hslash : ∀ brace, brace ≠ '/' → brace ∉ suffix.toList → brace ∉ '/' :: suffix.toList := by
    intro brace hne hmem h
    rcases List.mem_cons.mp h with rfl | h
    · exact hne rfl
    · exact hmem h
  rw [← List.cons_append]
  constructor
  · rw [scan_text (hslash _ (by decide) hsuffix.1), scan_ending plain]
  · intro opened
    rw [scan_name (hslash _ (by decide) hsuffix.2)]
    cases names with
    | nil => exact ⟨_, rfl, rfl, fun name h => by cases h⟩
    | cons name rest =>
        have hname := plain name List.mem_cons_self
        have hrest := scan_ending fun n hn => plain n (List.mem_cons_of_mem _ hn)
        have hsplit : ending (name :: rest)
            = '/' :: '\x7b' :: name.toList ++ '\x7d' :: ending rest := by
          simp [ending]
        refine ⟨_, rfl, ?_⟩
        rw [hsplit, scan_name (by simpa using hname.2),
          scan_close (by cases rest <;> simp [ending]), hrest]
        refine ⟨by simp, fun n hn => ?_⟩
        obtain rfl := Option.some.inj hn
        simp

theorem exists_trimEnd (cs : List Char) :
    ∃ slashes, Naming.trimEnd '/' cs ++ slashes = cs ∧ ∀ c ∈ slashes, c = '/' := by
  obtain ⟨slashes, hsplit, hslashes⟩ := exists_rspan (· == '/') cs
  exact ⟨slashes, hsplit.symm, fun c hc => eq_of_beq (hslashes c hc)⟩

/-- A route is the prefix, up to slashes at its ends, and what is put behind it. -/
theorem toList_routeTemplate (routePrefix suffix : String) (names : List String) :
    ∃ base, (Naming.routeTemplate routePrefix suffix names).toList
        = base ++ '/' :: (suffix.toList ++ ending names) ∧
      (scan none base).1 = (scan none routePrefix.toList).1 ∧
      ((scan none base).2 = none ↔ Closed routePrefix) := by
  obtain ⟨slashes, hsplit, hslashes⟩ := exists_trimEnd routePrefix.toList
  have hslash : ∀ cs, scan none ('/' :: cs) = scan none cs := by
    intro cs
    change scan none (['/'] ++ cs) = scan none cs
    exact scan_text (by decide) cs
  obtain ⟨hcaptures, hclosed⟩ :=
    @scan_slashes none (Naming.trimEnd '/' routePrefix.toList) slashes hslashes
  rw [hsplit] at hcaptures hclosed
  rw [hcaptures, Closed, hclosed]
  unfold Naming.routeTemplate
  simp only [String.toList_append, String.toList_ofList, toList_join_capture, List.append_assoc]
  refine ⟨_, rfl, ?_⟩
  -- The prefix has nothing but slashes, or begins with one, or is given one.
  split
  · next hnil => rw [hnil]; exact ⟨rfl, .rfl⟩
  · exact ⟨rfl, .rfl⟩
  · rw [hslash]; exact ⟨rfl, .rfl⟩

theorem captures_of_closed {routePrefix suffix : String} (hsuffix : Plain suffix)
    (plain : ∀ name ∈ names, Plain name) (closed : Closed routePrefix) :
    captures (Naming.routeTemplate routePrefix suffix names) = captures routePrefix ++ names := by
  obtain ⟨base, hroute, hbase, hclosed⟩ := toList_routeTemplate routePrefix suffix names
  rw [captures, hroute, scan_append, hclosed.mpr closed, (scan_tail hsuffix plain).1, hbase,
    List.map_append, List.map_map]
  simp [captures]

/-- Behind a prefix with an open brace, a route captures as many names, but the first of
them is another. -/
theorem captures_of_open {routePrefix suffix : String} (hsuffix : Plain suffix)
    (plain : ∀ name ∈ names, Plain name) (hopen : ¬ Closed routePrefix) :
    ∃ tail : List String,
      captures (Naming.routeTemplate routePrefix suffix names) = captures routePrefix ++ tail ∧
        tail.length = names.length ∧ ∀ name, tail.head? = some name → '/' ∈ name.toList := by
  obtain ⟨base, hroute, hbase, hclosed⟩ := toList_routeTemplate routePrefix suffix names
  obtain ⟨opened, hopened⟩ := Option.ne_none_iff_exists'.mp (mt hclosed.mp hopen)
  obtain ⟨tail, htail, hlength, hfirst⟩ := (scan_tail hsuffix plain).2 opened
  refine ⟨tail.map String.ofList, ?_, by rw [List.length_map, hlength], fun name hname => ?_⟩
  · rw [captures, hroute, scan_append, hopened, htail, hbase, List.map_append, captures]
  · rw [List.head?_map] at hname
    obtain ⟨cs, hcs, rfl⟩ := Option.map_eq_some_iff.mp hname
    rw [String.toList_ofList]
    exact hfirst cs hcs

/-- A route captures nothing but the names exactly if the prefix captures nothing and
leaves no brace open in front of a name. -/
theorem captures_eq_iff {routePrefix suffix : String} (hsuffix : Plain suffix)
    (plain : ∀ name ∈ names, Plain name) (segments : ∀ name ∈ names, '/' ∉ name.toList) :
    captures (Naming.routeTemplate routePrefix suffix names) = names ↔
      captures routePrefix = [] ∧ (Closed routePrefix ∨ names = []) := by
  by_cases closed : Closed routePrefix
  · rw [captures_of_closed hsuffix plain closed, List.append_left_eq_self]
    exact ⟨fun h => ⟨h, .inl closed⟩, And.left⟩
  · obtain ⟨tail, htail, hlength, hfirst⟩ := captures_of_open hsuffix plain closed
    rw [htail]
    constructor
    · intro h
      -- The prefix leaves no room for a capture of its own, but the first name is too long.
      have hnil : captures routePrefix = [] := by
        have := congrArg List.length h
        rw [List.length_append] at this
        exact List.eq_nil_of_length_eq_zero (by omega)
      refine ⟨hnil, .inr ?_⟩
      rw [hnil, List.nil_append] at h
      cases names with
      | nil => rfl
      | cons name rest =>
          exact absurd (hfirst name (h ▸ rfl)) (segments name List.mem_cons_self)
    · rintro ⟨hnil, hclosed⟩
      have hnames := hclosed.resolve_left closed
      rw [hnames, List.length_nil] at hlength
      rw [hnil, hnames, List.eq_nil_of_length_eq_zero hlength, List.nil_append]

end Route

end Template

/-! ## The parts of a route -/

namespace Template

theorem plain_of_all {text : String}
    (h : text.toList.all (fun c => Unicode.isIdentContinue c || c == '-') = true) :
    Plain text := by
  constructor
  all_goals
    intro hmem
    exact absurd (List.all_eq_true.mp h _ hmem) (by decide)

theorem plain_of_isLegal {text : String} (h : Ident.isLegal text.toList = true) :
    Plain text := by
  refine plain_of_all (List.all_eq_true.mpr fun c hc => ?_)
  rw [List.all_eq_true.mp (Ident.all_of_isLegal h) c hc, Bool.true_or]

theorem Plain.append {a b : String} (ha : Plain a) (hb : Plain b) : Plain (a ++ b) := by
  rw [Plain, String.toList_append]
  exact ⟨List.not_mem_append ha.1 hb.1, List.not_mem_append ha.2 hb.2⟩

theorem captures_of_plain {text : String} (plain : Plain text) :
    captures text = [] ∧ Closed text := by
  have hscan := scan_text plain.1 []
  rw [List.append_nil, scan] at hscan
  rw [captures, Closed, hscan]
  exact ⟨rfl, rfl⟩

end Template

namespace Naming

theorem all_routeSuffix {name : String} (h : Ident.isLegal name.toList = true) :
    (routeSuffix name).toList.all (fun c => Unicode.isIdentContinue c || c == '-') = true := by
  have hkebab : (Text.kebabCase name.toList).all
      (fun c => Unicode.isIdentContinue c || c == '-') = true := by
    refine Text.all_intercalate (by decide) fun word hword => ?_
    obtain ⟨cut, hcut, rfl⟩ := List.mem_map.mp hword
    rw [Text.wordsOf] at hcut
    split at hcut
    · cases hcut
    · have hflat : (Unicode.clusters name.toList).flatten.all Unicode.isIdentContinue = true := by
        rw [Unicode.flatten_clusters]
        exact Ident.all_of_isLegal h
      refine List.all_eq_true.mpr fun c hc => ?_
      rw [List.all_eq_true.mp (Text.all_lowerWord hflat hcut) c hc, Bool.true_or]
  refine List.all_eq_true.mpr fun c hc => ?_
  rw [routeSuffix, String.toList_ofList] at hc
  refine List.all_eq_true.mp hkebab c ?_
  split at hc
  · exact List.mem_of_mem_take hc
  · exact hc

theorem plain_routeSuffix {name : String} (h : Ident.isLegal name.toList = true) :
    Template.Plain (routeSuffix name) :=
  Template.plain_of_all (all_routeSuffix h)

theorem plain_defaultPrefix {name : String} (h : Ident.isLegal name.toList = true) :
    Template.Plain (defaultPrefix name) := by
  refine Template.Plain.append (by decide) (Template.plain_of_isLegal ?_)
  rw [String.toList_ofList]
  exact Unicode.isLegal_lowerText (isLegal_stripMarker h)

end Naming

/-! ## Routes and extractors -/

/-- The names that an extractor takes values of the route for, if it takes any. -/
def Extractor.expects? : Extractor → Option (List String)
  | .path captures => some (captures.map fun c => c.1.name)
  | _ => none

/-- The names that each of the extractors takes values of the route for. -/
def HandlerFn.expects (fn : HandlerFn) : List (List String) :=
  fn.extractors.filterMap Extractor.expects?

theorem expects_of_handlerFn {h : Handler} {fn : HandlerFn} (hfn : handlerFn h = .ok fn) :
    fn.expects = if h.captures = [] then [] else [h.captures] := by
  have hpath : (pathExtractor h).filterMap Extractor.expects?
      = if h.captures = [] then [] else [h.captures] := by
    rw [Handler.captures]
    unfold pathExtractor
    cases h.boundTo .route with
    | nil => rfl
    | cons p rest => simp [Extractor.expects?, Function.comp_def, Parameter.name]
  have hbody : (bodyExtractor h).filterMap Extractor.expects? = [] := by
    refine List.filterMap_eq_nil_iff.mpr fun e he => ?_
    obtain ⟨p, -, rfl⟩ := json_of_mem_bodyExtractor he
    rfl
  obtain ⟨i, args, -, -, rfl⟩ := handlerFn_ok_iff.mp hfn
  have hquery : (if (queryStruct i h).isSome then [Extractor.query i] else []).filterMap
      Extractor.expects? = [] := by
    split <;> rfl
  have hform : (if (fileBindings h).isEmpty then [] else [Extractor.multipart]).filterMap
      Extractor.expects? = [] := by
    split <;> rfl
  simp only [HandlerFn.expects, List.filterMap_append, hpath, hquery, hbody, hform,
    List.append_nil]
  rfl

/-- A route below a prefix beside the function that it calls. -/
structure Handler.Routed (routePrefix : String) (h : Handler) (fn : HandlerFn) (r : Route) :
    Prop where
  target : r.handler = fn.ident
  /-- One extractor takes a value for each parameter from the route, if there are any. -/
  expects : fn.expects = if h.captures = [] then [] else [h.captures]
  /-- The prefix is all that may put further captures in front of these. -/
  captures : Template.Closed routePrefix →
    Template.captures r.path = Template.captures routePrefix ++ h.captures
  fits : Template.captures r.path = h.captures ↔
    Template.captures routePrefix = [] ∧ (Template.Closed routePrefix ∨ h.captures = [])

theorem routed_of_handlerFn {h : Handler} {fn : HandlerFn} (hfn : handlerFn h = .ok fn)
    (routePrefix : String) :
    h.Routed routePrefix fn ⟨h.route routePrefix, h.verb, h.ident⟩ := by
  have hsuffix : Template.Plain h.routeSuffix := Naming.plain_routeSuffix h.ident.legal
  have hlegal : ∀ name ∈ h.captures, Ident.isLegal name.toList = true := by
    intro name hname
    obtain ⟨p, -, rfl⟩ := List.mem_map.mp hname
    exact p.ident.legal
  have hplain : ∀ name ∈ h.captures, Template.Plain name := fun name hname =>
    Template.plain_of_isLegal (hlegal name hname)
  refine {
    target := ?_, expects := expects_of_handlerFn hfn
    captures := fun closed => Template.captures_of_closed hsuffix hplain closed
    fits := Template.captures_eq_iff hsuffix hplain fun name hname hslash => ?_ }
  · obtain ⟨i, args, -, -, rfl⟩ := handlerFn_ok_iff.mp hfn
    rfl
  · have hall := Ident.all_of_isLegal (hlegal name hname)
    exact absurd (List.all_eq_true.mp hall _ hslash) (by decide)

/-- The prefix of a trait without the attribute for it has no braces. -/
theorem plain_routePrefix {o : Options} {d : Declaration} {s : Service}
    (resolved : d.resolve o = .ok s)
    (derived : ∀ a ∈ d.attrs, Helper.routePrefix.isNamed a = false) :
    Template.Plain s.routePrefix := by
  have hnone : Helper.prefixIn d.attrs = .ok none := by
    have hfilter : d.attrs.filter Helper.routePrefix.isNamed = [] :=
      List.filter_eq_nil_iff.mpr fun a ha => by simp [derived a ha]
    rw [Helper.prefixIn, Helper.find?, hfilter]
    rfl
  rcases Declaration.routePrefix_of_resolve resolved with ⟨text, hsome, -⟩ | ⟨-, heq⟩
  · rw [hnone] at hsome
    cases hsome
  · rw [heq]
    exact Naming.plain_defaultPrefix d.ident.legal

/-- A service that is rendered has a route for each method, which goes with its function.
Without an attribute for the prefix it captures just what the function expects. -/
theorem render_routed {o : Options} {d : Declaration} {s : Service} {suffix : String}
    {a : Artifact} (resolved : d.resolve o = .ok s) (rendered : s.render suffix = .ok a) :
    ∃ c, s.controller suffix = .ok c ∧ a.source = c.source s.space ∧
      List.Forall₂ (Handler.OfMethod o) d.methods s.handlers ∧
      c.handlers.length = s.handlers.length ∧ c.routes.length = s.handlers.length ∧
      (∀ (k : Nat) (h : Handler), s.handlers[k]? = some h →
        ∃ fn r, c.handlers[k]? = some fn ∧ c.routes[k]? = some r ∧
          h.Routed s.routePrefix fn r) ∧
      ((∀ a ∈ d.attrs, Helper.routePrefix.isNamed a = false) →
        Template.captures s.routePrefix = [] ∧ Template.Closed s.routePrefix) := by
  obtain ⟨c, hc, hsource, hof⟩ := Service.controller_of_render rendered
  refine ⟨c, hc, hsource, (Declaration.ofDeclaration_of_resolve resolved).handlers,
    hof.handlers.length_eq.symm, ?_, fun k h hk => ?_, fun derived =>
      Template.captures_of_plain (plain_routePrefix resolved derived)⟩
  · rw [hof.routes, List.length_map]
  · obtain ⟨fn, hfn, hmade⟩ := getElem?_of_forall₂ hof.handlers hk
    refine ⟨fn, _, hfn, ?_, routed_of_handlerFn hmade s.routePrefix⟩
    rw [hof.routes, List.getElem?_map, hk]
    rfl

/-- A trait with a capture in its prefix. -/
def tenantItems : Declaration :=
  { Declaration.named (.spelled "IItems")
      [.named [] (.spelled "get_item") [.named (.spelled "id") (.named (.spelled "i64"))]] with
    attrs := [⟨false, [.spelled "route_prefix"],
      .list .paren [.literal ⟨.string, "\"/api/\x7btenant\x7d\""⟩]⟩] }

theorem tenantItems_rendered :
    ∃ s a h, tenantItems.resolve {} = .ok s ∧ s.render "Controller" = .ok a ∧
      s.handlers[0]? = some h ∧ s.routePrefix = "/api/\x7btenant\x7d" ∧ h.captures = ["id"] := by
  have hrun : tenantItems.rendersTo (fun s => s.routePrefix == "/api/\x7btenant\x7d"
      && (s.handlers[0]?.map Handler.captures) == some ["id"]) = true := by
    decide +kernel
  obtain ⟨s, a, hs, ha, hcheck⟩ := Declaration.exists_of_rendersTo hrun
  obtain ⟨htenant, hcaptures⟩ := Bool.and_eq_true_iff.mp hcheck
  obtain ⟨h, hh, hid⟩ := Option.map_eq_some_iff.mp (beq_iff_eq.mp hcaptures)
  exact ⟨s, a, h, hs, ha, hh, beq_iff_eq.mp htenant, hid⟩

theorem render_routed_tenant :
    ∃ s a c fn r, tenantItems.resolve {} = .ok s ∧ s.render "Controller" = .ok a ∧
      s.controller "Controller" = .ok c ∧ c.handlers[0]? = some fn ∧ c.routes[0]? = some r ∧
      fn.expects = [["id"]] ∧ Template.captures r.path = ["tenant", "id"] := by
  obtain ⟨s, a, h, hs, ha, hh, htenant, hid⟩ := tenantItems_rendered
  obtain ⟨c, hc, -, -, -, -, hrouted, -⟩ := render_routed hs ha
  obtain ⟨fn, r, hfn, hr, routed⟩ := hrouted 0 h hh
  refine ⟨s, a, c, fn, r, hs, ha, hc, hfn, hr, ?_, ?_⟩
  · rw [routed.expects, hid]
    rfl
  · rw [routed.captures (htenant ▸ by decide), htenant, hid]
    decide

/-- Not every route captures just the names of the parameters from the route. -/
theorem not_forall_captures_eq :
    ¬ ∀ (d : Declaration) (s : Service) (a : Artifact) (c : Controller),
      d.resolve {} = .ok s → s.render "Controller" = .ok a → s.controller "Controller" = .ok c →
      ∀ (k : Nat) (h : Handler) (r : Route), s.handlers[k]? = some h → c.routes[k]? = some r →
        Template.captures r.path = h.captures := by
  intro hall
  obtain ⟨s, a, h, hs, ha, hh, htenant, hid⟩ := tenantItems_rendered
  obtain ⟨c, hc, -, hof⟩ := Service.controller_of_render ha
  obtain ⟨fn, -, hmade⟩ := getElem?_of_forall₂ hof.handlers hh
  have hr : c.routes[0]? = some ⟨h.route s.routePrefix, h.verb, h.ident⟩ := by
    rw [hof.routes, List.getElem?_map, hh]
    rfl
  have hcaptures := hall tenantItems s a c hs ha hc 0 h _ hh hr
  have hnone := ((routed_of_handlerFn hmade s.routePrefix).fits.mp hcaptures).1
  rw [htenant] at hnone
  exact absurd hnone (by decide)

end TraitRoutes
