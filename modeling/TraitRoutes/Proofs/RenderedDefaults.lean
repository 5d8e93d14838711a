import TraitRoutes.Proofs.Interruption
import TraitRoutes.Proofs.LiteralExpressions
import TraitRoutes.Proofs.ResolvedMethods

/-!
# Defaults in controllers

The list of defaults keeps each literal as a text, and the handler function reads the text again,
as an expression. Every text that the list accepts is one that reads, so a default is never the
reason why a controller cannot be rendered: without its defaults a service fails in the same way
or not at all.
-/

namespace TraitRoutes

open Layout
open Controller (fallbackDoc call)

/-! ## The expression for an omitted value -/

/-- The literal is a string. -/
def DefaultLiteral.IsText : DefaultLiteral → Prop
  | quoted l => l.kind = .string
  | number .. | truth _ => False

/-- The expression of a fallback, without a conversion. -/
def Fallback.inner : Fallback → Node
  | converted l => .expr (.literal (.token l)) []
  | plain e => e.node

/-- The fallback is the literal: it means the same and is written with the same text. A string,
and nothing else, is converted. -/
structure Fallback.Renders (d : DefaultLiteral) (f : Fallback) : Prop where
  means : ∀ {V : Type} (m : Meaning V), f.inner.Means m (d.meaning m)
  converted : (∃ l, f = .converted l) ↔ d.IsText
  plain : ¬ d.IsText → ∃ parts : List String, (fallbackDoc f).1 = parts.map Doc.text ∧
    String.join parts = d.text
  text : d.IsText → (fallbackDoc f).1 = call "::core::convert::Into::into" [[.text d.text]]

/-- What an expression becomes. -/
def Fallback.ofExpr (e : Fragment) : Fallback :=
  match e.exprForm? with
  | some (.literal (.token l)) => if l.kind = .string then .converted l else .plain e
  | _ => .plain e

theorem Fallback.isWritable_ofExpr {e : Fragment}
    (h : Doc.isWritable (ofFragment e).plain = true) :
    (ofExpr e).isWritable = true := by
  unfold ofExpr
  split
  · split
    · rfl
    · exact h
  · exact h

theorem Synthesis.fallback_of_readExpr {text : String} {e : Fragment} (h : readExpr text = .ok e)
    (name : String) : fallback name text = .ok (.ofExpr e) := by
  unfold fallback Fallback.ofExpr
  rw [h]
  dsimp only
  generalize e.exprForm? = form
  cases form with
  | none => rfl
  | some form =>
      cases form with
      | literal value => cases value <;> rfl
      | _ => rfl

namespace DefaultLiteral

/-- The expression for a literal as a default. -/
def fallback (d : DefaultLiteral) : Fallback := .ofExpr (.mk d.node d.tokens)

variable {d : DefaultLiteral} {ts : List Token}

theorem fallback_of_number {l : Literal} (kind : l.kind = .integer ∨ l.kind = .float)
    (minuses : Nat) :
    (number minuses l).fallback
      = .plain (.mk (number minuses l).node (number minuses l).tokens) := by
  have hkind : l.kind ≠ .string := by
    rcases kind with kind | kind <;> rw [kind] <;> decide
  cases minuses with
  | zero => exact if_neg hkind
  | succ minuses => rfl

theorem fallback_of_quoted (l : Literal) :
    (quoted l).fallback
      = if l.kind = .string then .converted l else .plain (.mk (quoted l).node (quoted l).tokens) :=
  rfl

theorem inner_fallback (written : d.Written ts) : d.fallback.inner = d.node := by
  cases written with
  | number kind joints => rw [fallback_of_number kind]; rfl
  | quoted kind =>
      rw [fallback_of_quoted]
      split <;> rfl
  | truth => rfl

theorem converted_fallback (written : d.Written ts) :
    (∃ l, d.fallback = .converted l) ↔ d.IsText := by
  cases written with
  | number kind joints =>
      rw [fallback_of_number kind]
      exact iff_of_false nofun id
  | @quoted l kind =>
      rw [fallback_of_quoted, IsText]
      split
      · next hkind => exact iff_of_true ⟨l, rfl⟩ hkind
      · next hkind => exact iff_of_false nofun hkind
  | truth => exact iff_of_false nofun id

/-- The fallback of a literal is the literal. -/
theorem renders_fallback (written : d.Written ts) : d.fallback.Renders d where
  means m := by
    rw [inner_fallback written]
    exact d.means_node m
  converted := converted_fallback written
  plain hplain := by
    have hfallback : d.fallback = .plain (.mk d.node d.tokens) := by
      cases written with
      | number kind joints => exact fallback_of_number kind _
      | quoted => exact if_neg hplain
      | truth => rfl
    rw [hfallback]
    exact ofNode_literal d
  text htext := by
    cases written with
    | number => exact htext.elim
    | @quoted l kind =>
        have hkind : l.kind = .string := htext
        rw [fallback_of_quoted, if_pos hkind]
        rfl
    | truth => exact htext.elim

/-- What is accepted as a default reads again as what it was. -/
theorem fallback_text (lexed : d.IsLexed) (name : String) :
    Synthesis.fallback name d.text = .ok d.fallback :=
  Synthesis.fallback_of_readExpr (readExpr_text lexed) name

theorem isWritable_fallback (d : DefaultLiteral) : d.fallback.isWritable = true := by
  have htexts : ∀ parts : List String, Doc.isWritable (parts.map Doc.text) = true := by
    intro parts
    induction parts with
    | nil => rfl
    | cons part parts ih => rw [List.map_cons, Doc.isWritable_text, ih]
  obtain ⟨parts, hparts, -⟩ := ofNode_literal d
  refine Fallback.isWritable_ofExpr ?_
  change Doc.isWritable (ofNode d.node).plain = true
  rw [hparts, htexts]

end DefaultLiteral

/-! ## Defaults of parameters -/

theorem readExpr_zeroExpr :
    ∃ e, readExpr DefaultValue.zeroExpr = .ok e ∧ Doc.isWritable (ofFragment e).plain = true := by
  have hread : ((readExpr DefaultValue.zeroExpr).toOption.any fun e =>
      Doc.isWritable (ofFragment e).plain) = true := by decide +kernel
  cases hexpr : readExpr DefaultValue.zeroExpr with
  | error fault => rw [hexpr] at hread; cases hread
  | ok e => exact ⟨e, rfl, by rw [hexpr] at hread; exact hread⟩

/-- The default of the parameter, if it has one, reads as an expression that can be written. -/
def Parameter.DefaultReads (p : Parameter) : Prop :=
  ∀ v, p.default = some v →
    ∃ f, Synthesis.fallback p.name v.expr = .ok f ∧ f.isWritable = true

namespace Parameter

variable {p : Parameter}

theorem defaultReads_of_literal {d : DefaultLiteral} (lexed : d.IsLexed)
    (h : p.default = some (.literal d.text)) : p.DefaultReads := by
  intro v hv
  obtain rfl := Option.some.inj (h.symm.trans hv)
  exact ⟨_, d.fallback_text lexed p.name, d.isWritable_fallback⟩

theorem defaultReads_of_zero (h : p.default = some .zero) : p.DefaultReads := by
  intro v hv
  obtain rfl := Option.some.inj (h.symm.trans hv)
  obtain ⟨e, hread, hwritable⟩ := readExpr_zeroExpr
  exact ⟨_, Synthesis.fallback_of_readExpr hread p.name, Fallback.isWritable_ofExpr hwritable⟩

/-- The argument of a query parameter with a literal as its default. -/
theorem argument_of_literal {d : DefaultLiteral} (lexed : d.IsLexed)
    (hquery : p.binding = .query) (h : p.default = some (.literal d.text)) :
    Synthesis.argument p
      = .ok (if p.nullable then .fieldOr p.ident d.fallback
          else .fieldUnwrap p.ident d.fallback) := by
  rw [Synthesis.argument, hquery]
  dsimp only
  rw [Synthesis.queryArgument, h]
  cases p.nullable with
  | true =>
      dsimp only
      rw [d.fallback_text lexed]
      rfl
  | false =>
      dsimp only [DefaultValue.expr]
      rw [d.fallback_text lexed]
      rfl

theorem exists_queryArgument (reads : p.DefaultReads) :
    ∃ a, Synthesis.queryArgument p = .ok a ∧ a.isWritable = true := by
  unfold Synthesis.queryArgument
  split
  · next text hdefault _ =>
      obtain ⟨f, hf, hwritable⟩ := reads _ hdefault
      change Synthesis.fallback p.name text = .ok f at hf
      rw [hf]
      exact ⟨_, rfl, hwritable⟩
  · next v hdefault _ =>
      obtain ⟨f, hf, hwritable⟩ := reads _ hdefault
      rw [hf]
      exact ⟨_, rfl, hwritable⟩
  · exact ⟨_, rfl, rfl⟩

theorem exists_argument (reads : p.DefaultReads) : ∃ a, Synthesis.argument p = .ok a := by
  obtain ⟨a, ha, -⟩ := exists_queryArgument reads
  unfold Synthesis.argument
  split
  · exact ⟨_, rfl⟩
  · exact ⟨_, rfl⟩
  · exact ⟨_, rfl⟩
  · exact ⟨a, ha⟩

end Parameter

/-! ## Services without defaults -/

/-- The parameter without its default. -/
def Parameter.withoutDefault (p : Parameter) : Parameter := { p with default := none }

/-- The handler without the defaults of its parameters. -/
def Handler.withoutDefaults (h : Handler) : Handler :=
  { h with params := h.params.map Parameter.withoutDefault }

/-- The service without the defaults of its parameters. -/
def Service.withoutDefaults (s : Service) : Service :=
  { s with handlers := s.handlers.map Handler.withoutDefaults }

theorem Parameter.isWritable_withoutDefault {p : Parameter} (reads : p.DefaultReads) :
    p.withoutDefault.isWritable = p.isWritable := by
  obtain ⟨a, ha, hwritable⟩ := exists_queryArgument reads
  have hquery : (Synthesis.queryArgument p).toOption.all Argument.isWritable = true := by
    rw [ha]
    exact hwritable
  have hnone : (Synthesis.queryArgument p.withoutDefault).toOption.all Argument.isWritable
      = true := rfl
  unfold Parameter.isWritable
  rw [hquery, hnone]
  rfl

namespace Handler

variable {h : Handler}

theorem boundTo_withoutDefaults (b : Binding) :
    h.withoutDefaults.boundTo b = (h.boundTo b).map Parameter.withoutDefault := by
  unfold boundTo withoutDefaults
  rw [List.filter_map]
  rfl

theorem captures_withoutDefaults : h.withoutDefaults.captures = h.captures := by
  rw [captures, boundTo_withoutDefaults, List.map_map]
  rfl

theorem checkBody_withoutDefaults : h.withoutDefaults.checkBody = h.checkBody := by
  unfold checkBody
  rw [boundTo_withoutDefaults, boundTo_withoutDefaults, List.length_map, List.isEmpty_map]
  rfl

theorem isWritable_withoutDefaults (reads : ∀ p ∈ h.params, p.DefaultReads) :
    h.withoutDefaults.isWritable = h.isWritable := by
  have hparams : h.withoutDefaults.params.all Parameter.isWritable
      = h.params.all Parameter.isWritable := by
    change (h.params.map Parameter.withoutDefault).all Parameter.isWritable = _
    rw [List.all_map, Bool.eq_iff_iff, List.all_eq_true, List.all_eq_true]
    refine forall₂_congr fun p hp => ?_
    rw [Function.comp_apply, Parameter.isWritable_withoutDefault (reads p hp)]
  rw [isWritable, hparams]
  rfl

end Handler

/-! ## What stops -/

/-- The computations stop in the same way, or neither does. -/
def StopsAlike {α β ε : Type} (x : Except ε α) (y : Except ε β) : Prop :=
  ∀ e, x = .error e ↔ y = .error e

namespace StopsAlike

variable {α β γ δ ε : Type}

theorem refl (x : Except ε α) : StopsAlike x x := fun _ => Iff.rfl

theorem of_ok {x : Except ε α} {y : Except ε β} {a : α} {b : β} (hx : x = .ok a) (hy : y = .ok b) :
    StopsAlike x y := by
  intro e
  rw [hx, hy]
  exact iff_of_false nofun nofun

theorem ok_iff {x : Except ε α} {y : Except ε β} (h : StopsAlike x y) :
    (∃ a, x = .ok a) ↔ ∃ b, y = .ok b := by
  cases x with
  | error e => exact iff_of_false nofun (by rw [(h e).mp rfl]; nofun)
  | ok a =>
      cases y with
      | error e => exact absurd ((h e).mpr rfl) nofun
      | ok b => exact iff_of_true ⟨a, rfl⟩ ⟨b, rfl⟩

/-- Steps behind steps that stop alike do so as well. -/
theorem bind {x : Except ε α} {y : Except ε β} {f : α → Except ε γ} {g : β → Except ε δ}
    (h : StopsAlike x y) (hf : ∀ a b, x = .ok a → y = .ok b → StopsAlike (f a) (g b)) :
    StopsAlike (x >>= f) (y >>= g) := by
  cases x with
  | error e =>
      rw [(h e).mp rfl]
      intro e'
      constructor <;> intro he <;> cases he <;> rfl
  | ok a =>
      obtain ⟨b, rfl⟩ := h.ok_iff.mp ⟨a, rfl⟩
      exact hf a b rfl rfl

theorem mapM {f : α → Except ε γ} {g : β → Except ε δ} {t : α → β} {xs : List α}
    (h : ∀ x ∈ xs, StopsAlike (f x) (g (t x))) : StopsAlike (xs.mapM f) ((xs.map t).mapM g) := by
  induction xs with
  | nil => exact of_ok rfl rfl
  | cons x rest ih =>
      rw [List.map_cons, List.mapM_cons, List.mapM_cons]
      refine (h x List.mem_cons_self).bind fun _ _ _ _ => ?_
      exact (ih fun y hy => h y (List.mem_cons_of_mem _ hy)).bind fun _ _ _ _ => of_ok rfl rfl

end StopsAlike

namespace Service

variable {s : Service}

theorem planFrom_withoutDefaults (routePrefix : String) (hs : List Handler) :
    ∀ seen : List (String × String),
      planFrom routePrefix seen (hs.map Handler.withoutDefaults)
        = planFrom routePrefix seen hs := by
  induction hs with
  | nil => exact fun _ => rfl
  | cons h rest ih =>
      intro seen
      have hshape : h.withoutDefaults.routeShape routePrefix = h.routeShape routePrefix := by
        rw [Handler.routeShape, Handler.captures_withoutDefaults]
        rfl
      have hroute : h.withoutDefaults.route routePrefix = h.route routePrefix := by
        rw [Handler.route, Handler.captures_withoutDefaults]
        rfl
      rw [List.map_cons, planFrom, planFrom, hshape, hroute, ih]
      rfl

theorem checkBodies_withoutDefaults (hs : List Handler) :
    checkBodies (hs.map Handler.withoutDefaults) = checkBodies hs := by
  induction hs with
  | nil => rfl
  | cons h rest ih =>
      rw [List.map_cons, checkBodies, checkBodies, Handler.checkBody_withoutDefaults, ih]

theorem handlerFn_withoutDefaults {h : Handler} (reads : ∀ p ∈ h.params, p.DefaultReads) :
    StopsAlike (Synthesis.handlerFn h) (Synthesis.handlerFn h.withoutDefaults) := by
  obtain ⟨args, hargs⟩ := exists_mapM_ok_iff.mpr fun p hp => Parameter.exists_argument (reads p hp)
  obtain ⟨args', hargs'⟩ : ∃ args, h.withoutDefaults.params.mapM Synthesis.argument = .ok args := by
    refine exists_mapM_ok_iff.mpr fun q hq => ?_
    obtain ⟨p, -, rfl⟩ := List.mem_map.mp hq
    exact Parameter.exists_argument fun v hv => by cases hv
  refine (StopsAlike.refl _).bind fun i _ _ _ => ?_
  exact (StopsAlike.of_ok (Synthesis.lift_ok_iff.mpr hargs)
    (Synthesis.lift_ok_iff.mpr hargs')).bind fun _ _ _ _ => .of_ok rfl rfl

/-- All defaults of the service read as expressions. -/
def DefaultsRead (s : Service) : Prop := ∀ h ∈ s.handlers, ∀ p ∈ h.params, p.DefaultReads

theorem controller_withoutDefaults (reads : s.DefaultsRead) (suffix : String) :
    StopsAlike (s.controller suffix) (s.withoutDefaults.controller suffix) := by
  have hbodies : checkBodies s.withoutDefaults.handlers = checkBodies s.handlers :=
    checkBodies_withoutDefaults s.handlers
  have hroutes : s.withoutDefaults.planRoutes = s.planRoutes :=
    planFrom_withoutDefaults s.routePrefix s.handlers []
  have hfns : StopsAlike (s.handlers.mapM Synthesis.handlerFn)
      (s.withoutDefaults.handlers.mapM Synthesis.handlerFn) :=
    .mapM fun h hh => handlerFn_withoutDefaults (reads h hh)
  unfold controller
  rw [hbodies, hroutes]
  refine (StopsAlike.refl _).bind fun _ _ _ _ => ?_
  refine (StopsAlike.refl _).bind fun _ _ _ _ => ?_
  refine (StopsAlike.refl _).bind fun unit unit' hunit hunit' => ?_
  refine (StopsAlike.refl _).bind fun module module' hmodule hmodule' => ?_
  obtain rfl := Except.ok.inj (hunit.symm.trans hunit')
  obtain rfl := Except.ok.inj (hmodule.symm.trans hmodule')
  refine hfns.bind fun _ _ _ _ => ?_
  refine (StopsAlike.refl _).bind fun _ _ _ _ => ?_
  exact (StopsAlike.refl _).bind fun _ _ _ _ => .of_ok rfl rfl

/-- A service stops in the same way without its defaults. -/
theorem render_withoutDefaults (reads : s.DefaultsRead) (suffix : String) :
    StopsAlike (s.render suffix) (s.withoutDefaults.render suffix) := by
  refine (controller_withoutDefaults reads suffix).bind fun c c' hc hc' => ?_
  obtain ⟨-, -, -, hwritable⟩ := of_controller_ok hc
  obtain ⟨-, -, -, hwritable'⟩ := of_controller_ok hc'
  have hsame : c'.isWritable = c.isWritable := by
    rw [hwritable, hwritable']
    change (s.handlers.map Handler.withoutDefaults).all Handler.isWritable = _
    rw [List.all_map, Bool.eq_iff_iff, List.all_eq_true, List.all_eq_true]
    refine forall₂_congr fun h hh => ?_
    rw [Function.comp_apply, Handler.isWritable_withoutDefaults (reads h hh)]
  dsimp only
  rw [hsame]
  split
  · exact .of_ok rfl rfl
  · exact fun _ => Iff.rfl

end Service

/-! ## Lists of defaults -/

theorem DefaultLiteral.isLexed_of_written {d : DefaultLiteral} {ts : List Token}
    (written : d.Written ts) (lexed : ∀ t ∈ ts, t.IsLexed) : d.IsLexed := by
  cases written with
  | number kind joints => exact Token.isLexed_literal.mp (lexed _ (by simp))
  | quoted kind => exact Token.isLexed_literal.mp (lexed _ (by simp))
  | truth => trivial

theorem DefaultList.written_of_mem {most : Nat} {ts : List Token} {ws : List ListedDefault}
    (list : DefaultList most ts ws) {i : Ident} {d : DefaultLiteral} (hd : ⟨i, some d⟩ ∈ ws) :
    ∃ front, d.Written front ∧ front ⊆ ts := by
  have hentry : ∀ {w : ListedDefault} {ts : List Token}, w.Written most ts → w = ⟨i, some d⟩ →
      ∃ front, d.Written front ∧ front ⊆ ts := by
    rintro w ts written rfl
    cases written with
    | valued place joint free few written =>
        exact ⟨_, written, fun t ht => List.mem_cons_of_mem _ (List.mem_cons_of_mem _ ht)⟩
  induction list with
  | nil => cases hd
  | last written => exact hentry written (List.mem_singleton.mp hd).symm
  | cons joint written _ ih =>
      rcases List.mem_cons.mp hd with hw | hd
      · obtain ⟨front, hfront, hsub⟩ := hentry written hw.symm
        exact ⟨front, hfront, fun t ht => List.mem_append_left _ (hsub ht)⟩
      · obtain ⟨front, hfront, hsub⟩ := ih hd
        exact ⟨front, hfront, fun t ht =>
          List.mem_append_right _ (List.mem_cons_of_mem _ (hsub ht))⟩

/-- The literal stands behind the name in the list of defaults of the method. -/
def Method.ListsLiteral (m : Method) (i : Ident) (d : DefaultLiteral) : Prop :=
  ∃ a ∈ m.attrs, Helper.defaultValue.isNamed a = true ∧
    ∃ ts ws, Helper.arguments a = .ok ts ∧ DefaultList 2 ts ws ∧ ⟨i, some d⟩ ∈ ws

/-- The literals in the lists of defaults of the method were lexed. -/
def Method.DefaultsLexed (m : Method) : Prop :=
  ∀ a ∈ m.attrs, Helper.defaultValue.isNamed a = true →
    ∀ ts, Helper.arguments a = .ok ts → ∀ t ∈ ts, t.IsLexed

namespace Method

variable {m : Method} {i : Ident}

theorem exists_of_lists {text : String} (h : m.Lists ⟨i, some text⟩) :
    ∃ d, m.ListsLiteral i d ∧ d.text = text := by
  obtain ⟨a, ha, hnamed, ts, entries, hts, hentries, hmem⟩ := h
  obtain ⟨ws, list, rfl⟩ := DefaultEntry.readAll_ok hentries
  obtain ⟨⟨name, literal⟩, hw, hentry⟩ := List.mem_map.mp hmem
  obtain ⟨hname, hliteral⟩ := DefaultEntry.mk.inj hentry
  obtain ⟨d, hd, htext⟩ := Option.map_eq_some_iff.mp hliteral
  dsimp only at hname hd
  subst hname hd
  exact ⟨d, ⟨a, ha, hnamed, ts, ws, hts, list, hw⟩, htext⟩

theorem exists_written (lexed : m.DefaultsLexed) {d : DefaultLiteral} (h : m.ListsLiteral i d) :
    ∃ front, d.Written front ∧ d.IsLexed := by
  obtain ⟨a, ha, hnamed, ts, ws, hts, list, hmem⟩ := h
  obtain ⟨front, written, hsub⟩ := list.written_of_mem hmem
  exact ⟨front, written, DefaultLiteral.isLexed_of_written written fun t ht =>
    lexed a ha hnamed ts hts t (hsub ht)⟩

end Method

/-- A parameter with a literal as its default gets the expression of this literal. -/
def Parameter.TakesLiteral (m : Method) (p : Parameter) : Prop :=
  ∀ text, p.default = some (.literal text) →
    ∃ d, m.ListsLiteral p.ident d ∧ d.text = text ∧ d.fallback.Renders d ∧
      Synthesis.argument p = .ok (if p.nullable then .fieldOr p.ident d.fallback
        else .fieldUnwrap p.ident d.fallback)

theorem Handler.Resolves.literals {o : Options} {m : Method} {h : Handler}
    (resolves : h.Resolves o m) (lexed : m.DefaultsLexed) :
    ∀ p ∈ h.params, p.DefaultReads ∧ p.TakesLiteral m := by
  intro p hp
  have hlisted : ∀ text, p.default = some (.literal text) →
      ∃ d, m.ListsLiteral p.ident d ∧ d.text = text := fun text hdefault =>
    Method.exists_of_lists ((resolves.literal p.ident text).mp ⟨p, hp, rfl, hdefault⟩)
  constructor
  · cases hdefault : p.default with
    | none =>
        intro v hv
        rw [hdefault] at hv
        cases hv
    | some v =>
        cases v with
        | zero => exact Parameter.defaultReads_of_zero hdefault
        | literal text =>
            obtain ⟨d, hd, rfl⟩ := hlisted text hdefault
            obtain ⟨-, -, hlexed⟩ := Method.exists_written lexed hd
            exact Parameter.defaultReads_of_literal hlexed hdefault
  · intro text hdefault
    obtain ⟨d, hd, rfl⟩ := hlisted text hdefault
    obtain ⟨front, written, hlexed⟩ := Method.exists_written lexed hd
    obtain ⟨input, -, hinput⟩ := exists_of_forall₂_right resolves.params hp
    have hquery := hinput.default (by rw [hdefault]; rfl)
    exact ⟨d, hd, rfl, DefaultLiteral.renders_fallback written,
      Parameter.argument_of_literal hlexed hquery hdefault⟩

/-- Every literal that a list of defaults accepts reads as an expression, which is the literal.
A service that was resolved takes these expressions over, and stops in the same way as it does
without its defaults, or does not stop. -/
theorem accepted_defaults_render (o : Options) :
    (∀ ts entries, (∀ t ∈ ts, t.IsLexed) → DefaultEntry.parse ts = .ok entries →
      ∃ ws, DefaultList 2 ts ws ∧ entries.Perm (ws.map ListedDefault.entry) ∧
        ∀ i d, ⟨i, some d⟩ ∈ ws → ∀ name,
          Synthesis.fallback name d.text = .ok d.fallback ∧ d.fallback.Renders d) ∧
    ∀ (d : Declaration) (s : Service), (∀ m ∈ d.methods, m.DefaultsLexed) →
      d.resolve o = .ok s →
        (∀ suffix, StopsAlike (s.render suffix) (s.withoutDefaults.render suffix)) ∧
        List.Forall₂ (fun m h => ∀ p ∈ h.params, p.TakesLiteral m) d.methods s.handlers := by
  constructor
  · intro ts entries lexed accepted
    obtain ⟨ws, list, -⟩ := DefaultEntry.exists_parse_iff.mp ⟨entries, accepted⟩
    refine ⟨ws, list, (DefaultEntry.parse_of_list list accepted).1, fun i d hd name => ?_⟩
    obtain ⟨front, written, hsub⟩ := list.written_of_mem hd
    have hlexed := DefaultLiteral.isLexed_of_written written fun t ht => lexed t (hsub ht)
    exact ⟨DefaultLiteral.fallback_text hlexed name, DefaultLiteral.renders_fallback written⟩
  · intro d s lexed resolved
    obtain ⟨-, hhandlers⟩ := resolve_resolves resolved
    have hall : List.Forall₂ (fun m h => ∀ p ∈ h.params, p.DefaultReads ∧ p.TakesLiteral m)
        d.methods s.handlers := by
      obtain ⟨hlength, hpairs⟩ := List.forall₂_iff_zip.mp hhandlers
      refine List.forall₂_iff_zip.mpr ⟨hlength, fun hmem => ?_⟩
      exact (hpairs hmem).literals (lexed _ (List.of_mem_zip hmem).1)
    refine ⟨Service.render_withoutDefaults fun h hh p hp => ?_, hall.imp fun m h hm p hp =>
      (hm p hp).2⟩
    obtain ⟨m, -, hm⟩ := exists_of_forall₂_right hall hh
    exact (hm p hp).1

/-- Two defaults, a negative number and a string. -/
def paged : List Token := (lex "page = -1, title = \"all\"").getD []

/-- A trait with a method that has these defaults. -/
def pager : Declaration :=
  .named (.spelled "IPager") [
    .named [⟨false, [.spelled "default_value"], .list .paren paged⟩] (.spelled "list") [
      .named (.spelled "page") (.named (.spelled "i32")),
      .named (.spelled "title") (.named (.spelled "String"))]]

theorem paged_lexed : ∀ t ∈ paged, t.IsLexed := by
  have hlex : (lex "page = -1, title = \"all\"").isSome = true := by decide +kernel
  obtain ⟨ts, hts⟩ := Option.isSome_iff_exists.mp hlex
  rw [paged, hts]
  exact isLexed_lex hts

theorem parse_paged :
    DefaultEntry.parse paged = .ok [⟨.spelled "page", some "-1"⟩,
      ⟨.spelled "title", some "\"all\""⟩] := by
  have hrun : (DefaultEntry.parse paged).toOption = some [⟨.spelled "page", some "-1"⟩,
      ⟨.spelled "title", some "\"all\""⟩] := by
    decide +kernel
  cases hparse : DefaultEntry.parse paged with
  | error fault => rw [hparse] at hrun; cases hrun
  | ok entries =>
      rw [hparse] at hrun
      rw [Option.some.inj hrun]

theorem pager_lexed : ∀ m ∈ pager.methods, m.DefaultsLexed := by
  intro m hm a ha hnamed ts hts
  obtain rfl := List.mem_singleton.mp hm
  obtain rfl := List.mem_singleton.mp ha
  obtain rfl := Except.ok.inj hts
  exact paged_lexed

theorem accepted_defaults_render_pager :
    (∃ ws, DefaultList 2 paged ws ∧
      [(⟨.spelled "page", some "-1"⟩ : DefaultEntry), ⟨.spelled "title", some "\"all\""⟩].Perm
        (ws.map ListedDefault.entry)) ∧
    ∃ s m h, pager.resolve {} = .ok s ∧ pager.methods = [m] ∧ s.handlers = [h] ∧
      h.params.map (·.default) = [some (.literal "-1"), some (.literal "\"all\"")] ∧
      StopsAlike (s.render "Controller") (s.withoutDefaults.render "Controller") ∧
      ∀ p ∈ h.params, p.TakesLiteral m := by
  obtain ⟨accepted, resolved⟩ := accepted_defaults_render {}
  obtain ⟨ws, list, entries, -⟩ := accepted paged _ paged_lexed parse_paged
  have hrun : pager.rendersTo (fun s => s.handlers.map (fun h => h.params.map (·.default))
      == [[some (.literal "-1"), some (.literal "\"all\"")]]) = true := by
    decide +kernel
  obtain ⟨s, a, hs, -, hcheck⟩ := Declaration.exists_of_rendersTo hrun
  obtain ⟨h, hh, hparams⟩ := List.map_eq_singleton_iff.mp (beq_iff_eq.mp hcheck)
  obtain ⟨alike, hall⟩ := resolved pager s pager_lexed hs
  rw [hh] at hall
  cases hall with
  | cons hm _ => exact ⟨⟨ws, list, entries⟩, s, _, h, hs, rfl, hh, hparams, alike _, hm⟩

end TraitRoutes
