import Mathlib.Data.List.Nodup
import TraitRoutes.Proofs.PlainNames
import TraitRoutes.Proofs.RenderedServices

/-!
# The types that a controller defines

The module of a controller defines a structure for each query string and one for the
controller itself, and it sees everything that stands around the trait. So these names
should differ from each other and from the types that the methods of the trait name.

Nothing sees to it. A query structure is named after its method in pascal case, which
forgets underscores and capitals, while the routes that are compared before keep the
words of the name and count the captures. Two methods with one such name are accepted
whenever their routes differ, and what types the methods name is never looked at. The
structure of the controller cannot be in the way of a query structure, as they end
differently, and plain method names do keep their query structures apart.
-/

namespace TraitRoutes

/-! ## Names of types -/

/-- The name that a path is, if it has one segment. -/
def Path.name? : Path → Option String
  | .mk false [.mk ident _] => some ident.name
  | _ => none

mutual

/-- The types of one segment that a piece of syntax names. An expression that is a path
of one segment names a value. -/
def Node.typeNames : Node → List String
  | .mk (.expr .path) attrs (.type (.path p) :: rest) =>
    Node.typeNamesEach attrs ++ p.typeNames ++ Node.typeNamesEach rest
  | .mk _ attrs parts => Node.typeNamesEach attrs ++ Node.typeNamesEach parts
  | .type t => t.typeNames
  | .args a => a.typeNames
  | .bound b => b.typeNames

/-- The types that the pieces of syntax in a list name. -/
def Node.typeNamesEach : List Node → List String
  | [] => []
  | n :: rest => n.typeNames ++ Node.typeNamesEach rest

/-- The types that a fragment names. -/
def Fragment.typeNames : Fragment → List String
  | .mk node _ => node.typeNames

/-- The types of one segment that a type is or names. -/
def Ty.typeNames : Ty → List String
  | .path p => p.name?.toList ++ p.typeNames
  | .qualified self _ p => self.typeNames ++ p.typeNames
  | .tuple elems _ => Ty.typeNamesEach elems
  | .array elem length => elem.typeNames ++ length.typeNames
  | .slice elem | .pointer _ elem | .reference _ _ elem | .paren elem => elem.typeNames
  | .implTrait bounds _ | .traitObject _ bounds _ => Bound.typeNamesEach bounds
  | .never | .infer => []
  | .other fragment => fragment.typeNames

/-- The types that the types of a list are or name. -/
def Ty.typeNamesEach : List Ty → List String
  | [] => []
  | t :: rest => t.typeNames ++ Ty.typeNamesEach rest

/-- The types that a path names in its arguments. -/
def Path.typeNames : Path → List String
  | .mk _ segments => Segment.typeNamesEach segments

/-- The types that segments name in their arguments. -/
def Segment.typeNamesEach : List Segment → List String
  | [] => []
  | .mk _ args :: rest => args.typeNames ++ Segment.typeNamesEach rest

/-- The types that generic arguments name. -/
def GenericArgs.typeNames : GenericArgs → List String
  | .none => []
  | .angle _ args _ => GenericArg.typeNamesEach args
  | .paren inputs _ none => Ty.typeNamesEach inputs
  | .paren inputs _ (some output) => Ty.typeNamesEach inputs ++ output.typeNames

/-- The types that a generic argument names. -/
def GenericArg.typeNames : GenericArg → List String
  | .lifetime _ => []
  | .type t => t.typeNames
  | .const value => value.typeNames
  | .assocType _ args t => args.typeNames ++ t.typeNames
  | .assocConst _ args value => args.typeNames ++ value.typeNames
  | .constraint _ args bounds _ => args.typeNames ++ Bound.typeNamesEach bounds

/-- The types that the generic arguments of a list name. -/
def GenericArg.typeNamesEach : List GenericArg → List String
  | [] => []
  | a :: rest => a.typeNames ++ GenericArg.typeNamesEach rest

/-- The types that a bound names; the trait of the bound is none. -/
def Bound.typeNames : Bound → List String
  | .interface _ _ none path => path.typeNames
  | .interface _ _ (some binder) path => binder.typeNames ++ path.typeNames
  | .lifetime _ => []
  | .other fragment => fragment.typeNames

/-- The types that the bounds of a list name. -/
def Bound.typeNamesEach : List Bound → List String
  | [] => []
  | b :: rest => b.typeNames ++ Bound.typeNamesEach rest

end

/-- The types of one segment that a signature names. -/
def Signature.typeNames (sig : Signature) : List String :=
  sig.inputs.flatMap (fun input => input.ty.typeNames) ++ sig.output.toList.flatMap Ty.typeNames

/-- The types of one segment that the methods of a trait name. -/
def Declaration.typeNames (d : Declaration) : List String :=
  d.methods.flatMap fun m => m.sig.typeNames

/-- The types that the module of a controller defines. -/
def Controller.typeNames (c : Controller) : List String :=
  c.handlers.filterMap (fun fn => fn.query.map fun q => q.ident.name) ++ [c.unit.name]

/-- The types that a controller defines are told apart, from each other and from the
given names. -/
structure Controller.Hygienic (c : Controller) (named : List String) : Prop where
  distinct : c.typeNames.Nodup
  fresh : ∀ name ∈ c.typeNames, name ∉ named

/-! ## Generated names -/

/-- Whether a handler has a query structure. -/
def Handler.hasQuery (h : Handler) : Bool := !(h.boundTo .query).isEmpty

/-- The handlers of a service that have query structures. -/
def Service.queried (s : Service) : List Handler := s.handlers.filter Handler.hasQuery

namespace Synthesis

/-- A generated identifier has the name that it was made from. -/
theorem name_of_identOf {name : String} (hall : name.toList.all Unicode.isIdentContinue = true)
    {i : Ident} (h : identOf name = .ok i) : i.name = name := by
  have hhash : Unicode.isIdentContinue '#' = false := by decide
  unfold identOf at h
  split at h
  · next j hj =>
      obtain rfl := Except.ok.inj h
      unfold Ident.ofString? at hj
      split at hj
      · next rest heq =>
          rw [heq] at hall
          simp [hhash] at hall
      · unfold Ident.ofChars? at hj
        split at hj
        · obtain rfl := Option.some.inj hj
          exact String.ofList_toList
        · cases hj
  · cases h

theorem query_name {h : Handler} {fn : HandlerFn} (hfn : handlerFn h = .ok fn) :
    (fn.query.map fun q => q.ident.name)
      = if h.hasQuery then some (Naming.queryStructName h.name) else none := by
  obtain ⟨i, args, hi, -, rfl⟩ := handlerFn_ok_iff.mp hfn
  have hname := name_of_identOf (Naming.all_queryStructName h.isLegal_name) hi
  rw [← hname, Handler.hasQuery]
  dsimp only
  unfold queryStruct
  split
  · next hnil => rw [hnil]; rfl
  · next hne =>
      rw [List.isEmpty_eq_false_iff.mpr hne]
      rfl

theorem query_names {hs : List Handler} {fns : List HandlerFn}
    (h : List.Forall₂ (fun h fn => handlerFn h = .ok fn) hs fns) :
    fns.filterMap (fun fn => fn.query.map fun q => q.ident.name)
      = (hs.filter Handler.hasQuery).map fun h => Naming.queryStructName h.name := by
  induction h with
  | nil => rfl
  | @cons h fn hs fns hfn _ ih =>
      rw [List.filterMap_cons, List.filter_cons, query_name hfn, ih]
      cases h.hasQuery <;> rfl

end Synthesis

theorem Controller.OfService.typeNames_eq {s : Service} {suffix : String} {c : Controller}
    (hof : c.OfService s suffix)
    (hsuffix : suffix.toList.all Unicode.isIdentContinue = true) :
    c.typeNames = s.queried.map (fun h => Naming.queryStructName h.name)
      ++ [Naming.unitName s.name suffix] := by
  have hunit : c.unit.name = Naming.unitName s.name suffix :=
    Synthesis.name_of_identOf
      (Ident.all_of_isLegal (Naming.isLegal_unitName s.isLegal_name hsuffix)) hof.unit
  rw [typeNames, Synthesis.query_names hof.handlers, hunit]
  rfl

namespace Naming

theorem queryStructName_eq_iff {a b : String} :
    queryStructName a = queryStructName b ↔
      Text.pascalCase a.toList = Text.pascalCase b.toList := by
  constructor
  · intro h
    have hlist := congrArg String.toList h
    simp only [queryStructName, String.toList_append, String.toList_ofList] at hlist
    exact List.append_cancel_right hlist
  · intro h
    rw [queryStructName, h]
    rfl

/-- A controller and a query structure have different last letters. -/
theorem unitName_ne_queryStructName (interface method : String) :
    unitName interface "Controller" ≠ queryStructName method := by
  intro h
  have hlast := congrArg (fun name => name.toList.getLast?) h
  simp [unitName, queryStructName, String.toList_append] at hlast

end Naming

/-! ## Hygiene -/

theorem Controller.OfService.hygienic_iff {s : Service} {c : Controller} {named : List String}
    (hof : c.OfService s "Controller") :
    c.Hygienic named ↔
      (s.queried.map fun h => Text.pascalCase h.name.toList).Nodup ∧
        (∀ h ∈ s.queried, Naming.queryStructName h.name ∉ named) ∧
        Naming.unitName s.name "Controller" ∉ named := by
  have hnames := hof.typeNames_eq (by decide)
  have hqueries : (s.queried.map fun h => Naming.queryStructName h.name).Nodup ↔
      (s.queried.map fun h => Text.pascalCase h.name.toList).Nodup := by
    simp only [List.Nodup, List.pairwise_map, ne_eq, Naming.queryStructName_eq_iff]
  have hunit : (s.queried.map fun h => Naming.queryStructName h.name).Disjoint
      [Naming.unitName s.name "Controller"] := by
    intro name hname hname'
    obtain ⟨h, -, rfl⟩ := List.mem_map.mp hname
    exact Naming.unitName_ne_queryStructName _ _ (List.mem_singleton.mp hname').symm
  constructor
  · rintro ⟨hdistinct, hfresh⟩
    rw [hnames] at hdistinct hfresh
    refine ⟨hqueries.mp (List.Nodup.of_append_left hdistinct), fun h hh => ?_, ?_⟩
    · exact hfresh _ (List.mem_append_left _ (List.mem_map_of_mem hh))
    · exact hfresh _ (List.mem_append_right _ (List.mem_singleton_self _))
  · rintro ⟨hdistinct, hfresh, hfresh'⟩
    refine ⟨?_, ?_⟩ <;> rw [hnames]
    · exact (hqueries.mpr hdistinct).append (List.nodup_singleton _) hunit
    · intro name hname
      rcases List.mem_append.mp hname with hname | hname
      · obtain ⟨h, hh, rfl⟩ := List.mem_map.mp hname
        exact hfresh h hh
      · exact List.mem_singleton.mp hname ▸ hfresh'

/-- Plain names of different methods give different query structures. -/
theorem Service.nodup_of_isPlain {s : Service} (distinct : (s.handlers.map Handler.name).Nodup)
    (plain : ∀ h ∈ s.queried, Text.isPlain h.name.toList = true) :
    (s.queried.map fun h => Text.pascalCase h.name.toList).Nodup := by
  have hnames : (s.queried.map Handler.name).Nodup :=
    distinct.sublist (List.filter_sublist.map _)
  refine List.Nodup.map_on ?_ (List.Nodup.of_map _ hnames)
  intro h hh h' hh' heq
  have hname : h.name = h'.name :=
    String.toList_inj.mp (Text.pascalCase_inj (plain h hh) (plain h' hh') heq)
  exact List.inj_on_of_nodup_map hnames hh hh' hname

/-- Routes of one suffix differ in the number of captures. -/
theorem Service.routeSuffix_ne {s : Service}
    (shapes : (s.handlers.map (Handler.routeShape s.routePrefix)).Nodup) :
    s.handlers.Pairwise fun h h' =>
      h.routeSuffix = h'.routeSuffix → h.captures.length ≠ h'.captures.length := by
  refine (List.pairwise_map.mp shapes).imp fun {h h'} hne hsuffix hlength => hne ?_
  rw [Handler.routeShape, Handler.routeShape, hsuffix, List.map_const', List.map_const', hlength]

/-- The types that a controller defines are told apart exactly if no two methods with
query parameters are called alike in pascal case and the trait names none of the types
itself. The first is so if the methods have plain names. Methods that are called alike
pass as long as the suffixes of their routes or the numbers of their captures differ. -/
theorem render_hygienic_iff {o : Options} {d : Declaration} {s : Service} {a : Artifact}
    (distinct : (d.methods.map fun m => m.sig.ident.name).Nodup)
    (resolved : d.resolve o = .ok s) (rendered : s.render "Controller" = .ok a) :
    ∃ c, s.controller "Controller" = .ok c ∧ a.source = c.source s.space ∧
      (c.Hygienic d.typeNames ↔
        (s.queried.map fun h => Text.pascalCase h.name.toList).Nodup ∧
          (∀ h ∈ s.queried, Naming.queryStructName h.name ∉ d.typeNames) ∧
          Naming.unitName s.name "Controller" ∉ d.typeNames) ∧
      ((∀ h ∈ s.queried, Text.isPlain h.name.toList = true) →
        (s.queried.map fun h => Text.pascalCase h.name.toList).Nodup) ∧
      s.handlers.Pairwise fun h h' =>
        h.routeSuffix = h'.routeSuffix → h.captures.length ≠ h'.captures.length := by
  obtain ⟨c, hc, hsource, hof⟩ := Service.controller_of_render rendered
  have hidents := Handler.idents_of_ofMethod (Declaration.ofDeclaration_of_resolve resolved).handlers
  have hnames : (s.handlers.map Handler.name).Nodup := by
    have hmap := congrArg (List.map Ident.name) hidents
    rw [List.map_map, List.map_map] at hmap
    exact hmap ▸ distinct
  exact ⟨c, hc, hsource, hof.hygienic_iff, Service.nodup_of_isPlain hnames,
    Service.routeSuffix_ne hof.shapes⟩

/-- A trait with two methods that are called alike but for an underscore, one of them
with a key. -/
def overload : Declaration :=
  .named (.plain "IOverload") [
    .named [] (.plain "get_item") [.named (.plain "limit") (.named (.plain "u32"))],
    .named [] (.plain "getItem") [
      .named (.plain "item_id") (.named (.plain "u32")),
      .named (.plain "limit") (.named (.plain "u32"))]]

theorem overload_rendered :
    ∃ s a, overload.resolve {} = .ok s ∧ s.render "Controller" = .ok a ∧
      ¬ (s.queried.map fun h => Text.pascalCase h.name.toList).Nodup := by
  have hrun : overload.rendersTo (fun s => decide
      (¬ (s.queried.map fun h => Text.pascalCase h.name.toList).Nodup)) = true := by
    decide +kernel
  obtain ⟨s, a, hs, ha, hcheck⟩ := Declaration.exists_of_rendersTo hrun
  exact ⟨s, a, hs, ha, of_decide_eq_true hcheck⟩

/-- Both query structures are called `GetItemQuery`. -/
theorem render_hygienic_iff_overload :
    ∃ s a c, overload.resolve {} = .ok s ∧ s.render "Controller" = .ok a ∧
      s.controller "Controller" = .ok c ∧ ¬ c.Hygienic overload.typeNames := by
  obtain ⟨s, a, hs, ha, hnot⟩ := overload_rendered
  obtain ⟨c, hc, -, hiff, -⟩ := render_hygienic_iff (by decide) hs ha
  exact ⟨s, a, c, hs, ha, hc, fun hygienic => hnot (hiff.mp hygienic).1⟩

/-- Not every trait of methods with different names has a hygienic controller. -/
theorem not_forall_hygienic :
    ¬ ∀ (d : Declaration) (s : Service) (a : Artifact) (c : Controller),
      (d.methods.map fun m => m.sig.ident.name).Nodup → d.resolve {} = .ok s →
      s.render "Controller" = .ok a → s.controller "Controller" = .ok c →
      c.Hygienic d.typeNames := by
  intro h
  obtain ⟨s, a, hs, ha, hnot⟩ := overload_rendered
  obtain ⟨c, hc, -, hof⟩ := Service.controller_of_render ha
  exact hnot (hof.hygienic_iff.mp (h overload s a c (by decide) hs ha hc)).1

end TraitRoutes
