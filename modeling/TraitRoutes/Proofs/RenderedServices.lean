import TraitRoutes.Proofs.Interruption
import TraitRoutes.Proofs.ResolvedServices

/-!
# What a rendered service is

A service that was rendered has passed every check, and its controller holds three
lists that were made from the same handlers in the same order: a function for each
handler, an entry in the documentation and a route. The routes that were planned are
nothing but the routes of the handlers; what planning adds is that no two of them have
one shape.
-/

namespace TraitRoutes

open Synthesis (handlerFn identOf endpointMeta)

/-- The controller is made from the service, which has passed every check. -/
structure Controller.OfService (s : Service) (suffix : String) (c : Controller) : Prop where
  interface : c.interface = s.ident
  unit : identOf (Naming.unitName s.name suffix) = .ok c.unit
  bodies : ∀ h ∈ s.handlers, h.checkBody = .ok ()
  shapes : (s.handlers.map (Handler.routeShape s.routePrefix)).Nodup
  handlers : List.Forall₂ (fun h fn => handlerFn h = .ok fn) s.handlers c.handlers
  endpoints : c.endpoints = s.handlers.map fun h => endpointMeta h (h.route s.routePrefix)
  routes : c.routes = s.handlers.map fun h => ⟨h.route s.routePrefix, h.verb, h.ident⟩

namespace Service

/-- Planned routes are the routes of the handlers, and no shape was seen before. -/
theorem planFrom_ok {routePrefix : String} {hs : List Handler} :
    ∀ {seen : List (String × String)} {paths : List String},
      planFrom routePrefix seen hs = .ok paths →
      paths = hs.map (Handler.route routePrefix) ∧
        (hs.map (Handler.routeShape routePrefix)).Nodup ∧
        ∀ h ∈ hs, seen.lookup (h.routeShape routePrefix) = none := by
  induction hs with
  | nil =>
      intro seen paths h
      obtain rfl := Except.ok.inj h
      exact ⟨rfl, .nil, by simp⟩
  | cons first rest ih =>
      intro seen paths h
      rw [planFrom] at h
      split at h
      · cases h
      · next hfresh =>
          obtain ⟨routes, hroutes, h⟩ := bind_ok_iff.mp h
          obtain rfl := Except.ok.inj h
          obtain ⟨rfl, hnodup, hseen⟩ := ih hroutes
          have hother : ∀ h ∈ rest, h.routeShape routePrefix ≠ first.routeShape routePrefix ∧
              seen.lookup (h.routeShape routePrefix) = none := by
            intro h hh
            have hlookup := hseen h hh
            rw [List.lookup_cons] at hlookup
            split at hlookup
            · cases hlookup
            · next hne => exact ⟨fun heq => by simp [heq] at hne, hlookup⟩
          refine ⟨rfl, List.nodup_cons.mpr ⟨?_, hnodup⟩, ?_⟩
          · intro hmem
            obtain ⟨h, hh, heq⟩ := List.mem_map.mp hmem
            exact (hother h hh).1 heq
          · intro h hh
            rcases List.mem_cons.mp hh with rfl | hh
            · exact hfresh
            · exact (hother h hh).2

theorem ofService_of_controller {s : Service} {suffix : String} {c : Controller}
    (h : s.controller suffix = .ok c) : c.OfService s suffix := by
  obtain ⟨paths, unit, module, fns, hbodies, hpaths, hunit, -, hfns, -, -, rfl⟩ :=
    controller_ok_iff.mp h
  obtain ⟨rfl, hshapes, -⟩ := planFrom_ok hpaths
  refine ⟨rfl, hunit, checkBody_of_checkBodies hbodies, hshapes, forall₂_of_mapM_ok hfns, ?_, ?_⟩
  all_goals
    simp only [← List.map_prod_left_eq_zip, List.map_map]
    rfl

theorem controller_of_render {s : Service} {suffix : String} {a : Artifact}
    (h : s.render suffix = .ok a) :
    ∃ c, s.controller suffix = .ok c ∧ a.source = c.source s.space ∧ c.OfService s suffix := by
  rw [render, bind_ok_iff] at h
  obtain ⟨c, hc, h⟩ := h
  dsimp only at h
  split at h
  · obtain rfl := Except.ok.inj h
    exact ⟨c, hc, rfl, ofService_of_controller hc⟩
  · cases h

end Service

/-! ## Evaluation -/

/-- Whether a trait is resolved and rendered under the default settings, into a service
that passes a check. -/
def Declaration.rendersTo (d : Declaration) (check : Service → Bool) : Bool :=
  match d.resolve {} with
  | .ok s => (s.render "Controller").toOption.isSome && check s
  | .error _ => false

theorem Declaration.exists_of_rendersTo {d : Declaration} {check : Service → Bool}
    (h : d.rendersTo check = true) :
    ∃ s a, d.resolve {} = .ok s ∧ s.render "Controller" = .ok a ∧ check s = true := by
  rw [rendersTo] at h
  split at h
  · next s hs =>
      obtain ⟨hrender, hcheck⟩ := Bool.and_eq_true_iff.mp h
      cases ha : s.render "Controller" with
      | error stop => rw [ha] at hrender; cases hrender
      | ok a => exact ⟨s, a, hs, ha, hcheck⟩
  · cases h

/-- What a trait resolves to under the default settings, known by what is computed from it. -/
theorem Declaration.exists_of_resolve {α : Type} {d : Declaration} {f : Service → α} {a : α}
    (h : (d.resolve {}).toOption.map f = some a) : ∃ s, d.resolve {} = .ok s ∧ f s = a :=
  exists_of_toOption h

/-- The identifier that a text spells. It comes without a proof that it is one, so that
declarations in which the same names occur do not depend on each other. -/
def Ident.spelled (text : String) : Ident := (Ident.ofString? text).getD default

/-- The type of a name. -/
def Ty.named (name : Ident) : Ty := .path (.ofIdent name)

/-- A parameter of a plain name. -/
def Input.named (name : Ident) (ty : Ty) : Input := ⟨⟨some name, false, [.name name]⟩, ty⟩

/-- An asynchronous method on `&self` without a result. -/
def Method.named (attrs : List Attribute) (name : Ident) (inputs : List Input) : Method where
  attrs := attrs
  sig := ⟨true, name, .empty, some ⟨true, false, false⟩, inputs, false, none⟩

/-- A trait of the crate that extends the marker. -/
def Declaration.named (name : Ident) (methods : List Method) : Declaration where
  ident := name
  space := "crate"
  attrs := []
  generics := .empty
  supertraits := ["DynamicController"]
  methods := methods
  location := ⟨"src/lib.rs", 1, 1⟩

end TraitRoutes
