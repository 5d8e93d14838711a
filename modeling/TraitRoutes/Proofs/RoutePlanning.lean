import TraitRoutes.Proofs.RouteCaptures

/-!
# Planning of routes

A method is refused if its route differs from an earlier one in nothing but the names of
captures, and what is compared for that are texts: the routes with blank names. All of
them begin with the same prefix and the suffix of a method has no slash, so the text up
to the first slash behind the prefix is the suffix, and what follows is three characters
for each capture. Hence two such texts are equal exactly if suffix and number of captures
are, whatever the prefix is.

The shapes that were seen are pairwise different at every step. This is why the first
repetition has one earlier method to repeat and not several.
-/

namespace TraitRoutes

/-! ## The text of a route -/

namespace Naming

/-- What a route begins with: the prefix without the slashes at its end, and with one in
front of it if it has none. -/
def routeBase (routePrefix : String) : List Char :=
  let base := trimEnd '/' routePrefix.toList
  match base with
  | [] => []
  | '/' :: _ => base
  | _ => '/' :: base

theorem routeTemplate_eq (routePrefix suffix : String) (names : List String) :
    routeTemplate routePrefix suffix names
      = String.ofList (routeBase routePrefix) ++ "/" ++ suffix
        ++ String.join (names.map capture) :=
  rfl

theorem trimEnd_eq_self {cs : List Char} (h : cs.getLast? ≠ some '/') : trimEnd '/' cs = cs := by
  have hself : cs.rdropWhile (· == '/') = cs := by
    refine List.rdropWhile_eq_self_iff.mpr fun hne hlast => h ?_
    rw [List.getLast?_eq_some_getLast hne, eq_of_beq hlast]
  exact hself

/-- One slash in front and none behind, unless the slash is all there is. -/
def IsNormal (routePrefix : String) : Prop :=
  ∃ rest, routePrefix.toList = '/' :: rest ∧ rest.head? ≠ some '/' ∧ rest.getLast? ≠ some '/'

/-- A prefix that begins with a slash and ends with none is taken as it is. -/
theorem routeBase_of_isNormal {routePrefix : String} (h : IsNormal routePrefix) :
    String.ofList (routeBase routePrefix) = if routePrefix = "/" then "" else routePrefix := by
  obtain ⟨rest, hchars, -, hlast⟩ := h
  cases rest with
  | nil =>
      obtain rfl : routePrefix = "/" := String.toList_inj.mp hchars
      rfl
  | cons c rest =>
      have hself : trimEnd '/' routePrefix.toList = '/' :: c :: rest := by
        rw [hchars]
        exact trimEnd_eq_self (by rwa [List.getLast?_cons_cons])
      have hne : routePrefix ≠ "/" := by
        rintro rfl
        cases hchars
      rw [routeBase, hself, if_neg hne]
      exact String.toList_inj.mp (String.toList_ofList.trans hchars.symm)

theorem isNormal_normalizePrefix (text : String) : IsNormal (normalizePrefix text) := by
  have hbare := bare_strip (· == '/') (Unicode.trim text.toList)
  exact ⟨_, String.toList_ofList, fun hhead => absurd (hbare.head '/' hhead) (by decide),
    fun hlast => absurd (hbare.last '/' hlast) (by decide)⟩

theorem isNormal_defaultPrefix {name : String} (legal : Ident.isLegal name.toList = true) :
    IsNormal (defaultPrefix name) := by
  have hlower := Unicode.isLegal_lowerText (isLegal_stripMarker legal)
  refine ⟨"api/".toList ++ Unicode.lowerText (stripMarker name).toList, ?_, ?_, ?_⟩
  · simp [defaultPrefix]
  · simp
  · cases hcs : Unicode.lowerText (stripMarker name).toList with
    | nil => rw [hcs] at hlower; cases hlower
    | cons c cs =>
        rw [List.getLast?_append_of_ne_nil _ (List.cons_ne_nil c cs), ← hcs]
        intro hlast
        have hall := List.all_eq_true.mp (Ident.all_of_isLegal hlower) _
          (List.mem_of_getLast? hlast)
        exact absurd hall (by decide)

end Naming

/-! ## Shapes -/

namespace Handler

/-- The routes of two methods differ at most in the names of their captures. -/
def Clashes (g h : Handler) : Prop :=
  g.routeSuffix = h.routeSuffix ∧ (g.boundTo .route).length = (h.boundTo .route).length

instance (g h : Handler) : Decidable (g.Clashes h) := inferInstanceAs (Decidable (_ ∧ _))

end Handler

theorem Template.head?_ending (names : List String) : ∀ c ∈ (ending names).head?, c = '/' := by
  cases names with
  | nil => exact fun c hc => by cases hc
  | cons name rest => exact fun c hc => (Option.some.inj hc).symm

theorem Template.length_ending_blank {α : Type} (xs : List α) :
    (ending (xs.map fun _ => "")).length = 3 * xs.length := by
  induction xs with
  | nil => rfl
  | cons x rest ih =>
      have hblank : ending ((x :: rest).map fun _ => "")
          = "/\x7b\x7d".toList ++ ending (rest.map fun _ => "") := rfl
      rw [hblank, List.length_append, ih, List.length_cons]
      show 3 + 3 * rest.length = 3 * (rest.length + 1)
      omega

namespace Handler

theorem not_slash_routeSuffix (h : Handler) : '/' ∉ h.routeSuffix.toList := fun hmem =>
  absurd (List.all_eq_true.mp (Naming.all_routeSuffix h.ident.legal) _ hmem) (by decide)

/-- Blank routes are equal exactly if suffixes and numbers of captures are. -/
theorem routeShape_eq_iff (routePrefix : String) (g h : Handler) :
    g.routeShape routePrefix = h.routeShape routePrefix ↔ g.Clashes h := by
  have hlength : ∀ h : Handler, h.captures.length = (h.boundTo .route).length := fun h =>
    List.length_map _
  rw [Clashes, ← hlength, ← hlength, routeShape, routeShape, Naming.routeTemplate_eq,
    Naming.routeTemplate_eq]
  constructor
  · intro heq
    simp only [String.append_assoc, String.append_right_inj] at heq
    have htext := congrArg String.toList heq
    rw [String.toList_append, String.toList_append, Template.toList_join_capture,
      Template.toList_join_capture] at htext
    have hsuffix : g.routeSuffix.toList = h.routeSuffix.toList := by
      have hcut := congrArg (List.takeWhile (· != '/')) htext
      rwa [(span_before g.not_slash_routeSuffix (Template.head?_ending _)).1,
        (span_before h.not_slash_routeSuffix (Template.head?_ending _)).1] at hcut
    refine ⟨String.toList_inj.mp hsuffix, ?_⟩
    have hcaptures := congrArg List.length htext
    rw [hsuffix, List.length_append, List.length_append, Template.length_ending_blank,
      Template.length_ending_blank] at hcaptures
    omega
  · rintro ⟨hsuffix, hcaptures⟩
    rw [hsuffix, List.map_const', List.map_const', hcaptures]

end Handler

/-! ## The first repetition -/

namespace Service

/-- The method at `j` has the route of the method at `i`, which comes before it. -/
def Repeats (s : Service) (i j : Nat) : Prop :=
  i < j ∧ ∃ g h, s.handlers[i]? = some g ∧ s.handlers[j]? = some h ∧ g.Clashes h

/-- What planning has seen behind the given methods, the last one first. -/
def entriesOf (routePrefix : String) (hs : List Handler) : List (String × String) :=
  (hs.map fun h => (h.routeShape routePrefix, h.name)).reverse

/-- Planning stops at the first method whose shape was seen, either among the methods in
front of it or before all of them. -/
theorem planFrom_error_iff {routePrefix : String} {fault : Fault} {hs : List Handler} :
    ∀ {seen : List (String × String)},
      planFrom routePrefix seen hs = .error fault ↔
        ∃ before h after first, hs = before ++ h :: after ∧
          (∃ paths, planFrom routePrefix seen before = .ok paths) ∧
          (entriesOf routePrefix before ++ seen).lookup (h.routeShape routePrefix) = some first ∧
          fault = .duplicateRoute (h.route routePrefix) first h.name := by
  induction hs with
  | nil =>
      intro seen
      constructor
      · intro h
        cases h
      · rintro ⟨before, h, after, first, hsplit, -⟩
        cases before <;> cases hsplit
  | cons g rest ih =>
      intro seen
      have hstep : ∀ hs : List Handler,
          entriesOf routePrefix hs ++ (g.routeShape routePrefix, g.name) :: seen
            = entriesOf routePrefix (g :: hs) ++ seen := by
        intro hs
        rw [entriesOf, entriesOf, List.map_cons, List.reverse_cons, List.append_assoc]
        rfl
      constructor
      · intro h
        rw [planFrom] at h
        split at h
        · next first hfirst =>
            exact ⟨[], g, rest, first, rfl, ⟨[], rfl⟩, hfirst, (Except.error.inj h).symm⟩
        · next hfresh =>
            rcases bind_error_iff.mp h with h | ⟨paths, -, h⟩
            · obtain ⟨before, m, after, first, rfl, ⟨paths, hpaths⟩, hseen, hfault⟩ := ih.mp h
              rw [hstep] at hseen
              refine ⟨g :: before, m, after, first, rfl, ⟨g.route routePrefix :: paths, ?_⟩, hseen,
                hfault⟩
              rw [planFrom, hfresh]
              exact bind_ok_iff.mpr ⟨paths, hpaths, rfl⟩
            · cases h
      · rintro ⟨before, h, after, first, hsplit, ⟨paths, hpaths⟩, hseen, rfl⟩
        cases before with
        | nil =>
            obtain ⟨rfl, rfl⟩ := List.cons.inj hsplit
            rw [planFrom, show seen.lookup (g.routeShape routePrefix) = some first from hseen]
        | cons g' before =>
            obtain ⟨rfl, rfl⟩ := List.cons.inj hsplit
            rw [planFrom] at hpaths ⊢
            split at hpaths
            · cases hpaths
            · next hfresh =>
                obtain ⟨paths', hpaths', -⟩ := bind_ok_iff.mp hpaths
                rw [← hstep] at hseen
                exact bind_error_iff.mpr (.inl (ih.mpr ⟨before, h, after, first, rfl,
                  ⟨paths', hpaths'⟩, hseen, rfl⟩))

theorem lookup_entriesOf {routePrefix shape name : String} {hs : List Handler}
    (h : (entriesOf routePrefix hs).lookup shape = some name) :
    ∃ g ∈ hs, g.routeShape routePrefix = shape ∧ g.name = name := by
  obtain ⟨before, after, hsplit, -⟩ := List.lookup_eq_some_iff.mp h
  have hmem : (shape, name) ∈ entriesOf routePrefix hs :=
    hsplit ▸ List.mem_append_right before List.mem_cons_self
  obtain ⟨g, hg, hentry⟩ := List.mem_map.mp (List.mem_reverse.mp hmem)
  obtain ⟨hshape, hname⟩ := Prod.mk.inj hentry
  exact ⟨g, hg, hshape, hname⟩

/-- Where shapes are pairwise different, no method repeats another. -/
theorem not_repeats_of_nodup {s : Service} {i j n : Nat} (hj : j < n)
    (distinct : ((s.handlers.take n).map (Handler.routeShape s.routePrefix)).Nodup) :
    ¬ s.Repeats i j := by
  rintro ⟨hij, g, h, hg, hh, hclash⟩
  have hshape : ∀ {k : Nat} {h : Handler}, k < n → s.handlers[k]? = some h →
      ((s.handlers.take n).map (Handler.routeShape s.routePrefix))[k]?
        = some (h.routeShape s.routePrefix) := by
    intro k h hk hh
    rw [List.getElem?_map, List.getElem?_take_of_lt hk, hh]
    rfl
  have hsame := (Handler.routeShape_eq_iff s.routePrefix g h).mpr hclash
  have hi := hshape (hij.trans hj) hg
  have hlt := (List.getElem?_eq_some_iff.mp hi).1
  have := (List.getElem?_inj hlt distinct).mp (hi.trans (hsame ▸ (hshape hj hh).symm))
  omega

/-- The first method that repeats an earlier one stands at `j`, and the one that it repeats,
of which there is no second, at `i`. -/
structure RepeatsFirst (s : Service) (i j : Nat) : Prop where
  repeats : s.Repeats i j
  first : ∀ i' j', s.Repeats i' j' → j ≤ j'
  only : ∀ i', s.Repeats i' j → i' = i

theorem not_repeats_of_planRoutes {s : Service} {paths : List String}
    (h : s.planRoutes = .ok paths) (i j : Nat) : ¬ s.Repeats i j := by
  intro hrepeats
  obtain ⟨-, distinct, -⟩ := planFrom_ok h
  obtain ⟨-, g, h, -, hh, -⟩ := id hrepeats
  refine not_repeats_of_nodup (List.getElem?_eq_some_iff.mp hh).1 ?_ hrepeats
  rwa [List.take_length]

/-- The fault of a service is about its first repetition. -/
theorem repeatsFirst_of_planRoutes {s : Service} {fault : Fault}
    (h : s.planRoutes = .error fault) :
    ∃ i j g h, s.handlers[i]? = some g ∧ s.handlers[j]? = some h ∧ s.RepeatsFirst i j ∧
      fault = .duplicateRoute (h.route s.routePrefix) g.name h.name := by
  obtain ⟨before, m, after, first, hsplit, ⟨paths, hpaths⟩, hseen, rfl⟩ := planFrom_error_iff.mp h
  rw [List.append_nil] at hseen
  obtain ⟨g, hg, hshape, rfl⟩ := lookup_entriesOf hseen
  obtain ⟨i, hi⟩ := List.mem_iff_getElem?.mp hg
  have hlt : i < before.length := (List.getElem?_eq_some_iff.mp hi).1
  have hbefore : ∀ {k : Nat}, k < before.length → s.handlers[k]? = before[k]? := fun hk => by
    rw [hsplit, List.getElem?_append_left hk]
  have hj : s.handlers[before.length]? = some m := by
    rw [hsplit, List.getElem?_append_right (le_refl _), Nat.sub_self]
    rfl
  obtain ⟨-, distinct, -⟩ := planFrom_ok hpaths
  have hclash : g.Clashes m := (Handler.routeShape_eq_iff _ g m).mp hshape
  have hgi : s.handlers[i]? = some g := (hbefore hlt).trans hi
  refine ⟨i, before.length, g, m, hgi, hj, ⟨⟨hlt, g, m, hgi, hj, hclash⟩, ?_, ?_⟩, rfl⟩
  · intro i' j' hrepeats
    by_contra hless
    refine not_repeats_of_nodup (Nat.lt_of_not_le hless) ?_ hrepeats
    rwa [hsplit, List.take_left]
  · rintro i' ⟨hlt', g', m', hg', hm', hclash'⟩
    obtain rfl := Option.some.inj (hj.symm.trans hm')
    have hsame : g'.routeShape s.routePrefix = g.routeShape s.routePrefix :=
      ((Handler.routeShape_eq_iff _ g' m).mpr hclash').trans hshape.symm
    refine (List.getElem?_inj (by rwa [List.length_map]) distinct).mp ?_
    rw [List.getElem?_map, List.getElem?_map, ← hbefore hlt', hg', hi, Option.map_some,
      Option.map_some, hsame]

theorem planRoutes_error_iff {s : Service} {fault : Fault} :
    s.planRoutes = .error fault ↔
      ∃ i j g h, s.handlers[i]? = some g ∧ s.handlers[j]? = some h ∧ s.RepeatsFirst i j ∧
        fault = .duplicateRoute (h.route s.routePrefix) g.name h.name := by
  refine ⟨repeatsFirst_of_planRoutes, ?_⟩
  rintro ⟨i, j, g, h, hg, hh, hfirst, rfl⟩
  cases hplan : s.planRoutes with
  | ok paths => exact absurd hfirst.repeats (not_repeats_of_planRoutes hplan i j)
  | error fault =>
      obtain ⟨i', j', g', h', hg', hh', hfirst', rfl⟩ := repeatsFirst_of_planRoutes hplan
      obtain rfl : j' = j :=
        le_antisymm (hfirst'.first _ _ hfirst.repeats) (hfirst.first _ _ hfirst'.repeats)
      obtain rfl : i' = i := hfirst.only _ hfirst'.repeats
      rw [Option.some.inj (hg'.symm.trans hg), Option.some.inj (hh'.symm.trans hh)]

theorem planRoutes_ok_iff {s : Service} {paths : List String} :
    s.planRoutes = .ok paths ↔
      (∀ i j, ¬ s.Repeats i j) ∧ paths = s.handlers.map (Handler.route s.routePrefix) := by
  constructor
  · intro h
    exact ⟨not_repeats_of_planRoutes h, (planFrom_ok h).1⟩
  · rintro ⟨hno, rfl⟩
    cases hplan : s.planRoutes with
    | ok paths => rw [(planFrom_ok hplan).1]
    | error fault =>
        obtain ⟨i, j, -, -, -, -, hfirst, -⟩ := repeatsFirst_of_planRoutes hplan
        exact absurd hfirst.repeats (hno i j)

end Service

/-! ## Resolved services -/

theorem Declaration.isNormal_routePrefix {o : Options} {d : Declaration} {s : Service}
    (resolved : d.resolve o = .ok s) : Naming.IsNormal s.routePrefix := by
  rcases routePrefix_of_resolve resolved with ⟨text, -, heq⟩ | ⟨-, heq⟩
  · rw [heq]
    exact Naming.isNormal_normalizePrefix text
  · rw [heq]
    exact Naming.isNormal_defaultPrefix d.ident.legal

namespace Service

/-- The route of a handler below the prefix of its service, with the given names in the
braces of its captures. -/
def routeWith (s : Service) (h : Handler) (names : List String) : String :=
  (if s.routePrefix = "/" then "" else s.routePrefix) ++ "/" ++ h.routeSuffix
    ++ String.join (names.map fun name => "/\x7b" ++ name ++ "\x7d")

/-- What the routes of a service are that was resolved from the declaration. -/
structure PlannedFor (d : Declaration) (s : Service) (paths : List String) : Prop where
  /-- The prefix is the one that was given, in normal form, or is made from the name. -/
  origin : (∃ text, Helper.prefixIn d.attrs = .ok (some text) ∧
      s.routePrefix = Naming.normalizePrefix text) ∨
    Helper.prefixIn d.attrs = .ok none ∧ s.routePrefix = Naming.defaultPrefix d.name
  normal : Naming.IsNormal s.routePrefix
  paths : paths = s.handlers.map fun h => s.routeWith h ((h.boundTo .route).map Parameter.name)
  /-- Without the names of captures they are different. -/
  distinct : (s.handlers.map fun h =>
    s.routeWith h ((h.boundTo .route).map fun _ => "")).Nodup

theorem plannedFor_of_resolve {o : Options} {d : Declaration} {s : Service} {paths : List String}
    (resolved : d.resolve o = .ok s) (h : s.planRoutes = .ok paths) : s.PlannedFor d paths := by
  have normal := Declaration.isNormal_routePrefix resolved
  have hroute : ∀ (h : Handler) (names : List String),
      Naming.routeTemplate s.routePrefix h.routeSuffix names = s.routeWith h names := by
    intro h names
    rw [Naming.routeTemplate_eq, Naming.routeBase_of_isNormal normal]
    rfl
  obtain ⟨rfl, distinct, -⟩ := planFrom_ok h
  refine ⟨Declaration.routePrefix_of_resolve resolved, normal, ?_, ?_⟩
  · exact List.map_congr_left fun h _ => hroute h _
  · have hshape : ∀ h : Handler, h.routeShape s.routePrefix
        = s.routeWith h ((h.boundTo .route).map fun _ => "") := by
      intro h
      rw [Handler.routeShape, Handler.captures, List.map_map, hroute]
      rfl
    rwa [List.map_congr_left fun h _ => hshape h] at distinct

/-- Planning fails exactly if a method repeats an earlier one, and then it names the first
that does, with its route, and the only one that it repeats. Otherwise each method has its
route, which for a resolved service is the prefix, if it is more than a slash, the suffix
and the captures, and no two are the same with the names of the captures left out. -/
theorem planRoutes_decides (s : Service) :
    ((∃ fault, s.planRoutes = .error fault) ↔ ∃ i j, s.Repeats i j) ∧
    (∀ fault, s.planRoutes = .error fault ↔
      ∃ i j g h, s.handlers[i]? = some g ∧ s.handlers[j]? = some h ∧ s.RepeatsFirst i j ∧
        fault = .duplicateRoute (h.route s.routePrefix) g.name h.name) ∧
    (∀ paths, s.planRoutes = .ok paths ↔
      (∀ i j, ¬ s.Repeats i j) ∧ paths = s.handlers.map (Handler.route s.routePrefix)) ∧
    ∀ (o : Options) (d : Declaration) (paths : List String), d.resolve o = .ok s →
      s.planRoutes = .ok paths → s.PlannedFor d paths := by
  refine ⟨?_, fun fault => planRoutes_error_iff, fun paths => planRoutes_ok_iff,
    fun o d paths => plannedFor_of_resolve⟩
  constructor
  · rintro ⟨fault, h⟩
    obtain ⟨i, j, -, -, -, -, hfirst, -⟩ := planRoutes_error_iff.mp h
    exact ⟨i, j, hfirst.repeats⟩
  · rintro ⟨i, j, hrepeats⟩
    cases hplan : s.planRoutes with
    | ok paths => exact absurd hrepeats ((planRoutes_ok_iff.mp hplan).1 i j)
    | error fault => exact ⟨fault, rfl⟩

end Service

/-- A trait at the root with two methods that have one route, and one between them. -/
def twoSpellings : Declaration :=
  { Declaration.named (.spelled "IItems") [
      .named [] (.spelled "get_item") [.named (.spelled "id") (.named (.spelled "i64"))],
      .named [] (.spelled "list") [],
      .named [] (.spelled "getItem") [.named (.spelled "item_key") (.named (.spelled "String"))]] with
    attrs := [⟨false, [.spelled "route_prefix"], .list .paren [.literal ⟨.string, "\"/\""⟩]⟩] }

/-- The same trait with the last method renamed. -/
def oneSpelling : Declaration :=
  { twoSpellings with
    methods := twoSpellings.methods.take 2
      ++ [.named [] (.spelled "peek") [.named (.spelled "item_key") (.named (.spelled "String"))]] }

theorem planRoutes_decides_spellings :
    (∃ s, twoSpellings.resolve {} = .ok s ∧
      s.planRoutes = .error (.duplicateRoute "/get-item/\x7bitem_key\x7d" "get_item" "getItem") ∧
      ∃ i j, s.RepeatsFirst i j) ∧
    ∃ s, oneSpelling.resolve {} = .ok s ∧ s.PlannedFor oneSpelling
      ["/get-item/\x7bid\x7d", "/list", "/peek/\x7bitem_key\x7d"] := by
  have htwo : (twoSpellings.resolve {}).toOption.map Service.planRoutes
      = some (.error (.duplicateRoute "/get-item/\x7bitem_key\x7d" "get_item" "getItem")) := by
    decide +kernel
  have hone : (oneSpelling.resolve {}).toOption.map Service.planRoutes
      = some (.ok ["/get-item/\x7bid\x7d", "/list", "/peek/\x7bitem_key\x7d"]) := by
    decide +kernel
  obtain ⟨s, hs, hplan⟩ := Declaration.exists_of_resolve htwo
  obtain ⟨t, ht, hroutes⟩ := Declaration.exists_of_resolve hone
  obtain ⟨i, j, -, -, -, -, hfirst, -⟩ := ((Service.planRoutes_decides s).2.1 _).mp hplan
  exact ⟨⟨s, hs, hplan, i, j, hfirst⟩, t, ht,
    (Service.planRoutes_decides t).2.2.2 {} oneSpelling _ ht hroutes⟩

end TraitRoutes
