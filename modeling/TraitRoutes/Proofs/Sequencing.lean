import Mathlib.Data.List.Forall2

/-!
# Steps that may stop

A computation that may stop goes on only behind steps that gave a result. So a
result has one for each step, and where it stopped, all steps before it gave
theirs. For a list this means a prefix of results and the element behind it,
which is how a fault in the middle of a trait or of a corpus is described
everywhere.
-/

namespace TraitRoutes

variable {α β ε : Type}

theorem bind_ok_iff {x : Except ε α} {f : α → Except ε β} {b : β} :
    x >>= f = .ok b ↔ ∃ a, x = .ok a ∧ f a = .ok b := by
  cases x with
  | error e => simp [bind, Except.bind]
  | ok a => simp [bind, Except.bind]

theorem bind_error_iff {x : Except ε α} {f : α → Except ε β} {e : ε} :
    x >>= f = .error e ↔ x = .error e ∨ ∃ a, x = .ok a ∧ f a = .error e := by
  cases x with
  | error e => simp [bind, Except.bind]
  | ok a => simp [bind, Except.bind]

theorem mapError_ok_iff {δ : Type} {x : Except ε α} {f : ε → δ} {a : α} :
    x.mapError f = .ok a ↔ x = .ok a := by
  cases x with
  | error e => constructor <;> intro h <;> cases h
  | ok b => constructor <;> intro h <;> cases h <;> rfl

theorem mapError_error_iff {δ : Type} {x : Except ε α} {f : ε → δ} {d : δ} :
    x.mapError f = .error d ↔ ∃ e, x = .error e ∧ d = f e := by
  cases x with
  | error e =>
      constructor
      · intro h
        exact ⟨e, rfl, (Except.error.inj h).symm⟩
      · rintro ⟨e', he, rfl⟩
        rw [Except.error.inj he]
        rfl
  | ok a =>
      constructor
      · intro h
        cases h
      · rintro ⟨e, he, -⟩
        cases he

theorem map_error_iff {x : Except ε α} {f : α → β} {e : ε} :
    x.map f = .error e ↔ x = .error e := by
  cases x with
  | error e' => exact ⟨fun h => Except.error.inj h ▸ rfl, fun h => Except.error.inj h ▸ rfl⟩
  | ok a => exact ⟨nofun, nofun⟩

/-- A computation gives a result if something is known to be computed from it. -/
theorem exists_of_toOption {x : Except ε α} {f : α → β} {b : β}
    (h : x.toOption.map f = some b) : ∃ a, x = .ok a ∧ f a = b := by
  cases x with
  | error e => cases h
  | ok a => exact ⟨a, rfl, Option.some.inj h⟩

theorem mapM_error_iff {f : α → Except ε β} {xs : List α} {e : ε} :
    xs.mapM f = .error e ↔
      ∃ before x after, xs = before ++ x :: after ∧ (∀ b ∈ before, ∃ y, f b = .ok y) ∧
        f x = .error e := by
  induction xs with
  | nil => simp [pure, Except.pure]
  | cons x rest ih =>
      rw [List.mapM_cons, bind_error_iff]
      constructor
      · rintro (hx | ⟨y, hy, hrest⟩)
        · exact ⟨[], x, rest, rfl, by simp, hx⟩
        · rcases bind_error_iff.mp hrest with hrest | ⟨ys, -, hpure⟩
          · obtain ⟨before, z, after, rfl, hbefore, hz⟩ := ih.mp hrest
            refine ⟨x :: before, z, after, rfl, ?_, hz⟩
            intro b hb
            rcases List.mem_cons.mp hb with rfl | hb
            · exact ⟨y, hy⟩
            · exact hbefore b hb
          · cases hpure
      · rintro ⟨before, z, after, hsplit, hbefore, hz⟩
        cases before with
        | nil =>
            obtain ⟨rfl, -⟩ := List.cons.inj hsplit
            exact .inl hz
        | cons b more =>
            obtain ⟨rfl, rfl⟩ := List.cons.inj hsplit
            obtain ⟨y, hy⟩ := hbefore x List.mem_cons_self
            have hrest := ih.mpr ⟨more, z, after, rfl,
              fun c hc => hbefore c (List.mem_cons_of_mem _ hc), hz⟩
            exact .inr ⟨y, hy, bind_error_iff.mpr (.inl hrest)⟩

theorem mapM_cons_ok {f : α → Except ε β} {x : α} {xs : List α} {ys : List β}
    (h : (x :: xs).mapM f = .ok ys) :
    ∃ y zs, f x = .ok y ∧ xs.mapM f = .ok zs ∧ ys = y :: zs := by
  rw [List.mapM_cons, bind_ok_iff] at h
  obtain ⟨y, hy, h⟩ := h
  obtain ⟨zs, hzs, h⟩ := bind_ok_iff.mp h
  exact ⟨y, zs, hy, hzs, (Except.ok.inj h).symm⟩

theorem forall₂_of_mapM_ok {f : α → Except ε β} {xs : List α} :
    ∀ {ys : List β}, xs.mapM f = .ok ys → List.Forall₂ (fun x y => f x = .ok y) xs ys := by
  induction xs with
  | nil =>
      intro ys h
      obtain rfl := Except.ok.inj h
      exact .nil
  | cons x rest ih =>
      intro ys h
      obtain ⟨y, zs, hy, hzs, rfl⟩ := mapM_cons_ok h
      exact .cons hy (ih hzs)

theorem exists_of_forall₂_right {r : α → β → Prop} {xs : List α} {ys : List β}
    (h : List.Forall₂ r xs ys) {y : β} (hy : y ∈ ys) : ∃ x ∈ xs, r x y := by
  induction h with
  | nil => cases hy
  | @cons x z xs zs hr _ ih =>
      rcases List.mem_cons.mp hy with rfl | hy
      · exact ⟨x, List.mem_cons_self, hr⟩
      · obtain ⟨x', hx', hr'⟩ := ih hy
        exact ⟨x', List.mem_cons_of_mem _ hx', hr'⟩

theorem exists_of_forall₂_left {r : α → β → Prop} {xs : List α} {ys : List β}
    (h : List.Forall₂ r xs ys) {x : α} (hx : x ∈ xs) : ∃ y ∈ ys, r x y :=
  exists_of_forall₂_right (List.Forall₂.flip (R := flip r) h) hx

theorem forall_mem_iff_of_forall₂ {r : α → β → Prop} {p : α → Prop} {q : β → Prop} {xs : List α}
    {ys : List β} (h : List.Forall₂ r xs ys) (hr : ∀ x y, r x y → (q y ↔ p x)) :
    (∀ y ∈ ys, q y) ↔ ∀ x ∈ xs, p x := by
  induction h with
  | nil => simp
  | cons hxy _ ih => rw [List.forall_mem_cons, List.forall_mem_cons, hr _ _ hxy, ih]

theorem getElem?_of_forall₂ {r : α → β → Prop} {xs : List α} {ys : List β}
    (h : List.Forall₂ r xs ys) {k : Nat} {x : α} (hx : xs[k]? = some x) :
    ∃ y, ys[k]? = some y ∧ r x y := by
  induction h generalizing k with
  | nil => cases hx
  | @cons z y zs ys hr _ ih =>
      cases k with
      | zero => exact ⟨y, rfl, Option.some.inj hx ▸ hr⟩
      | succ k => exact ih hx

theorem exists_forall₂_iff {γ : Type} {f : β → γ → Prop} {r : α → γ → Prop}
    {q : α → β → Prop} {xs : List α} {ys : List β}
    (h : List.Forall₂ (fun x y => (∃ z, f y z ∧ r x z) ↔ q x y) xs ys) :
    (∃ zs, List.Forall₂ f ys zs ∧ List.Forall₂ r xs zs) ↔ List.Forall₂ q xs ys := by
  induction h with
  | nil => exact iff_of_true ⟨[], .nil, .nil⟩ .nil
  | @cons x y xs ys hxy _ ih =>
      rw [List.forall₂_cons, ← hxy, ← ih]
      constructor
      · rintro ⟨_, hf, hr⟩
        obtain ⟨z, zs, hfz, hfzs, hsplit⟩ := List.forall₂_cons_left_iff.mp hf
        rw [hsplit, List.forall₂_cons] at hr
        obtain ⟨hrz, hrzs⟩ := hr
        exact ⟨⟨z, hfz, hrz⟩, zs, hfzs, hrzs⟩
      · rintro ⟨⟨z, hfz, hrz⟩, zs, hfzs, hrzs⟩
        exact ⟨z :: zs, .cons hfz hfzs, .cons hrz hrzs⟩

theorem exists_mapM_ok_iff {f : α → Except ε β} {xs : List α} :
    (∃ ys, xs.mapM f = .ok ys) ↔ ∀ x ∈ xs, ∃ y, f x = .ok y := by
  constructor
  · induction xs with
    | nil => intro _ x hx; cases hx
    | cons first rest ih =>
        rintro ⟨ys, h⟩ x hx
        obtain ⟨y, zs, hy, hzs, -⟩ := mapM_cons_ok h
        rcases List.mem_cons.mp hx with rfl | hx
        · exact ⟨y, hy⟩
        · exact ih ⟨zs, hzs⟩ x hx
  · intro h
    cases hxs : xs.mapM f with
    | ok ys => exact ⟨ys, rfl⟩
    | error e =>
        obtain ⟨before, x, after, rfl, -, hx⟩ := mapM_error_iff.mp hxs
        obtain ⟨y, hy⟩ := h x (by simp)
        rw [hx] at hy
        cases hy

/-- What can be read off each element can be read off its result. -/
theorem all_of_mapM_ok {f : α → Except ε β} {p : α → Bool} {q : β → Bool} {xs : List α}
    (h : ∀ x ∈ xs, ∀ y, f x = .ok y → q y = p x) :
    ∀ {ys : List β}, xs.mapM f = .ok ys → ys.all q = xs.all p := by
  induction xs with
  | nil =>
      intro ys hys
      obtain rfl := Except.ok.inj hys
      rfl
  | cons first rest ih =>
      intro ys hys
      obtain ⟨y, zs, hy, hzs, rfl⟩ := mapM_cons_ok hys
      rw [List.all_cons, List.all_cons, h first List.mem_cons_self y hy,
        ih (fun x hx => h x (List.mem_cons_of_mem _ hx)) hzs]

end TraitRoutes
