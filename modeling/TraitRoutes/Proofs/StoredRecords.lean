import Mathlib.Data.List.Induction
import Mathlib.Data.List.Nodup
import TraitRoutes.Demo.App

/-!
# Numbers of stored records

The three services keep their records differently, but a call does one of four
things to the list of them: nothing, a record comes in behind the others, the
record of one number is edited, or records are removed. The number of a new
record is computed from what is left of the old ones, so that it is a new one
has to follow from how the records stand.

The invariant is that the numbers increase from record to record. Then the last
number is the largest, the number behind it is free, and the first record of a
number is the only one, so an edit that stops at the first match is an edit of
all records of that number. Edits keep every number and removals keep the order,
so the invariant is kept as well. That no number exceeds the number of calls made
so far tells how long numbers fit into the integers they are sent as.
-/

namespace TraitRoutes.Demo

variable {α : Type} {number : α → Int} {bound : Nat} {earlier later : List α}

/-- Records under positive numbers up to a bound, in increasing order. -/
structure Numbered (number : α → Int) (bound : Nat) (records : List α) : Prop where
  positive : ∀ r ∈ records, 1 ≤ number r
  bounded : ∀ r ∈ records, number r ≤ bound
  increasing : records.Pairwise fun a b => number a < number b

/-- A record comes in behind the others, under the number behind the largest. -/
structure Adds (number : α → Int) (earlier : List α) (new : α) (later : List α) : Prop where
  appended : later = earlier ++ [new]
  next : number new = nextId (earlier.map number)
  greater : ∀ r ∈ earlier, number r < number new

/-- The record of a number is edited, but not its number. -/
structure Edits (number : α → Int) (id : Int) (edit : α → α) (earlier later : List α) : Prop where
  edited : later = earlier.map fun r => if number r = id then edit r else r
  kept : ∀ r, number (edit r) = number r

/-- Nothing is removed but what is dropped, and the rest stays in place. -/
structure Removes (dropped : α → Bool) (earlier later : List α) : Prop where
  sublist : later.Sublist earlier
  rest : (later.filter fun r => !dropped r) = earlier.filter fun r => !dropped r

/-! ## The next number -/

theorem lt_nextId {ids : List Int} {id : Int} (h : id ∈ ids) : id < nextId ids := by
  unfold nextId
  cases hmax : ids.max? with
  | none =>
      rw [List.max?_eq_none_iff] at hmax
      rw [hmax] at h
      cases h
  | some top =>
      have htop := (List.max?_eq_some_iff.mp hmax).2 id h
      rw [Option.getD_some]
      omega

theorem nextId_mem (ids : List Int) : nextId ids = 1 ∨ ∃ id ∈ ids, nextId ids = id + 1 := by
  unfold nextId
  cases hmax : ids.max? with
  | none => exact .inl rfl
  | some top => exact .inr ⟨top, (List.max?_eq_some_iff.mp hmax).1, rfl⟩

/-- The last of increasing numbers is the largest. -/
theorem nextId_concat {ids : List Int} {last : Int} (h : ∀ id ∈ ids, id < last) :
    nextId (ids ++ [last]) = last + 1 := by
  have hlast : last < nextId (ids ++ [last]) :=
    lt_nextId (List.mem_append_right _ (List.mem_singleton_self _))
  rcases nextId_mem (ids ++ [last]) with hone | ⟨id, hid, hnext⟩
  · have hmax : (ids ++ [last]).max? = some last := by
      rw [List.max?_eq_some_iff]
      refine ⟨List.mem_append_right _ (List.mem_singleton_self _), fun id hid => ?_⟩
      rcases List.mem_append.mp hid with hid | hid
      · exact Int.le_of_lt (h id hid)
      · exact Int.le_of_eq (List.mem_singleton.mp hid)
    rw [nextId, hmax, Option.getD_some]
  · rcases List.mem_append.mp hid with hid | hid
    · have hlt := h id hid
      omega
    · rw [hnext, List.mem_singleton.mp hid]

/-! ## What keeps the numbers -/

namespace Numbered

theorem nil : Numbered number bound [] :=
  ⟨List.forall_mem_nil _, List.forall_mem_nil _, List.Pairwise.nil⟩

theorem mono {n m : Nat} (h : Numbered number n earlier) (hle : n ≤ m) :
    Numbered number m earlier where
  positive := h.positive
  bounded r hr := by
    have hbound := h.bounded r hr
    omega
  increasing := h.increasing

theorem nodup (h : Numbered number bound earlier) : (earlier.map number).Nodup := by
  rw [List.Nodup, List.pairwise_map]
  exact h.increasing.imp fun hlt => Int.ne_of_lt hlt

/-- A number has one record. -/
theorem eq_of_number (h : Numbered number bound earlier) {a b : α} (ha : a ∈ earlier)
    (hb : b ∈ earlier) (heq : number a = number b) : a = b :=
  List.inj_on_of_nodup_map h.nodup ha hb heq

theorem adds {new : α} (h : Numbered number bound earlier) (ha : Adds number earlier new later) :
    Numbered number (bound + 1) later := by
  have hnew : 1 ≤ number new ∧ number new ≤ bound + 1 := by
    rw [ha.next]
    rcases nextId_mem (earlier.map number) with hone | ⟨id, hid, hnext⟩
    · omega
    · obtain ⟨r, hr, rfl⟩ := List.mem_map.mp hid
      have hpositive := h.positive r hr
      have hbounded := h.bounded r hr
      omega
  rw [ha.appended]
  constructor
  · intro r hr
    rcases List.mem_append.mp hr with hr | hr
    · exact h.positive r hr
    · rw [List.mem_singleton.mp hr]
      exact hnew.1
  · intro r hr
    rcases List.mem_append.mp hr with hr | hr
    · have hbounded := h.bounded r hr
      omega
    · rw [List.mem_singleton.mp hr]
      omega
  · rw [List.pairwise_append]
    refine ⟨h.increasing, List.pairwise_singleton _ _, fun a ha' b hb => ?_⟩
    rw [List.mem_singleton.mp hb]
    exact ha.greater a ha'

theorem edits {id : Int} {edit : α → α} (h : Numbered number bound earlier)
    (he : Edits number id edit earlier later) : Numbered number bound later := by
  have hnumber : ∀ r, number (if number r = id then edit r else r) = number r := by
    intro r
    split
    · exact he.kept r
    · rfl
  rw [he.edited]
  constructor
  · intro r hr
    obtain ⟨old, hold, rfl⟩ := List.mem_map.mp hr
    rw [hnumber]
    exact h.positive old hold
  · intro r hr
    obtain ⟨old, hold, rfl⟩ := List.mem_map.mp hr
    rw [hnumber]
    exact h.bounded old hold
  · rw [List.pairwise_map]
    simp only [hnumber]
    exact h.increasing

theorem removes {dropped : α → Bool} (h : Numbered number bound earlier)
    (hr : Removes dropped earlier later) : Numbered number bound later where
  positive r hmem := h.positive r (hr.sublist.subset hmem)
  bounded r hmem := h.bounded r (hr.sublist.subset hmem)
  increasing := h.increasing.sublist hr.sublist

end Numbered

/-! ## What the stores do with lists -/

/-- Where a number has one record, it makes no difference that an edit stops at the first. -/
theorem updateFirst_edits {id : Int} {edit : α → α} (h : Numbered number bound earlier)
    (hkept : ∀ r, number (edit r) = number r) :
    Edits number id edit earlier (updateFirst (number · == id) edit earlier) := by
  refine ⟨?_, hkept⟩
  have hincreasing := h.increasing
  clear h
  induction earlier with
  | nil => rfl
  | cons first rest ih =>
      obtain ⟨hfirst, hrest⟩ := List.pairwise_cons.mp hincreasing
      rw [updateFirst, List.map_cons]
      by_cases hid : number first = id
      · have hothers : (rest.map fun r => if number r = id then edit r else r) = rest := by
          rw [List.map_congr_left (g := fun r => r), List.map_id']
          intro r hr
          have hlt := hfirst r hr
          rw [if_neg (by omega)]
        rw [if_pos hid, if_pos (beq_iff_eq.mpr hid), hothers]
      · rw [if_neg hid, if_neg (by simpa using hid), ih hrest]

/-- An edit of a number without a record changes nothing. -/
theorem edits_refl {id : Int} {edit : α → α} (hkept : ∀ r, number (edit r) = number r)
    (hnone : (earlier.find? (number · == id)) = none) : Edits number id edit earlier earlier := by
  refine ⟨?_, hkept⟩
  rw [List.map_congr_left (g := fun r => r), List.map_id']
  intro r hr
  rw [List.find?_eq_none] at hnone
  rw [if_neg (by simpa using hnone r hr)]

theorem removes_refl (dropped : α → Bool) : Removes dropped earlier earlier :=
  ⟨List.Sublist.refl _, rfl⟩

theorem removes_filter (dropped : α → Bool) :
    Removes dropped earlier (earlier.filter fun r => !dropped r) := by
  refine ⟨List.filter_sublist, ?_⟩
  rw [List.filter_filter]
  simp only [Bool.and_self]

theorem removes_eraseP (dropped : α → Bool) : Removes dropped earlier (earlier.eraseP dropped) := by
  refine ⟨List.eraseP_sublist, ?_⟩
  rcases List.exists_or_eq_self_of_eraseP dropped earlier with hself |
    ⟨a, front, back, -, ha, hearlier, hlater⟩
  · rw [hself]
  · rw [hlater, hearlier, List.filter_append, List.filter_append, List.filter_cons, ha]
    rfl

theorem insert_last {user : User} {users : List User} (h : ∀ u ∈ users, u.id < user.id) :
    UserStore.insert user users = users ++ [user] := by
  induction users with
  | nil => rfl
  | cons u rest ih =>
      rw [UserStore.insert, if_pos (h u List.mem_cons_self), List.cons_append,
        ih fun v hv => h v (List.mem_cons_of_mem _ hv)]

/-! ## Calls -/

/-- A call of the sample service that may change its store. -/
inductive SampleCall where
  | create (draft : ItemDraft)
  | update (id : Int) (u : ItemUpdate)
  | delete (id : Int) (force : Bool)
  | upload (id : Int) (image : Http.FormFile)

/-- A call of the user service that may change its store. -/
inductive UserCall where
  | create (name : String)
  | update (id : Int) (name : String)
  | delete (id : Int)

/-- A call of the category service that may change its store. -/
inductive CategoryCall where
  | create (draft : CategoryDraft)
  | update (id : Int) (u : CategoryUpdate)
  | updateSort (id order : Int)
  | delete (id : Int)

/-- A call that may change a store; all other operations only read one. -/
inductive Call where
  | sample (call : SampleCall)
  | user (call : UserCall)
  | category (call : CategoryCall)

def SampleStore.after (s : SampleStore) : SampleCall → SampleStore
  | .create draft => (s.create draft).2
  | .update id u => (s.update id u).2
  | .delete id force => (s.delete id force).2
  | .upload id image => (s.upload id image).2

def UserStore.after (s : UserStore) : UserCall → UserStore
  | .create name => (s.create name).2
  | .update id name => (s.update id name).2
  | .delete id => s.delete id

def CategoryStore.after (s : CategoryStore) : CategoryCall → CategoryStore
  | .create draft => (s.create draft).2
  | .update id u => (s.update id u).2
  | .updateSort id order => (s.updateSort id order).2
  | .delete id => (s.delete id).2

/-- The state after a call. -/
def App.after (app : App) : Call → App
  | .sample call => app.withSample (app.sample.after call)
  | .user call => app.withUsers (app.users.after call)
  | .category call => app.withCategories (app.categories.after call)

/-- The state that calls lead to, from empty stores. -/
def App.ofCalls (calls : List Call) : App := calls.foldl App.after {}

theorem App.ofCalls_concat (calls : List Call) (call : Call) :
    App.ofCalls (calls ++ [call]) = (App.ofCalls calls).after call := by
  rw [App.ofCalls, App.ofCalls, List.foldl_append, List.foldl_cons, List.foldl_nil]

/-! ## What a call does -/

namespace SampleStore

variable {s : SampleStore}

theorem create_adds {draft : ItemDraft} (h : (s.create draft).1 = true) :
    ∃ new : Item, new.name = draft.name ∧ Adds Item.id s.items new (s.create draft).2.items := by
  unfold create at h ⊢
  split at h
  · cases h
  · next hvalid =>
      rw [if_neg hvalid]
      exact ⟨_, rfl, rfl, rfl, fun i hi => lt_nextId (List.mem_map_of_mem hi)⟩

theorem create_refused {draft : ItemDraft} (h : (s.create draft).1 = false) :
    (s.create draft).2 = s := by
  unfold create at h ⊢
  split at h
  · next hinvalid => rw [if_pos hinvalid]
  · cases h

theorem update_edits (hs : Numbered Item.id bound s.items) (id : Int) (u : ItemUpdate) :
    Edits Item.id id (fun i => { i with name := u.name, enabled := u.enabled }) s.items
      (s.update id u).2.items := by
  unfold update
  split
  · next hnone => exact edits_refl (fun _ => rfl) hnone
  · exact updateFirst_edits hs fun _ => rfl

theorem upload_edits (hs : Numbered Item.id bound s.items) (id : Int) (image : Http.FormFile) :
    Edits Item.id id (fun i => { i with image := image.content.length }) s.items
      (s.upload id image).2.items := by
  unfold upload
  split
  · next hnone => exact edits_refl (fun _ => rfl) hnone
  · exact updateFirst_edits hs fun _ => rfl

theorem delete_removes (id : Int) (force : Bool) :
    Removes (fun i : Item => i.id == id) s.items (s.delete id force).2.items := by
  unfold delete
  split
  · exact removes_refl _
  · split
    · exact removes_refl _
    · exact removes_eraseP _

theorem after_numbered (hs : Numbered Item.id bound s.items) (call : SampleCall) :
    Numbered Item.id (bound + 1) (s.after call).items := by
  cases call with
  | create draft =>
      cases hdone : (s.create draft).1 with
      | true =>
          obtain ⟨new, -, hadds⟩ := create_adds hdone
          exact hs.adds hadds
      | false =>
          show Numbered Item.id (bound + 1) (s.create draft).2.items
          rw [create_refused hdone]
          exact hs.mono (Nat.le_succ _)
  | update id u => exact (hs.edits (update_edits hs id u)).mono (Nat.le_succ _)
  | delete id force => exact (hs.removes (delete_removes id force)).mono (Nat.le_succ _)
  | upload id image => exact (hs.edits (upload_edits hs id image)).mono (Nat.le_succ _)

end SampleStore

namespace UserStore

variable {s : UserStore}

/-- The last user has the largest number. -/
theorem last_next (hs : Numbered User.id bound s.users) :
    (s.users.getLast?.map User.id).getD 0 + 1 = nextId (s.users.map User.id) := by
  cases hlast : s.users.getLast? with
  | none =>
      rw [List.getLast?_eq_none_iff.mp hlast]
      rfl
  | some last =>
      obtain ⟨front, hfront⟩ := List.getLast?_eq_some_iff.mp hlast
      have hless : ∀ u ∈ front, u.id < last.id := by
        have hincreasing := hs.increasing
        rw [hfront, List.pairwise_append] at hincreasing
        exact fun u hu => hincreasing.2.2 u hu last (List.mem_singleton_self _)
      rw [hfront, List.map_append, List.map_singleton, nextId_concat]
      · rfl
      · intro id hid
        obtain ⟨u, hu, rfl⟩ := List.mem_map.mp hid
        exact hless u hu

theorem create_adds (hs : Numbered User.id bound s.users) {name : String} {user : User}
    (h : (s.create name).1 = .ok user) :
    user.name = name ∧ Adds User.id s.users user (s.create name).2.users := by
  rw [create] at h ⊢
  cases hvalid : validate name with
  | error e =>
      rw [hvalid] at h
      cases h
  | ok _ =>
      rw [hvalid] at h
      obtain rfl := Except.ok.inj h
      have hgreater : ∀ u ∈ s.users, u.id < (s.users.getLast?.map User.id).getD 0 + 1 := by
        intro u hu
        rw [last_next hs]
        exact lt_nextId (List.mem_map_of_mem hu)
      exact ⟨rfl, insert_last hgreater, last_next hs, hgreater⟩

theorem create_refused {name : String} {e : ServiceError} (h : (s.create name).1 = .error e) :
    (s.create name).2 = s := by
  rw [create] at h ⊢
  cases hvalid : validate name with
  | error e' => rfl
  | ok _ =>
      rw [hvalid] at h
      cases h

theorem update_edits {id : Int} {name : String} (h : (s.update id name).1 = .ok ()) :
    Edits User.id id (fun u => { u with name }) s.users (s.update id name).2.users := by
  rw [update] at h ⊢
  cases hvalid : validate name with
  | error e =>
      rw [hvalid] at h
      cases h
  | ok _ =>
      cases hfound : s.user? id with
      | none =>
          rw [hvalid, hfound] at h
          cases h
      | some u => exact ⟨rfl, fun _ => rfl⟩

theorem update_refused {id : Int} {name : String} {e : ServiceError}
    (h : (s.update id name).1 = .error e) : (s.update id name).2 = s := by
  rw [update] at h ⊢
  cases hvalid : validate name with
  | error e' => rfl
  | ok _ =>
      cases hfound : s.user? id with
      | none => rfl
      | some u =>
          rw [hvalid, hfound] at h
          cases h

theorem delete_removes (id : Int) :
    Removes (fun u : User => u.id == id) s.users (s.delete id).users := removes_filter _

theorem after_numbered (hs : Numbered User.id bound s.users) (call : UserCall) :
    Numbered User.id (bound + 1) (s.after call).users := by
  cases call with
  | create name =>
      cases hdone : (s.create name).1 with
      | ok user => exact hs.adds (create_adds hs hdone).2
      | error e =>
          show Numbered User.id (bound + 1) (s.create name).2.users
          rw [create_refused hdone]
          exact hs.mono (Nat.le_succ _)
  | update id name =>
      cases hdone : (s.update id name).1 with
      | ok _ => exact (hs.edits (update_edits hdone)).mono (Nat.le_succ _)
      | error e =>
          show Numbered User.id (bound + 1) (s.update id name).2.users
          rw [update_refused hdone]
          exact hs.mono (Nat.le_succ _)
  | delete id => exact (hs.removes (delete_removes id)).mono (Nat.le_succ _)

end UserStore

namespace CategoryStore

variable {s : CategoryStore}

theorem create_adds (s : CategoryStore) (draft : CategoryDraft) :
    ∃ new : Category, new.id = (s.create draft).1 ∧ new.name = draft.name ∧
      new.parentId = draft.parentId ∧
      Adds Category.id s.categories new (s.create draft).2.categories :=
  ⟨_, rfl, rfl, rfl, rfl, rfl, fun _ hc => lt_nextId (List.mem_map_of_mem hc)⟩

theorem update_edits (hs : Numbered Category.id bound s.categories) (id : Int)
    (u : CategoryUpdate) :
    Edits Category.id id (updated u) s.categories (s.update id u).2.categories := by
  unfold update
  split
  · next hnone => exact edits_refl (fun _ => rfl) hnone
  · exact updateFirst_edits hs fun _ => rfl

theorem updateSort_edits (hs : Numbered Category.id bound s.categories) (id order : Int) :
    Edits Category.id id (fun c => { c with sortOrder := order }) s.categories
      (s.updateSort id order).2.categories := update_edits hs id { sortOrder := some order }

theorem delete_removes (id : Int) :
    Removes (fun c : Category => c.id == id || c.parentId == some id) s.categories
      (s.delete id).2.categories := by
  have hdelete : (s.delete id).2.categories
      = s.categories.filter fun c => !(c.id == id || c.parentId == some id) := by
    unfold delete
    simp only [Bool.not_or]
    rfl
  rw [hdelete]
  exact removes_filter _

theorem after_numbered (hs : Numbered Category.id bound s.categories) (call : CategoryCall) :
    Numbered Category.id (bound + 1) (s.after call).categories := by
  cases call with
  | create draft =>
      obtain ⟨new, -, -, -, hadds⟩ := s.create_adds draft
      exact hs.adds hadds
  | update id u => exact (hs.edits (update_edits hs id u)).mono (Nat.le_succ _)
  | updateSort id order => exact (hs.edits (updateSort_edits hs id order)).mono (Nat.le_succ _)
  | delete id => exact (hs.removes (delete_removes id)).mono (Nat.le_succ _)

end CategoryStore

/-! ## Runs -/

/-- The records of all three stores are numbered. -/
structure App.Numbered (app : App) (bound : Nat) : Prop where
  sample : Demo.Numbered Item.id bound app.sample.items
  users : Demo.Numbered User.id bound app.users.users
  categories : Demo.Numbered Category.id bound app.categories.categories

theorem App.Numbered.after {app : App} (h : app.Numbered bound) (call : Call) :
    (app.after call).Numbered (bound + 1) := by
  have hle : bound ≤ bound + 1 := Nat.le_succ _
  cases call with
  | sample call =>
      exact ⟨SampleStore.after_numbered h.sample call, h.users.mono hle, h.categories.mono hle⟩
  | user call =>
      exact ⟨h.sample.mono hle, UserStore.after_numbered h.users call, h.categories.mono hle⟩
  | category call =>
      exact ⟨h.sample.mono hle, h.users.mono hle,
        CategoryStore.after_numbered h.categories call⟩

/-- The records are numbered after every run, and no number exceeds its length. -/
theorem App.ofCalls_numbered (calls : List Call) : (App.ofCalls calls).Numbered calls.length := by
  induction calls using List.reverseRecOn with
  | nil => exact ⟨Numbered.nil, Numbered.nil, Numbered.nil⟩
  | append_singleton calls call ih =>
      rw [App.ofCalls_concat, List.length_append, List.length_singleton]
      exact ih.after call

/-- What every call leaves of the items. -/
structure SampleStore.KeepsIdentity (s : SampleStore) (bound : Nat) : Prop where
  numbered : Numbered Item.id bound s.items
  create : ∀ draft, (s.create draft).1 = true → ∃ new : Item, new.name = draft.name ∧
    Adds Item.id s.items new (s.create draft).2.items
  refused : ∀ draft, (s.create draft).1 = false → (s.create draft).2 = s
  update : ∀ id u, Edits Item.id id (fun i => { i with name := u.name, enabled := u.enabled })
    s.items (s.update id u).2.items
  upload : ∀ id image, Edits Item.id id (fun i => { i with image := image.content.length })
    s.items (s.upload id image).2.items
  delete : ∀ id force, Removes (fun i => i.id == id) s.items (s.delete id force).2.items

/-- What every call leaves of the users. -/
structure UserStore.KeepsIdentity (s : UserStore) (bound : Nat) : Prop where
  numbered : Numbered User.id bound s.users
  create : ∀ name user, (s.create name).1 = .ok user →
    user.name = name ∧ Adds User.id s.users user (s.create name).2.users
  refused : ∀ name e, (s.create name).1 = .error e → (s.create name).2 = s
  update : ∀ id name, (s.update id name).1 = .ok () →
    Edits User.id id (fun u => { u with name }) s.users (s.update id name).2.users
  updateRefused : ∀ id name e, (s.update id name).1 = .error e → (s.update id name).2 = s
  delete : ∀ id, Removes (fun u => u.id == id) s.users (s.delete id).users

/-- What every call leaves of the categories. What an update does not name is kept, and so
is always what a category hangs below. -/
structure CategoryStore.KeepsIdentity (s : CategoryStore) (bound : Nat) : Prop where
  numbered : Numbered Category.id bound s.categories
  create : ∀ draft, ∃ new : Category, new.id = (s.create draft).1 ∧ new.name = draft.name ∧
    new.parentId = draft.parentId ∧
    Adds Category.id s.categories new (s.create draft).2.categories
  update : ∀ id (u : CategoryUpdate), Edits Category.id id
    (fun c => { c with
      name := u.name.getD c.name, description := u.description.or c.description
      sortOrder := u.sortOrder.getD c.sortOrder, isActive := u.isActive.getD c.isActive })
    s.categories (s.update id u).2.categories
  updateSort : ∀ id order, Edits Category.id id (fun c => { c with sortOrder := order })
    s.categories (s.updateSort id order).2.categories
  delete : ∀ id, Removes (fun c => c.id == id || c.parentId == some id) s.categories
    (s.delete id).2.categories

/-- After every run of calls the numbers of a store are positive, increase from record to
record and do not exceed the length of the run. A record that is created comes in behind
the others under a larger number; an edit changes the named fields of the record of its
number, and a removal leaves all other records as they are and where they are. -/
theorem records_keep_identity (calls : List Call) :
    (App.ofCalls calls).sample.KeepsIdentity calls.length ∧
      (App.ofCalls calls).users.KeepsIdentity calls.length ∧
      (App.ofCalls calls).categories.KeepsIdentity calls.length := by
  have h := App.ofCalls_numbered calls
  refine ⟨⟨h.sample, fun _ => SampleStore.create_adds, fun _ => SampleStore.create_refused,
    SampleStore.update_edits h.sample, SampleStore.upload_edits h.sample,
    SampleStore.delete_removes⟩, ⟨h.users, fun _ _ => UserStore.create_adds h.users,
    fun _ _ => UserStore.create_refused, fun _ _ => UserStore.update_edits,
    fun _ _ _ => UserStore.update_refused, UserStore.delete_removes⟩,
    ⟨h.categories, CategoryStore.create_adds _, CategoryStore.update_edits h.categories,
      CategoryStore.updateSort_edits h.categories, CategoryStore.delete_removes⟩⟩

end TraitRoutes.Demo
