import TraitRoutes.Http.FormFiles

/-!
# The sample service

Items with a name, a switch and the size of an image, in memory. A new item gets
the number behind the largest one in use. An item that is enabled is only deleted
by force.
-/

namespace TraitRoutes.Demo

/-- A stored item. -/
structure Item where
  id : Int
  name : String
  enabled : Bool
  /-- The size of the image, zero without one. -/
  image : Nat
deriving DecidableEq, Repr

/-- The request to create an item. -/
structure ItemDraft where
  name : String
  count : Int

/-- The request to update an item. -/
structure ItemUpdate where
  name : String
  enabled : Bool

/-- The number behind the largest of a list. It has no upper limit, whereas a machine integer
has: one holds it as long as fewer records were created than it has positive values. -/
def nextId (ids : List Int) : Int := ids.max?.getD 0 + 1

/-- Changes the first element that fits. -/
def updateFirst {α : Type} (fits : α → Bool) (change : α → α) : List α → List α
  | [] => []
  | a :: rest => if fits a then change a :: rest else a :: updateFirst fits change rest

/-- The items in store, in the order of their creation. -/
structure SampleStore where
  items : List Item := []
deriving DecidableEq, Repr

namespace SampleStore

/-- The greeting. -/
def welcome : String := "Welcome to the sample service"

/-- The first item of a number. -/
def item? (s : SampleStore) (id : Int) : Option Item := s.items.find? (·.id == id)

/-- Describes an item for a keyword. -/
def describe (s : SampleStore) (id : Int) (keyword : String) : String :=
  match s.item? id with
  | some item =>
    if 0 < item.image then item.name ++ ":" ++ keyword ++ ":image" else item.name ++ ":" ++ keyword
  | none => "missing:" ++ keyword

/-- Creates an item, unless the name is empty or the count negative. -/
def create (s : SampleStore) (draft : ItemDraft) : Bool × SampleStore :=
  if draft.name.isEmpty || draft.count < 0 then (false, s)
  else (true, ⟨s.items ++ [⟨nextId (s.items.map (·.id)), draft.name, true, 0⟩]⟩)

/-- Updates an item, if it exists. -/
def update (s : SampleStore) (id : Int) (u : ItemUpdate) : Bool × SampleStore :=
  match s.item? id with
  | none => (false, s)
  | some _ =>
    (true, ⟨updateFirst (·.id == id) (fun i => { i with name := u.name, enabled := u.enabled })
      s.items⟩)

/-- Deletes an item, if it exists and is disabled or `force` is set. -/
def delete (s : SampleStore) (id : Int) (force : Bool) : Bool × SampleStore :=
  match s.item? id with
  | none => (false, s)
  | some item =>
    if item.enabled && !force then (false, s)
    else (true, ⟨s.items.eraseP (·.id == id)⟩)

/-- A page of the items. Pages count from one, and a smaller number is the first
page. -/
def page (s : SampleStore) (index size : Int) : List Item :=
  let before := (max index 1 - 1).toNat
  let size := (max size 0).toNat
  (s.items.drop (before * size)).take size

/-- Keeps the size of the image of an item, and gives it back; zero if there is no
such item. -/
def upload (s : SampleStore) (id : Int) (image : Http.FormFile) : Nat × SampleStore :=
  match s.item? id with
  | none => (0, s)
  | some _ =>
    (image.content.length,
      ⟨updateFirst (·.id == id) (fun i => { i with image := image.content.length }) s.items⟩)

end SampleStore

end TraitRoutes.Demo
