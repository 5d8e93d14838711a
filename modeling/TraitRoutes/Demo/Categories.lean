import TraitRoutes.Demo.Sample

/-!
# The category service

Categories that may have a parent, in memory. The number of a parent is taken as
it comes, so a category may hang below one that does not exist, or below itself.
The tree holds what can be reached from the categories without a parent.
-/

namespace TraitRoutes.Demo

/-- A stored category. -/
structure Category where
  id : Int
  name : String
  description : Option String
  parentId : Option Int
  sortOrder : Int
  isActive : Bool
deriving DecidableEq, Repr

/-- The request to create a category. -/
structure CategoryDraft where
  name : String
  description : Option String
  parentId : Option Int
  sortOrder : Int

/-- The request to update a category; what is missing stays as it is. -/
structure CategoryUpdate where
  name : Option String := none
  description : Option String := none
  sortOrder : Option Int := none
  isActive : Option Bool := none

/-- A category in the tree, with the categories below it. -/
inductive CategoryNode where
  | node (id : Int) (name : String) (sortOrder : Int) (children : List CategoryNode)

/-- The number of a node. -/
def CategoryNode.id : CategoryNode → Int
  | node id _ _ _ => id

/-- The place of a node among its siblings. -/
def CategoryNode.sortOrder : CategoryNode → Int
  | node _ _ order _ => order

/-- Whether a node comes before another one, or both are of one place and number. -/
def CategoryNode.le (a b : CategoryNode) : Bool :=
  a.sortOrder < b.sortOrder || (a.sortOrder == b.sortOrder && a.id ≤ b.id)

/-- The categories in store, in the order of their creation. -/
structure CategoryStore where
  categories : List Category := []
deriving DecidableEq, Repr

namespace CategoryStore

/-- The nodes below a parent. The fuel bounds the depth. -/
def subtree (all : List Category) : Nat → Option Int → List CategoryNode
  | 0, _ => []
  | fuel + 1, parent =>
    ((all.filter (·.parentId == parent)).map fun c =>
      .node c.id c.name c.sortOrder (subtree all fuel (some c.id))).mergeSort CategoryNode.le

/-- The tree. A way down from the top passes every number once, so no way is
longer than the store. -/
def tree (s : CategoryStore) : List CategoryNode :=
  subtree s.categories (s.categories.length + 1) none

/-- The first category of a number. -/
def category? (s : CategoryStore) (id : Int) : Option Category := s.categories.find? (·.id == id)

/-- Creates a category, and gives its number. -/
def create (s : CategoryStore) (draft : CategoryDraft) : Int × CategoryStore :=
  let id := nextId (s.categories.map (·.id))
  (id, ⟨s.categories
    ++ [⟨id, draft.name, draft.description, draft.parentId, draft.sortOrder, true⟩]⟩)

/-- A category after an update. -/
def updated (u : CategoryUpdate) (c : Category) : Category :=
  { c with
    name := u.name.getD c.name
    description := u.description.or c.description
    sortOrder := u.sortOrder.getD c.sortOrder
    isActive := u.isActive.getD c.isActive }

/-- Updates a category, if it exists. -/
def update (s : CategoryStore) (id : Int) (u : CategoryUpdate) : Bool × CategoryStore :=
  match s.category? id with
  | none => (false, s)
  | some _ => (true, ⟨updateFirst (·.id == id) (updated u) s.categories⟩)

/-- Deletes a category and what hangs directly below its number. -/
def delete (s : CategoryStore) (id : Int) : Bool × CategoryStore :=
  let left := s.categories.filter fun c => c.id != id && c.parentId != some id
  (left.length != s.categories.length, ⟨left⟩)

/-- The number of products of a category: none are kept. -/
def productCount (_ : CategoryStore) (_ : Int) : Int := 0

/-- Moves a category to a place among its siblings. -/
def updateSort (s : CategoryStore) (id order : Int) : Bool × CategoryStore :=
  s.update id { sortOrder := some order }

end CategoryStore

end TraitRoutes.Demo
