import TraitRoutes.Unicode.Blank

/-!
# The user service

Names under numbers, in memory and in the order of the numbers. A name may not be
blank.
-/

namespace TraitRoutes.Demo

/-- A user. -/
structure User where
  id : Int
  name : String
deriving DecidableEq, Repr

/-- Why a request to a service failed. -/
inductive ServiceError where
  | notFound (entity : String) (id : Int)
  | invalid (reason : String)
deriving DecidableEq, Repr

namespace ServiceError

/-- The wording of a service error. -/
def message : ServiceError → String
  | notFound entity id => entity ++ " " ++ toString id ++ " not found"
  | invalid reason => reason

/-- The status that a service error is answered with. -/
def status : ServiceError → Nat
  | notFound .. => 404
  | invalid _ => 422

end ServiceError

/-- The users in store, by increasing numbers. -/
structure UserStore where
  users : List User := []
deriving DecidableEq, Repr

namespace UserStore

/-- Puts a user into a list in the order of the numbers, in place of one with the
same number. -/
def insert (user : User) : List User → List User
  | [] => [user]
  | u :: rest =>
    if u.id < user.id then u :: insert user rest
    else if u.id = user.id then user :: rest
    else user :: u :: rest

/-- The user of a number. -/
def user? (s : UserStore) (id : Int) : Option User := s.users.find? (·.id == id)

/-- Checks a name. -/
def validate (name : String) : Except ServiceError Unit :=
  if (Unicode.trim name.toList).isEmpty then .error (.invalid "user name must not be empty")
  else .ok ()

/-- The user of a number, who must exist. -/
def get (s : UserStore) (id : Int) : Except ServiceError User :=
  match s.user? id with
  | some user => .ok user
  | none => .error (.notFound "user" id)

/-- Whether characters occur in a text, one after the other. -/
def occursIn (part : List Char) : List Char → Bool
  | [] => part.isEmpty
  | c :: rest => part.isPrefixOf (c :: rest) || occursIn part rest

/-- The users whose names contain a text, or all users. -/
def list (s : UserStore) (name : Option String) : List User :=
  match name with
  | none => s.users
  | some part => s.users.filter fun u => occursIn part.toList u.name.toList

/-- Creates a user under the number behind the last one. -/
def create (s : UserStore) (name : String) : Except ServiceError User × UserStore :=
  match validate name with
  | .error e => (.error e, s)
  | .ok () =>
    let user : User := ⟨(s.users.getLast?.map User.id).getD 0 + 1, name⟩
    (.ok user, ⟨insert user s.users⟩)

/-- Renames a user. -/
def update (s : UserStore) (id : Int) (name : String) : Except ServiceError Unit × UserStore :=
  match validate name with
  | .error e => (.error e, s)
  | .ok () =>
    match s.user? id with
    | none => (.error (.notFound "user" id), s)
    | some _ => (.ok (), ⟨s.users.map fun u => if u.id = id then { u with name } else u⟩)

/-- Deletes a user, if there is one of the number. -/
def delete (s : UserStore) (id : Int) : UserStore := ⟨s.users.filter fun u => u.id != id⟩

end UserStore

end TraitRoutes.Demo
