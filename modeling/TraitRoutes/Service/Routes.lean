import TraitRoutes.Fault
import TraitRoutes.Naming
import TraitRoutes.Service.Basic

/-!
# Routes

Before anything is generated, every method of a service gets its route, and two
kinds of service are refused: one with a method that would read the body of a
request twice, and one with two routes that differ in nothing but the names of
their captures.
-/

namespace TraitRoutes

namespace Handler

/-- The names of the parameters that the route captures. -/
def captures (h : Handler) : List String := (h.boundTo .route).map Parameter.name

/-- The part of the route that names the method. -/
def routeSuffix (h : Handler) : String := Naming.routeSuffix h.name

/-- The route of a method below a prefix. -/
def route (routePrefix : String) (h : Handler) : String :=
  Naming.routeTemplate routePrefix h.routeSuffix h.captures

/-- The route of a method without the names of its captures. -/
def routeShape (routePrefix : String) (h : Handler) : String :=
  Naming.routeTemplate routePrefix h.routeSuffix (h.captures.map fun _ => "")

/-- Refuses a method that reads the body more than once. -/
def checkBody (h : Handler) : Except Fault Unit :=
  let bodies := (h.boundTo .body).length
  if 1 < bodies then
    .error (.conflictingBody h.name
      (toString bodies ++ " parameters from the request body, at most one is allowed"))
  else if bodies = 1 && !(h.boundTo .form).isEmpty then
    .error (.conflictingBody h.name "both a JSON body and multipart form files")
  else .ok ()

end Handler

namespace Service

/-- Routes of methods in order. `seen` holds the shapes of earlier routes with the
names of their methods. -/
def planFrom (routePrefix : String) (seen : List (String × String)) :
    List Handler → Except Fault (List String)
  | [] => .ok []
  | h :: rest =>
    let shape := h.routeShape routePrefix
    match seen.lookup shape with
    | some first => .error (.duplicateRoute (h.route routePrefix) first h.name)
    | none => do
      let routes ← planFrom routePrefix ((shape, h.name) :: seen) rest
      pure (h.route routePrefix :: routes)

/-- The routes of a service, one for each method. -/
def planRoutes (s : Service) : Except Fault (List String) := planFrom s.routePrefix [] s.handlers

/-- Refuses a service with a method that reads the body more than once. -/
def checkBodies : List Handler → Except Fault Unit
  | [] => .ok ()
  | h :: rest => do
    h.checkBody
    checkBodies rest

end Service

end TraitRoutes
