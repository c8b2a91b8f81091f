import Switchyard.Names.Roster
import Switchyard.Route

/-!
# Routers

A router tries its routes in order and answers with the first that takes the request
(`Router.find`). The match is given the route's name, and then every default parameter of the
router that it lacks. What a search reports to a log comes out of the same pass
(`Router.dispatch`).
-/

namespace Switchyard

/-- Named routes in order of dispatch, parameters for every match, and the match recorded last. -/
structure Router where
  routes : Roster Route := .empty
  defaultParams : Params := .empty
  lastMatch : Option RouteMatch := none
  deriving DecidableEq

/-- What a search for a route reports and what it answers. -/
structure Dispatch where
  events : List Event
  result : Except RouteError RouteMatch

namespace Router

/-- The router without routes. -/
def empty : Router := {}

instance : Inhabited Router := ⟨empty⟩

/-! ## Routes and defaults -/

/-- The router with a route under a name; a name that is known keeps its place. -/
def add (router : Router) (name : String) (route : Route) : Router :=
  { router with routes := router.routes.insert name route }

/-- The router has a route of that name. -/
def has (router : Router) (name : String) : Bool := router.routes.contains name

/-- The router without the route of that name; the others keep their order. -/
def remove (router : Router) (name : String) : Router :=
  { router with routes := router.routes.erase name }

/-- The route of that name. -/
def get (router : Router) (name : String) : Except RouteError Route :=
  match router.routes.get? name with
  | some route => .ok route
  | none => .error (.unknownRoute name)

/-- The number of routes. -/
def size (router : Router) : Nat := router.routes.size

/-- The router with other default parameters. -/
def setDefaultParams (router : Router) (params : Params) : Router :=
  { router with defaultParams := params }

/-- The router with one default parameter set. -/
def setDefaultParam (router : Router) (name value : String) : Router :=
  { router with defaultParams := router.defaultParams.insert name value }

/-- The router with the routes and default parameters of another put over its own. Names that are
known keep their place, and the others come after them in the other router's order. -/
def merge (router other : Router) : Router :=
  { router with
    routes := router.routes.insertAll other.routes.entries
    defaultParams := router.defaultParams.overlay other.defaultParams }

/-! ## Dispatch -/

/-- The match as the router gives it out: named, and with the router's defaults. -/
def finish (router : Router) (name : String) (found : RouteMatch) : RouteMatch :=
  (found.setRouteName name).withDefaults router.defaultParams

/-- Tries the routes of a list in order. -/
def scan (router : Router) (request : Request) : List (String × Route) → Dispatch
  | [] => ⟨[.noRouteMatched request.path router.size], .error (.routeNotFound request.path)⟩
  | (name, route) :: rest =>
    match route.evaluate request with
    | .ok found => ⟨[.routeMatched name request.path], .ok (router.finish name found)⟩
    | .error rejection =>
      let later := router.scan request rest
      ⟨.routeSkipped name request.path rejection :: later.events, later.result⟩

/-- Searches the routes for the first that takes the request, and reports the search. A router
without routes does not search. -/
def dispatch (router : Router) (request : Request) : Dispatch :=
  if router.routes.isEmpty then ⟨[], .error .noRoutesConfigured⟩
  else router.scan request router.routes.entries

/-- The match of the first route that takes the request. -/
def find (router : Router) (request : Request) : Except RouteError RouteMatch :=
  (router.dispatch request).result

/-- Finds a match and records it. The router comes back beside the answer, whether there is a match
or not. -/
def record (router : Router) (request : Request) : Router × Except RouteError RouteMatch :=
  match router.find request with
  | .ok found => ({ router with lastMatch := some found }, .ok found)
  | .error cause => (router, .error cause)

/-- Records a match, and answers with the router that it is recorded on. -/
def matchRequest (router : Router) (request : Request) : Except RouteError Router :=
  let (after, answer) := router.record request
  answer.map fun _ => after

/-- The match recorded last. -/
def routeMatch (router : Router) : Except RouteError RouteMatch :=
  match router.lastMatch with
  | some found => .ok found
  | none => .error .noMatch

/-- The path of the route of that name for the parameters. -/
def assemble (router : Router) (name : String) (params : Params) : Except RouteError String :=
  match router.get name with
  | .ok route => route.assemble params
  | .error cause => .error cause

end Router

end Switchyard
