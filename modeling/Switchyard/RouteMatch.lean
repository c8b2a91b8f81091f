import Switchyard.Names.Keyed

/-!
# Matches

A match holds the parameters of a request and, once a router has attached it, the name of the
route that took the request.
-/

namespace Switchyard

/-- The parameter that holds the method of the request. -/
def requestMethodParam : String := "request_method"

/-- The parameter that holds the scheme of the request. -/
def requestSchemeParam : String := "request_scheme"

/-- The key under which a match reports its route's name among its parameters. -/
def routeParam : String := "route"

/-- The parameters of a matched request, and the name of the route that matched it. -/
structure RouteMatch where
  params : Params
  routeName : Option String := none
  deriving Repr, DecidableEq

namespace RouteMatch

/-- The value of a parameter. -/
def param? (found : RouteMatch) (name : String) : Option String := found.params.get? name

/-- The value of a parameter, or another value when there is none. -/
def paramOr (found : RouteMatch) (name fallback : String) : String :=
  (found.param? name).getD fallback

/-- The match has the parameter. -/
def hasParam (found : RouteMatch) (name : String) : Bool := found.params.contains name

/-- The match with a parameter set. -/
def setParam (found : RouteMatch) (name value : String) : RouteMatch :=
  { found with params := found.params.insert name value }

/-- The match with a route's name attached. -/
def setRouteName (found : RouteMatch) (name : String) : RouteMatch :=
  { found with routeName := some name }

/-- The parameters, with the route's name among them once it is attached. -/
def allParams (found : RouteMatch) : Params :=
  match found.routeName with
  | some name => found.params.insert routeParam name
  | none => found.params

/-- The match with every parameter of `defaults` that it lacks. -/
def withDefaults (found : RouteMatch) (defaults : Params) : RouteMatch :=
  { found with params := found.params.withDefaults defaults }

end RouteMatch

end Switchyard
