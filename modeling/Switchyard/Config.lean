import Switchyard.Router

/-!
# Configurations

A configuration is the record of a router: the records of its routes, in order, and its default
parameters. Building one builds its routes in order; exporting a router gives the records back.
The match recorded last is no part of a configuration.
-/

namespace Switchyard

/-- The record of a router. -/
structure RouterConfig where
  routes : Roster RouteConfig := .empty
  defaultParams : Params := .empty
  deriving Repr, DecidableEq

namespace RouterConfig

/-- The configuration without routes. -/
def empty : RouterConfig := {}

/-- Adds the routes of the records to a router in order; the first record that cannot be built
ends it with its error. -/
def addRoutes (router : Router) : List (String × RouteConfig) → Except RouteError Router
  | [] => .ok router
  | (name, config) :: rest =>
    match config.build with
    | .error cause => .error cause
    | .ok route => addRoutes (router.add name route) rest

/-- The router of a configuration. -/
def build (config : RouterConfig) : Except RouteError Router :=
  (addRoutes .empty config.routes.entries).map fun router =>
    router.setDefaultParams config.defaultParams

/-- The warnings about the routes of the records, up to the first record that cannot be built. -/
def routeWarnings : List (String × RouteConfig) → List Event
  | [] => []
  | (_, config) :: rest =>
    match config.build with
    | .error _ => []
    | .ok route => route.warnings ++ routeWarnings rest

/-- What building the configuration reports. -/
def warnings (config : RouterConfig) : List Event := routeWarnings config.routes.entries

end RouterConfig

/-- The configuration of a router. -/
def Router.toConfig (router : Router) : RouterConfig :=
  { routes := router.routes.map Route.config, defaultParams := router.defaultParams }

end Switchyard
