import Switchyard.Proofs.Names.Keyed
import Switchyard.Proofs.Names.Registration
import Switchyard.Router

/-!
# Merging routers

A merge is told by three things: the names of the routes in order, the route under each name, and
the default under each name. Where both routers have a name, the place comes from the router that is
merged into and the value from the other one, so neither router decides alone; the laws of merging
(`Router.merge_idempotent_monoid`) still hold without any condition on the names.
-/

namespace Switchyard.Router

/-- Known names keep their place, and the other router's new names come behind in its order. -/
theorem names_merge (router other : Router) :
    (router.merge other).routes.names =
      router.routes.names ++ other.routes.names.filter (· ∉ router.routes.names) :=
  Roster.names_insertAll_entries router.routes other.routes

/-- The other router's route wins. -/
theorem get?_merge (router other : Router) (name : String) :
    (router.merge other).routes.get? name =
      (other.routes.get? name).or (router.routes.get? name) :=
  Roster.get?_insertAll_entries router.routes other.routes name

/-- The other router's default wins. -/
theorem default_merge (router other : Router) (name : String) :
    (router.merge other).defaultParams.get? name =
      (other.defaultParams.get? name).or (router.defaultParams.get? name) :=
  Keyed.get?_overlay router.defaultParams other.defaultParams name

theorem merge_assoc (first second third : Router) :
    (first.merge second).merge third = first.merge (second.merge third) := by
  simp only [merge, Roster.insertAll_assoc, Keyed.overlay_assoc]

/-- The match that the other router recorded has no part in a merge. -/
theorem merge_copy (router : Router) (found : Option RouteMatch) :
    router.merge { router with lastMatch := found } = router := by
  simp only [merge, Roster.insertAll_self, Keyed.overlay_self]

theorem merge_without_routes (router : Router) (found : Option RouteMatch) :
    router.merge { empty with lastMatch := found } = router := rfl

theorem without_routes_merge (router : Router) (found : Option RouteMatch) :
    { empty with lastMatch := found }.merge router = { router with lastMatch := found } := by
  have hroutes : Roster.empty.insertAll router.routes.entries = router.routes :=
    Roster.ofList_entries router.routes
  have hparams : Keyed.empty.overlay router.defaultParams = router.defaultParams :=
    Keyed.empty_overlay router.defaultParams
  simp only [merge, empty, hroutes, hparams]

/-- A merge decides places by the router that is merged into and values by the other one, and keeps
the match recorded by the former. It is associative; merging a copy changes nothing, nor does
merging a router without routes and defaults, whatever match these recorded; and into such a router
a merge brings the routes in their order and the defaults, beside the match that it recorded itself.
-/
theorem merge_idempotent_monoid :
    (∀ router other : Router,
      (router.merge other).routes.names =
        router.routes.names ++ other.routes.names.filter (· ∉ router.routes.names) ∧
      (∀ name, (router.merge other).routes.get? name =
        (other.routes.get? name).or (router.routes.get? name)) ∧
      (∀ name, (router.merge other).defaultParams.get? name =
        (other.defaultParams.get? name).or (router.defaultParams.get? name)) ∧
      (router.merge other).lastMatch = router.lastMatch) ∧
    (∀ first second third : Router,
      (first.merge second).merge third = first.merge (second.merge third)) ∧
    (∀ (router : Router) (found : Option RouteMatch),
      router.merge { router with lastMatch := found } = router) ∧
    (∀ (router : Router) (found : Option RouteMatch),
      router.merge { empty with lastMatch := found } = router) ∧
    ∀ (router : Router) (found : Option RouteMatch),
      { empty with lastMatch := found }.merge router = { router with lastMatch := found } := by
  refine ⟨fun router other => ⟨?_, ?_, ?_, rfl⟩, merge_assoc, merge_copy, merge_without_routes,
    without_routes_merge⟩
  · exact names_merge router other
  · exact get?_merge router other
  · exact default_merge router other

end Switchyard.Router
