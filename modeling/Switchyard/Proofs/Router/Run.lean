import Switchyard.Proofs.Names.Registration
import Switchyard.Router

/-!
# Runs of operations

A router after any run of operations, told by the changes that the operations make to its routes: the
look-up of a name gives what was added or merged under it last, and the order of dispatch is the
order in which the registrations began that last to the end (`Router.order_of_run`). What a router
records of a search and its default parameters have no part in that.
-/

namespace Switchyard

open Roster (Change)

/-- One operation on a router. The router that is merged can be any router, however it came about. -/
inductive RouterCall where
  | add (name : String) (route : Route)
  | remove (name : String)
  | merge (other : Router)
  | setDefaultParams (params : Params)
  | setDefaultParam (name value : String)
  | find (request : Request)
  | trace (request : Request)
  | matchRequest (request : Request)

namespace Router

/-- The router after an operation: what a recorded search leaves behind, whether it succeeds or not.
A search that is not recorded, and a trace, leave the router as it was. -/
def apply (router : Router) : RouterCall → Router
  | .add name route => router.add name route
  | .remove name => router.remove name
  | .merge other => router.merge other
  | .setDefaultParams params => router.setDefaultParams params
  | .setDefaultParam name value => router.setDefaultParam name value
  | .find _ | .trace _ => router
  | .matchRequest request => (router.record request).1

/-- The router after a run of operations. -/
def run (router : Router) (calls : List RouterCall) : Router := calls.foldl apply router

end Router

/-- What an operation changes in the routes, one after the other: a merge puts the routes of the other
router in that router's order. -/
def RouterCall.changes : RouterCall → List (Change Route)
  | .add name route => [.put name route]
  | .remove name => [.drop name]
  | .merge other => other.routes.entries.map fun entry => .put entry.1 entry.2
  | .setDefaultParams _ | .setDefaultParam .. | .find _ | .trace _ | .matchRequest _ => []

namespace Router

/-- A search changes no routes, recorded or not. -/
theorem routes_record (router : Router) (request : Request) :
    (router.record request).1.routes = router.routes := by
  unfold record
  cases router.find request <;> rfl

/-- An operation does to the routes what its changes do. -/
theorem routes_apply (router : Router) (call : RouterCall) :
    (router.apply call).routes = call.changes.foldl Roster.change router.routes := by
  cases call with
  | add name route => rfl
  | remove name => rfl
  | merge other => exact (Roster.foldl_change_put router.routes other.routes.entries).symm
  | setDefaultParams params => rfl
  | setDefaultParam name value => rfl
  | find request => rfl
  | trace request => rfl
  | matchRequest request => exact routes_record router request

/-- A run does to the routes what the changes of its operations do, one after the other. -/
theorem routes_run (router : Router) (calls : List RouterCall) :
    (router.run calls).routes =
      (calls.flatMap RouterCall.changes).foldl Roster.change router.routes := by
  induction calls generalizing router with
  | nil => rfl
  | cons call calls ih =>
    have hrun : router.run (call :: calls) = (router.apply call).run calls := rfl
    rw [hrun, ih, routes_apply, List.flatMap_cons, List.foldl_append]

theorem routes_run_empty (calls : List RouterCall) :
    (empty.run calls).routes = Roster.replay (calls.flatMap RouterCall.changes) :=
  routes_run empty calls

theorem get_eq_ok_iff (router : Router) (name : String) (route : Route) :
    router.get name = .ok route ↔ router.routes.get? name = some route := by
  unfold get
  cases router.routes.get? name <;> simp

theorem get_eq_error_iff (router : Router) (name : String) :
    router.get name = .error (.unknownRoute name) ↔ name ∉ router.routes.names := by
  rw [Roster.mem_names_iff]
  unfold get
  cases router.routes.get? name <;> simp

/-- After a run from the empty router, names are distinct, a look-up gives the route that was added
or merged last under a name not removed since, and two names stand in the order in which their
registrations began, which is the order of the changes, within a merge as well. From there on, a name
that is put again stays where it is, a removal leaves the others in order, and a merge appends its new
names in the other router's order. -/
theorem order_of_run (calls : List RouterCall) :
    (empty.run calls).routes.names.Nodup ∧
    (∀ name route, (empty.run calls).get name = .ok route ↔
      Change.Latest (calls.flatMap RouterCall.changes) name route) ∧
    (∀ name, (empty.run calls).get name = .error (.unknownRoute name) ↔
      ¬∃! start, Change.Began (calls.flatMap RouterCall.changes) name start) ∧
    (∀ earlier later, [earlier, later].Sublist (empty.run calls).routes.names ↔
      ∃ first second, Change.Began (calls.flatMap RouterCall.changes) earlier first ∧
        Change.Began (calls.flatMap RouterCall.changes) later second ∧ first < second) ∧
    (∀ name route, ((empty.run calls).add name route).routes.names =
      if name ∈ (empty.run calls).routes.names then (empty.run calls).routes.names
      else (empty.run calls).routes.names ++ [name]) ∧
    (∀ name, ((empty.run calls).remove name).routes.names =
      (empty.run calls).routes.names.filter (· ≠ name)) ∧
    ∀ other, ((empty.run calls).merge other).routes.names = (empty.run calls).routes.names ++
      other.routes.names.filter (· ∉ (empty.run calls).routes.names) := by
  refine ⟨(empty.run calls).routes.nodup, fun name route => ?_, fun name => ?_,
    fun earlier later => ?_, fun name route => ?_, fun name => ?_, fun other => ?_⟩
  · -- The first three parts are of the replay of the changes, whatever calls they came from.
    rw [get_eq_ok_iff, routes_run_empty, Roster.get?_replay]
  · rw [get_eq_error_iff, routes_run_empty, Roster.mem_names_replay, Change.registered_iff_began]
  · rw [routes_run_empty, Roster.sublist_names_replay]
  · exact Roster.names_insert (empty.run calls).routes name route
  · exact Roster.names_erase (empty.run calls).routes name
  · exact Roster.names_insertAll (empty.run calls).routes other.routes.nodup

end Router

end Switchyard
