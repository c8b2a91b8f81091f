import Switchyard.Rejection

/-!
# Events

What building and dispatching report for a log. An event is a value with its own fields; level and
wording are functions of it.
-/

namespace Switchyard

/-- How much an event matters. -/
inductive Level where
  | trace
  | debug
  | warn
  deriving Repr, DecidableEq

/-- The name of a level. -/
def Level.name : Level → String
  | .trace => "TRACE"
  | .debug => "DEBUG"
  | .warn => "WARN"

/-- Something worth a line in a log. -/
inductive Event where
  | duplicatePlaceholder (path placeholder : String)
  | patternFailed (path source : String)
  | constraintFailed (parameter pattern : String)
  | routeSkipped (route path : String) (rejection : Rejection)
  | routeMatched (route path : String)
  | noRouteMatched (path : String) (routes : Nat)
  deriving Repr, DecidableEq

namespace Event

/-- The level of an event. -/
def level : Event → Level
  | duplicatePlaceholder .. | patternFailed .. | constraintFailed .. => .warn
  | routeSkipped .. => .trace
  | routeMatched .. | noRouteMatched .. => .debug

/-- The wording of an event. -/
def message : Event → String
  | duplicatePlaceholder .. => "duplicate placeholder name; the route will never match"
  | patternFailed .. => "route pattern failed to compile; the route will never match"
  | constraintFailed .. => "constraint failed to compile; every value will be rejected"
  | routeSkipped .. => "route skipped"
  | routeMatched .. => "route matched"
  | noRouteMatched .. => "no route matched"

end Event

end Switchyard
