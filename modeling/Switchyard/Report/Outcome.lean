import Switchyard.Error
import Switchyard.Report.Term
import Switchyard.RouteMatch

/-!
# Outcomes as terms

Parameters, matches and errors as a report spells them out.
-/

namespace Switchyard

/-- Parameters, in the order of their names. -/
def Params.term (params : Params) : Term :=
  .map (params.entries.map fun entry => (entry.1, .text entry.2))

/-- A match. -/
def RouteMatch.term (found : RouteMatch) : Term :=
  .record "RouteMatch" [
    ("params", Params.term found.params),
    ("route_name", .ofOption .text found.routeName)]

/-- What is wrong with a token. -/
def SegmentFault.term : SegmentFault → Term
  | .placeholderName => .word "PlaceholderName"
  | .reservedCharacter => .word "ReservedCharacter"

/-- An error. -/
def RouteError.term : RouteError → Term
  | .invalidPattern path segment fault =>
    .record "InvalidPattern" [("path", .text path), ("segment", .text segment),
      ("kind", fault.term)]
  | .missingPlaceholder name => .record "MissingPlaceholder" [("name", .text name)]
  | .constraintViolation name value pattern =>
    .record "ConstraintViolation" [("name", .text name), ("value", .text value),
      ("pattern", .text pattern)]
  | .noRoutesConfigured => .word "NoRoutesConfigured"
  | .routeNotFound path => .record "RouteNotFound" [("path", .text path)]
  | .unknownRoute name => .record "UnknownRoute" [("name", .text name)]
  | .noMatch => .word "NoMatch"
  | .invalidConfig fault => .record "InvalidConfig" [("reason", .text fault.message)]

end Switchyard
