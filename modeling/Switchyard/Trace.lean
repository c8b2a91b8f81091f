import Switchyard.Router

/-!
# Traces

A trace tells how every route of a router took a request, without stopping at the first match.
Its winner is still the first route that matched, the one that a search answers with.
-/

namespace Switchyard

/-- How one route took a request. -/
inductive Outcome where
  | matched
  | rejected (cause : Rejection)
  deriving Repr, DecidableEq

/-- The wording of an outcome. -/
def Outcome.message : Outcome → String
  | .matched => "matched"
  | .rejected .method => "method rejected"
  | .rejected .scheme => "scheme rejected"
  | .rejected .path => "path mismatch"
  | .rejected .uncompiled => "pattern did not compile"

/-- How a route took a request. -/
def Route.outcome (route : Route) (request : Request) : Outcome :=
  match route.evaluate request with
  | .ok _ => .matched
  | .error cause => .rejected cause

/-- One route's part in a trace. -/
structure TraceStep where
  route : String
  outcome : Outcome
  deriving Repr, DecidableEq

/-- How the routes of a router took a request, in order of dispatch, and the first that matched. -/
structure Trace where
  path : String
  steps : List TraceStep
  matched : Option String
  deriving Repr, DecidableEq

namespace Trace

/-- The names of the routes that matched, in order. -/
def candidates (trace : Trace) : List String :=
  (trace.steps.filter (·.outcome = .matched)).map TraceStep.route

/-- What stands before a step: an arrow when the step's route is the winner. -/
def marker (trace : Trace) (step : TraceStep) : String :=
  if trace.matched = some step.route then "=>" else "  "

/-- The line of one step. -/
def line (trace : Trace) (step : TraceStep) : String :=
  trace.marker step ++ " " ++ step.route ++ ": " ++ step.outcome.message ++ "\n"

/-- What the trace comes to. -/
def summary (trace : Trace) : String :=
  match trace.matched with
  | some name => "matched " ++ name
  | none => "no route matched"

/-- The trace as text: the path, a line for each step, and what it comes to. -/
def display (trace : Trace) : String :=
  "dispatch " ++ trace.path ++ "\n" ++ String.join (trace.steps.map trace.line) ++ trace.summary

end Trace

/-- The trace of a request. -/
def Router.trace (router : Router) (request : Request) : Trace :=
  let steps := router.routes.entries.map fun entry => ⟨entry.1, entry.2.outcome request⟩
  { path := request.path
    steps
    matched := (steps.find? (·.outcome = .matched)).map TraceStep.route }

end Switchyard
