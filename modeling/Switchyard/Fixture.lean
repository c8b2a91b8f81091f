import Switchyard.Config
import Switchyard.Report.Outcome

/-!
# Fixtures

A fixture holds a configuration and what is expected of its router: that it cannot be built, or
that it can and that cases of matching and of assembling come out as they say. Running a fixture
gives a result for every case (`Fixture.run`), and the first that failed is the fixture's failure
(`Fixture.failure?`). A case that expects nothing, or both a success and an error, never passes.
-/

namespace Switchyard

/-- The kinds of errors that a case can expect. -/
inductive ErrorKind where
  | invalidPattern
  | missingPlaceholder
  | constraintViolation
  | noRoutes
  | notFound
  | unknownRoute
  | noMatch
  | invalidConfig
  deriving Repr, DecidableEq

/-- The kind of an error. -/
def RouteError.kind : RouteError → ErrorKind
  | .invalidPattern .. => .invalidPattern
  | .missingPlaceholder .. => .missingPlaceholder
  | .constraintViolation .. => .constraintViolation
  | .noRoutesConfigured => .noRoutes
  | .routeNotFound .. => .notFound
  | .unknownRoute .. => .unknownRoute
  | .noMatch => .noMatch
  | .invalidConfig .. => .invalidConfig

/-- A kind of error as a term. -/
def ErrorKind.term : ErrorKind → Term
  | .invalidPattern => .word "InvalidPattern"
  | .missingPlaceholder => .word "MissingPlaceholder"
  | .constraintViolation => .word "ConstraintViolation"
  | .noRoutes => .word "NoRoutes"
  | .notFound => .word "NotFound"
  | .unknownRoute => .word "UnknownRoute"
  | .noMatch => .word "NoMatch"
  | .invalidConfig => .word "InvalidConfig"

/-- What a match must be: of that route, with those parameters among its own and without those
names. -/
structure ExpectedMatch where
  route : String
  params : Params := .empty
  absent : List String := []
  deriving Repr, DecidableEq

namespace ExpectedMatch

/-- The match is as expected. -/
def isMetBy (expected : ExpectedMatch) (found : RouteMatch) : Bool :=
  found.routeName = some expected.route &&
    expected.params.entries.all (fun entry => found.param? entry.1 = some entry.2) &&
    expected.absent.all (fun name => !found.hasParam name)

/-- An expected match as a term. -/
def term (expected : ExpectedMatch) : Term :=
  .record "ExpectedMatch" [
    ("route", .text expected.route),
    ("params", Params.term expected.params),
    ("absent", .list (expected.absent.map .text))]

end ExpectedMatch

/-- A case of matching. -/
structure MatchCase where
  name : String
  request : Request
  expect : Option ExpectedMatch := none
  expectError : Option ErrorKind := none
  deriving Repr, DecidableEq

/-- A case of assembling. -/
structure AssembleCase where
  name : String
  route : String
  params : Params := .empty
  expect : Option String := none
  expectError : Option ErrorKind := none
  deriving Repr, DecidableEq

/-- A configuration with what is expected of it. -/
structure Fixture where
  name : String
  description : String
  router : RouterConfig := .empty
  expectBuildError : Option ErrorKind := none
  cases : List MatchCase := []
  assemble : List AssembleCase := []
  deriving Repr, DecidableEq

/-- How a case came out. -/
structure CaseResult where
  name : String
  passed : Bool
  expected : Term
  actual : Term

/-- What a case expects and the outcome agree: a success is expected and meets the expectation, or
an error is expected and is of its kind. -/
def agrees {α β : Type} (expect : Option α) (expectError : Option ErrorKind)
    (meets : α → β → Bool) : Except RouteError β → Bool
  | .ok value =>
    match expect, expectError with
    | some expected, none => meets expected value
    | _, _ => false
  | .error cause =>
    match expect, expectError with
    | none, some kind => cause.kind = kind
    | _, _ => false

namespace MatchCase

/-- What the case expects and the outcome as terms: by themselves when both are successes or both
errors, and else with all that was expected. -/
def terms (case : MatchCase) (outcome : Except RouteError RouteMatch) : Term × Term :=
  match case.expect, case.expectError, outcome with
  | some expected, none, .ok found => (expected.term, found.term)
  | none, some kind, .error cause => (kind.term, cause.term)
  | expect, expectError, outcome =>
    (.pair (.ofOption ExpectedMatch.term expect) (.ofOption ErrorKind.term expectError),
      .ofExcept RouteError.term RouteMatch.term outcome)

/-- Runs the case on a router. -/
def check (case : MatchCase) (router : Router) : CaseResult :=
  let outcome := router.find case.request
  let (expected, actual) := case.terms outcome
  { name := case.name
    passed := agrees case.expect case.expectError ExpectedMatch.isMetBy outcome
    expected
    actual }

end MatchCase

/-- Runs the case on a router. -/
def AssembleCase.check (case : AssembleCase) (router : Router) : CaseResult :=
  let outcome := router.assemble case.route case.params
  { name := case.name
    passed := agrees case.expect case.expectError (fun expected path => expected = path) outcome
    expected := .pair (.ofOption .text case.expect) (.ofOption ErrorKind.term case.expectError)
    actual := .ofExcept RouteError.term .text outcome }

namespace Fixture

/-- The name under which the building of the router is reported. -/
def buildName : String := "build"

/-- Builds the router and runs the cases: those of matching, then those of assembling. When the
router is built and should not have been, or is not built, that alone is the result. -/
def run (fixture : Fixture) : List CaseResult :=
  match fixture.router.build, fixture.expectBuildError with
  | .ok router, none =>
    fixture.cases.map (·.check router) ++ fixture.assemble.map (·.check router)
  | .error cause, some kind => [⟨buildName, cause.kind = kind, kind.term, cause.term⟩]
  | outcome, expected =>
    [⟨buildName, false, .ofOption ErrorKind.term expected,
      .ofExcept RouteError.term (fun router => .number router.size) outcome⟩]

/-- The result of the first case that did not pass. -/
def failure? (fixture : Fixture) : Option CaseResult :=
  fixture.run.find? fun result => !result.passed

/-- What is said about a result that did not pass. -/
def failureMessage (fixture : Fixture) (result : CaseResult) : String :=
  "Fixture '" ++ fixture.name ++ "' case '" ++ result.name ++ "' failed: expected " ++
    result.expected.render ++ ", got " ++ result.actual.render

end Fixture

end Switchyard
