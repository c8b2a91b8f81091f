import Switchyard.Fixture
import Switchyard.Proofs.FirstFault
import Switchyard.Proofs.Names.Keyed

/-!
# The verdict on a fixture

What a case wants is said without running it: it states exactly one expectation, and the outcome
is what it states (`Fulfilled`). A case passes just when it is fulfilled, so one that states
nothing, or both a success and an error, never passes. A run either goes through the cases or ends
with the building of the router (`Fixture.run_cases`). From this follows when a fixture passes, and
which case it blames when it does not (`Fixture.passes_or_blames`).
-/

namespace Switchyard

/-! ## Expectations -/

/-- The error is of the kind. -/
inductive RouteError.HasKind : RouteError → ErrorKind → Prop
  | invalidPattern (path segment : String) (fault : SegmentFault) :
    HasKind (.invalidPattern path segment fault) .invalidPattern
  | missingPlaceholder (name : String) : HasKind (.missingPlaceholder name) .missingPlaceholder
  | constraintViolation (name value pattern : String) :
    HasKind (.constraintViolation name value pattern) .constraintViolation
  | noRoutes : HasKind .noRoutesConfigured .noRoutes
  | notFound (path : String) : HasKind (.routeNotFound path) .notFound
  | unknownRoute (name : String) : HasKind (.unknownRoute name) .unknownRoute
  | noMatch : HasKind .noMatch .noMatch
  | invalidConfig (fault : ConfigFault) : HasKind (.invalidConfig fault) .invalidConfig

/-- Every error is of one kind. -/
theorem RouteError.kind_eq_iff {cause : RouteError} {kind : ErrorKind} :
    cause.kind = kind ↔ cause.HasKind kind := by
  constructor
  · rintro rfl
    cases cause <;> constructor
  · intro hkind
    cases hkind <;> rfl

/-- The match is of the expected route, every expected parameter has its value in it, and every name
that should be absent is. -/
structure ExpectedMatch.Holds (expected : ExpectedMatch) (found : RouteMatch) : Prop where
  route : found.routeName = some expected.route
  params : ∀ name value, expected.params.get? name = some value →
    found.params.get? name = some value
  absent : ∀ name ∈ expected.absent, found.params.get? name = none

theorem ExpectedMatch.isMetBy_iff {expected : ExpectedMatch} {found : RouteMatch} :
    expected.isMetBy found = true ↔ expected.Holds found := by
  have hparams :
      (expected.params.entries.all fun entry => found.param? entry.1 = some entry.2) = true ↔
        ∀ name value, expected.params.get? name = some value →
          found.params.get? name = some value := by
    rw [List.all_eq_true]
    constructor
    · intro h name value hget
      exact of_decide_eq_true (h (name, value) (Keyed.mem_entries_iff.mpr hget))
    · rintro h ⟨name, value⟩ hmem
      exact decide_eq_true (h name value (Keyed.mem_entries_iff.mp hmem))
  have habsent : (expected.absent.all fun name => !found.hasParam name) = true ↔
      ∀ name ∈ expected.absent, found.params.get? name = none := by
    simp only [List.all_eq_true, RouteMatch.hasParam, Keyed.contains, Bool.not_eq_true',
      Option.isSome_eq_false_iff, Option.isNone_iff_eq_none]
  rw [isMetBy, Bool.and_eq_true, Bool.and_eq_true, hparams, habsent, decide_eq_true_eq]
  constructor
  · rintro ⟨⟨hroute, hvalues⟩, hnames⟩
    exact ⟨hroute, hvalues, hnames⟩
  · rintro ⟨hroute, hvalues, hnames⟩
    exact ⟨⟨hroute, hvalues⟩, hnames⟩

section

variable {α β : Type} {holds : α → β → Prop} {expect : Option α} {expectError : Option ErrorKind}
  {outcome : Except RouteError β}

/-- One expectation is stated and no more than one. A stated success is the outcome, and a stated
error is one of its kind. -/
structure Fulfilled (holds : α → β → Prop) (expect : Option α) (expectError : Option ErrorKind)
    (outcome : Except RouteError β) : Prop where
  single : expect.isSome ≠ expectError.isSome
  success : ∀ expected, expect = some expected → ∃ value, outcome = .ok value ∧ holds expected value
  failure : ∀ kind, expectError = some kind → ∃ cause, outcome = .error cause ∧ cause.HasKind kind

theorem fulfilled_success {expected : α} :
    Fulfilled holds (some expected) none outcome ↔
      ∃ value, outcome = .ok value ∧ holds expected value := by
  refine ⟨fun h => h.success expected rfl,
    fun h => ⟨(by simp), ?_, fun _ hnone => (by cases hnone)⟩⟩
  rintro _ ⟨⟩
  exact h

theorem fulfilled_failure {kind : ErrorKind} :
    Fulfilled holds none (some kind) outcome ↔
      ∃ cause, outcome = .error cause ∧ cause.HasKind kind := by
  refine ⟨fun h => h.failure kind rfl,
    fun h => ⟨(by simp), fun _ hnone => (by cases hnone), ?_⟩⟩
  rintro _ ⟨⟩
  exact h

/-- An outcome agrees with what is expected just when that is fulfilled. -/
theorem agrees_eq_true_iff {meets : α → β → Bool}
    (hmeets : ∀ expected value, meets expected value = true ↔ holds expected value) :
    agrees expect expectError meets outcome = true ↔
      Fulfilled holds expect expectError outcome := by
  -- Of the four ways to state expectations, the two that state one ask something of the outcome.
  cases expect with
  | none =>
    cases expectError with
    | none => exact iff_of_false (by cases outcome <;> simp [agrees]) fun h => h.single rfl
    | some kind =>
      rw [fulfilled_failure]
      cases outcome with
      | ok value => simp [agrees]
      | error cause => simp [agrees, RouteError.kind_eq_iff]
  | some expected =>
    cases expectError with
    | none =>
      rw [fulfilled_success]
      cases outcome with
      | ok value => simp [agrees, hmeets]
      | error cause => simp [agrees]
    | some kind => exact iff_of_false (by cases outcome <;> simp [agrees]) fun h => h.single rfl

end

/-! ## Cases -/

section

variable {α : Type} {check : α → CaseResult} {fulfilled : α → Prop}

/-- The first result that did not pass is that of the first case that is not fulfilled. -/
theorem find?_failed_eq_some_iff (hpassed : ∀ case, (check case).passed = true ↔ fulfilled case)
    {list : List α} {result : CaseResult} :
    (list.map check).find? (fun result => !result.passed) = some result ↔
      FirstFault fulfilled (fun case => ¬fulfilled case ∧ check case = result) list := by
  induction list with
  | nil => exact iff_of_false (fun h => by cases h) not_firstFault_nil
  | cons case list ih =>
    rw [List.map_cons, firstFault_cons, ← ih]
    by_cases hfulfilled : fulfilled case
    · simp [(hpassed case).mpr hfulfilled, hfulfilled]
    · simp [Bool.eq_false_iff.mpr (mt (hpassed case).mp hfulfilled), hfulfilled]

/-- The name that the first failed result has is that of the first case that is not fulfilled. -/
theorem exists_find?_failed_iff (hpassed : ∀ case, (check case).passed = true ↔ fulfilled case)
    {caseName : α → String} (hname : ∀ case, (check case).name = caseName case) {list : List α}
    {name : String} :
    (∃ result, (list.map check).find? (fun result => !result.passed) = some result ∧
        result.name = name) ↔
      FirstFault fulfilled (fun case => ¬fulfilled case ∧ caseName case = name) list := by
  simp only [find?_failed_eq_some_iff hpassed, exists_firstFault_and, and_assoc, exists_and_left,
    exists_eq_left', hname]

theorem find?_failed_eq_none_iff (hpassed : ∀ case, (check case).passed = true ↔ fulfilled case)
    {list : List α} :
    (list.map check).find? (fun result => !result.passed) = none ↔
      ∀ case ∈ list, fulfilled case := by
  simp [hpassed]

end

namespace MatchCase

/-- What the case expects of a search on the router is fulfilled. -/
def IsFulfilled (case : MatchCase) (router : Router) : Prop :=
  Fulfilled ExpectedMatch.Holds case.expect case.expectError (router.find case.request)

theorem passed_check_iff (case : MatchCase) (router : Router) :
    (case.check router).passed = true ↔ case.IsFulfilled router :=
  agrees_eq_true_iff fun _ _ => ExpectedMatch.isMetBy_iff

end MatchCase

namespace AssembleCase

/-- What the case expects of a path of the router is fulfilled. -/
def IsFulfilled (case : AssembleCase) (router : Router) : Prop :=
  Fulfilled (· = ·) case.expect case.expectError (router.assemble case.route case.params)

theorem passed_check_iff (case : AssembleCase) (router : Router) :
    (case.check router).passed = true ↔ case.IsFulfilled router :=
  agrees_eq_true_iff fun _ _ => decide_eq_true_iff

end AssembleCase

namespace Fixture

variable {fixture : Fixture}

/-! ## The building of the router -/

/-- No error is expected, and the router is built. -/
def Builds (fixture : Fixture) (router : Router) : Prop :=
  fixture.expectBuildError = none ∧ fixture.router.build = .ok router

/-- The router is not built, for an error of the kind that is expected. -/
def FailsAsExpected (fixture : Fixture) : Prop :=
  ∃ kind cause, fixture.expectBuildError = some kind ∧ fixture.router.build = .error cause ∧
    cause.HasKind kind

/-- The building of the router comes out as expected. -/
def BuildsAsExpected (fixture : Fixture) : Prop :=
  (∃ router, fixture.Builds router) ∨ fixture.FailsAsExpected

/-- There is one router that is built. -/
theorem Builds.exists_iff {router : Router} (hbuilds : fixture.Builds router)
    {property : Router → Prop} :
    (∃ other, fixture.Builds other ∧ property other) ↔ property router := by
  constructor
  · rintro ⟨other, hother, hproperty⟩
    obtain rfl : other = router := Except.ok.inj (hother.2.symm.trans hbuilds.2)
    exact hproperty
  · intro hproperty
    exact ⟨router, hbuilds, hproperty⟩

theorem Builds.not_failsAsExpected {router : Router} (hbuilds : fixture.Builds router) :
    ¬fixture.FailsAsExpected := by
  rintro ⟨kind, cause, hexpect, -⟩
  cases hexpect.symm.trans hbuilds.1

/-- A run goes through the cases when the router is built, as it should be. Else it has one result,
under a name of its own, that passed when the router should not have been built for that reason. -/
theorem run_cases (fixture : Fixture) :
    (∃ router, fixture.Builds router ∧
      fixture.run = fixture.cases.map (·.check router) ++ fixture.assemble.map (·.check router)) ∨
    ∃ result, fixture.run = [result] ∧ result.name = buildName ∧
      (¬∃ router, fixture.Builds router) ∧ (result.passed = true ↔ fixture.FailsAsExpected) := by
  unfold run Builds FailsAsExpected
  cases fixture.router.build with
  | ok router =>
    cases fixture.expectBuildError with
    | none => exact .inl ⟨router, ⟨rfl, rfl⟩, rfl⟩
    | some kind => exact .inr ⟨_, rfl, rfl, by simp, by simp⟩
  | error cause =>
    cases fixture.expectBuildError with
    | none => exact .inr ⟨_, rfl, rfl, by simp, by simp⟩
    | some kind => exact .inr ⟨_, rfl, rfl, by simp, by simp [RouteError.kind_eq_iff]⟩

/-! ## The failure -/

/-- What all cases expect of the router is fulfilled. -/
def AllFulfilled (fixture : Fixture) (router : Router) : Prop :=
  (∀ case ∈ fixture.cases, case.IsFulfilled router) ∧
    ∀ case ∈ fixture.assemble, case.IsFulfilled router

/-- The first case that is not fulfilled has that name. The cases of matching come first, and then
those of assembling. -/
def FirstUnfulfilled (fixture : Fixture) (router : Router) (name : String) : Prop :=
  FirstFault (·.IsFulfilled router) (fun case => ¬case.IsFulfilled router ∧ case.name = name)
      fixture.cases ∨
    (∀ case ∈ fixture.cases, case.IsFulfilled router) ∧
      FirstFault (·.IsFulfilled router) (fun case => ¬case.IsFulfilled router ∧ case.name = name)
        fixture.assemble

/-- The fixture fails, and what is said about it names the fixture and the case. -/
def Blames (fixture : Fixture) (name : String) : Prop :=
  ∃ result expected actual, fixture.failure? = some result ∧ result.name = name ∧
    fixture.failureMessage result =
      "Fixture '" ++ fixture.name ++ "' case '" ++ name ++ "' failed: expected " ++ expected ++
        ", got " ++ actual

/-- The text about a failure names its case. -/
theorem blames_iff {name : String} :
    fixture.Blames name ↔ ∃ result, fixture.failure? = some result ∧ result.name = name := by
  constructor
  · rintro ⟨result, expected, actual, hfailure, hname, -⟩
    exact ⟨result, hfailure, hname⟩
  · rintro ⟨result, hfailure, rfl⟩
    exact ⟨result, _, _, hfailure, rfl, rfl⟩

section

variable {router : Router}
  (hrun : fixture.run =
    fixture.cases.map (·.check router) ++ fixture.assemble.map (·.check router))

include hrun

theorem failure?_eq_none_iff : fixture.failure? = none ↔ fixture.AllFulfilled router := by
  rw [failure?, hrun, List.find?_append, Option.or_eq_none_iff,
    find?_failed_eq_none_iff fun case => case.passed_check_iff router,
    find?_failed_eq_none_iff fun case => case.passed_check_iff router]
  rfl

/-- A run through the cases fails at the first that is not fulfilled. -/
theorem blames_iff_firstUnfulfilled {name : String} :
    fixture.Blames name ↔ fixture.FirstUnfulfilled router name := by
  simp only [blames_iff, failure?, hrun, List.find?_append, Option.or_eq_some_iff, or_and_right,
    exists_or, and_assoc, exists_and_left]
  rw [find?_failed_eq_none_iff fun case => case.passed_check_iff router,
    exists_find?_failed_iff (fun case => case.passed_check_iff router) fun case => rfl,
    exists_find?_failed_iff (fun case => case.passed_check_iff router) fun case => rfl]
  rfl

end

theorem failure?_of_run_eq_singleton {result : CaseResult} (hrun : fixture.run = [result]) :
    fixture.failure? = if result.passed then none else some result := by
  rw [failure?, hrun]
  cases hpassed : result.passed <;> simp [hpassed]

/-- The fixture does not fail just when the router is built, as it should be, and all cases are
fulfilled, or when it is not built for the reason expected. -/
theorem passes_iff (fixture : Fixture) :
    fixture.failure? = none ↔
      (∃ router, fixture.Builds router ∧ fixture.AllFulfilled router) ∨
        fixture.FailsAsExpected := by
  rcases fixture.run_cases with ⟨router, hbuilds, hrun⟩ | ⟨result, hrun, -, hnone, hpassed⟩
  · rw [or_iff_left hbuilds.not_failsAsExpected, hbuilds.exists_iff]
    exact failure?_eq_none_iff hrun
  · have hcases : ¬∃ router, fixture.Builds router ∧ fixture.AllFulfilled router :=
      fun ⟨router, hbuilds, _⟩ => hnone ⟨router, hbuilds⟩
    rw [or_iff_right hcases, ← hpassed, failure?_of_run_eq_singleton hrun]
    simp

/-- The building is blamed when it does not come out as expected, and else the first case that is
not fulfilled. -/
theorem blames_iff_build_or_firstUnfulfilled {name : String} :
    fixture.Blames name ↔
      (¬fixture.BuildsAsExpected ∧ name = buildName) ∨
        ∃ router, fixture.Builds router ∧ fixture.FirstUnfulfilled router name := by
  rcases fixture.run_cases with ⟨router, hbuilds, hrun⟩ | ⟨result, hrun, hname, hnone, hpassed⟩
  · -- A case may bear the name of the building, but the building itself is not to blame here.
    have hbuild : ¬(¬fixture.BuildsAsExpected ∧ name = buildName) :=
      fun h => h.1 (.inl ⟨router, hbuilds⟩)
    rw [or_iff_right hbuild, hbuilds.exists_iff]
    exact blames_iff_firstUnfulfilled hrun
  · have hcases : ¬∃ router, fixture.Builds router ∧ fixture.FirstUnfulfilled router name :=
      fun ⟨router, hbuilds, _⟩ => hnone ⟨router, hbuilds⟩
    rw [or_iff_left hcases, BuildsAsExpected, or_iff_right hnone, ← hpassed, blames_iff,
      failure?_of_run_eq_singleton hrun, ← hname]
    cases result.passed with
    | true => simp
    | false => simpa using eq_comm

/-- A fixture passes just when the router is built and every case is fulfilled, where no error is
expected of the building, or when the building fails with an error of the kind expected. Otherwise
the text of its failure names the building, when that did not come out as expected, and else the
first case that is not fulfilled. A case that expects nothing, or both a success and an error, never
passes. -/
theorem passes_or_blames :
    (∀ fixture : Fixture,
      (fixture.failure? = none ↔
        (∃ router, fixture.Builds router ∧ fixture.AllFulfilled router) ∨
          fixture.FailsAsExpected) ∧
      ∀ name, fixture.Blames name ↔
        (¬fixture.BuildsAsExpected ∧ name = "build") ∨
          ∃ router, fixture.Builds router ∧ fixture.FirstUnfulfilled router name) ∧
    ∀ router,
      (∀ case : MatchCase, case.expect.isSome = case.expectError.isSome →
        (case.check router).passed = false) ∧
      ∀ case : AssembleCase, case.expect.isSome = case.expectError.isSome →
        (case.check router).passed = false := by
  refine ⟨fun fixture => ⟨fixture.passes_iff, fun _ => blames_iff_build_or_firstUnfulfilled⟩,
    fun router => ⟨fun case hsame => ?_, fun case hsame => ?_⟩⟩
  · refine Bool.eq_false_iff.mpr fun hpassed => ?_
    exact ((case.passed_check_iff router).mp hpassed).single hsame
  · refine Bool.eq_false_iff.mpr fun hpassed => ?_
    exact ((case.passed_check_iff router).mp hpassed).single hsame

/-- Without routes a search fails, as the first case expects. The second case expects a path and an
error at once, and is blamed. -/
example :
    let search : MatchCase :=
      { name := "search", request := { path := "/" }, expectError := some .noRoutes }
    let torn : AssembleCase :=
      { name := "torn", route := "r", expect := some "/", expectError := some .unknownRoute }
    ({ name := "bare", description := "", cases := [search], assemble := [torn] } :
      Fixture).failure?.map CaseResult.name = some "torn" := by
  decide

end Fixture

end Switchyard
