import Switchyard.Proofs.FirstFault
import Switchyard.Proofs.Route.Evaluation
import Switchyard.Proofs.Text.Case

/-!
# The checks of a request

A request goes through four checks in a fixed order: its method, its scheme, the program of the
pattern and its path. Each of them is told on its own (`Route.FailsCheck`), whatever the others say
of the request. The route rejects the request with the first check that it fails
(`Route.evaluate_eq_error_iff`), and the case of a method or a scheme has no part in any of this
(`Route.evaluate_congr`).
-/

namespace Switchyard

/-- The requests have one path, and differ in the case of the method and the scheme at most. -/
structure Request.SameButCase (first second : Request) : Prop where
  path : first.path = second.path
  method : Text.SameButCase first.method second.method
  scheme : Text.SameButCase first.scheme second.scheme

namespace Route

/-- The filter holds names, and none that is the given one in some case. -/
def Excludes (filter : NameSet) (given : String) : Prop :=
  filter.names ≠ [] ∧ ∀ name ∈ filter.names, ¬Text.SameButCase name given

/-- A filter whose names stand in one case lets the others through. -/
theorem passes_eq_true_iff {filter : NameSet} {fold : String → String}
    (hfold : ∀ {first second}, Text.SameButCase first second ↔ fold first = fold second)
    (hsettled : ∀ name ∈ filter.names, fold name = name) (given : String) :
    passes filter (fold given) = true ↔ ¬Excludes filter given := by
  have hempty : filter.isEmpty = true ↔ filter.names = [] := by
    rw [Keyed.isEmpty, List.isEmpty_iff, Keyed.names, List.map_eq_nil_iff]
  -- The names of the filter are folded already, so looking up the folded name is comparing without
  -- case.
  have hcontains : filter.contains (fold given) = true ↔
      ∃ name ∈ filter.names, Text.SameButCase name given := by
    have hmem : filter.contains (fold given) = true ↔ fold given ∈ filter.names := by
      rw [NameSet.mem_names_iff, Keyed.contains, Option.isSome_iff_exists]
      constructor
      · rintro ⟨_, h⟩
        exact h
      · intro h
        exact ⟨(), h⟩
    rw [hmem]
    constructor
    · intro h
      exact ⟨fold given, h, hfold.mpr (hsettled _ h)⟩
    · rintro ⟨name, h, hsame⟩
      rwa [← hfold.mp hsame, hsettled name h]
  rw [passes, Bool.or_eq_true, hempty, hcontains, Excludes]
  by_cases hnil : filter.names = []
  · simp [hnil]
  · simp [hnil]

variable (route : Route)

/-- The request fails a check, whatever the other checks say. -/
def FailsCheck (request : Request) : Rejection → Prop
  | .method => Excludes route.config.methods request.method
  | .scheme => Excludes route.config.schemes request.scheme
  | .uncompiled => route.pattern.program? = none
  | .path => ∀ program, route.pattern.program? = some program →
      program.search? (trimmed request.path) = none

/-- The checks in the order in which they are made. -/
def checks : List Rejection := [.method, .scheme, .uncompiled, .path]

theorem failsCheck_method_iff (request : Request) :
    route.FailsCheck request .method ↔
      passes route.config.methods (Text.upper request.method) = false := by
  have hsettled : ∀ name ∈ route.config.methods.names, Text.upper name = name :=
    (NameSet.image_eq_self_iff Text.upper_upper).mp (congrArg RouteConfig.methods route.canonical)
  rw [← Bool.not_eq_true, passes_eq_true_iff Text.sameButCase_iff_upper hsettled, not_not,
    FailsCheck]

theorem failsCheck_scheme_iff (request : Request) :
    route.FailsCheck request .scheme ↔
      passes route.config.schemes (Text.lower request.scheme) = false := by
  have hsettled : ∀ name ∈ route.config.schemes.names, Text.lower name = name :=
    (NameSet.image_eq_self_iff Text.lower_lower).mp (congrArg RouteConfig.schemes route.canonical)
  rw [← Bool.not_eq_true, passes_eq_true_iff Iff.rfl hsettled, not_not, FailsCheck]

/-- A request is rejected with the first check that it fails. -/
theorem evaluate_eq_error_iff (request : Request) (cause : Rejection) :
    route.evaluate request = .error cause ↔
      FirstFault (fun check => ¬route.FailsCheck request check)
        (fun check => check = cause ∧ route.FailsCheck request check) checks := by
  have hmethods := route.failsCheck_method_iff request
  have hschemes := route.failsCheck_scheme_iff request
  simp only [checks, firstFault_cons, not_firstFault_nil, and_false, or_false, evaluate]
  -- The checks in their order; once one fails, those behind it do not matter.
  cases hmethod : passes route.config.methods (Text.upper request.method) with
  | false =>
    rw [hmethod] at hmethods
    simp [hmethods]
  | true =>
    rw [hmethod] at hmethods
    cases hscheme : passes route.config.schemes (Text.lower request.scheme) with
    | false =>
      rw [hscheme] at hschemes
      simp [hmethods, hschemes]
    | true =>
      rw [hscheme] at hschemes
      have huncompiled : route.FailsCheck request .uncompiled ↔ route.pattern.program? = none :=
        Iff.rfl
      cases hprogram : route.pattern.program? with
      | none => simp [hmethods, hschemes, huncompiled, hprogram]
      | some program =>
        have hpath : route.FailsCheck request .path ↔
            program.search? (trimmed request.path) = none := by
          simp only [FailsCheck, hprogram, Option.some.injEq, forall_eq']
        rw [hprogram] at huncompiled
        rw [show Text.trimEnd (· = '/') request.path.toList = trimmed request.path from rfl]
        cases hsearch : program.search? (trimmed request.path) <;>
          simp [hmethods, hschemes, huncompiled, hpath, Pattern.captures?, hsearch]

/-- Requests that differ in case at most are treated alike. -/
theorem evaluate_congr {first second : Request} (h : first.SameButCase second) :
    route.evaluate first = route.evaluate second := by
  rw [evaluate, evaluate, Text.sameButCase_iff_upper.mp h.method, h.scheme, h.path]

end Route

end Switchyard
