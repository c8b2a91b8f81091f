import Mathlib.Data.List.Forall2
import Switchyard.Proofs.Router.FirstMatch
import Switchyard.Trace

/-!
# Traces, searches and the log

A trace asks every route, a search stops at the first that accepts, and the log is written by the
search. All three tell the same (`Router.trace_agrees`): the winner of the trace is the route that
the search answers with, the log holds the steps up to the winner (`Trace.log`), and the text of the
trace puts its arrow at the winner's place and nowhere else. The text goes by name and not by place;
that this comes to the same rests on the names of a router being distinct.
-/

namespace Switchyard

/-! ## Outcomes -/

theorem Route.outcome_eq_matched_iff (route : Route) (request : Request) :
    route.outcome request = .matched ↔ route.Accepts request := by
  unfold outcome Accepts
  cases route.evaluate request <;> simp

theorem Route.outcome_eq_rejected_iff (route : Route) (request : Request) (cause : Rejection) :
    route.outcome request = .rejected cause ↔ route.evaluate request = .error cause := by
  unfold outcome
  cases route.evaluate request <;> simp

theorem Route.outcome_ne_matched_iff (route : Route) (request : Request) :
    route.outcome request ≠ .matched ↔ route.Rejects request := by
  rw [ne_eq, outcome_eq_matched_iff, not_accepts_iff]

/-! ## What a trace says of the log and of the text -/

/-- What a log is told of a step. -/
def TraceStep.event (path : String) (step : TraceStep) : Event :=
  match step.outcome with
  | .matched => .routeMatched step.route path
  | .rejected cause => .routeSkipped step.route path cause

/-- The line of a step behind a mark. -/
def TraceStep.lineBehind (mark : String) (step : TraceStep) : String :=
  mark ++ " " ++ step.route ++ ": " ++ step.outcome.message ++ "\n"

namespace Trace

/-- The log of the search that a trace stands for: the steps before the first match, and then that
match, or else that none of so many routes matched. Without routes there is nothing to log. -/
def log (trace : Trace) : List Event :=
  (trace.steps.takeWhile (·.outcome ≠ .matched)).map (·.event trace.path) ++
    match trace.matched with
    | some name => [.routeMatched name trace.path]
    | none => if trace.steps = [] then [] else [.noRouteMatched trace.path trace.steps.length]

/-- The place of the first step that matched. -/
def winner? (trace : Trace) : Option Nat := trace.steps.findIdx? (·.outcome = .matched)

/-- The text of a trace with its arrow at the place of the first step that matched. -/
def displayByPlace (trace : Trace) : String :=
  "dispatch " ++ trace.path ++ "\n" ++
    String.join (trace.steps.mapIdx fun place step =>
      step.lineBehind (if trace.winner? = some place then "=>" else "  ")) ++
    match trace.matched with
    | some name => "matched " ++ name
    | none => "no route matched"

end Trace

/-! ## Agreement -/

namespace Router

variable (router : Router) (request : Request)

/-- The step of an entry in the trace of a request. -/
def stepOf (request : Request) (entry : String × Route) : TraceStep :=
  ⟨entry.1, entry.2.outcome request⟩

theorem steps_trace : (router.trace request).steps = router.routes.entries.map (stepOf request) := rfl

theorem matched_trace : (router.trace request).matched =
    ((router.trace request).steps.find? (·.outcome = .matched)).map TraceStep.route := rfl

/-- The names of the steps are the names of the routes, so none comes twice. -/
theorem names_steps : (router.trace request).steps.map TraceStep.route = router.routes.names := by
  rw [steps_trace, List.map_map]
  rfl

theorem filterMap_skipped {request : Request} {entries : List (String × Route)}
    (h : ∀ entry ∈ entries, entry.2.Rejects request) :
    entries.filterMap (skipped? request) =
      (entries.map (stepOf request)).map (TraceStep.event request.path) := by
  rw [List.map_map, ← List.filterMap_eq_map]
  refine List.filterMap_congr fun entry hmem => ?_
  obtain ⟨cause, hcause⟩ := h entry hmem
  have houtcome := (entry.2.outcome_eq_rejected_iff request cause).mpr hcause
  simp only [skipped?, hcause, Function.comp_apply, TraceStep.event, stepOf, houtcome]

theorem rejected_of_rejects {request : Request} {entries : List (String × Route)}
    (h : ∀ entry ∈ entries, entry.2.Rejects request) :
    ∀ step ∈ entries.map (stepOf request), step.outcome ≠ .matched := by
  intro step hstep
  obtain ⟨entry, hmem, rfl⟩ := List.mem_map.mp hstep
  exact (entry.2.outcome_ne_matched_iff request).mpr (h entry hmem)

/-- The trace of a router with a first route that accepts the request. -/
theorem matched_of_first {router : Router} {request : Request}
    {before after : List (String × Route)} {name : String} {route : Route}
    (hentries : router.routes.entries = before ++ (name, route) :: after)
    (hbefore : ∀ entry ∈ before, entry.2.Rejects request) (haccepts : route.Accepts request) :
    (router.trace request).matched = some name ∧
      (router.trace request).steps.takeWhile (·.outcome ≠ .matched) =
        before.map (stepOf request) := by
  have hmatched := (route.outcome_eq_matched_iff request).mpr haccepts
  have hskip := rejected_of_rejects hbefore
  rw [matched_trace, steps_trace, hentries, List.map_append, List.map_cons]
  constructor
  · rw [List.find?_append, List.find?_eq_none.mpr (by simpa using hskip)]
    simp [stepOf, hmatched]
  · rw [List.takeWhile_append_of_pos (by simpa using hskip)]
    simp [stepOf, hmatched]

/-- The trace of a router of whose routes none accepts the request. -/
theorem matched_of_none {router : Router} {request : Request}
    (hall : ∀ entry ∈ router.routes.entries, entry.2.Rejects request) :
    (router.trace request).matched = none ∧
      (router.trace request).steps.takeWhile (·.outcome ≠ .matched) =
        (router.trace request).steps := by
  have hskip := rejected_of_rejects hall
  rw [matched_trace, steps_trace]
  constructor
  · rw [List.find?_eq_none.mpr (by simpa using hskip)]
    rfl
  · exact List.takeWhile_eq_self_iff.mpr (by simpa using hskip)

/-- The winner of the trace is the route that the search answers with. -/
theorem matched_iff_find (name : String) :
    (router.trace request).matched = some name ↔
      ∃ found, router.find request = .ok found ∧ found.routeName = some name := by
  rcases first_cases router.routes.entries request with
    hall | ⟨before, other, route, after, hentries, hbefore, found, hfound⟩
  · rw [(matched_of_none hall).1]
    by_cases hsize : router.size = 0
    · simp [find, dispatch_of_empty request hsize]
    · simp [find, dispatch_of_none hsize hall]
  · rw [(matched_of_first hentries hbefore ⟨found, hfound⟩).1, find,
      dispatch_of_first hentries hbefore hfound]
    simp [finish, RouteMatch.setRouteName, RouteMatch.withDefaults]

/-- Without a winner of the trace, the search fails. -/
theorem matched_eq_none_iff :
    (router.trace request).matched = none ↔ ∃ cause, router.find request = .error cause := by
  have hwinner := router.matched_iff_find request
  cases hfind : router.find request with
  | ok found =>
    obtain ⟨-, name, -, -, taken, -, -, -, rfl⟩ := winner_of_find hfind
    simp [(hwinner name).mpr ⟨_, hfind, rfl⟩]
  | error cause =>
    refine iff_of_true (Option.eq_none_iff_forall_ne_some.mpr fun name hname => ?_) ⟨cause, rfl⟩
    obtain ⟨found, hfound, -⟩ := (hwinner name).mp hname
    cases hfind.symm.trans hfound

/-- The search writes the log that the trace stands for. -/
theorem events_eq_log : (router.dispatch request).events = (router.trace request).log := by
  rw [Trace.log]
  rcases first_cases router.routes.entries request with
    hall | ⟨before, name, route, after, hentries, hbefore, found, hfound⟩
  · obtain ⟨hmatched, hskip⟩ := matched_of_none hall
    rw [hmatched, hskip, steps_trace]
    by_cases hsize : router.size = 0
    · rw [dispatch_of_empty request hsize, size_eq_zero_iff.mp hsize]
      rfl
    · have hne : router.routes.entries ≠ [] := mt size_eq_zero_iff.mpr hsize
      rw [dispatch_of_none hsize hall, filterMap_skipped hall]
      simp [hne, trace, size, Roster.size]
  · obtain ⟨hmatched, hskip⟩ := matched_of_first hentries hbefore ⟨found, hfound⟩
    rw [dispatch_of_first hentries hbefore hfound, hmatched, hskip, filterMap_skipped hbefore]
    rfl

/-- Steps go by distinct names, so the step that bears the winner's name is the winner. -/
theorem matched_iff_winner? {place : Nat} {step : TraceStep}
    (hstep : (router.trace request).steps[place]? = some step) :
    (router.trace request).matched = some step.route ↔
      (router.trace request).winner? = some place := by
  have hnodup : ((router.trace request).steps.map TraceStep.route).Nodup := by
    rw [names_steps]
    exact router.routes.nodup
  obtain ⟨hplace, rfl⟩ := List.getElem?_eq_some_iff.mp hstep
  rw [matched_trace, Trace.winner?, List.findIdx?_eq_some_iff_getElem, Option.map_eq_some_iff]
  constructor
  · rintro ⟨winner, hfind, hname⟩
    obtain ⟨hmatched, index, hindex, rfl, hearlier⟩ := List.find?_eq_some_iff_getElem.mp hfind
    -- Names are distinct, so the first match stands at the place of its name.
    have hsame : index = place := by
      refine (List.getElem?_inj (by simpa using hindex) hnodup).mp ?_
      simp [hindex, hplace, hname]
    subst hsame
    exact ⟨hindex, hmatched, by simpa using hearlier⟩
  · rintro ⟨_, hmatched, hearlier⟩
    refine ⟨_, List.find?_eq_some_iff_getElem.mpr ⟨hmatched, place, hplace, rfl, ?_⟩, rfl⟩
    simpa using hearlier

/-- The text marks the winner's place. -/
theorem display_eq_displayByPlace :
    (router.trace request).display = (router.trace request).displayByPlace := by
  have hlines : (router.trace request).steps.map (router.trace request).line =
      (router.trace request).steps.mapIdx fun place step =>
        step.lineBehind (if (router.trace request).winner? = some place then "=>" else "  ") := by
    refine List.ext_getElem? fun place => ?_
    rw [List.getElem?_map, List.getElem?_mapIdx]
    cases hstep : (router.trace request).steps[place]? with
    | none => rfl
    | some step =>
      simp only [Option.map_some, Trace.line, Trace.marker, TraceStep.lineBehind,
        matched_iff_winner? router request hstep]
  rw [Trace.display, Trace.displayByPlace, hlines]
  rfl

/-- A trace has a step for each route, in order of dispatch, with the route's own outcome. Its winner
is the route that the search answers with, and the first of its candidates; the log of the search
is the log that it stands for; and its text has the arrow at the first step that matched. -/
theorem trace_agrees :
    List.Forall₂ (fun entry step => step.route = entry.1 ∧
        (step.outcome = .matched ↔ entry.2.Accepts request) ∧
        ∀ cause, step.outcome = .rejected cause ↔ entry.2.evaluate request = .error cause)
      router.routes.entries (router.trace request).steps ∧
    (∀ name, (router.trace request).matched = some name ↔
      ∃ found, router.find request = .ok found ∧ found.routeName = some name) ∧
    (router.trace request).matched = (router.trace request).candidates.head? ∧
    (router.dispatch request).events = (router.trace request).log ∧
    (router.trace request).display = (router.trace request).displayByPlace := by
  refine ⟨?_, matched_iff_find router request, ?_, events_eq_log router request,
    display_eq_displayByPlace router request⟩
  · rw [steps_trace, List.forall₂_map_right_iff, List.forall₂_same]
    intro entry _
    exact ⟨rfl, entry.2.outcome_eq_matched_iff request,
      fun cause => entry.2.outcome_eq_rejected_iff request cause⟩
  · rw [matched_trace, Trace.candidates, List.head?_map, List.head?_filter]

end Router

end Switchyard
