import Switchyard.Proofs.Router.Run

/-!
# The recorded match

A router remembers the match of the last recorded search that succeeded. Told by the run of
operations alone, that is the match that a search would have found in the router as it was at that
moment (`Router.routeMatch_run`): what is added, removed, merged or set later, and searches that
fail, leave it as it is. One operation is followed in `Router.lastMatch_apply`, a run in
`Router.lastMatch_run`.
-/

namespace Switchyard.Router

/-! ## One operation -/

section

variable {router : Router} {request : Request}

/-- A recorded search that fails leaves the router as it was. -/
theorem record_of_error {cause : RouteError} (hfind : router.find request = .error cause) :
    router.record request = (router, .error cause) := by
  rw [record, hfind]

/-- The only effect of a recorded search that succeeds is the match that it records. -/
theorem record_of_ok {found : RouteMatch} (hfind : router.find request = .ok found) :
    router.record request = ({ router with lastMatch := some found }, .ok found) := by
  rw [record, hfind]

end

/-- The operation records a match on the router: it is a recorded search, and a search finds the
match. -/
def Records (router : Router) (call : RouterCall) (found : RouteMatch) : Prop :=
  ∃ request, call = .matchRequest request ∧ router.find request = .ok found

theorem Records.unique {router : Router} {call : RouterCall} {found other : RouteMatch}
    (hfound : router.Records call found) (hother : router.Records call other) : found = other := by
  obtain ⟨request, rfl, hfind⟩ := hfound
  obtain ⟨_, hcall, hfind'⟩ := hother
  obtain rfl := RouterCall.matchRequest.inj hcall
  exact Except.ok.inj (hfind.symm.trans hfind')

/-- After an operation the recorded match is the one that the operation records, if it records one,
and else the one that was recorded before. -/
theorem lastMatch_apply (router : Router) (call : RouterCall) :
    (∃ found, router.Records call found ∧ (router.apply call).lastMatch = some found) ∨
      ((∀ found, ¬router.Records call found) ∧
        (router.apply call).lastMatch = router.lastMatch) := by
  -- A match request is the only call that touches what is recorded.
  cases call with
  | matchRequest request =>
    cases hfind : router.find request with
    | ok found =>
      refine .inl ⟨found, ⟨request, rfl, hfind⟩, ?_⟩
      rw [apply, record_of_ok hfind]
    | error cause =>
      refine .inr ⟨?_, by rw [apply, record_of_error hfind]⟩
      rintro found ⟨_, hcall, hfound⟩
      obtain rfl := RouterCall.matchRequest.inj hcall
      rw [hfind] at hfound
      cases hfound
  | add | remove | merge | setDefaultParams | setDefaultParam | find | trace =>
    refine .inr ⟨?_, rfl⟩
    rintro found ⟨_, hcall, -⟩
    cases hcall

/-! ## Runs of operations -/

/-- The run records a match right after the operations `before`: the next one is a recorded search,
and a search in the router as it then is finds the match. -/
def RecordsAfter (start : Router) (calls before : List RouterCall) (found : RouteMatch) : Prop :=
  ∃ call after, calls = before ++ call :: after ∧ (start.run before).Records call found

/-- The match is the last one that the run records. -/
def RecordsLast (start : Router) (calls : List RouterCall) (found : RouteMatch) : Prop :=
  ∃ before, start.RecordsAfter calls before found ∧
    ∀ later other, start.RecordsAfter calls later other → later.length ≤ before.length

theorem run_concat (start : Router) (calls : List RouterCall) (last : RouterCall) :
    start.run (calls ++ [last]) = (start.run calls).apply last := by
  rw [run, List.foldl_append]
  rfl

theorem RecordsAfter.length_lt {start : Router} {calls before : List RouterCall}
    {found : RouteMatch} (h : start.RecordsAfter calls before found) : before.length < calls.length := by
  obtain ⟨call, after, rfl, -⟩ := h
  simp

/-- One more operation may record a match itself, and takes none of those recorded back. -/
theorem recordsAfter_concat {start : Router} {calls before : List RouterCall} {last : RouterCall}
    {found : RouteMatch} :
    start.RecordsAfter (calls ++ [last]) before found ↔
      (before = calls ∧ (start.run calls).Records last found) ∨
        start.RecordsAfter calls before found := by
  constructor
  · rintro ⟨call, after, hsplit, hrecords⟩
    rcases concat_eq_append_cons.mp hsplit with ⟨rfl, rfl, -⟩ | ⟨rest, rfl, -⟩
    · exact .inl ⟨rfl, hrecords⟩
    · exact .inr ⟨call, rest, rfl, hrecords⟩
  · rintro (⟨rfl, hrecords⟩ | ⟨call, after, rfl, hrecords⟩)
    · exact ⟨last, [], rfl, hrecords⟩
    · exact ⟨call, after ++ [last], by simp, hrecords⟩

/-- Two matches that a run records last are one: both were recorded after the same operations. -/
theorem RecordsLast.unique {start : Router} {calls : List RouterCall} {found other : RouteMatch}
    (hfound : start.RecordsLast calls found) (hother : start.RecordsLast calls other) :
    found = other := by
  obtain ⟨before, hbefore, hlatest⟩ := hfound
  obtain ⟨before', hbefore', hlatest'⟩ := hother
  have hlength : before.length = before'.length :=
    Nat.le_antisymm (hlatest' before found hbefore) (hlatest before' other hbefore')
  obtain ⟨call, after, hsplit, hrecords⟩ := hbefore
  obtain ⟨call', after', hsplit', hrecords'⟩ := hbefore'
  obtain ⟨rfl, hrest⟩ := List.append_inj (hsplit.symm.trans hsplit') hlength
  obtain ⟨rfl, -⟩ := List.cons.inj hrest
  exact hrecords.unique hrecords'

/-- After a run the recorded match is the last one that the run records, if it records any, and else
the one that was recorded before the run. -/
theorem lastMatch_run (start : Router) (calls : List RouterCall) :
    (∃ found, start.RecordsLast calls found ∧ (start.run calls).lastMatch = some found) ∨
      ((∀ before found, ¬start.RecordsAfter calls before found) ∧
        (start.run calls).lastMatch = start.lastMatch) := by
  -- From the end of the run, since the last operation decides first.
  induction calls using List.reverseRecOn with
  | nil => exact .inr ⟨fun before found h => Nat.not_lt_zero _ h.length_lt, rfl⟩
  | append_singleton calls last ih =>
    rw [run_concat]
    rcases lastMatch_apply (start.run calls) last with ⟨latest, hrecords, hlast⟩ | ⟨hnone, hlast⟩
    · refine .inl ⟨latest, ⟨calls, recordsAfter_concat.mpr (.inl ⟨rfl, hrecords⟩), ?_⟩, hlast⟩
      intro later other hlater
      have hlength := hlater.length_lt
      rw [List.length_append, List.length_singleton] at hlength
      exact Nat.le_of_lt_succ hlength
    · -- The run records what it recorded before its last operation.
      have hsame : ∀ before found, start.RecordsAfter (calls ++ [last]) before found ↔
          start.RecordsAfter calls before found := fun before found =>
        recordsAfter_concat.trans (or_iff_right fun h => hnone found h.2)
      simp only [RecordsLast, hsame] at ih ⊢
      rw [hlast]
      exact ih

/-! ## What is reported -/

theorem routeMatch_eq_ok_iff (router : Router) (found : RouteMatch) :
    router.routeMatch = .ok found ↔ router.lastMatch = some found := by
  unfold routeMatch
  cases router.lastMatch <;> simp

theorem routeMatch_eq_error_iff (router : Router) :
    router.routeMatch = .error .noMatch ↔ router.lastMatch = none := by
  unfold routeMatch
  cases router.lastMatch <;> simp

/-- After a run from the empty router no match is reported when the run recorded none, and else the
last match that it recorded, which is what a search found in the router at that moment. A recorded
search either fails with the error of a search, and leaves the routes, the defaults and the recorded
match as they were, or it changes only the recorded match, to what a search finds. -/
theorem routeMatch_run (calls : List RouterCall) :
    ((empty.run calls).routeMatch = .error .noMatch ↔
      ∀ before found, ¬empty.RecordsAfter calls before found) ∧
    (∀ found, (empty.run calls).routeMatch = .ok found ↔ empty.RecordsLast calls found) ∧
    ∀ (router : Router) (request : Request),
      (∃ cause, router.find request = .error cause ∧
        router.record request = (router, .error cause) ∧
        router.matchRequest request = .error cause ∧
        router.apply (.matchRequest request) = router) ∨
      ∃ found, router.find request = .ok found ∧
        router.record request = ({ router with lastMatch := some found }, .ok found) ∧
        router.matchRequest request = .ok { router with lastMatch := some found } ∧
        router.apply (.matchRequest request) = { router with lastMatch := some found } := by
  refine ⟨?_, fun found => ?_, fun router request => ?_⟩
  · rw [routeMatch_eq_error_iff]
    rcases lastMatch_run empty calls with ⟨latest, ⟨before, hbefore, -⟩, hlast⟩ | ⟨hnone, hlast⟩
    · rw [hlast]
      exact iff_of_false (Option.some_ne_none latest) fun h => h before latest hbefore
    · rw [hlast]
      exact iff_of_true rfl hnone
  · rw [routeMatch_eq_ok_iff]
    rcases lastMatch_run empty calls with ⟨latest, hlatest, hlast⟩ | ⟨hnone, hlast⟩
    · rw [hlast, Option.some.injEq]
      exact ⟨fun heq => heq ▸ hlatest, hlatest.unique⟩
    · rw [hlast]
      exact iff_of_false (Option.some_ne_none found).symm fun ⟨before, h, _⟩ => hnone before found h
  · -- One step from any router: the search decides, and the whole router is named on both outcomes.
    cases hfind : router.find request with
    | error cause =>
      have hrecord := record_of_error hfind
      refine .inl ⟨cause, rfl, hrecord, ?_, by rw [apply, hrecord]⟩
      rw [matchRequest, hrecord]
      rfl
    | ok found =>
      have hrecord := record_of_ok hfind
      refine .inr ⟨found, rfl, hrecord, ?_, by rw [apply, hrecord]⟩
      rw [matchRequest, hrecord]
      rfl

end Switchyard.Router
