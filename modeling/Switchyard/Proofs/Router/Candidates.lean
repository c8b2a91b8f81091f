import Switchyard.Proofs.Names.Registration
import Switchyard.Proofs.Router.Trace

/-!
# Candidates

The candidates of a trace are the routes that accept the request, in order of dispatch. A search is
told by them (`Router.find_of_candidates_cons`, `Router.find_of_candidates_nil`), and a removal takes
one name out of them and leaves the rest as it is (`Router.candidates_remove`). So the candidates win
in turn when the winners are removed one after the other (`Router.candidates_win_in_turn`).
-/

namespace Switchyard.Router

variable (router : Router) (request : Request)

/-- The router without the routes of the names, removed one after the other. -/
def removeAll (names : List String) : Router := names.foldl remove router

/-! ## What a search owes to the candidates -/

theorem candidates_trace : (router.trace request).candidates =
    (router.routes.entries.filter fun entry => entry.2.outcome request = .matched).map Prod.fst := by
  rw [Trace.candidates, steps_trace, List.filter_map, List.map_map]
  rfl

theorem nodup_candidates : (router.trace request).candidates.Nodup := by
  rw [candidates_trace]
  exact Roster.nodup_filter _ router.routes.nodup

/-- Routes that reject the request are no candidates. -/
theorem filter_eq_nil_of_rejects {request : Request} {entries : List (String × Route)}
    (h : ∀ entry ∈ entries, entry.2.Rejects request) :
    (entries.filter fun entry => entry.2.outcome request = .matched) = [] := by
  refine List.filter_eq_nil_iff.mpr fun entry hmem => ?_
  simpa using (entry.2.outcome_ne_matched_iff request).mpr (h entry hmem)

/-- Without candidates the search fails. -/
theorem find_of_candidates_nil {router : Router} {request : Request}
    (h : (router.trace request).candidates = []) :
    router.find request = .error
      (if router.size = 0 then .noRoutesConfigured else .routeNotFound request.path) := by
  have hall : ∀ entry ∈ router.routes.entries, entry.2.Rejects request := by
    intro entry hmem
    rw [candidates_trace, List.map_eq_nil_iff, List.filter_eq_nil_iff] at h
    exact (entry.2.outcome_ne_matched_iff request).mp (by simpa using h entry hmem)
  by_cases hsize : router.size = 0
  · rw [find, dispatch_of_empty request hsize, if_pos hsize]
  · rw [find, dispatch_of_none hsize hall, if_neg hsize]

/-- The search answers with the first candidate. -/
theorem find_of_candidates_cons {router : Router} {request : Request} {winner : String}
    {others : List String} (h : (router.trace request).candidates = winner :: others) :
    ∃ route taken, router.routes.get? winner = some route ∧ route.evaluate request = .ok taken ∧
      router.find request = .ok (router.finish winner taken) := by
  rw [candidates_trace] at h
  rcases first_cases router.routes.entries request with
    hall | ⟨before, name, route, after, hentries, hbefore, taken, htaken⟩
  · rw [filter_eq_nil_of_rejects hall] at h
    cases h
  · have hmatched := (route.outcome_eq_matched_iff request).mpr ⟨taken, htaken⟩
    rw [hentries, List.filter_append, filter_eq_nil_of_rejects hbefore, List.nil_append,
      List.filter_cons_of_pos (by simpa using hmatched), List.map_cons] at h
    obtain ⟨rfl, -⟩ := List.cons.inj h
    refine ⟨route, taken, router.routes.get?_of_mem ?_, htaken, ?_⟩
    · rw [hentries]
      exact List.mem_append_right _ List.mem_cons_self
    · rw [find, dispatch_of_first hentries hbefore htaken]

/-! ## Removals -/

/-- A removal takes the name out of the candidates; the others stay as they were, and in order. -/
theorem candidates_remove (name : String) : ((router.remove name).trace request).candidates =
    (router.trace request).candidates.filter (· ≠ name) := by
  rw [candidates_trace, candidates_trace, List.filter_map, List.filter_filter]
  show List.map _ (List.filter _ (List.filter _ router.routes.entries)) = _
  rw [List.filter_filter]
  refine congrArg _ (List.filter_congr fun entry _ => ?_)
  exact Bool.and_comm _ _

/-- The winners removed, the candidates behind them are left. -/
theorem candidates_removeAll {router : Router} {request : Request} {earlier later : List String}
    (h : (router.trace request).candidates = earlier ++ later) :
    ((router.removeAll earlier).trace request).candidates = later := by
  induction earlier generalizing router with
  | nil => exact h
  | cons name earlier ih =>
    have hnodup := router.nodup_candidates request
    rw [h, List.cons_append] at hnodup
    have hname : name ∉ earlier ++ later := (List.nodup_cons.mp hnodup).1
    apply ih
    -- The name stands once among the candidates, so nothing but the first of them goes.
    rw [candidates_remove, h, List.cons_append, List.filter_cons_of_neg (by simp)]
    refine List.filter_eq_self.mpr fun other hother => ?_
    have hne : other ≠ name := fun heq => hname (heq ▸ hother)
    simpa using hne

theorem get?_remove_of_ne {name other : String} (hne : name ≠ other) :
    (router.remove name).routes.get? other = router.routes.get? other := by
  rw [remove, Roster.get?_erase, if_neg hne]

theorem get?_removeAll {name : String} {names : List String} (h : name ∉ names) :
    (router.removeAll names).routes.get? name = router.routes.get? name := by
  induction names generalizing router with
  | nil => rfl
  | cons first names ih =>
    rw [List.mem_cons, not_or] at h
    exact (ih _ h.2).trans (router.get?_remove_of_ne (Ne.symm h.1))

theorem defaultParams_removeAll (names : List String) :
    (router.removeAll names).defaultParams = router.defaultParams := by
  induction names generalizing router with
  | nil => rfl
  | cons name names ih => exact ih (router.remove name)

/-- The candidates are the winners in turn: with the candidates before one of them removed, the
search answers with that one, under its name and with the parameters that its route gives to the
request, the router's defaults put in where it has none. With all candidates removed the search
fails. And the removal of a route that did not win takes nothing from a search that found one. -/
theorem candidates_win_in_turn :
    (∀ place name, (router.trace request).candidates[place]? = some name →
      ∃ route taken won, router.get name = .ok route ∧ route.evaluate request = .ok taken ∧
        (router.removeAll ((router.trace request).candidates.take place)).find request = .ok won ∧
        won.routeName = some name ∧
        won.params = taken.params.withDefaults router.defaultParams ∧
        ∀ key, won.param? key = (taken.param? key).or (router.defaultParams.get? key)) ∧
    (router.removeAll (router.trace request).candidates).find request =
      .error (if (router.removeAll (router.trace request).candidates).size = 0
        then .noRoutesConfigured else .routeNotFound request.path) ∧
    ∀ found name, router.find request = .ok found → found.routeName ≠ some name →
      (router.remove name).find request = .ok found := by
  refine ⟨fun place name hplace => ?_, ?_, fun found name hfound hother => ?_⟩
  · -- Neither the route of the candidate nor the defaults are touched by the removals before it.
    obtain ⟨hlt, hname⟩ := List.getElem?_eq_some_iff.mp hplace
    have hsplit : (router.trace request).candidates =
        (router.trace request).candidates.take place ++
          name :: (router.trace request).candidates.drop (place + 1) := by
      rw [← hname, List.getElem_cons_drop, List.take_append_drop]
    have hkept : name ∉ (router.trace request).candidates.take place := by
      have hnodup := router.nodup_candidates request
      rw [hsplit] at hnodup
      exact fun hmem => (List.nodup_append.mp hnodup).2.2 _ hmem _ List.mem_cons_self rfl
    obtain ⟨route, taken, hget, htaken, hfind⟩ :=
      find_of_candidates_cons (candidates_removeAll hsplit)
    rw [router.get?_removeAll hkept] at hget
    rw [finish, defaultParams_removeAll] at hfind
    refine ⟨route, taken, _, ?_, htaken, hfind, rfl, rfl, fun key => ?_⟩
    · rw [get, hget]
    · exact Keyed.get?_withDefaults _ _ key
  · exact find_of_candidates_nil (candidates_removeAll (List.append_nil _).symm)
  · cases hcandidates : (router.trace request).candidates with
    | nil => cases hfound.symm.trans (find_of_candidates_nil hcandidates)
    | cons winner others =>
      obtain ⟨route, taken, hget, htaken, hfind⟩ := find_of_candidates_cons hcandidates
      cases hfound.symm.trans hfind
      have hne : winner ≠ name := fun heq => hother (congrArg some heq)
      -- The winner is still the first candidate, and its route is the same.
      have hleft : ((router.remove name).trace request).candidates =
          winner :: others.filter (· ≠ name) := by
        rw [candidates_remove, hcandidates, List.filter_cons_of_pos (by simpa using hne)]
      obtain ⟨route', taken', hget', htaken', hfind'⟩ := find_of_candidates_cons hleft
      rw [router.get?_remove_of_ne (Ne.symm hne), hget] at hget'
      cases hget'
      cases htaken.symm.trans htaken'
      exact hfind'

end Switchyard.Router
