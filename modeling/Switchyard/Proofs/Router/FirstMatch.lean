import Switchyard.Proofs.Route.Evaluation
import Switchyard.Router

/-!
# The first match

A search goes through the routes in order of dispatch and stops at the first that accepts the
request (`Router.scan_append`). What the answer holds under a name is laid down in layers
(`Router.layered`): the method and the scheme of the request, what the route's placeholder takes, the
route's default, the router's default. `Router.find_answers` says both of every router and request.
-/

namespace Switchyard

/-! ## What placeholders take -/

namespace Pattern

/-- The text that the group of the placeholder at a place took, unless it took none. -/
def groupText? (found : Regex.Path) (index : Nat) : Option (List Char) :=
  (found.captured? (groupName index)).filter fun text => !text.isEmpty

theorem bindings_cons (found : Regex.Path) (index : Nat) (name : String) (names : List String) :
    bindings found index (name :: names) =
      match groupText? found index with
      | none => bindings found (index + 1) names
      | some text => (name, text) :: bindings found (index + 1) names := by
  rw [bindings, groupText?]
  rcases found.captured? (groupName index) with _ | _ | ⟨c, text⟩ <;> rfl

theorem keys_bindings (found : Regex.Path) (start : Nat) (names : List String) :
    ((bindings found start names).map Prod.fst).Sublist names := by
  induction names generalizing start with
  | nil => exact .slnil
  | cons name names ih =>
    rw [bindings_cons]
    cases groupText? found start with
    | none => exact (ih (start + 1)).cons name
    | some text => exact (ih (start + 1)).cons_cons name

/-- Where names stand once, what is bound under a name is what the group at the name's place took. -/
theorem lookup_bindings (found : Regex.Path) {names : List String} (hnodup : names.Nodup)
    (start : Nat) (name : String) :
    Keyed.lookup name (bindings found start names) =
      (names.idxOf? name).bind fun index => groupText? found (start + index) := by
  induction names generalizing start with
  | nil => rfl
  | cons first names ih =>
    obtain ⟨hfirst, hnodup⟩ := List.nodup_cons.mp hnodup
    rw [bindings_cons, List.idxOf?_cons]
    by_cases hname : first = name
    · subst hname
      -- The name stands nowhere later, so an empty group leaves it unbound.
      have hlater : Keyed.lookup first (bindings found (start + 1) names) = none := by
        rw [ih hnodup, List.idxOf?_eq_none_iff.mpr hfirst]
        rfl
      cases htext : groupText? found start with
      | none => simp [hlater, htext]
      | some text => simp [Keyed.lookup, htext]
    · have hlater : Keyed.lookup name (bindings found (start + 1) names) =
          (names.idxOf? name).bind fun index => groupText? found (start + (index + 1)) := by
        rw [ih hnodup]
        simp only [Nat.add_assoc, Nat.add_comm 1]
      cases groupText? found start with
      | none =>
        simp only [hname, hlater, beq_iff_eq, if_false, Option.bind_map]
        rfl
      | some text =>
        simp only [hname, hlater, Keyed.lookup, beq_iff_eq, if_false, Option.bind_map]
        rfl

end Pattern

namespace Route

/-- The route accepts the request. -/
def Accepts (route : Route) (request : Request) : Prop :=
  ∃ found, route.evaluate request = .ok found

/-- The route rejects the request, whatever the cause. -/
def Rejects (route : Route) (request : Request) : Prop :=
  ∃ cause, route.evaluate request = .error cause

theorem not_accepts_iff (route : Route) (request : Request) :
    ¬route.Accepts request ↔ route.Rejects request := by
  unfold Accepts Rejects
  cases route.evaluate request <;> simp

/-- The decoded text that the placeholder of a name takes from the path of a request, when it takes
any: the text of the group at the placeholder's place among those of the pattern. -/
def captured? (route : Route) (request : Request) (name : String) : Option String := do
  let program ← route.pattern.program?
  let found ← program.search? (trimmed request.path)
  let index ← route.pattern.names.idxOf? name
  (Pattern.groupText? found index).map fun text => String.ofList (Percent.decodeChars text)

/-- What a placeholder takes stands under a name that no parameter of the request has. -/
theorem ne_of_captured? {route : Route} {request : Request} {name text : String}
    (h : route.captured? request name = some text) :
    name ≠ requestMethodParam ∧ name ≠ requestSchemeParam := by
  simp only [captured?, Option.bind_eq_bind, Option.bind_eq_some_iff] at h
  obtain ⟨-, -, -, -, index, hindex, -⟩ := h
  obtain ⟨hlt, hname, -⟩ := List.idxOf?_eq_some_iff.mp hindex
  obtain ⟨segment, hsegment, hbinds⟩ := List.mem_filterMap.mp (hname ▸ List.getElem_mem hlt)
  exact ne_of_isName (isName_of_mem hsegment hbinds)

/-- The match of a route holds the method and the scheme of the request, under any other name what
the placeholder takes, and else the route's default. -/
theorem param?_of_evaluate {route : Route} {request : Request} {found : RouteMatch}
    (h : route.evaluate request = .ok found) (name : String) :
    found.param? name =
      if name = requestMethodParam then some (Text.upper request.method)
      else if name = requestSchemeParam then some (Text.lower request.scheme)
      else (route.captured? request name).or (route.config.defaults.get? name) := by
  obtain ⟨hadmits, hcompiled⟩ := admits_of_evaluate h
  obtain ⟨program, hprogram⟩ := Option.isSome_iff_exists.mp hcompiled
  have hnodup := Pattern.nodup_names hcompiled
  simp only [evaluate, hadmits.1, hadmits.2, hprogram, Bool.not_true, Bool.false_eq_true,
    if_false] at h
  split at h
  · cases h
  · rename_i captured hcaptured
    cases h
    obtain ⟨path, hpath, rfl⟩ := Option.map_eq_some_iff.mp hcaptured
    let decode : List Char → String := fun text => String.ofList (Percent.decodeChars text)
    have hkeys : (((Pattern.bindings path 0 route.pattern.names).map fun pair =>
        (pair.1, decode pair.2)).map Prod.fst).Nodup := by
      rw [List.map_map]
      exact hnodup.sublist (Pattern.keys_bindings path 0 route.pattern.names)
    -- A name stands once among the bindings, so looking it up gives the text of its own group.
    have htaken : Keyed.lookup name ((Pattern.bindings path 0 route.pattern.names).map fun pair =>
        (pair.1, decode pair.2)) = route.captured? request name := by
      rw [Keyed.lookup_map, Pattern.lookup_bindings path hnodup, Option.map_bind, captured?]
      simp only [hprogram, trimmed, hpath, Nat.zero_add, Option.bind_eq_bind, Option.bind_some]
      rfl
    rw [RouteMatch.param?, matchParams, Keyed.get?_insert, Keyed.get?_insert,
      Keyed.get?_insertAll_of_nodup hkeys, htaken]
    by_cases hmethod : name = requestMethodParam
    · subst hmethod
      rfl
    · simp only [hmethod, Ne.symm hmethod, if_false, eq_comm (a := requestSchemeParam)]

end Route

/-! ## Searching -/

namespace Router

/-- The routes all reject the request, or one of them is the first that accepts it. -/
theorem first_cases (entries : List (String × Route)) (request : Request) :
    (∀ entry ∈ entries, entry.2.Rejects request) ∨
      ∃ before name route after, entries = before ++ (name, route) :: after ∧
        (∀ entry ∈ before, entry.2.Rejects request) ∧ route.Accepts request := by
  induction entries with
  | nil => exact .inl fun entry hmem => (by cases hmem)
  | cons entry entries ih =>
    by_cases haccepts : entry.2.Accepts request
    · exact .inr ⟨[], entry.1, entry.2, entries, rfl, fun entry hmem => (by cases hmem), haccepts⟩
    · have hrejects := (entry.2.not_accepts_iff request).mp haccepts
      rcases ih with hall | ⟨before, name, route, after, rfl, hbefore, hfirst⟩
      · exact .inl (List.forall_mem_cons.mpr ⟨hrejects, hall⟩)
      · exact .inr ⟨entry :: before, name, route, after, rfl,
          List.forall_mem_cons.mpr ⟨hrejects, hbefore⟩, hfirst⟩

/-- What a search reports of a route that rejects the request. -/
def skipped? (request : Request) (entry : String × Route) : Option Event :=
  match entry.2.evaluate request with
  | .ok _ => none
  | .error cause => some (.routeSkipped entry.1 request.path cause)

/-- Routes that reject the request are reported in order, and the search goes on behind them. -/
theorem scan_append (router : Router) (request : Request) {before : List (String × Route)}
    (hbefore : ∀ entry ∈ before, entry.2.Rejects request) (rest : List (String × Route)) :
    router.scan request (before ++ rest) =
      ⟨before.filterMap (skipped? request) ++ (router.scan request rest).events,
        (router.scan request rest).result⟩ := by
  induction before with
  | nil => rfl
  | cons entry before ih =>
    obtain ⟨name, route⟩ := entry
    obtain ⟨⟨cause, hcause⟩, hrest⟩ := List.forall_mem_cons.mp hbefore
    have hskipped : skipped? request (name, route) =
        some (.routeSkipped name request.path cause) := by
      simp only [skipped?, hcause]
    rw [List.cons_append, scan, List.filterMap_cons_some hskipped]
    simp only [hcause, ih hrest, List.cons_append]

/-- The search of a router with a first route that accepts the request. -/
theorem dispatch_of_first {router : Router} {request : Request} {before after : List (String × Route)}
    {name : String} {route : Route} {found : RouteMatch}
    (hentries : router.routes.entries = before ++ (name, route) :: after)
    (hbefore : ∀ entry ∈ before, entry.2.Rejects request)
    (hfound : route.evaluate request = .ok found) :
    router.dispatch request =
      ⟨before.filterMap (skipped? request) ++ [.routeMatched name request.path],
        .ok (router.finish name found)⟩ := by
  have hsome : router.routes.isEmpty = false := by
    rw [Roster.isEmpty, hentries]
    simp
  rw [dispatch, hsome, hentries, scan_append router request hbefore, scan]
  simp only [hfound, Bool.false_eq_true, if_false]

theorem size_eq_zero_iff {router : Router} : router.size = 0 ↔ router.routes.entries = [] :=
  List.length_eq_zero_iff

/-- The search of a router with routes of which none accepts the request. -/
theorem dispatch_of_none {router : Router} {request : Request} (hsize : router.size ≠ 0)
    (hall : ∀ entry ∈ router.routes.entries, entry.2.Rejects request) :
    router.dispatch request =
      ⟨router.routes.entries.filterMap (skipped? request) ++
        [.noRouteMatched request.path router.size], .error (.routeNotFound request.path)⟩ := by
  have hsome : router.routes.isEmpty = false := by
    rw [Roster.isEmpty, List.isEmpty_eq_false_iff]
    exact mt size_eq_zero_iff.mpr hsize
  have hscan := scan_append router request hall []
  rw [List.append_nil] at hscan
  rw [dispatch, hsome, hscan, scan]
  rfl

/-- The search of a router without routes. -/
theorem dispatch_of_empty {router : Router} (request : Request) (hsize : router.size = 0) :
    router.dispatch request = ⟨[], .error .noRoutesConfigured⟩ := by
  rw [dispatch, Roster.isEmpty, size_eq_zero_iff.mp hsize]
  rfl

/-- What a search finds is the match of the first route that accepts the request. -/
theorem winner_of_find {router : Router} {request : Request} {found : RouteMatch}
    (h : router.find request = .ok found) :
    ∃ before name route after taken, router.routes.entries = before ++ (name, route) :: after ∧
      (∀ entry ∈ before, entry.2.Rejects request) ∧ route.evaluate request = .ok taken ∧
      found = router.finish name taken := by
  rcases first_cases router.routes.entries request with
    hall | ⟨before, name, route, after, hentries, hbefore, taken, htaken⟩
  · by_cases hsize : router.size = 0
    · rw [find, dispatch_of_empty request hsize] at h
      cases h
    · rw [find, dispatch_of_none hsize hall] at h
      cases h
  · rw [find, dispatch_of_first hentries hbefore htaken] at h
    cases h
    exact ⟨before, name, route, after, taken, hentries, hbefore, htaken, rfl⟩

/-- The value that the answer to a request holds under a name, when `route` is the route that
accepts it: from the request itself, from the path, from the route, from the router. -/
def layered (router : Router) (route : Route) (request : Request) (name : String) :
    Option String :=
  if name = requestMethodParam then some (Text.upper request.method)
  else if name = requestSchemeParam then some (Text.lower request.scheme)
  else ((route.captured? request name).or (route.config.defaults.get? name)).or
    (router.defaultParams.get? name)

/-- The router's defaults never hide what the match of the route holds. -/
theorem param?_finish (router : Router) {route : Route} {request : Request} {found : RouteMatch}
    (hfound : route.evaluate request = .ok found) (name key : String) :
    (router.finish name found).param? key = router.layered route request key := by
  have hmatch := Route.param?_of_evaluate hfound key
  rw [RouteMatch.param?] at hmatch
  rw [finish, RouteMatch.param?, RouteMatch.withDefaults, RouteMatch.setRouteName,
    Keyed.get?_withDefaults, hmatch, layered]
  split
  · rfl
  · split
    · rfl
    · rfl

/-- Nothing hides what a placeholder takes. -/
theorem layered_of_captured? (router : Router) {route : Route} {request : Request}
    {name text : String} (h : route.captured? request name = some text) :
    router.layered route request name = some text := by
  obtain ⟨hmethod, hscheme⟩ := Route.ne_of_captured? h
  rw [layered, if_neg hmethod, if_neg hscheme, h]
  rfl

/-- An empty router says so; a router whose routes all reject the request says that no route was
found for its path; and any other answers with the first route in order of dispatch that accepts
the request, under that route's name, each parameter from the uppermost layer that has it. No layer
lies over what the placeholders take. -/
theorem find_answers (router : Router) (request : Request) :
    (router.find request = .error .noRoutesConfigured ↔ router.size = 0) ∧
    (router.find request = .error (.routeNotFound request.path) ↔
      router.size ≠ 0 ∧ ∀ entry ∈ router.routes.entries, entry.2.Rejects request) ∧
    ((∃ entry ∈ router.routes.entries, entry.2.Accepts request) ↔
      ∃ before name route after found,
        router.routes.entries = before ++ (name, route) :: after ∧
        (∀ entry ∈ before, entry.2.Rejects request) ∧ route.Accepts request ∧
        router.find request = .ok found ∧ found.routeName = some name ∧
        (∀ key, found.param? key = router.layered route request key) ∧
        ∀ key text, route.captured? request key = some text → found.param? key = some text) := by
  by_cases hsize : router.size = 0
  · simp [find, dispatch_of_empty request hsize, hsize, size_eq_zero_iff.mp hsize]
  · -- Every route rejects the request, or one accepts it and all before it reject.
    rcases first_cases router.routes.entries request with
      hall | ⟨before, name, route, after, hentries, hbefore, found, hfound⟩
    · have hnone : ¬∃ entry ∈ router.routes.entries, entry.2.Accepts request := by
        rintro ⟨entry, hmem, haccepts⟩
        exact (entry.2.not_accepts_iff request).mpr (hall entry hmem) haccepts
      have hfind : router.find request = .error (.routeNotFound request.path) := by
        rw [find, dispatch_of_none hsize hall]
      refine ⟨by simp [hfind, hsize], ?_, fun h => absurd h hnone, ?_⟩
      · exact ⟨fun _ => ⟨hsize, hall⟩, fun _ => hfind⟩
      rintro ⟨before, name, route, after, found, hentries, -, haccepts, -⟩
      exact ⟨(name, route), by simp [hentries], haccepts⟩
    · have hmem : (name, route) ∈ router.routes.entries := by simp [hentries]
      have hfind : router.find request = .ok (router.finish name found) := by
        rw [find, dispatch_of_first hentries hbefore hfound]
      have hsome : ¬∀ entry ∈ router.routes.entries, entry.2.Rejects request := by
        intro hall
        exact (route.not_accepts_iff request).mpr (hall _ hmem) ⟨found, hfound⟩
      refine ⟨by simp [hfind, hsize], ?_, ?_⟩
      · rw [hfind]
        exact ⟨fun h => (by cases h), fun h => absurd h.2 hsome⟩
      · refine ⟨fun _ => ?_, fun _ => ⟨_, hmem, found, hfound⟩⟩
        have hparams := param?_finish router hfound name
        exact ⟨before, name, route, after, _, hentries, hbefore, ⟨found, hfound⟩, hfind, rfl,
          hparams, fun key text htext => (hparams key).trans (layered_of_captured? router htext)⟩

end Router

end Switchyard
