import Mathlib.Data.List.Forall2
import Switchyard.Config
import Switchyard.Proofs.Names.Keyed
import Switchyard.Proofs.Names.Registration
import Switchyard.Trace

/-!
# Exporting and building again

The record of a route holds all that there is to the route: its segments, its pattern and its checks
are worked out from the record when it is built. So a route is built again from the record that it
gives back (`Route.build_config`), routes with one record are one (`Route.eq_of_config`), and the
same goes for routers but for the match recorded last (`Router.build_toConfig`). Building brings the
filters of a record into canonical case and changes nothing else (`RouterConfig.toConfig_of_build`).
-/

namespace Switchyard

attribute [ext] RouteConfig Route

/-! ## Records of routes -/

namespace RouteConfig

/-- The filters of the record are in canonical case. -/
def IsCanonical (config : RouteConfig) : Prop := config.canonical = config

/-- A record is in canonical case when the names in its filters are. -/
theorem isCanonical_iff (config : RouteConfig) :
    config.IsCanonical ↔
      (∀ name ∈ config.schemes.names, Text.lower name = name) ∧
        ∀ name ∈ config.methods.names, Text.upper name = name := by
  rw [← NameSet.image_eq_self_iff Text.lower_lower, ← NameSet.image_eq_self_iff Text.upper_upper]
  constructor
  · intro h
    exact ⟨congrArg RouteConfig.schemes h, congrArg RouteConfig.methods h⟩
  · rintro ⟨hschemes, hmethods⟩
    rw [IsCanonical, canonical, hschemes, hmethods]

theorem IsCanonical.addScheme {config : RouteConfig} (h : config.IsCanonical) (name : String) :
    (config.addScheme name).IsCanonical := by
  obtain ⟨hschemes, hmethods⟩ := (isCanonical_iff config).mp h
  exact (isCanonical_iff _).mpr ⟨NameSet.settled_insert Text.lower_lower hschemes name, hmethods⟩

theorem IsCanonical.addMethod {config : RouteConfig} (h : config.IsCanonical) (name : String) :
    (config.addMethod name).IsCanonical := by
  obtain ⟨hschemes, hmethods⟩ := (isCanonical_iff config).mp h
  exact (isCanonical_iff _).mpr ⟨hschemes, NameSet.settled_insert Text.upper_upper hmethods name⟩

/-- A step of building keeps a record in canonical case. -/
theorem IsCanonical.apply {config : RouteConfig} (h : config.IsCanonical) (call : RouteCall) :
    (config.apply call).IsCanonical := by
  cases call with
  | scheme name => exact h.addScheme name
  | schemes names =>
    exact names.foldlRecOn RouteConfig.addScheme (motive := IsCanonical) h
      fun _ h name _ => h.addScheme name
  | method name => exact h.addMethod name
  | methods names =>
    exact names.foldlRecOn RouteConfig.addMethod (motive := IsCanonical) h
      fun _ h name _ => h.addMethod name
  | default | defaults | constraint | constraints =>
    -- The filters are those of the record before the step.
    exact (isCanonical_iff _).mpr ((isCanonical_iff config).mp h)

/-- A run of steps leads to a record in canonical case. -/
theorem isCanonical_ofCalls (path : String) (calls : List RouteCall) :
    (ofCalls path calls).IsCanonical :=
  calls.foldlRecOn apply (motive := IsCanonical) rfl fun _ h call _ => h.apply call

/-- The steps that put a record together, field by field. -/
def calls (config : RouteConfig) : List RouteCall :=
  [.defaults config.defaults, .constraints config.constraints, .schemes config.schemes.names,
    .methods config.methods.names]

theorem foldl_addScheme (config : RouteConfig) (names : List String) :
    names.foldl addScheme config =
      { config with
        schemes := config.schemes.insertAll (names.map fun name => (Text.lower name, ())) } := by
  induction names generalizing config with
  | nil => rfl
  | cons name names ih =>
    rw [List.foldl_cons, ih]
    rfl

theorem foldl_addMethod (config : RouteConfig) (names : List String) :
    names.foldl addMethod config =
      { config with
        methods := config.methods.insertAll (names.map fun name => (Text.upper name, ())) } := by
  induction names generalizing config with
  | nil => rfl
  | cons name names ih =>
    rw [List.foldl_cons, ih]
    rfl

/-- The steps of a record lead to the record in canonical case. -/
theorem ofCalls_calls (config : RouteConfig) :
    ofCalls config.path config.calls = config.canonical := by
  have himage : ∀ (fold : String → String) (set : NameSet),
      Keyed.empty.insertAll (set.names.map fun name => (fold name, ())) = set.image fold := by
    intro fold set
    rw [NameSet.image, NameSet.ofNames, List.map_map]
    rfl
  simp only [ofCalls, calls, List.foldl_cons, List.foldl_nil, apply, Keyed.empty_overlay,
    foldl_addScheme, foldl_addMethod, himage]
  rfl

end RouteConfig

/-! ## Routes -/

namespace Route

/-- What a route holds beside its record follows from the record. -/
theorem eq_of_config {first second : Route} (h : first.config = second.config) :
    first = second := by
  have hparsed := first.parsed
  rw [h, second.parsed] at hparsed
  exact Route.ext h (Except.ok.inj hparsed).symm

theorem config_of_build {config : RouteConfig} {route : Route} (h : config.build = .ok route) :
    route.config = config.canonical := by
  unfold RouteConfig.build at h
  split at h
  · cases h
  · cases h
    rfl

/-- Building a record fails with the error of its path pattern, and for no other reason. -/
theorem build_eq_error_iff {config : RouteConfig} {cause : RouteError} :
    config.build = .error cause ↔ Segment.parsePath config.path = .error cause := by
  unfold RouteConfig.build
  split
  · rename_i other hparsed
    rw [hparsed, Except.error.injEq, Except.error.injEq]
  · rename_i segments hparsed
    refine iff_of_false (fun h => by cases h) fun herror => ?_
    rw [hparsed] at herror
    cases herror

/-- A route is built again from the record that it gives back. -/
theorem build_config (route : Route) : route.config.build = .ok route := by
  cases hbuild : route.config.build with
  | error cause =>
    have hparsed := build_eq_error_iff.mp hbuild
    rw [route.parsed] at hparsed
    cases hparsed
  | ok again =>
    have hconfig : again.config = route.config := (config_of_build hbuild).trans route.canonical
    rw [eq_of_config hconfig]

/-- It makes no difference whether a record is brought into canonical case before it is built. -/
theorem build_canonical (config : RouteConfig) : config.canonical.build = config.build := by
  cases hbuild : config.build with
  | error cause =>
    have hparsed := build_eq_error_iff.mp hbuild
    exact build_eq_error_iff.mpr hparsed
  | ok route => rw [← config_of_build hbuild, build_config]

/-- Only the records are compared, since the pattern follows from them. -/
theorem sameAs_iff (first second : Route) :
    first.sameAs second = true ↔ first.config = second.config := by
  constructor
  · intro h
    simp only [sameAs, Bool.and_eq_true, decide_eq_true_eq] at h
    obtain ⟨⟨⟨⟨⟨hpath, hdefaults⟩, hconstraints⟩, hschemes⟩, hmethods⟩, -⟩ := h
    exact RouteConfig.ext hpath hdefaults hconstraints hschemes hmethods
  · intro h
    rw [eq_of_config h]
    simp [sameAs]

end Route

/-! ## Routers -/

namespace RouterConfig

/-- The configuration with the filters of its routes in canonical case. -/
def canonical (config : RouterConfig) : RouterConfig :=
  { config with routes := config.routes.map RouteConfig.canonical }

/-- Building the records of a list adds the routes built from them, in order. -/
theorem routes_of_addRoutes {router after : Router} {list : List (String × RouteConfig)}
    (h : addRoutes router list = .ok after) :
    ∃ built : List (String × Route),
      built.map (fun entry => (entry.1, entry.2.config)) =
        list.map (fun entry => (entry.1, entry.2.canonical)) ∧
      after = { router with routes := router.routes.insertAll built } := by
  -- Entry by entry, from whatever router is there already.
  induction list generalizing router with
  | nil =>
    cases h
    exact ⟨[], rfl, rfl⟩
  | cons entry list ih =>
    obtain ⟨name, config⟩ := entry
    rw [addRoutes] at h
    split at h
    · cases h
    · rename_i route hbuild
      obtain ⟨built, hbuilt, rfl⟩ := ih h
      refine ⟨(name, route) :: built, ?_, rfl⟩
      rw [List.map_cons, List.map_cons, hbuilt, Route.config_of_build hbuild]

/-- The records of routes are built into the routes again. -/
theorem addRoutes_config (router : Router) (list : List (String × Route)) :
    addRoutes router (list.map fun entry => (entry.1, entry.2.config)) =
      .ok { router with routes := router.routes.insertAll list } := by
  induction list generalizing router with
  | nil => rfl
  | cons entry list ih =>
    rw [List.map_cons, addRoutes, Route.build_config]
    exact ih (router.add entry.1 entry.2)

end RouterConfig

namespace Router

/-- A router is built again from its configuration, but for the match that it recorded. -/
theorem build_toConfig (router : Router) :
    router.toConfig.build = .ok { router with lastMatch := none } := by
  have hroutes : Roster.empty.insertAll router.routes.entries = router.routes :=
    Roster.ofList_entries router.routes
  have hadd : RouterConfig.addRoutes .empty router.toConfig.routes.entries =
      .ok { empty with routes := Roster.empty.insertAll router.routes.entries } :=
    RouterConfig.addRoutes_config .empty router.routes.entries
  rw [RouterConfig.build, hadd, hroutes]
  rfl

theorem scan_withMatch (router : Router) (recorded : Option RouteMatch) (request : Request)
    (list : List (String × Route)) :
    { router with lastMatch := recorded }.scan request list = router.scan request list := by
  induction list with
  | nil => rfl
  | cons entry list ih =>
    rw [scan, scan, ih]
    rfl

/-- A search does not look at the match that was recorded. -/
theorem find_withMatch (router : Router) (recorded : Option RouteMatch) (request : Request) :
    { router with lastMatch := recorded }.find request = router.find request := by
  rw [find, find, dispatch, dispatch, scan_withMatch]

end Router

namespace RouterConfig

/-- The router of a configuration gives the configuration back, in canonical case. -/
theorem toConfig_of_build {config : RouterConfig} {router : Router}
    (h : config.build = .ok router) :
    router.toConfig = config.canonical ∧ router.lastMatch = none := by
  rw [build] at h
  cases hadd : addRoutes .empty config.routes.entries with
  | error cause =>
    rw [hadd] at h
    cases h
  | ok after =>
    rw [hadd] at h
    cases h
    obtain ⟨built, hbuilt, rfl⟩ := routes_of_addRoutes hadd
    refine ⟨?_, rfl⟩
    -- The names are those of the configuration, so no route takes the place of another.
    have hnames : built.map Prod.fst = config.routes.entries.map Prod.fst := by
      have h := congrArg (List.map Prod.fst) hbuilt
      simpa [List.map_map, Function.comp_def] using h
    have hentries : (Roster.empty.insertAll built).entries = built :=
      Roster.entries_insertAll .empty (hnames ▸ config.routes.nodup)
    have hroutes : ((Roster.empty.insertAll built).map Route.config) =
        config.routes.map RouteConfig.canonical := by
      refine Roster.ext_entries ?_
      show (Roster.empty.insertAll built).entries.map _ = _
      rw [hentries, hbuilt]
      rfl
    show RouterConfig.mk ((Roster.empty.insertAll built).map Route.config) _ = _
    rw [hroutes]
    rfl

/-- A route built by steps gives back the record that the steps put together, and building a record
is building by its steps. A router is built again from the configuration that it gives back, with
the same routes in the same order and the same defaults, and answers every request and every
assembly as before. A configuration that can be built comes back from its router in canonical case,
and building it once more gives that router again. Routes compare as equal when their records are
equal, and then they match and assemble alike. -/
theorem build_toConfig_inverse :
    (∀ (path : String) (calls : List RouteCall) (route : Route),
      (RouteConfig.ofCalls path calls).build = .ok route →
        route.config = RouteConfig.ofCalls path calls) ∧
    (∀ config : RouteConfig, config.build = (RouteConfig.ofCalls config.path config.calls).build) ∧
    (∀ router : Router, ∃ again, router.toConfig.build = .ok again ∧
      List.Forall₂ (fun entry other => entry.1 = other.1 ∧ entry.2.sameAs other.2 = true)
        again.routes.entries router.routes.entries ∧
      again.defaultParams = router.defaultParams ∧
      (∀ request, again.trace request = router.trace request ∧
        again.find request = router.find request) ∧
      ∀ name params, again.assemble name params = router.assemble name params) ∧
    (∀ (config : RouterConfig) (router : Router), config.build = .ok router →
      router.toConfig = config.canonical ∧ router.toConfig.build = .ok router) ∧
    ∀ first second : Route,
      (first.sameAs second = true ↔ first.config = second.config) ∧
      (first.sameAs second = true →
        (∀ request, first.evaluate request = second.evaluate request) ∧
        ∀ params, first.assemble params = second.assemble params) := by
  -- A route keeps its record in canonical form, and all else of it is worked out from that.
  refine ⟨fun path calls route hbuild => ?_, fun config => ?_, fun router => ?_,
    fun config router hbuild => ?_,
    fun first second => ⟨Route.sameAs_iff first second, fun h => ?_⟩⟩
  · exact (Route.config_of_build hbuild).trans (RouteConfig.isCanonical_ofCalls path calls)
  · rw [RouteConfig.ofCalls_calls, Route.build_canonical]
  · refine ⟨_, router.build_toConfig, ?_, rfl, fun request => ⟨rfl, ?_⟩, fun name params => rfl⟩
    · exact List.forall₂_same.mpr fun entry _ => ⟨rfl, (Route.sameAs_iff _ _).mpr rfl⟩
    · exact router.find_withMatch none request
  · obtain ⟨hconfig, hlast⟩ := toConfig_of_build hbuild
    refine ⟨hconfig, ?_⟩
    rw [router.build_toConfig, ← hlast]
  · rw [Route.eq_of_config ((Route.sameAs_iff first second).mp h)]
    exact ⟨fun request => rfl, fun params => rfl⟩

/-- A configuration with filters in mixed case: one scheme in two spellings, and a method in small
letters. -/
def mixedCase : RouterConfig where
  routes := ⟨[("user", {
    path := "/users/:id"
    schemes := NameSet.ofNames ["HTTPS", "https"]
    methods := NameSet.ofNames ["get"] })], by simp⟩

theorem mixedCase_rebuilt : ∃ router, mixedCase.build = .ok router ∧
    router.toConfig.routes.entries = [("user", {
      path := "/users/:id"
      schemes := NameSet.ofNames ["https"]
      methods := NameSet.ofNames ["GET"] })] ∧
    router.toConfig.build = .ok router := by
  obtain ⟨router, hbuild⟩ : ∃ router, mixedCase.build = .ok router := ⟨_, rfl⟩
  obtain ⟨hconfig, hagain⟩ := build_toConfig_inverse.2.2.2.1 mixedCase router hbuild
  refine ⟨router, hbuild, ?_, hagain⟩
  rw [hconfig]
  decide

end RouterConfig

end Switchyard
