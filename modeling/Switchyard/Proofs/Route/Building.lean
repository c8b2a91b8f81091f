import Mathlib.Data.List.Forall2
import Switchyard.Proofs.Config.Rebuild
import Switchyard.Proofs.Route.Checks

/-!
# Building a route by steps

What a step sets, it lays over what was set before (`RouteConfig.apply_eq`). So steps that set nothing
in common can change places, a filter that comes again later changes nothing, and the case in which a
filter is written is lost. Sequences of steps that differ in this way alone (`RouteCall.Alike`) build
one route, or fail alike, and the route treats requests alike that differ in case
(`RouteConfig.built_alike`).
-/

namespace Switchyard

/-! ## What a step sets -/

namespace RouteCall

/-- The defaults that a step sets. -/
def defaultsSet : RouteCall → Params
  | .default name value => Keyed.empty.insert name value
  | .defaults values => values
  | _ => .empty

/-- The constraints that a step sets. -/
def constraintsSet : RouteCall → Params
  | .constraint name pattern => Keyed.empty.insert name pattern
  | .constraints patterns => patterns
  | _ => .empty

/-- The schemes that a step names, as they are kept. -/
def schemesSet : RouteCall → NameSet
  | .scheme name => .ofNames [Text.lower name]
  | .schemes names => .ofNames (names.map Text.lower)
  | _ => .empty

/-- The methods that a step names, as they are kept. -/
def methodsSet : RouteCall → NameSet
  | .method name => .ofNames [Text.upper name]
  | .methods names => .ofNames (names.map Text.upper)
  | _ => .empty

/-- The steps set a default under one name, or a constraint under one name. -/
def Clashes (first second : RouteCall) : Prop :=
  (∃ name ∈ first.defaultsSet.names, name ∈ second.defaultsSet.names) ∨
    ∃ name ∈ first.constraintsSet.names, name ∈ second.constraintsSet.names

/-- The step adds to a filter. -/
inductive IsFilter : RouteCall → Prop
  | scheme (name : String) : IsFilter (.scheme name)
  | schemes (names : List String) : IsFilter (.schemes names)
  | method (name : String) : IsFilter (.method name)
  | methods (names : List String) : IsFilter (.methods names)

/-- The steps are one, but for the case in which schemes and methods are written. -/
inductive SameButCase : RouteCall → RouteCall → Prop
  | same (call : RouteCall) : SameButCase call call
  | scheme {first second : String} (h : Text.SameButCase first second) :
    SameButCase (.scheme first) (.scheme second)
  | schemes {first second : List String} (h : List.Forall₂ Text.SameButCase first second) :
    SameButCase (.schemes first) (.schemes second)
  | method {first second : String} (h : Text.SameButCase first second) :
    SameButCase (.method first) (.method second)
  | methods {first second : List String} (h : List.Forall₂ Text.SameButCase first second) :
    SameButCase (.methods first) (.methods second)

/-- The sequences of steps differ in the order of steps that do not clash, in filters that come more
than once, and in the case in which filters are written, and in nothing else. -/
inductive Alike : List RouteCall → List RouteCall → Prop
  | nil : Alike [] []
  | cons {call other : RouteCall} {first second : List RouteCall}
    (hcall : call.SameButCase other) (h : Alike first second) :
    Alike (call :: first) (other :: second)
  | swap {call other : RouteCall} (h : ¬call.Clashes other) (rest : List RouteCall) :
    Alike (call :: other :: rest) (other :: call :: rest)
  | again {call : RouteCall} {rest : List RouteCall} (hfilter : call.IsFilter) (hmem : call ∈ rest) :
    Alike (call :: rest) rest
  | symm {first second : List RouteCall} (h : Alike first second) : Alike second first
  | trans {first second third : List RouteCall} (h : Alike first second)
    (h' : Alike second third) : Alike first third

/-- A filter sets no defaults and no constraints, so it clashes with no step. -/
theorem IsFilter.not_clashes {call : RouteCall} (h : call.IsFilter) (other : RouteCall) :
    ¬call.Clashes other := by
  rintro (⟨name, hmem, -⟩ | ⟨name, hmem, -⟩) <;> cases h <;> cases hmem

end RouteCall

/-! ## One step -/

namespace RouteConfig

open RouteCall

/-- A step lays what it sets over what the record holds. -/
theorem apply_eq (config : RouteConfig) (call : RouteCall) :
    config.apply call = { config with
      defaults := config.defaults.overlay call.defaultsSet
      constraints := config.constraints.overlay call.constraintsSet
      schemes := config.schemes.overlay call.schemesSet
      methods := config.methods.overlay call.methodsSet } := by
  -- Only the calls that take several names fold over them.
  cases call with
  | default | defaults | constraint | constraints | scheme | method => rfl
  | schemes names =>
    rw [apply, foldl_addScheme]
    simp only [defaultsSet, constraintsSet, schemesSet, methodsSet, Keyed.overlay_empty,
      NameSet.overlay_ofNames, List.map_map]
    rfl
  | methods names =>
    rw [apply, foldl_addMethod]
    simp only [defaultsSet, constraintsSet, schemesSet, methodsSet, Keyed.overlay_empty,
      NameSet.overlay_ofNames, List.map_map]
    rfl

theorem overlay_comm_of_disjoint {first second : Params}
    (h : ¬∃ name ∈ first.names, name ∈ second.names) (map : Params) :
    (map.overlay first).overlay second = (map.overlay second).overlay first := by
  refine Keyed.overlay_comm_of_agree (fun name value other hvalue hother => ?_) map
  have hmem : ∀ {map : Params} {value : String}, map.get? name = some value → name ∈ map.names :=
    fun h => List.mem_map.mpr ⟨_, Keyed.mem_of_lookup h, rfl⟩
  exact absurd ⟨name, hmem hvalue, hmem hother⟩ h

/-- Two steps that do not clash can change places. -/
theorem apply_comm {first second : RouteCall} (h : ¬first.Clashes second) (config : RouteConfig) :
    (config.apply first).apply second = (config.apply second).apply first := by
  rw [Clashes, not_or] at h
  simp only [apply_eq]
  rw [overlay_comm_of_disjoint h.1, overlay_comm_of_disjoint h.2,
    Keyed.overlay_comm_of_agree (fun _ _ _ _ _ => rfl) config.schemes,
    Keyed.overlay_comm_of_agree (fun _ _ _ _ _ => rfl) config.methods]

/-- A step that is taken twice in a row is taken once. -/
theorem apply_apply (config : RouteConfig) (call : RouteCall) :
    (config.apply call).apply call = config.apply call := by
  simp only [apply_eq, Keyed.overlay_assoc, Keyed.overlay_self]

/-- Names that differ in case are kept in one. -/
theorem map_congr_of_sameButCase {fold : String → String}
    (hfold : ∀ {name other}, Text.SameButCase name other → fold name = fold other)
    {names others : List String} (h : List.Forall₂ Text.SameButCase names others) :
    names.map fold = others.map fold := by
  induction h with
  | nil => rfl
  | cons hname _ ih => rw [List.map_cons, List.map_cons, hfold hname, ih]

theorem apply_congr {first second : RouteCall} (h : first.SameButCase second)
    (config : RouteConfig) : config.apply first = config.apply second := by
  have hlower : ∀ {name other}, Text.SameButCase name other → Text.lower name = Text.lower other :=
    id
  have hupper : ∀ {name other}, Text.SameButCase name other → Text.upper name = Text.upper other :=
    Text.sameButCase_iff_upper.mp
  cases h with
  | same => rfl
  | scheme h => rw [apply, apply, addScheme, addScheme, hlower h]
  | method h => rw [apply, apply, addMethod, addMethod, hupper h]
  | schemes h => rw [apply_eq, apply_eq, schemesSet, schemesSet, map_congr_of_sameButCase hlower h]; rfl
  | methods h => rw [apply_eq, apply_eq, methodsSet, methodsSet, map_congr_of_sameButCase hupper h]; rfl

/-! ## A sequence of steps -/

/-- A filter in front changes nothing when it comes again later. -/
theorem foldl_apply_of_mem {call : RouteCall} (hfilter : call.IsFilter) {rest : List RouteCall}
    (hmem : call ∈ rest) (config : RouteConfig) :
    rest.foldl apply (config.apply call) = rest.foldl apply config := by
  induction rest generalizing config with
  | nil => cases hmem
  | cons head rest ih =>
    rw [List.foldl_cons, List.foldl_cons]
    rcases List.mem_cons.mp hmem with rfl | hmem
    · rw [apply_apply]
    · rw [apply_comm (hfilter.not_clashes head), ih hmem]

/-- Sequences that are alike do the same to every record. -/
theorem foldl_apply_of_alike {first second : List RouteCall} (h : Alike first second)
    (config : RouteConfig) : first.foldl apply config = second.foldl apply config := by
  induction h generalizing config with
  | nil => rfl
  | cons hcall _ ih => rw [List.foldl_cons, List.foldl_cons, apply_congr hcall, ih]
  | swap h rest => simp only [List.foldl_cons, apply_comm h]
  | again hfilter hmem => rw [List.foldl_cons, foldl_apply_of_mem hfilter hmem]
  | symm _ ih => exact (ih config).symm
  | trans _ _ ih ih' => exact (ih config).trans (ih' config)

/-- Sequences of steps that are alike build the same route, or fail with the same error. The routes
compare as equal, and give requests that differ in case the same match or the same rejection. The
rejection is that of the first check which the request fails, in the order method, scheme, program
and path. -/
theorem built_alike (path : String) {first second : List RouteCall} (h : Alike first second) :
    (ofCalls path first).build = (ofCalls path second).build ∧
    ∀ route other, (ofCalls path first).build = .ok route →
      (ofCalls path second).build = .ok other →
        route.sameAs other = true ∧
        (∀ request again : Request, request.SameButCase again →
          route.evaluate request = other.evaluate again) ∧
        ∀ request cause, route.evaluate request = .error cause ↔
          FirstFault (fun check => ¬route.FailsCheck request check)
            (fun check => check = cause ∧ route.FailsCheck request check)
            [.method, .scheme, .uncompiled, .path] := by
  have hbuild : (ofCalls path first).build = (ofCalls path second).build := by
    rw [ofCalls, ofCalls, foldl_apply_of_alike h]
  refine ⟨hbuild, fun route other hroute hother => ?_⟩
  have hsame : route = other := Except.ok.inj (hroute.symm.trans (hbuild.trans hother))
  subst hsame
  exact ⟨(Route.sameAs_iff route route).mpr rfl, fun request again => route.evaluate_congr,
    fun request cause => route.evaluate_eq_error_iff request cause⟩

/-- Steps with a default that is set twice. -/
def localized : List RouteCall :=
  [.method "get", .default "lang" "en", .schemes ["HTTPS", "wss"], .default "lang" "de"]

/-- The same with the method last, named twice, and in other cases. The default set last stays so. -/
def relocalized : List RouteCall :=
  [.default "lang" "en", .schemes ["https", "WSS"], .default "lang" "de", .method "Get",
    .method "GET"]

theorem localized_alike : Alike localized relocalized := by
  have hschemes : (RouteCall.schemes ["HTTPS", "wss"]).SameButCase (.schemes ["https", "WSS"]) :=
    .schemes (.cons (by decide) (.cons (by decide) .nil))
  have hmethod : ∀ name, Text.SameButCase name "GET" →
      (RouteCall.method name).SameButCase (.method "GET") := fun name h => .method h
  -- The method goes past the steps behind it one by one, and is then doubled.
  have hfirst := Alike.swap ((IsFilter.method "get").not_clashes (.default "lang" "en"))
    [.schemes ["HTTPS", "wss"], .default "lang" "de"]
  have hsecond := Alike.swap ((IsFilter.method "get").not_clashes (.schemes ["HTTPS", "wss"]))
    [.default "lang" "de"]
  have hthird := Alike.swap ((IsFilter.method "get").not_clashes (.default "lang" "de")) []
  have hdoubled : Alike [.method "get"] [.method "Get", .method "GET"] :=
    .trans (.cons (hmethod "get" (by decide)) .nil)
      (.trans (.symm (.again (.method "GET") List.mem_cons_self))
        (.symm (.cons (hmethod "Get" (by decide)) (.cons (.same _) .nil))))
  exact hfirst.trans (.cons (.same _) (hsecond.trans (.cons hschemes
    (hthird.trans (.cons (.same _) hdoubled)))))

theorem localized_built_alike : Alike localized relocalized ∧
    ∃ route, (ofCalls "/:id" localized).build = .ok route ∧
      (ofCalls "/:id" relocalized).build = .ok route ∧
      route.evaluate ⟨"post", "ftp", "/"⟩ = .error .method ∧
      route.evaluate ⟨"POST", "FTP", "/"⟩ = .error .method := by
  obtain ⟨hbuild, hroutes⟩ := built_alike "/:id" localized_alike
  obtain ⟨route, hroute⟩ : ∃ route, (ofCalls "/:id" localized).build = .ok route := ⟨_, rfl⟩
  obtain ⟨-, hcase, -⟩ := hroutes route route hroute (hbuild.symm.trans hroute)
  have hrejected : route.evaluate ⟨"post", "ftp", "/"⟩ = .error .method := by
    cases hroute
    decide
  refine ⟨localized_alike, route, hroute, hbuild.symm.trans hroute, hrejected, ?_⟩
  rw [← hcase ⟨"post", "ftp", "/"⟩ ⟨"POST", "FTP", "/"⟩ ⟨rfl, by decide, by decide⟩]
  exact hrejected

end RouteConfig

end Switchyard
