import Switchyard.Proofs.Route.LeftToRight
import Switchyard.Proofs.Router.FirstMatch

/-!
# The name of the route among the parameters

A router attaches the name of the winning route to the match, beside the parameters. Asked for all
parameters, the match puts that name among them. It stands under one key, and this key, unlike those
of the method and the scheme, can be the name of a placeholder: what such a placeholder took is hidden
then, and is read from the parameters alone. Nothing else is (`Router.allParams_of_find`).
-/

namespace Switchyard

/-- Among all parameters the route's name stands under its own key, and all else is as it was. -/
theorem RouteMatch.get?_allParams {found : RouteMatch} {name : String}
    (hname : found.routeName = some name) (key : String) :
    found.allParams.get? key = if key = routeParam then some name else found.params.get? key := by
  rw [allParams, hname]
  dsimp only
  rw [Keyed.get?_insert]
  by_cases hkey : key = routeParam
  · rw [if_pos hkey.symm, if_pos hkey]
  · rw [if_neg (Ne.symm hkey), if_neg hkey]

namespace Router

/-- The parameters of a match hold what every placeholder of the winning route took from the path.
All parameters together hold under a placeholder's name what the parameters hold, unless that name is
the key of the route's name: there they hold the name of the winning route. -/
theorem allParams_of_find {router : Router} {request : Request} {found : RouteMatch}
    (hfind : router.find request = .ok found) :
    ∃ before name route after, router.routes.entries = before ++ (name, route) :: after ∧
      (∀ entry ∈ before, entry.2.Rejects request) ∧ route.Accepts request ∧
      found.routeName = some name ∧
      (∀ placeholder ∈ route.pattern.names, found.allParams.get? placeholder =
        if placeholder = routeParam then some name else found.params.get? placeholder) ∧
      ∀ placeholder text, route.captured? request placeholder = some text →
        found.params.get? placeholder = some text ∧
        (placeholder ≠ routeParam → found.allParams.get? placeholder = some text) := by
  obtain ⟨before, name, route, after, taken, hentries, hbefore, htaken, rfl⟩ := winner_of_find hfind
  have hall := RouteMatch.get?_allParams (show (router.finish name taken).routeName = some name from rfl)
  refine ⟨before, name, route, after, hentries, hbefore, ⟨taken, htaken⟩, rfl,
    fun placeholder _ => hall placeholder, fun placeholder text hcaptured => ?_⟩
  -- No other layer lies over the captures, since no placeholder bears a key of the request.
  have hparam : (router.finish name taken).params.get? placeholder = some text :=
    (param?_finish router htaken name placeholder).trans (layered_of_captured? router hcaptured)
  refine ⟨hparam, fun hne => ?_⟩
  rw [hall, if_neg hne, hparam]

/-- A route whose first placeholder bears the key of the route's name. -/
def site : Route where
  config := { path := "/:route/:page" }
  segments := [.placeholder "route", .placeholder "page"]
  parsed := rfl
  canonical := rfl

/-- A router with that route. -/
def sites : Router where
  routes := ⟨[("site", site)], by simp⟩

theorem site_compiled : site.pattern.program?.isSome = true :=
  Pattern.isSome_program? (fun _ _ _ hget => by cases hget) (by decide) (of_decide_eq_true (by cbv))
    (of_decide_eq_true (by cbv)) (by cbv)

/-- The route takes the first two segments of a path. -/
theorem sites_finds : ∃ taken, site.evaluate ⟨"GET", "http", "/home/a%2Fb/"⟩ = .ok taken ∧
    sites.find ⟨"GET", "http", "/home/a%2Fb/"⟩ = .ok (sites.finish "site" taken) ∧
    site.captured? ⟨"GET", "http", "/home/a%2Fb/"⟩ "route" = some "home" ∧
    site.captured? ⟨"GET", "http", "/home/a%2Fb/"⟩ "page" = some "a/b" := by
  have hfree : ∀ name ∈ site.pattern.names, site.config.constraints.get? name = none :=
    fun _ _ => rfl
  have hadmits : site.Admits ⟨"GET", "http", "/home/a%2Fb/"⟩ := Route.admits_of_empty rfl rfl _
  have hcaptured := Route.captured?_eq_lookup site_compiled hfree ⟨"GET", "http", "/home/a%2Fb/"⟩
  obtain ⟨taken, htaken⟩ :=
    (Route.accepts_iff_firstMatch hadmits site_compiled hfree).mpr ⟨_, rfl⟩
  have hentries : sites.routes.entries = [] ++ ("site", site) :: [] := rfl
  refine ⟨taken, htaken, ?_, (hcaptured "route").trans ?_, (hcaptured "page").trans ?_⟩
  · rw [find, dispatch_of_first hentries (fun _ h => by cases h) htaken]
  · cbv
  · cbv

/-- The decoded page is read from both, and the name of the site from the parameters. -/
theorem sites_allParams : ∃ found,
    sites.find ⟨"GET", "http", "/home/a%2Fb/"⟩ = .ok found ∧
    found.params.get? "page" = some "a/b" ∧ found.allParams.get? "page" = some "a/b" ∧
    found.params.get? "route" = some "home" := by
  obtain ⟨taken, -, hfind, hroute, hpage⟩ := sites_finds
  obtain ⟨before, name, route, after, hentries, -, -, -, -, hcaptures⟩ := allParams_of_find hfind
  obtain ⟨rfl, rfl⟩ : "site" = name ∧ site = route := by
    rcases before with _ | ⟨first, before⟩
    · exact Prod.mk.inj (List.cons.inj hentries).1
    · have hlength := congrArg List.length (List.cons.inj hentries).2
      simp at hlength
  obtain ⟨hparam, hboth⟩ := hcaptures "page" "a/b" hpage
  exact ⟨_, hfind, hparam, hboth (by decide), (hcaptures "route" "home" hroute).1⟩

/-- What the first placeholder took is lost among all parameters to the name of the route. -/
theorem sites_name_hides_capture : ∃ found,
    sites.find ⟨"GET", "http", "/home/a%2Fb/"⟩ = .ok found ∧ found.routeName = some "site" ∧
    sites.get "site" = .ok site ∧ "route" ∈ site.pattern.names ∧
    found.params.get? "route" = some "home" ∧ found.allParams.get? "route" = some "site" := by
  obtain ⟨taken, htaken, hfind, hroute, -⟩ := sites_finds
  refine ⟨_, hfind, rfl, rfl, by decide, ?_, ?_⟩
  · exact (param?_finish sites htaken "site" "route").trans (layered_of_captured? sites hroute)
  · exact (RouteMatch.get?_allParams rfl routeParam).trans (if_pos rfl)

end Router

end Switchyard
