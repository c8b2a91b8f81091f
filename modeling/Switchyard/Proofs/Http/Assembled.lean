import Switchyard.Proofs.Http.Query
import Switchyard.Proofs.Route.Emission
import Switchyard.Router

/-!
# Assembled paths as targets

An assembled path can be sent as the target of a request. It begins at the root, and no value in it
brings a query or a fragment, so it is read as a path from its first character to its last: whatever
colons and slashes are in it, it has no scheme and no host (`assembled_verbatim`).
-/

namespace Switchyard.Http

/-- A target from the root without a query and a fragment is all path. -/
theorem split_root {rest : List Char} (h : ∀ c ∈ '/' :: rest, c ≠ '?' ∧ c ≠ '#') :
    Target.split ('/' :: rest) = ⟨none, '/' :: rest⟩ := by
  have hquestion : '?' ∉ '/' :: rest := fun hmem => (h '?' hmem).1 rfl
  have hhash : '#' ∉ '/' :: rest := fun hmem => (h '#' hmem).2 rfl
  rw [split_eq_self hhash, ofPlain_slash (List.not_mem_of_not_mem_cons hhash),
    withoutQuery_eq_self hquestion]

/-- The request for a target that is all path. -/
theorem requestOf_root {rest : List Char} (h : ∀ c ∈ '/' :: rest, c ≠ '?' ∧ c ≠ '#')
    (method : String) :
    requestOf method (String.ofList ('/' :: rest)) = ⟨method, "", String.ofList ('/' :: rest)⟩ := by
  rw [requestOf, String.toList_ofList, split_root h]
  rfl

/-- As a target an assembled path has no scheme and is a path to its last character, whatever the
values in it are, so that a router is asked for this path. -/
theorem assembled_verbatim {route : Route} {params : Params} {path : String}
    (hassemble : route.assemble params = .ok path) :
    Target.split path.toList = ⟨none, path.toList⟩ ∧
    ∀ method, requestOf method path = { method, scheme := "", path } ∧
      ∀ router : Router,
        router.find (requestOf method path) = router.find { method, scheme := "", path } := by
  obtain ⟨-, rfl⟩ := Route.assemble_eq_ok_iff.mp hassemble
  have hplain : ∀ c ∈ Route.pathText (route.emitted (route.merged params)), c ≠ '?' ∧ c ≠ '#' :=
    fun c => Route.plain_of_mem_pathText
  refine ⟨?_, fun method => ?_⟩
  · rw [String.toList_ofList]
    exact split_root hplain
  · have hrequest := requestOf_root hplain method
    exact ⟨hrequest, fun router => congrArg router.find hrequest⟩

/-- A resource of a host. -/
def mirror : Route where
  config := { path := "/:root/:host/~:resource" }
  segments := [.placeholder "root", .placeholder "host", .optionalPlaceholder "resource"]
  parsed := rfl
  canonical := rfl

/-- Two slashes, a host, and marks of a query and a fragment in the values make no address. -/
theorem mirror_verbatim :
    mirror.assemble (.ofList [("root", ""), ("host", "h:80"), ("resource", "a?b#c://d")]) =
        .ok "//h:80/a%3Fb%23c:%2F%2Fd" ∧
      Target.split "//h:80/a%3Fb%23c:%2F%2Fd".toList =
        ⟨none, "//h:80/a%3Fb%23c:%2F%2Fd".toList⟩ ∧
      requestOf "GET" "//h:80/a%3Fb%23c:%2F%2Fd" = ⟨"GET", "", "//h:80/a%3Fb%23c:%2F%2Fd"⟩ := by
  have hassemble :
      mirror.assemble (.ofList [("root", ""), ("host", "h:80"), ("resource", "a?b#c://d")]) =
        .ok "//h:80/a%3Fb%23c:%2F%2Fd" := by decide
  obtain ⟨hsplit, hrequest⟩ := assembled_verbatim hassemble
  exact ⟨hassemble, hsplit, (hrequest "GET").1⟩

end Switchyard.Http
