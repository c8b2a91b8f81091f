import Mathlib
import Switchyard.Proofs.Pattern.Malformed
import Switchyard.Proofs.Route.Assembly

/-!
# Routes with a malformed constraint

A constraint that is no pattern by itself makes its route inert (`Route.inert_of_malformed`): no
value of its placeholder goes into a path, and no request is accepted. In assembly this goes by the
constraint alone. Matching writes all constraints into one source, and there the constraints before
the malformed one have to be well formed, and none may come after it to close what it leaves open.
A closing bracket too many is exempt in both places. It closes the group around the constraint, and
the text behind it may open another for the bracket that was meant to (`Route.escaping_not_inert`).
-/

namespace Switchyard

open Regex

namespace Route

variable {route : Route} {segment : Segment} {name value constraint : String}

/-! ## Values that cannot stand -/

/-- A value that the constraint refuses on its own goes into no path. -/
theorem assemble_of_no_program (hmem : segment ∈ route.segments)
    (hname : segment.name? = some name)
    (hget : route.config.constraints.get? name = some constraint)
    (hprogram : Constraint.program? constraint = none) {params : Params}
    (hmerged : (route.merged params).get? name = some value) (hvalue : value ≠ "") :
    ∃ cause, route.assemble params = .error cause := by
  cases hassemble : route.assemble params with
  | error cause => exact ⟨cause, rfl⟩
  | ok path =>
    have hsupplies := (assemble_eq_ok_iff.mp hassemble).1 segment hmem
    have hemitted : segment.emitted? (route.merged params) = some value :=
      (emitted?_eq_get? hname (by simpa [hmerged] using hvalue)).trans hmerged
    have hallows := hsupplies.allowed name value hname hemitted
    simp [Constraint.allows, hget, Constraint.admits, hprogram] at hallows

theorem evaluate_of_no_program (hprogram : route.pattern.program? = none) (request : Request) :
    ∃ rejection, route.evaluate request = .error rejection := by
  cases hevaluate : route.evaluate request with
  | error rejection => exact ⟨rejection, rfl⟩
  | ok found =>
    have hsome := (admits_of_evaluate hevaluate).2
    rw [hprogram] at hsome
    cases hsome

/-! ## Inert routes -/

/-- A constraint that is malformed, for another reason than a closing bracket too many, refuses
every value of its placeholder when a path is assembled. Where the constraints before it are well
formed and none comes after it, the route accepts no request. -/
theorem inert_of_malformed {front back : List Segment} {cause : Regex.ParseError}
    (hsegments : route.segments = front ++ segment :: back) (hname : segment.name? = some name)
    (hget : route.config.constraints.get? name = some constraint)
    (hparse : Regex.parse constraint.toList = .error cause) (hcause : cause ≠ .groupUnopened) :
    (∀ params value, (route.merged params).get? name = some value → value ≠ "" →
      ∃ cause, route.assemble params = .error cause) ∧
    (Pattern.Sound ⟨front, route.config.constraints⟩ →
      (∀ other ∈ back.filterMap Segment.name?, route.config.constraints.get? other = none) →
      ∀ request, ∃ rejection, route.evaluate request = .error rejection) := by
  constructor
  · intro params value hmerged hvalue
    have hmem : segment ∈ route.segments := by
      rw [hsegments]
      exact List.mem_append_right _ List.mem_cons_self
    exact assemble_of_no_program hmem hname hget (Constraint.program?_of_malformed hparse hcause)
      hmerged hvalue
  · intro hfront hback
    exact evaluate_of_no_program
      (Pattern.program?_of_malformed hsegments hname hget hparse hcause hfront hback)

/-- A year, an item with a class that is not closed, and a page. -/
def unclosed : Route where
  config := {
    path := "/:year/:item/~:page"
    constraints := .ofList [("year", "[0-9]+"), ("item", "[0-")] }
  segments := [.placeholder "year", .placeholder "item", .optionalPlaceholder "page"]
  parsed := rfl
  canonical := rfl

/-- The class is closed neither by the bracket of its group nor behind it. -/
theorem unclosed_inert :
    Regex.parse "[0-".toList = .error .classUnclosed ∧
      (∃ cause, unclosed.assemble (.ofList [("year", "1999"), ("item", "1")]) = .error cause) ∧
      ∃ rejection, unclosed.evaluate ⟨"GET", "http", "/1999/1"⟩ = .error rejection := by
  have hparse : Regex.parse "[0-".toList = .error .classUnclosed := by cbv
  have hsegments : unclosed.segments =
      [.placeholder "year"] ++ .placeholder "item" :: [.optionalPlaceholder "page"] := rfl
  obtain ⟨hassemble, hevaluate⟩ := inert_of_malformed hsegments rfl rfl hparse (by decide)
  have hfront : Pattern.Sound ⟨[.placeholder "year"], unclosed.config.constraints⟩ := by
    intro other hother constraint hget
    rw [List.mem_singleton.mp (show other ∈ ["year"] from hother)] at hget
    cases hget
    exact ⟨⟨Regex.treeOf "[0-9]+".toList, by cbv⟩, by cbv⟩
  refine ⟨hparse, hassemble _ "1" rfl (by decide), hevaluate hfront (fun other hother => ?_) _⟩
  rw [List.mem_singleton.mp (show other ∈ ["page"] from hother)]
  rfl

/-- An item whose constraint closes the group around it and opens another. -/
def escaping : Route where
  config := { path := "/:id", constraints := .ofList [("id", "a)|(?:b")] }
  segments := [.placeholder "id"]
  parsed := rfl
  canonical := rfl

/-- What the source of the pattern is read as: one branch for each group. -/
def escapingTree : Regex :=
  .alt (Regex.sequence [.look .textStart, Regex.slash,
      .group (.named (Pattern.groupName 0)) (.set (.single 'a'))])
    (Regex.sequence [.group .plain (.set (.single 'b')), .look .textEnd])

/-- The bracket of the constraint closes the group around it, and the one behind it the other. -/
theorem reads_escaping : Assembly.Reads {} escaping.pattern.sourceChars
    { branches := some (Regex.sequence [.look .textStart, Regex.slash,
        .group (.named (Pattern.groupName 0)) (.set (.single 'a'))])
      items := [.look .textEnd, .group .plain (.set (.single 'b'))] } [] := by
  have hsource : escaping.pattern.sourceChars = '\\' :: 'A' :: '/' ::
      ("(?P<".toList ++ Pattern.groupName 0 ++ '>' :: "a)|(?:b)\\z".toList) := by decide
  rw [hsource]
  exact (Assembly.reads_textStart rfl _).trans <| (Assembly.reads_slash rfl _).trans <|
    (Assembly.reads_named rfl 0 _).trans <| (Assembly.Reads.atom rfl (by decide)).trans <|
      (Assembly.Reads.token rfl (by decide) rfl).trans <|
        (Assembly.Reads.token rfl (by decide) rfl).trans <|
          (Assembly.Reads.token rfl (by decide) rfl).trans <|
            (Assembly.Reads.atom rfl (by decide)).trans <|
              (Assembly.Reads.token rfl (by decide) rfl).trans (Assembly.reads_textEnd rfl [])

theorem escaping_program : escaping.pattern.program? = some escapingTree := by
  have hparse : Regex.parse escaping.pattern.sourceChars = .ok escapingTree :=
    (parse_eq_ok_iff reads_escaping rfl).mpr ⟨rfl, by decide, by decide⟩
  have hfits : escapingTree.fits = true := by cbv
  exact Pattern.program?_of_parse (by decide) hparse hfits

/-- With a closing bracket too many the constraint is no pattern, and the route works all the
same. -/
theorem escaping_not_inert :
    Regex.parse "a)|(?:b".toList = .error .groupUnopened ∧
      escaping.assemble (.ofList [("id", "a")]) = .ok "/a" ∧
      ∃ found, escaping.evaluate ⟨"GET", "http", "/a"⟩ = .ok found ∧
        found.params.get? "id" = some "a" := by
  have hcaptures : escaping.pattern.captures? escapingTree (trimmed "/a") =
      some [("id", ['a'])] := by
    cbv
  refine ⟨by cbv, by cbv, ⟨escaping.matchParams [("id", ['a'])] "GET" "http", none⟩, ?_, ?_⟩
  · unfold evaluate
    simp only [escaping_program]
    rw [show Text.trimEnd (· = '/') "/a".toList = trimmed "/a" from rfl, hcaptures]
    rfl
  · cbv

end Route

end Switchyard
