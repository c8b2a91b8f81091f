import Switchyard.Proofs.Route.WholeSegments

/-!
# Matching segment by segment

A route that constrains none of its placeholders can be matched without any regular expression. Its
segments are taken one after the other, each tries in a fixed order what it may take at the front of
the path (`Segment.attempts`), and the first attempt after which the rest of the segments come to the
end of the path decides (`firstMatch?`). `Route.evaluate_eq_firstMatch` is the main statement: such a
route answers every request as this matcher does.
-/

namespace Switchyard

open Regex

/-! ## The matcher -/

/-- The runs without a slash at the front of a text, the longest first, each with what it leaves. -/
def slashFreeRuns : List Char → List (List Char × List Char)
  | [] => [([], [])]
  | c :: rest =>
    if c = '/' then [([], c :: rest)]
    else ((slashFreeRuns rest).map fun run => (c :: run.1, run.2)) ++ [([], c :: rest)]

namespace Segment

/-- What the segment tries at the front of a path, in this order: the text that it takes, and what it
leaves. Where a slash stands, an optional segment tries first to take it. -/
def attempts : Segment → List Char → List (List Char × List Char)
  | literal text, path =>
    let code := Percent.encodeChars text.toList
    (Text.stripStart? ('/' :: code) path).toList.map fun left => (code, left)
  | optionalLiteral text, path =>
    let code := Percent.encodeChars text.toList
    ((Text.stripStart? ('/' :: code) path).toList.map fun left => (code, left)) ++
      ((Text.stripStart? ['/'] path).toList.map fun left => ([], left)) ++
        ((Text.stripStart? code path).toList.map fun left => (code, left)) ++ [([], path)]
  | placeholder _, path =>
    (Text.stripStart? ['/'] path).toList.flatMap fun left =>
      (slashFreeRuns left).filter fun run => run.1 ≠ []
  | optionalPlaceholder _, path =>
    (Text.stripStart? ['/'] path).toList.flatMap slashFreeRuns ++ slashFreeRuns path

/-- A text taken by the segment, in front of what the later segments bind: a placeholder binds its
text where that is not empty. -/
def bindText (segment : Segment) (text : List Char) (later : List (String × List Char)) :
    List (String × List Char) :=
  match segment.name? with
  | some name => if text = [] then later else (name, text) :: later
  | none => later

end Segment

/-- What the segments bind on the first of their attempts, in order of preference, that comes to the
end of the path; `none` when no attempt does. -/
def firstMatch? : List Segment → List Char → Option (List (String × List Char))
  | [], path => if path = [] then some [] else none
  | segment :: rest, path =>
    (segment.attempts path).findSome? fun attempt =>
      (firstMatch? rest attempt.2).map (segment.bindText attempt.1)

/-! ## Attempts and ways -/

/-- A place past a text leaves what the text leaves when it is cut off. -/
theorem after_past? (cursor : Cursor) (text : List Char) :
    (cursor.past? text).map Cursor.after = Text.stripStart? text cursor.after := by
  induction text generalizing cursor with
  | nil => rfl
  | cons c text ih =>
    obtain ⟨before, after⟩ := cursor
    rcases after with _ | ⟨d, rest⟩
    · rfl
    · rw [Cursor.past?, Cursor.step?, Text.stripStart?]
      by_cases hc : c = d
      · subst hc
        simp only [beq_self_eq_true, if_true, Option.bind_some]
        exact ih ⟨some c, rest⟩
      · have hother : ¬ (d == c) = true := fun h => hc (beq_iff_eq.mp h).symm
        simp only [if_neg hother, if_neg hc, Option.bind_none, Option.map_none]

theorem map_past? {α : Type} (cursor : Cursor) (text : List Char) (f : List Char → α) :
    ((cursor.past? text).toList.map fun place => f place.after) =
      (Text.stripStart? text cursor.after).toList.map f := by
  rw [← after_past?]
  cases cursor.past? text <;> rfl

theorem flatMap_past? {α : Type} (cursor : Cursor) (text : List Char) (f : List Char → List α) :
    ((cursor.past? text).toList.flatMap fun place => f place.after) =
      (Text.stripStart? text cursor.after).toList.flatMap f := by
  rw [← after_past?]
  cases cursor.past? text <;> rfl

/-- From one character on, the text taken is longer by that character. -/
theorem taken_cons {before : Option Char} {c : Char} {rest : List Char} {next : Cursor}
    (h : next.left ≤ rest.length) :
    Cursor.taken ⟨before, c :: rest⟩ next = c :: Cursor.taken ⟨some c, rest⟩ next := by
  have hlength : (c :: rest).length - next.after.length = rest.length - next.after.length + 1 := by
    simp only [Cursor.left] at h
    simp only [List.length_cons]
    omega
  rw [Cursor.taken, Cursor.taken, hlength, List.take_succ_cons]

/-- Runs of what is no slash, as the text taken and the text left. -/
theorem map_runs_notSlash (before : Option Char) (text : List Char) :
    (Walk.runs notSlash ⟨before, text⟩).map (fun reach =>
        (Cursor.taken ⟨before, text⟩ reach.cursor, reach.cursor.after)) =
      slashFreeRuns text := by
  -- Both go on character by character and stay last, so the order is the same.
  induction text generalizing before with
  | nil => simp [Walk.runs_eq, Cursor.step?, slashFreeRuns, Cursor.taken]
  | cons c rest ih =>
    have hstay : Cursor.taken ⟨before, c :: rest⟩ ⟨before, c :: rest⟩ = [] :=
      Cursor.taken_of_after rfl
    rw [Walk.runs_eq, Cursor.step?, List.map_append, List.map_singleton, hstay, slashFreeRuns]
    by_cases hc : c = '/'
    · have hslash : ¬ notSlash c = true := fun h => (notSlash_iff c).mp h hc
      simp only [if_neg hslash, if_pos hc, Option.toList_none, List.flatMap_nil, List.map_nil,
        List.nil_append]
    · simp only [if_pos ((notSlash_iff c).mpr hc), if_neg hc, Option.toList_some,
        List.flatMap_singleton]
      rw [← ih (some c), List.map_map]
      refine congrArg (· ++ _) (List.map_congr_left fun reach hreach => ?_)
      rw [Function.comp_apply, taken_cons (Walk.left_le_of_mem_runs hreach)]

/-- What a placeholder takes that may take nothing. -/
theorem map_texts_zero (cursor : Cursor) :
    (Segment.texts (Pattern.slashFree 0) cursor).map (fun found => (found.1, found.2.after)) =
      slashFreeRuns cursor.after := by
  rw [Segment.texts, List.map_map, ends_slashFree_zero]
  exact map_runs_notSlash cursor.before cursor.after

theorem slashFreeRuns_ne_nil (c : Char) (rest : List Char) :
    (slashFreeRuns (c :: rest)).filter (fun run => run.1 ≠ []) =
      if c = '/' then [] else (slashFreeRuns rest).map fun run => (c :: run.1, run.2) := by
  rw [slashFreeRuns]
  split
  · rfl
  · simp [List.filter_map, Function.comp_def]

/-- What a placeholder takes that has to take something. -/
theorem map_texts_one (cursor : Cursor) :
    (Segment.texts (Pattern.slashFree 1) cursor).map (fun found => (found.1, found.2.after)) =
      (slashFreeRuns cursor.after).filter fun run => run.1 ≠ [] := by
  obtain ⟨before, text⟩ := cursor
  rw [Segment.texts, List.map_map, ends_slashFree_one]
  rcases text with _ | ⟨c, rest⟩
  · rfl
  · rw [slashFreeRuns_ne_nil, Cursor.step?]
    by_cases hc : c = '/'
    · have hslash : ¬ notSlash c = true := fun h => (notSlash_iff c).mp h hc
      simp only [if_neg hslash, if_pos hc, Option.toList_none, List.flatMap_nil, List.map_nil]
    · simp only [if_pos ((notSlash_iff c).mpr hc), if_neg hc, Option.toList_some,
        List.flatMap_singleton]
      rw [← map_runs_notSlash (some c), List.map_map]
      refine List.map_congr_left fun reach hreach => ?_
      simp only [Function.comp_apply, taken_cons (Walk.left_le_of_mem_runs hreach)]

theorem stripStart?_cons (c : Char) (start text : List Char) :
    Text.stripStart? (c :: start) text =
      (Text.stripStart? [c] text).bind (Text.stripStart? start) := by
  rcases text with _ | ⟨d, rest⟩
  · rfl
  · simp only [Text.stripStart?]
    by_cases h : c = d
    · simp [h]
    · simp [h]

/-- Without a constraint the ways of a segment are its attempts, in the same order. -/
theorem map_ways {constraints : Params} {segment : Segment}
    (hfree : ∀ name, segment.name? = some name → constraints.get? name = none) (cursor : Cursor) :
    (segment.ways constraints cursor).map (fun way => (way.1.text, way.2.after)) =
      segment.attempts cursor.after := by
  -- One case for each kind of segment: with the slash first, and each text in the order of the
  -- attempts.
  cases segment with
  | literal text =>
    rw [Segment.ways, Segment.attempts, List.map_map]
    exact map_past? cursor _ fun left => (Percent.encodeChars text.toList, left)
  | optionalLiteral text =>
    simp only [Segment.ways, Segment.attempts]
    generalize Percent.encodeChars text.toList = code
    have htexts : ∀ slash (place : Cursor),
        (((place.past? code).toList.map fun next => ((⟨slash, code⟩ : Piece), next)) ++
          [((⟨slash, []⟩ : Piece), place)]).map (fun way => (way.1.text, way.2.after)) =
        ((Text.stripStart? code place.after).toList.map fun left => (code, left)) ++
          [([], place.after)] := by
      intro slash place
      rw [List.map_append, List.map_map, ← map_past?]
      rfl
    rw [Segment.slashWays, List.flatMap_append, List.map_append, List.flatMap_singleton, htexts,
      List.flatMap_map, List.map_flatMap, stripStart?_cons, ← after_past? cursor ['/']]
    simp only [htexts]
    cases cursor.past? ['/'] with
    | none => rfl
    | some place => simp
  | placeholder name =>
    rw [Segment.ways, Segment.attempts, List.map_flatMap, ← flatMap_past?]
    refine List.flatMap_congr fun place _ => ?_
    rw [← map_texts_one, List.map_map, Segment.value_placeholder (hfree name rfl)]
    rfl
  | optionalPlaceholder name =>
    have htexts : ∀ slash (place : Cursor), ((Segment.texts
        ((Segment.optionalPlaceholder name).value constraints) place).map fun found =>
          ((⟨slash, found.1⟩ : Piece), found.2)).map (fun way => (way.1.text, way.2.after)) =
        slashFreeRuns place.after := by
      intro slash place
      rw [← map_texts_zero, List.map_map, Segment.value_optionalPlaceholder (hfree name rfl)]
      rfl
    rw [Segment.ways, Segment.attempts, Segment.slashWays, List.flatMap_append, List.map_append,
      List.flatMap_singleton, htexts, List.flatMap_map, List.map_flatMap, ← flatMap_past?]
    simp only [htexts]

/-! ## The first reading -/

/-- What the first reading binds is what the matcher finds. -/
theorem boundBy_head?_readings {constraints : Params} {segments : List Segment}
    (hfree : ∀ segment ∈ segments, ∀ name, segment.name? = some name → constraints.get? name = none)
    (cursor : Cursor) :
    (readings constraints segments cursor).head?.map (boundBy segments) =
      firstMatch? segments cursor.after := by
  induction segments generalizing cursor with
  | nil =>
    rw [readings, firstMatch?]
    by_cases hafter : cursor.after = []
    · rw [if_pos hafter, if_pos hafter]
      rfl
    · rw [if_neg hafter, if_neg hafter]
      rfl
  | cons segment rest ih =>
    rw [List.forall_mem_cons] at hfree
    have hbind : ∀ (piece : Piece) (pieces : List Piece),
        boundBy (segment :: rest) (piece :: pieces) =
          segment.bindText piece.text (boundBy rest pieces) := fun piece pieces => rfl
    -- Behind a way the first reading of the rest is what the matcher finds there.
    have hway : ∀ way : Piece × Cursor,
        ((readings constraints rest way.2).map (way.1 :: ·)).head?.map (boundBy (segment :: rest)) =
          (firstMatch? rest way.2.after).map (segment.bindText way.1.text) := by
      intro way
      rw [← ih hfree.2 way.2, List.head?_map, Option.map_map, Option.map_map]
      rfl
    rw [readings, firstMatch?, List.head?_flatMap, List.map_findSome?, ← map_ways hfree.1 cursor,
      List.findSome?_map]
    exact congrArg (List.findSome? · _) (funext hway)

namespace Route

/-- A route without a constraint on its placeholders answers every request that its filters let
through as the segment matcher does on the trimmed path. -/
theorem evaluate_eq_firstMatch {route : Route} {request : Request}
    (hadmits : route.Admits request) (hprogram : route.pattern.program?.isSome = true)
    (hfree : ∀ name ∈ route.pattern.names, route.config.constraints.get? name = none) :
    route.evaluate request =
      match firstMatch? route.segments (trimmed request.path) with
      | none => .error .path
      | some captured =>
        .ok ⟨route.matchParams captured (Text.upper request.method) (Text.lower request.scheme),
          none⟩ := by
  have hsound : route.pattern.Sound := (regular_of_free hfree).sound
  have hfirst : (route.readings (trimmed request.path)).head?.map (boundBy route.segments) =
      firstMatch? route.segments (trimmed request.path) :=
    boundBy_head?_readings
      (fun segment hmem name hname => hfree name (List.mem_filterMap.mpr ⟨segment, hmem, hname⟩))
      (Cursor.start (trimmed request.path))
  rw [evaluate_eq hadmits hsound hprogram, ← hfirst]
  cases (route.readings (trimmed request.path)).head? with
  | none => rfl
  | some pieces => rfl

/-- A route with a segment of each kind. -/
def mixed : Route where
  config := { path := "/foo/~bar/:bat/~:baz" }
  segments := [.literal "foo", .optionalLiteral "bar", .placeholder "bat", .optionalPlaceholder "baz"]
  parsed := rfl
  canonical := rfl

theorem mixed_compiled : mixed.pattern.program?.isSome = true :=
  Pattern.isSome_program? (fun _ _ _ hget => by cases hget) (by decide) (of_decide_eq_true (by cbv))
    (of_decide_eq_true (by cbv)) (by cbv)

/-- The optional text is taken without its slash, as the attempts with a slash lead nowhere. -/
theorem mixed_first_match :
    mixed.evaluate ⟨"GET", "http", "/foobar/x/y/"⟩ =
      .ok ⟨mixed.matchParams [("bat", ['x']), ("baz", ['y'])] "GET" "http", none⟩ := by
  rw [evaluate_eq_firstMatch (admits_of_empty rfl rfl _) mixed_compiled fun _ _ => rfl]
  rfl

end Route

end Switchyard
