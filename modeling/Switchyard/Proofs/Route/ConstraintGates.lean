import Mathlib
import Switchyard.Proofs.Route.Assembly

/-!
# One constraint, two places

A constraint holds back values in two places: on its own, when a path is assembled, and inside the
pattern of the route, when a path is matched. For a route of literals with one constrained
placeholder the two are compared on the same value (`Route.assembles_iff_accepts`). What matching
accepts can always be assembled. The converse fails for anchors: in the pattern a slash stands in front
of the value, and one may stand behind it.
-/

namespace Switchyard

open Regex

/-! ## Readings through literals -/

section

variable {constraints : Params}

theorem exists_reading_literal {text : String} {rest : List Segment} {cursor : Cursor} :
    (∃ pieces, pieces ∈ readings constraints (.literal text :: rest) cursor) ↔
      ∃ next, cursor.past? ('/' :: Percent.encodeChars text.toList) = some next ∧
        ∃ pieces, pieces ∈ readings constraints rest next := by
  constructor
  · rintro ⟨pieces, hpieces⟩
    obtain ⟨way, hway, hpieces⟩ := List.mem_flatMap.mp hpieces
    obtain ⟨more, hmore, -⟩ := List.mem_map.mp hpieces
    obtain ⟨next, hnext, rfl⟩ := List.mem_map.mp hway
    exact ⟨next, Option.mem_toList.mp hnext, more, hmore⟩
  · rintro ⟨next, hnext, more, hmore⟩
    have hway : (⟨true, Percent.encodeChars text.toList⟩, next) ∈
        (Segment.literal text).ways constraints cursor :=
      List.mem_map_of_mem (Option.mem_toList.mpr hnext)
    exact ⟨_, List.mem_flatMap.mpr ⟨_, hway, List.mem_map_of_mem hmore⟩⟩

/-- Whether the segments behind literals can be read depends on what the literals leave alone. -/
theorem exists_reading_behind {front : List String} {rest : List Segment} {more : List Char}
    {readable : Prop} (hrest : ∀ next : Cursor, next.after = more →
      ((∃ pieces, pieces ∈ readings constraints rest next) ↔ readable))
    {cursor : Cursor} (hafter : cursor.after = slashed (codes front) ++ more) :
    (∃ pieces, pieces ∈ readings constraints (front.map .literal ++ rest) cursor) ↔ readable := by
  -- Each literal has a single way past it, so what is readable stays the same on the way.
  induction front generalizing cursor with
  | nil => exact hrest cursor hafter
  | cons text front ih =>
    have hstart : cursor.after =
        '/' :: Percent.encodeChars text.toList ++ (slashed (codes front) ++ more) := by
      rw [hafter]
      simp [slashed, codes]
    obtain ⟨next, hnext, hleft⟩ := Cursor.past?_of_after hstart
    rw [List.map_cons, List.cons_append, exists_reading_literal]
    constructor
    · rintro ⟨other, hother, hread⟩
      cases hnext.symm.trans hother
      exact (ih hleft).mp hread
    · intro hreadable
      exact ⟨next, hnext, (ih hleft).mpr hreadable⟩

/-- Literals alone read the path that they write. -/
theorem exists_reading_literals {back : List String} {cursor : Cursor} :
    (∃ pieces, pieces ∈ readings constraints (back.map .literal) cursor) ↔
      cursor.after = slashed (codes back) := by
  induction back generalizing cursor with
  | nil =>
    rw [List.map_nil, readings]
    by_cases hafter : cursor.after = []
    · simp [hafter, slashed, codes]
    · simp [hafter, slashed, codes]
  | cons text back ih =>
    rw [List.map_cons, exists_reading_literal]
    have hslashed : slashed (codes (text :: back)) =
        '/' :: Percent.encodeChars text.toList ++ slashed (codes back) := by
      simp [slashed, codes]
    rw [hslashed]
    constructor
    · rintro ⟨next, hnext, hread⟩
      rw [Cursor.after_of_past? hnext, ih.mp hread]
    · intro hafter
      obtain ⟨next, hnext, hleft⟩ := Cursor.past?_of_after hafter
      exact ⟨next, hnext, ih.mpr hleft⟩

/-- A placeholder with literals behind it reads a value that its group takes between slashes. -/
theorem exists_reading_placeholder {name : String} {back : List String} {code : List Char}
    {cursor : Cursor} (hafter : cursor.after = '/' :: (code ++ slashed (codes back))) :
    (∃ pieces, pieces ∈ readings constraints (.placeholder name :: back.map .literal) cursor) ↔
      Walk.Takes ((Segment.placeholder name).value constraints).ends (some '/') code
        (slashed (codes back)) := by
  have hplace : cursor.past? ['/'] = some ⟨some '/', code ++ slashed (codes back)⟩ := by
    simp [Cursor.past?, Cursor.step?, hafter]
  -- The literals behind are read just if they are all that is left.
  constructor
  · rintro ⟨pieces, hpieces⟩
    obtain ⟨way, hway, hpieces⟩ := List.mem_flatMap.mp hpieces
    obtain ⟨more, hmore, -⟩ := List.mem_map.mp hpieces
    rw [Segment.ways, hplace, Option.toList_some, List.flatMap_singleton] at hway
    obtain ⟨found, hfound, rfl⟩ := List.mem_map.mp hway
    obtain ⟨reach, hreach, rfl⟩ := List.mem_map.mp hfound
    exact ⟨reach, hreach, exists_reading_literals.mp ⟨more, hmore⟩⟩
  · rintro ⟨reach, hreach, hleft⟩
    obtain ⟨more, hmore⟩ := exists_reading_literals.mpr hleft
    have hway : ∃ piece, (piece, reach.cursor) ∈
        (Segment.placeholder name).ways constraints cursor := by
      rw [Segment.ways, hplace, Option.toList_some, List.flatMap_singleton]
      exact ⟨_, List.mem_map_of_mem (List.mem_map_of_mem hreach)⟩
    obtain ⟨piece, hway⟩ := hway
    exact ⟨_, List.mem_flatMap.mpr ⟨_, hway, List.mem_map_of_mem hmore⟩⟩

end

/-! ## Constraints without anchors -/

/-- No assertion of the constraint asks for the start of the text or of a line. -/
def Constraint.StartFree (constraint : String) : Prop :=
  ∀ assertion ∈ (treeOf constraint.toList).looks, assertion.isStart = false

/-- No assertion of the constraint asks for the end of the text or of a line. -/
def Constraint.EndFree (constraint : String) : Prop :=
  ∀ assertion ∈ (treeOf constraint.toList).looks, assertion.isEnd = false

section

variable {constraint : String} {code rest : List Char}

/-- What a constraint takes between slashes it admits as a whole value. -/
theorem Constraint.admits_of_takes (h : Constraint.WellFormed constraint) (hrest : SegmentEnds rest)
    (htakes : Walk.Takes (treeOf constraint.toList).ends (some '/') code rest) :
    Constraint.admits constraint code = true := by
  have hslashed : Surroundings.Slashed ⟨some '/', rest⟩ := ⟨rfl, hrest⟩
  have hcarries : ∀ assertion ∈ (treeOf constraint.toList).looks,
      assertion.Carries ⟨some '/', rest⟩ .alone :=
    fun assertion _ => assertion.carries_alone hslashed
  exact (admits_iff_takes h code).mpr (takes_ends_of_carries hcarries htakes)

/-- A whole value is taken between slashes where no anchor of the constraint sees them. -/
theorem Constraint.takes_of_admits (h : Constraint.WellFormed constraint) (hrest : SegmentEnds rest)
    (hstart : Constraint.StartFree constraint) (hend : rest = [] ∨ Constraint.EndFree constraint)
    (hadmits : Constraint.admits constraint code = true) :
    Walk.Takes (treeOf constraint.toList).ends (some '/') code rest := by
  have hslashed : Surroundings.Slashed ⟨some '/', rest⟩ := ⟨rfl, hrest⟩
  have hcarries : ∀ assertion ∈ (treeOf constraint.toList).looks,
      assertion.Carries .alone ⟨some '/', rest⟩ := fun assertion hmem =>
    Look.carries_between hslashed (hstart assertion hmem)
      (hend.imp_right fun hfree => hfree assertion hmem)
  exact takes_ends_of_carries hcarries ((admits_iff_takes h code).mp hadmits)

end

namespace Route

variable {route : Route} {front back : List String} {name constraint value : String}

/-- The path with the value as a segment between the literals. -/
def pathThrough (front : List String) (value : String) (back : List String) : String :=
  String.ofList (slashed (codes (front ++ value :: back)))

section

variable
  (hsegments : route.segments = front.map .literal ++ .placeholder name :: back.map .literal)

include hsegments

theorem names_through : route.pattern.names = [name] := by
  have hliterals : ∀ texts : List String,
      (texts.map Segment.literal).filterMap Segment.name? = [] := by
    intro texts
    simp [List.filterMap_map, Function.comp_def, Segment.name?]
  have hplaceholder : (Segment.placeholder name).name? = some name := rfl
  have hnames : route.pattern.names = route.segments.filterMap Segment.name? := rfl
  rw [hnames, hsegments, List.filterMap_append, List.filterMap_cons_some hplaceholder, hliterals,
    hliterals]
  rfl

/-- The pieces of the path are those of the literals, and that of the value. -/
theorem chars_pieces_through {values : Params} (hvalue : values.get? name = some value) :
    (route.pieces values).flatMap Piece.chars = slashed (codes (front ++ value :: back)) := by
  have hliterals : ∀ texts : List String,
      ((texts.map Segment.literal).map (Segment.given values)).flatMap Piece.chars =
        slashed (codes texts) := by
    intro texts
    rw [slashed, codes, List.map_map, List.flatMap_map, List.flatMap_map]
    rfl
  have hplaceholder : ((Segment.placeholder name).given values).chars =
      slashed (codes [value]) := by
    rw [given_of_some rfl hvalue]
    simp [Piece.chars, slashed, codes]
  rw [pieces, hsegments, List.map_append, List.flatMap_append, List.map_cons, List.flatMap_cons,
    hliterals, hliterals, hplaceholder, ← slashed_append, ← slashed_append, codes, codes, codes,
    codes, ← List.map_append, ← List.map_append]
  rfl

end

theorem get?_merged_single (route : Route) (name value : String) :
    (route.merged (.ofList [(name, value)])).get? name = some value := by
  have hget : (Keyed.ofList [(name, value)]).get? name = some value :=
    Keyed.get?_insertAll_of_mem (by simp) List.mem_cons_self
  rw [merged, Keyed.get?_overlay, hget]
  rfl

theorem merged_single_ne
    (hsegments : route.segments = front.map .literal ++ .placeholder name :: back.map .literal)
    (hvalue : value ≠ "") :
    ∀ other ∈ route.pattern.names, (route.merged (.ofList [(name, value)])).get? other ≠ some "" := by
  intro other hother hempty
  rw [names_through hsegments, List.mem_singleton] at hother
  rw [hother, get?_merged_single] at hempty
  exact hvalue (Option.some.inj hempty)

theorem pathOf_through (front : List String) (value : String) (back : List String) :
    pathOf (slashed (codes (front ++ value :: back))) = pathThrough front value back := by
  rw [pathOf, if_neg (by simp [slashed, codes]), pathThrough]

/-- Assembly takes the values that the constraint admits. -/
theorem assemble_through
    (hsegments : route.segments = front.map .literal ++ .placeholder name :: back.map .literal)
    (hget : route.config.constraints.get? name = some constraint) (hvalue : value ≠ "")
    {path : String} :
    route.assemble (.ofList [(name, value)]) = .ok path ↔
      Constraint.admits constraint (Percent.encodeChars value.toList) = true ∧
        path = pathThrough front value back := by
  have hmerged := get?_merged_single route name value
  -- Of the segments only the placeholder asks for anything.
  have hfills : (∀ segment ∈ route.segments,
      route.Fills (route.merged (.ofList [(name, value)])) segment) ↔
        Constraint.admits constraint (Percent.encodeChars value.toList) = true := by
    have hgiven : route.Fills (route.merged (.ofList [(name, value)])) (.placeholder name) ↔
        Constraint.allows route.config.constraints name (Percent.encodeChars value.toList) = true :=
      fills_of_some rfl hmerged
    rw [Constraint.allows, hget] at hgiven
    rw [hsegments, List.forall_mem_append, List.forall_mem_cons, List.forall_mem_map,
      List.forall_mem_map]
    constructor
    · rintro ⟨-, hfills, -⟩
      exact hgiven.mp hfills
    · intro hadmits
      exact ⟨fun _ _ => fills_of_unnamed rfl, hgiven.mpr hadmits, fun _ _ => fills_of_unnamed rfl⟩
  rw [assemble_eq_ok (merged_single_ne hsegments hvalue), hfills,
    chars_pieces_through hsegments hmerged, pathOf_through]

/-- Matching takes the values that the constraint takes between the slashes of the path. -/
theorem accepts_through
    (hsegments : route.segments = front.map .literal ++ .placeholder name :: back.map .literal)
    (hget : route.config.constraints.get? name = some constraint)
    (hwellFormed : Constraint.WellFormed constraint)
    (hcompiled : route.pattern.program?.isSome = true) (hvalue : value ≠ "") {request : Request}
    (hadmits : route.Admits request) (hpath : request.path = pathThrough front value back) :
    (∃ found, route.evaluate request = .ok found) ↔
      Walk.Takes (treeOf constraint.toList).ends (some '/') (Percent.encodeChars value.toList)
        (slashed (codes back)) := by
  have hsound : route.pattern.Sound := by
    intro other hother found hfound
    rw [names_through hsegments, List.mem_singleton] at hother
    rw [hother, show route.pattern.constraints.get? name = some constraint from hget] at hfound
    cases hfound
    exact hwellFormed
  have htrimmed : trimmed request.path = slashed (codes (front ++ value :: back)) := by
    have hpieces := trimmed_pieces (merged_single_ne hsegments hvalue)
    rwa [chars_pieces_through hsegments (get?_merged_single route name value), pathOf_through,
      ← hpath] at hpieces
  have htree : (Segment.placeholder name).value route.config.constraints =
      treeOf constraint.toList := Segment.value_of_constraint rfl hget
  rw [accepts_iff hadmits hsound hcompiled, htrimmed, readings, hsegments, ← htree]
  have hstart : (Cursor.start (slashed (codes (front ++ value :: back)))).after =
      slashed (codes front) ++ slashed (codes (value :: back)) := by
    simp [Cursor.start, slashed, codes]
  -- In front of the placeholder the path is read past the literals, and what follows its slash is
  -- the value's to take.
  refine exists_reading_behind (fun next hnext => exists_reading_placeholder ?_) hstart
  rw [hnext]
  simp [slashed, codes]

/-- A route of literals and one constrained placeholder, without filters: a value whose path is
matched can be assembled, and it becomes that path. A value that can be assembled is matched where
the constraint asks for no start, and for no end unless the placeholder comes last. -/
theorem assembles_iff_accepts
    (hsegments : route.segments = front.map .literal ++ .placeholder name :: back.map .literal)
    (hget : route.config.constraints.get? name = some constraint)
    (hwellFormed : Constraint.WellFormed constraint)
    (hcompiled : route.pattern.program?.isSome = true) (hmethods : route.config.methods = .empty)
    (hschemes : route.config.schemes = .empty) (hvalue : value ≠ "") (method scheme : String) :
    ((∃ found, route.evaluate ⟨method, scheme, pathThrough front value back⟩ = .ok found) →
      route.assemble (.ofList [(name, value)]) = .ok (pathThrough front value back)) ∧
    (Constraint.StartFree constraint → back = [] ∨ Constraint.EndFree constraint →
      ((∃ path, route.assemble (.ofList [(name, value)]) = .ok path) ↔
        ∃ found, route.evaluate ⟨method, scheme, pathThrough front value back⟩ = .ok found)) := by
  have haccepts := accepts_through hsegments hget hwellFormed hcompiled hvalue
    (admits_of_empty hmethods hschemes ⟨method, scheme, pathThrough front value back⟩) rfl
  have hrest : SegmentEnds (slashed (codes back)) := segmentEnds_slashed (codes back)
  have hassembles : (∃ found,
      route.evaluate ⟨method, scheme, pathThrough front value back⟩ = .ok found) →
        route.assemble (.ofList [(name, value)]) = .ok (pathThrough front value back) := by
    intro hfound
    have hadmits := Constraint.admits_of_takes hwellFormed hrest (haccepts.mp hfound)
    exact (assemble_through hsegments hget hvalue).mpr ⟨hadmits, rfl⟩
  refine ⟨hassembles, fun hstart hend => ⟨?_, fun hfound => ⟨_, hassembles hfound⟩⟩⟩
  rintro ⟨path, hpath⟩
  obtain ⟨hadmits, -⟩ := (assemble_through hsegments hget hvalue).mp hpath
  have hend : slashed (codes back) = [] ∨ Constraint.EndFree constraint :=
    hend.imp_left fun hback => by rw [hback]; rfl
  exact haccepts.mpr (Constraint.takes_of_admits hwellFormed hrest hstart hend hadmits)

/-- A version between two literals, held to letters after the edge of a word. -/
def tagged : Route where
  config := { path := "/tag/:name/info", constraints := .ofList [("name", "(?-u:\\b)[a-z]+")] }
  segments := [.literal "tag", .placeholder "name", .literal "info"]
  parsed := rfl
  canonical := rfl

theorem tagged_wellFormed : Constraint.WellFormed "(?-u:\\b)[a-z]+" :=
  ⟨⟨treeOf "(?-u:\\b)[a-z]+".toList, by cbv⟩, by cbv⟩

theorem tagged_compiled : tagged.pattern.program?.isSome = true :=
  Pattern.isSome_program?
    (Pattern.sound_of_single (show _ = Keyed.empty.insert "name" "(?-u:\\b)[a-z]+" from rfl)
      tagged_wellFormed) (by decide) (of_decide_eq_true (by cbv)) (of_decide_eq_true (by cbv)) (by cbv)

/-- The edge of a word in the constraint is found behind the slash as at the start of the value. -/
theorem tagged_gates :
    (∃ path, tagged.assemble (.ofList [("name", "beta")]) = .ok path) ∧
      ∃ found, tagged.evaluate ⟨"GET", "http", "/tag/beta/info"⟩ = .ok found := by
  have hlooks : (treeOf "(?-u:\\b)[a-z]+".toList).looks = [.word .boundary .ascii] := by cbv
  have hstart : Constraint.StartFree "(?-u:\\b)[a-z]+" := by
    intro assertion hmem
    rw [hlooks, List.mem_singleton] at hmem
    rw [hmem]
    rfl
  have hend : Constraint.EndFree "(?-u:\\b)[a-z]+" := by
    intro assertion hmem
    rw [hlooks, List.mem_singleton] at hmem
    rw [hmem]
    rfl
  have htakes : Walk.Takes (treeOf "(?-u:\\b)[a-z]+".toList).ends none "beta".toList [] :=
    ⟨⟨⟨some 'a', []⟩, [], []⟩, List.mem_of_head? (by cbv), rfl⟩
  have hadmits : Constraint.admits "(?-u:\\b)[a-z]+" (Percent.encodeChars "beta".toList) = true :=
    (admits_iff_takes tagged_wellFormed _).mpr htakes
  have hsegments : tagged.segments =
      ["tag"].map .literal ++ .placeholder "name" :: ["info"].map .literal := rfl
  have hvalue : "beta" ≠ "" := by decide
  obtain ⟨-, hgates⟩ := assembles_iff_accepts hsegments rfl tagged_wellFormed tagged_compiled rfl rfl
    hvalue "GET" "http"
  have hassemble : ∃ path, tagged.assemble (.ofList [("name", "beta")]) = .ok path :=
    ⟨_, (assemble_through hsegments rfl hvalue).mpr ⟨hadmits, rfl⟩⟩
  have hpath : pathThrough ["tag"] "beta" ["info"] = "/tag/beta/info" := by cbv
  rw [hpath] at hgates
  exact ⟨hassemble, (hgates hstart (.inr hend)).mp hassemble⟩

/-- A placeholder whose constraint asks for the start of the text. -/
def anchored : Route where
  config := { path := "/:a", constraints := .ofList [("a", "^x")] }
  segments := [.placeholder "a"]
  parsed := rfl
  canonical := rfl

theorem anchored_wellFormed : Constraint.WellFormed "^x" := ⟨⟨treeOf "^x".toList, by cbv⟩, by cbv⟩

theorem anchored_compiled : anchored.pattern.program?.isSome = true :=
  Pattern.isSome_program?
    (Pattern.sound_of_single (show _ = Keyed.empty.insert "a" "^x" from rfl) anchored_wellFormed)
    (by decide) (of_decide_eq_true (by cbv)) (of_decide_eq_true (by cbv)) (by cbv)

/-- The start is there on assembly, where the value stands alone, and not behind the slash of the
path. -/
theorem anchored_gates_differ :
    (Regex.compile? "^x".toList).isSome = true ∧ anchored.pattern.program?.isSome = true ∧
      anchored.segments = [].map .literal ++ .placeholder "a" :: [].map .literal ∧
      anchored.config.constraints.get? "a" = some "^x" ∧ anchored.config.methods = .empty ∧
      anchored.config.schemes = .empty ∧
      anchored.assemble (.ofList [("a", "x")]) = .ok (pathThrough [] "x" []) ∧
      anchored.evaluate ⟨"GET", "http", pathThrough [] "x" []⟩ = .error .path := by
  have htakes : Walk.Takes (treeOf "^x".toList).ends none "x".toList [] :=
    ⟨⟨⟨some 'x', []⟩, [], []⟩, List.mem_of_head? (by cbv), rfl⟩
  have hadmits : Constraint.admits "^x" (Percent.encodeChars "x".toList) = true :=
    (admits_iff_takes anchored_wellFormed _).mpr htakes
  have hassemble : anchored.assemble (.ofList [("a", "x")]) = .ok (pathThrough [] "x" []) :=
    (assemble_through (show anchored.segments = [].map .literal ++ .placeholder "a" ::
      [].map .literal from rfl) rfl (by decide)).mpr ⟨hadmits, rfl⟩
  have hnone : (anchored.readings (trimmed (pathThrough [] "x" []))).head? = none := by cbv
  have hevaluate :
      anchored.evaluate ⟨"GET", "http", pathThrough [] "x" []⟩ = .error .path := by
    rw [evaluate_eq (admits_of_empty rfl rfl _)
      (Pattern.sound_of_single (show _ = Keyed.empty.insert "a" "^x" from rfl) anchored_wellFormed)
      anchored_compiled, hnone]
  exact ⟨by cbv, anchored_compiled, rfl, rfl, rfl, rfl, hassemble, hevaluate⟩

end Route

end Switchyard
