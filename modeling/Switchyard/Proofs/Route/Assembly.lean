import Switchyard.Proofs.Route.Emission
import Switchyard.Proofs.Route.Evaluation

/-!
# Assembling a path

Where no value is empty, a segment gives to the path a piece that depends on the values alone
(`Segment.given`): a whole segment, or nothing. `Route.assemble_eq_ok` says when a path is assembled
and which, in terms of these pieces, and `Route.trimmed_pieces` that matching sees just them.
-/

namespace Switchyard

open Regex

/-! ## Pieces -/

/-- What a segment gives to a path assembled from values, none of them empty. -/
def Segment.given (values : Params) : Segment → Piece
  | literal text => ⟨true, Percent.encodeChars text.toList⟩
  | optionalLiteral _ => ⟨false, []⟩
  | placeholder name | optionalPlaceholder name =>
    match values.get? name with
    | none => ⟨false, []⟩
    | some value => ⟨true, Percent.encodeChars value.toList⟩

/-- A piece that is a whole segment or nothing at all. -/
inductive Piece.Whole : Piece → Prop where
  | absent : Whole ⟨false, []⟩
  | present {text : List Char} : text ≠ [] → '/' ∉ text → Whole ⟨true, text⟩

section

variable {values : Params} {segment : Segment} {name : String}

theorem given_of_none (hname : segment.name? = some name) (h : values.get? name = none) :
    segment.given values = ⟨false, []⟩ := by
  cases segment with
  | literal text | optionalLiteral text => cases hname
  | placeholder other | optionalPlaceholder other =>
    cases hname
    rw [Segment.given, h]

theorem given_of_some (hname : segment.name? = some name) {value : String}
    (h : values.get? name = some value) :
    segment.given values = ⟨true, Percent.encodeChars value.toList⟩ := by
  cases segment with
  | literal text | optionalLiteral text => cases hname
  | placeholder other | optionalPlaceholder other =>
    cases hname
    rw [Segment.given, h]

theorem encodeChars_toList_ne_nil {text : String} (h : text ≠ "") :
    Percent.encodeChars text.toList ≠ [] := by
  intro hcode
  exact h (String.toList_eq_nil_iff.mp (Percent.encodeChars_eq_nil.mp hcode))

/-- Segments that a pattern can write give whole pieces, where no value is empty. -/
theorem whole_given (hwritten : segment.Written)
    (hvalue : ∀ name, segment.name? = some name → values.get? name ≠ some "") :
    (segment.given values).Whole := by
  -- What a placeholder is given is a code, so it has no slash, and it is empty only if the value
  -- is.
  have hplaceholder : ∀ name, segment.name? = some name → (segment.given values).Whole := by
    intro name hname
    cases hget : values.get? name with
    | none =>
      rw [given_of_none hname hget]
      exact .absent
    | some value =>
      rw [given_of_some hname hget]
      have hne : value ≠ "" := fun hempty => hvalue name hname (hempty ▸ hget)
      exact .present (encodeChars_toList_ne_nil hne) (Percent.slash_not_mem_encodeChars _)
  cases segment with
  | literal text =>
    exact .present (encodeChars_toList_ne_nil hwritten) (Percent.slash_not_mem_encodeChars _)
  | optionalLiteral text => exact .absent
  | placeholder name => exact hplaceholder name rfl
  | optionalPlaceholder name => exact hplaceholder name rfl

end

theorem text_eq_nil_of_whole {piece : Piece} (h : piece.Whole) (hslash : piece.slash = false) :
    piece.text = [] := by
  cases h with
  | absent => rfl
  | present => cases hslash

theorem getLast?_chars_of_whole {piece : Piece} (h : piece.Whole) :
    piece.chars.getLast? ≠ some '/' := by
  cases h with
  | absent => exact fun hlast => (by cases hlast)
  | present hne hslash => exact getLast?_append_ne hne hslash ['/']

/-! ## Paths -/

namespace Route

variable {route : Route} {values : Params}

/-- The values suffice for the segment: a required placeholder has one, and one that is there
satisfies the constraint. -/
def Fills (route : Route) (values : Params) (segment : Segment) : Prop :=
  ∀ name, segment.name? = some name →
    (segment.isOptional = false → values.get? name ≠ none) ∧
      ∀ value, values.get? name = some value →
        Constraint.allows route.config.constraints name (Percent.encodeChars value.toList) = true

section

variable {segment : Segment} {name : String}

/-- Values always suffice for a literal. -/
theorem fills_of_unnamed (hname : segment.name? = none) : route.Fills values segment := by
  intro name hsome
  rw [hname] at hsome
  cases hsome

theorem fills_of_none (hname : segment.name? = some name) (hget : values.get? name = none) :
    route.Fills values segment ↔ segment.isOptional = true := by
  constructor
  · intro h
    rw [← Bool.not_eq_false]
    exact fun hrequired => (h name hname).1 hrequired hget
  · intro hoptional other hother
    cases hname.symm.trans hother
    refine ⟨fun hrequired => ?_, fun value hvalue => ?_⟩
    · rw [hoptional] at hrequired
      cases hrequired
    · rw [hget] at hvalue
      cases hvalue

theorem fills_of_some (hname : segment.name? = some name) {value : String}
    (hget : values.get? name = some value) :
    route.Fills values segment ↔
      Constraint.allows route.config.constraints name (Percent.encodeChars value.toList) = true := by
  constructor
  · exact fun h => (h name hname).2 value hget
  · intro hallows other hother
    cases hname.symm.trans hother
    refine ⟨fun _ hnone => ?_, fun other hother => ?_⟩
    · rw [hget] at hnone
      cases hnone
    · cases hget.symm.trans hother
      exact hallows

end

/-- Where no value is empty, a placeholder puts its value into a path, if it has one. -/
theorem emitted?_eq_get? {segment : Segment} {name : String} (hname : segment.name? = some name)
    (hvalue : values.get? name ≠ some "") : segment.emitted? values = values.get? name := by
  cases segment with
  | literal text | optionalLiteral text => cases hname
  | placeholder other =>
    cases hname
    rfl
  | optionalPlaceholder other =>
    cases hname
    rw [Segment.emitted?]
    cases hget : values.get? name with
    | none => rfl
    | some value =>
      have hne : value ≠ "" := fun hempty => hvalue (hempty ▸ hget)
      simp [hne]

/-- Where no value is empty, all that are there go into the path. -/
theorem supplies_iff_fills {segment : Segment}
    (hvalue : ∀ name, segment.name? = some name → values.get? name ≠ some "") :
    route.Supplies values segment ↔ route.Fills values segment := by
  cases hname : segment.name? with
  | none => exact iff_of_true (supplies_of_unnamed hname) (fills_of_unnamed hname)
  | some name =>
    have hemitted := emitted?_eq_get? hname (hvalue name hname)
    cases hget : values.get? name with
    | none => rw [supplies_of_none hname (hemitted.trans hget), fills_of_none hname hget]
    | some value => rw [supplies_of_some hname (hemitted.trans hget), fills_of_some hname hget]

theorem emitted?_given {segment : Segment}
    (hvalue : ∀ name, segment.name? = some name → values.get? name ≠ some "") :
    (segment.emitted? values).map (fun text => Percent.encodeChars text.toList) =
      if (segment.given values).slash then some (segment.given values).text else none := by
  cases hname : segment.name? with
  | none =>
    cases segment with
    | literal text | optionalLiteral text => rfl
    | placeholder name | optionalPlaceholder name => cases hname
  | some name =>
    rw [emitted?_eq_get? hname (hvalue name hname)]
    cases hget : values.get? name with
    | none => rw [given_of_none hname hget]; rfl
    | some value => rw [given_of_some hname hget]; rfl

/-- Where no value is empty, the codes that go into a path are the texts of the pieces. -/
theorem codes_emitted {segments : List Segment}
    (hvalue : ∀ name ∈ segments.filterMap Segment.name?, values.get? name ≠ some "") :
    codes (segments.filterMap (Segment.emitted? values)) =
      Piece.textsOf (segments.map (Segment.given values)) := by
  rw [codes, List.map_filterMap, Piece.textsOf, List.filterMap_map]
  refine List.filterMap_congr fun segment hsegment => emitted?_given fun name hname => ?_
  exact hvalue name (List.mem_filterMap.mpr ⟨segment, hsegment, hname⟩)

/-- The path of a text: the text itself, or one slash where there is none. -/
def pathOf (text : List Char) : String := if text = [] then "/" else String.ofList text

theorem trimmed_pathOf {text : List Char} (h : text.getLast? ≠ some '/') :
    trimmed (pathOf text) = text := by
  unfold pathOf
  split
  · rename_i hnil
    rw [hnil]
    decide
  · exact trimmed_ofList h

theorem slash_join (first : List Char) (rest : List (List Char)) :
    '/' :: Text.join ['/'] (first :: rest) = slashed (first :: rest) := by
  induction rest generalizing first with
  | nil => simp [Text.join, slashed]
  | cons second rest ih =>
    rw [Text.join_cons_cons, slashed, List.flatMap_cons, ← slashed, ← ih second, List.append_assoc]
    rfl

theorem join_eq_slashed (texts : List (List Char)) :
    String.ofList ('/' :: Text.join ['/'] texts) = pathOf (slashed texts) := by
  rcases texts with _ | ⟨first, rest⟩
  · rfl
  · rw [slash_join, pathOf, if_neg (by simp [slashed])]

/-- The pieces that the segments give to a path. -/
def pieces (route : Route) (values : Params) : List Piece :=
  route.segments.map (Segment.given values)

theorem whole_pieces (hvalues : ∀ name ∈ route.pattern.names, values.get? name ≠ some "") :
    ∀ piece ∈ route.pieces values, piece.Whole := by
  intro piece hpiece
  obtain ⟨segment, hsegment, rfl⟩ := List.mem_map.mp hpiece
  exact whole_given (route.written segment hsegment) fun name hname =>
    hvalues name (List.mem_filterMap.mpr ⟨segment, hsegment, hname⟩)

/-- A path is assembled when the values suffice for every segment, and it is the path of the pieces
that the segments give. -/
theorem assemble_eq_ok {params : Params} {path : String}
    (hvalues : ∀ name ∈ route.pattern.names, (route.merged params).get? name ≠ some "") :
    route.assemble params = .ok path ↔
      (∀ segment ∈ route.segments, route.Fills (route.merged params) segment) ∧
        path = pathOf ((route.pieces (route.merged params)).flatMap Piece.chars) := by
  have hcodes : codes (route.emitted (route.merged params)) =
      Piece.textsOf (route.pieces (route.merged params)) := codes_emitted hvalues
  have hpath : String.ofList (pathText (route.emitted (route.merged params))) =
      pathOf ((route.pieces (route.merged params)).flatMap Piece.chars) := by
    rw [pathText, join_eq_slashed, hcodes]
    exact congrArg pathOf (slashed_textsOf fun piece hpiece =>
      text_eq_nil_of_whole (whole_pieces hvalues piece hpiece))
  rw [assemble_eq_ok_iff, hpath]
  refine and_congr_left' (forall₂_congr fun segment hsegment => supplies_iff_fills fun name hname => ?_)
  exact hvalues name (List.mem_filterMap.mpr ⟨segment, hsegment, hname⟩)

/-- Matching an assembled path starts from the text of the pieces. -/
theorem trimmed_pieces (hvalues : ∀ name ∈ route.pattern.names, values.get? name ≠ some "") :
    trimmed (pathOf ((route.pieces values).flatMap Piece.chars)) =
      (route.pieces values).flatMap Piece.chars :=
  trimmed_pathOf (getLast?_flatMap_chars fun piece hpiece =>
    getLast?_chars_of_whole (whole_pieces hvalues piece hpiece))

end Route

end Switchyard
