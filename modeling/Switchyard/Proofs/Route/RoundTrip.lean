import Mathlib
import Switchyard.Proofs.Route.Filling

/-!
# Assembling and matching

A path that a route assembles is one that it matches, and the match holds the values the path was
assembled from, as far as the values fill the optional segments in order. The two halves meet at the
pieces of the path: `Route.evaluate_pieces` reads them as they were given, and
`Route.assemble_of_reading` gives them as they were read. Where every segment is required there is
only one way to split a path, and the two operations are inverse to each other.
-/

namespace Switchyard.Route

open Regex

variable {route : Route} {values : Params}

/-! ## Pieces of an assembled path -/

/-- Segments accept what they give to a path, where the values suffice for them and an absent
placeholder may be empty. -/
theorem accepts_given (hsound : route.pattern.Sound)
    (hvalues : ∀ name ∈ route.pattern.names, values.get? name ≠ some "")
    (hfills : ∀ segment ∈ route.segments, route.Fills values segment)
    (habsent : ∀ name, Segment.optionalPlaceholder name ∈ route.segments →
      values.get? name = none → Constraint.allows route.config.constraints name [] = true) :
    ∀ segment ∈ route.segments,
      segment.Accepts route.config.constraints (segment.given values) := by
  intro segment hsegment
  -- A value is checked by its code, so the constraint takes the code whole; a code has no slash,
  -- and is empty only if the value is.
  have htakes : ∀ name, segment.name? = some name → ∀ value, values.get? name = some value →
      Walk.Takes (segment.value route.config.constraints).ends none
        (Percent.encodeChars value.toList) [] := by
    intro name hname value hget
    have hne : value ≠ "" := fun hempty =>
      hvalues name (List.mem_filterMap.mpr ⟨segment, hsegment, hname⟩) (hempty ▸ hget)
    exact takes_of_allows hsound hsegment hname (fun _ => encodeChars_toList_ne_nil hne)
      (Percent.slash_not_mem_encodeChars _) ((hfills segment hsegment name hname).2 value hget)
  cases segment with
  | literal text => rfl
  | optionalLiteral text => exact .inr rfl
  | placeholder name =>
    cases hget : values.get? name with
    | none => exact absurd hget ((hfills _ hsegment name rfl).1 rfl)
    | some value =>
      rw [given_of_some rfl hget]
      exact ⟨rfl, htakes name rfl value hget⟩
  | optionalPlaceholder name =>
    cases hget : values.get? name with
    | none =>
      rw [given_of_none rfl hget]
      exact takes_of_allows hsound hsegment rfl (fun hrequired => (by cases hrequired))
        List.not_mem_nil (habsent name hsegment hget)
    | some value =>
      rw [given_of_some rfl hget]
      exact htakes name rfl value hget

/-- A match that takes the pieces apart as they were given holds the values they were given for. -/
theorem get?_matchParams_pieces {params : Params} (hnodup : route.pattern.names.Nodup)
    (hvalues : ∀ name ∈ route.pattern.names, (route.merged params).get? name ≠ some "")
    {name : String} (hname : name ∈ route.pattern.names) (method scheme : String) :
    (route.matchParams (boundBy route.segments (route.pieces (route.merged params)))
      method scheme).get? name = (route.merged params).get? name := by
  obtain ⟨segment, hsegment, hsegmentName⟩ := List.mem_filterMap.mp hname
  have hmem : (segment, segment.given (route.merged params)) ∈
      route.segments.zip (route.pieces (route.merged params)) := by
    rw [pieces, ← List.map_prod_left_eq_zip]
    exact List.mem_map_of_mem hsegment
  rw [get?_matchParams hnodup hmem hsegmentName]
  -- A name without a value is not among the defaults either; its piece is empty, and the default is
  -- looked up.
  cases hget : (route.merged params).get? name with
  | none =>
    rw [given_of_none hsegmentName hget, if_pos rfl]
    rw [merged, Keyed.get?_overlay, Option.or_eq_none_iff] at hget
    exact hget.2
  | some value =>
    have hne : value ≠ "" := fun hempty => hvalues name hname (hempty ▸ hget)
    rw [given_of_some hsegmentName hget, if_neg (encodeChars_toList_ne_nil hne),
      Percent.decodeChars_encodeChars, String.ofList_toList]

/-- The path of pieces that the segments accept is accepted, and read as these pieces when the values
fill the segments in order. -/
theorem evaluate_pieces (hcompiled : route.pattern.program?.isSome = true)
    (hregular : route.pattern.Regular) {params : Params}
    (hvalues : ∀ name ∈ route.pattern.names, (route.merged params).get? name ≠ some "")
    (haccepts : ∀ segment ∈ route.segments,
      segment.Accepts route.config.constraints (segment.given (route.merged params)))
    {request : Request} (hadmits : route.Admits request)
    (hpath : request.path = pathOf ((route.pieces (route.merged params)).flatMap Piece.chars)) :
    ∃ found, route.evaluate request = .ok found ∧
      (InOrder route.config.constraints (route.merged params) route.segments →
        ∀ name ∈ route.pattern.names, found.param? name = (route.merged params).get? name) := by
  have htrimmed : trimmed request.path =
      (route.pieces (route.merged params)).flatMap Piece.chars := by
    rw [hpath]
    exact trimmed_pieces hvalues
  -- The pieces are one reading of the path, so there is a first.
  have hreading : route.pieces (route.merged params) ∈ route.readings (trimmed request.path) :=
    (mem_readings hregular).mpr ⟨forall₂_given haccepts, htrimmed⟩
  obtain ⟨first, hfirst⟩ :=
    Option.isSome_iff_exists.mp (List.isSome_head?.mpr (List.ne_nil_of_mem hreading))
  refine ⟨_, (evaluate_eq_ok hadmits hregular.sound hcompiled).mpr ⟨first, hfirst, rfl⟩,
    fun horder name hname => ?_⟩
  have hwhole : ∀ segment ∈ route.segments, (segment.given (route.merged params)).Whole :=
    fun segment hsegment => whole_pieces hvalues _ (List.mem_map_of_mem hsegment)
  have hgiven := head?_readings_given (fun segment hsegment => hregular.local_value hsegment)
    hwhole haccepts horder (show (Cursor.start (trimmed request.path)).after = _ from htrimmed)
  cases Option.some.inj (hfirst.symm.trans hgiven)
  exact get?_matchParams_pieces (Pattern.nodup_names hcompiled) hvalues hname _ _

/-! ## Matching what was assembled -/

/-- Two optional placeholders, one behind the other. -/
def pair : Route where
  config := { path := "/~:foo/~:bar" }
  segments := [.optionalPlaceholder "foo", .optionalPlaceholder "bar"]
  parsed := rfl
  canonical := rfl

/-- What a match holds for a placeholder whose piece is the code of a value. -/
theorem get?_merged_of_bound (hnodup : route.pattern.names.Nodup) {pieces : List Piece}
    {segment : Segment} {piece : Piece} (hmem : (segment, piece) ∈ route.segments.zip pieces)
    {name value : String} (hname : segment.name? = some name) (hne : value ≠ "")
    (hbound : (name, Percent.encodeChars value.toList) ∈ boundBy route.segments pieces)
    (method scheme : String) :
    piece.text = Percent.encodeChars value.toList ∧
      (route.merged (route.matchParams (boundBy route.segments pieces) method scheme)).get? name =
        some value := by
  obtain ⟨pair, hpair, hpairName, htext, -⟩ := mem_boundBy.mp hbound
  rw [piece_unique hnodup hpair hmem hpairName hname] at htext
  refine ⟨htext, ?_⟩
  rw [merged, Keyed.get?_overlay, get?_matchParams hnodup hmem hname, htext,
    if_neg (encodeChars_toList_ne_nil hne), Percent.decodeChars_encodeChars, String.ofList_toList]
  rfl

/-- Required segments that a match took codes of values for give just these pieces again. -/
theorem given_of_bound (hsound : route.pattern.Sound) (hnodup : route.pattern.names.Nodup)
    (hrequired : ∀ segment ∈ route.segments, segment.isOptional = false) {pieces : List Piece}
    (hbound : ∀ name ∈ route.pattern.names, ∃ value : String, value ≠ "" ∧
      (name, Percent.encodeChars value.toList) ∈ boundBy route.segments pieces)
    {segment : Segment} {piece : Piece} (hmem : (segment, piece) ∈ route.segments.zip pieces)
    (haccepts : segment.Accepts route.config.constraints piece) (method scheme : String) :
    segment.given (route.merged
        (route.matchParams (boundBy route.segments pieces) method scheme)) = piece ∧
      route.Fills (route.merged
        (route.matchParams (boundBy route.segments pieces) method scheme)) segment := by
  have hsegment : segment ∈ route.segments := (List.of_mem_zip hmem).1
  have hslash := slash_of_required haccepts (hrequired segment hsegment)
  -- No segment is optional, and a literal is given its own text.
  cases segment with
  | optionalLiteral text | optionalPlaceholder name => cases hrequired _ hsegment
  | literal text => exact ⟨haccepts.symm, fills_of_unnamed rfl⟩
  | placeholder name =>
    obtain ⟨value, hne, hvalue⟩ := hbound name (List.mem_filterMap.mpr ⟨_, hsegment, rfl⟩)
    obtain ⟨htext, hget⟩ :=
      get?_merged_of_bound hnodup hmem rfl hne hvalue method scheme
    obtain ⟨slash, text⟩ := piece
    cases hslash
    cases htext
    exact ⟨given_of_some rfl hget,
      (fills_of_some rfl hget).mpr (allows_of_takes hsound hsegment rfl haccepts.2)⟩

/-- Assembling from the values of such a match gives the text of its pieces. -/
theorem assemble_of_reading (hregular : route.pattern.Regular)
    (hnodup : route.pattern.names.Nodup)
    (hrequired : ∀ segment ∈ route.segments, segment.isOptional = false) {text : List Char}
    {pieces : List Piece} (hread : pieces ∈ route.readings text)
    (hbound : ∀ name ∈ route.pattern.names, ∃ value : String, value ≠ "" ∧
      (name, Percent.encodeChars value.toList) ∈ boundBy route.segments pieces)
    (method scheme : String) :
    route.assemble (route.matchParams (boundBy route.segments pieces) method scheme) =
      .ok (pathOf text) := by
  obtain ⟨haccepts, htext⟩ := (mem_readings hregular).mp hread
  obtain ⟨hlength, hzip⟩ := List.forall₂_iff_zip.mp haccepts
  have hgiven := fun segment piece (hmem : (segment, piece) ∈ route.segments.zip pieces) =>
    given_of_bound hregular.sound hnodup hrequired hbound hmem (hzip hmem) method scheme
  -- Each segment is given the piece that the reading has for it.
  have hpieces : route.pieces (route.merged
      (route.matchParams (boundBy route.segments pieces) method scheme)) = pieces := by
    rw [Route.pieces, ← List.forall₂_eq_eq_eq, List.forall₂_map_left_iff, List.forall₂_iff_zip]
    exact ⟨hlength, fun hmem => (hgiven _ _ hmem).1⟩
  have hfills : ∀ segment ∈ route.segments, route.Fills (route.merged
      (route.matchParams (boundBy route.segments pieces) method scheme)) segment := by
    intro segment hsegment
    rw [← List.map_fst_zip (Nat.le_of_eq hlength)] at hsegment
    obtain ⟨⟨segment, piece⟩, hmem, rfl⟩ := List.mem_map.mp hsegment
    exact (hgiven segment piece hmem).2
  refine (assemble_eq_ok fun name hname hempty => ?_).mpr ⟨hfills, by rw [hpieces, ← htext]⟩
  obtain ⟨value, hne, hvalue⟩ := hbound name hname
  obtain ⟨pair, hpair, hpairName, -, -⟩ := mem_boundBy.mp hvalue
  rw [(get?_merged_of_bound hnodup hpair hpairName hne hvalue method scheme).2] at hempty
  exact hne (Option.some.inj hempty)

/-- On a route of required segments without filters, with constraints that hold no assertion,
matching takes back what was assembled, and assembling gives back the path of a match whose values
are written as assembling writes them. -/
theorem assemble_inverse_evaluate (hcompiled : route.pattern.program?.isSome = true)
    (hmethods : route.config.methods = .empty) (hschemes : route.config.schemes = .empty)
    (hrequired : ∀ segment ∈ route.segments, segment.isOptional = false)
    (hregular : route.pattern.Regular) :
    (∀ (params : Params) (path method scheme : String), route.assemble params = .ok path →
      (∀ name ∈ route.pattern.names, (route.merged params).get? name ≠ some "") →
      ∃ found, route.evaluate ⟨method, scheme, path⟩ = .ok found ∧
        ∀ name ∈ route.pattern.names, ∃ value,
          (route.merged params).get? name = some value ∧ found.param? name = some value) ∧
    (∀ (request : Request) (found : RouteMatch) (program : Regex)
      (captured : List (String × List Char)), route.evaluate request = .ok found →
      route.pattern.program? = some program →
      route.pattern.captures? program (trimmed request.path) = some captured →
      (∀ name ∈ route.pattern.names, ∃ value : String, value ≠ "" ∧
        (name, Percent.encodeChars value.toList) ∈ captured) →
      route.assemble found.params = .ok (pathOf (trimmed request.path))) := by
  refine ⟨fun params path method scheme hassemble hvalues => ?_, ?_⟩
  · obtain ⟨hfills, hpath⟩ := (assemble_eq_ok hvalues).mp hassemble
    have haccepts := accepts_given hregular.sound hvalues hfills fun name hname =>
      (by cases hrequired _ hname)
    obtain ⟨found, hfound, hparams⟩ := evaluate_pieces hcompiled hregular hvalues haccepts
      (admits_of_empty hmethods hschemes ⟨method, scheme, path⟩) hpath
    refine ⟨found, hfound, fun name hname => ?_⟩
    rw [hparams (inOrder_of_required hrequired) name hname]
    obtain ⟨segment, hsegment, hsegmentName⟩ := List.mem_filterMap.mp hname
    obtain ⟨value, hvalue⟩ := Option.ne_none_iff_exists'.mp
      ((hfills segment hsegment name hsegmentName).1 (hrequired segment hsegment))
    exact ⟨value, hvalue, hvalue⟩
  · intro request found program captured hfound hprogram hcaptured hbound
    have hnodup := Pattern.nodup_names hcompiled
    obtain ⟨hadmits, -⟩ := admits_of_evaluate hfound
    obtain ⟨pieces, hfirst, rfl⟩ := (evaluate_eq_ok hadmits hregular.sound hcompiled).mp hfound
    rw [captures?_eq hregular.sound hprogram, hfirst] at hcaptured
    cases hcaptured
    exact assemble_of_reading hregular hnodup hrequired (List.mem_of_head? hfirst) hbound _ _

/-- Two values of which the first is taken up as slowly as can be, across slashes if need be. -/
def lazy : Route where
  config := { path := "/:head/:tail", constraints := .ofList [("head", ".+?")] }
  segments := [.placeholder "head", .placeholder "tail"]
  parsed := rfl
  canonical := rfl

theorem lazy_regular : lazy.pattern.Regular :=
  Pattern.regular_of_single (show _ = Keyed.empty.insert "head" ".+?" from rfl)
    ⟨⟨⟨treeOf ".+?".toList, by cbv⟩, by cbv⟩, by cbv⟩

theorem lazy_compiled : lazy.pattern.program?.isSome = true :=
  Pattern.isSome_program? lazy_regular.sound (by decide) (of_decide_eq_true (by cbv))
    (of_decide_eq_true (by cbv)) (by cbv)

theorem lazy_inverse :
    (∃ found, lazy.evaluate ⟨"GET", "http", "/a%20b/c"⟩ = .ok found ∧
      found.param? "head" = some "a b" ∧ found.param? "tail" = some "c") ∧
    ∃ found, lazy.evaluate ⟨"GET", "http", "/a%20b/c//"⟩ = .ok found ∧
      lazy.assemble found.params = .ok "/a%20b/c" := by
  obtain ⟨hmatch, hassemble⟩ :=
    assemble_inverse_evaluate lazy_compiled rfl rfl (by decide) lazy_regular
  constructor
  · have hpath : lazy.assemble (.ofList [("head", "a b"), ("tail", "c")]) = .ok "/a%20b/c" := by cbv
    obtain ⟨found, hfound, hparams⟩ := hmatch _ _ "GET" "http" hpath (by decide)
    obtain ⟨head, hhead, hfoundHead⟩ := hparams "head" (by decide)
    obtain ⟨tail, htail, hfoundTail⟩ := hparams "tail" (by decide)
    cases hhead
    cases htail
    exact ⟨found, hfound, hfoundHead, hfoundTail⟩
  · have hfirst : (lazy.readings (trimmed "/a%20b/c//")).head? =
        some [⟨true, "a%20b".toList⟩, ⟨true, "c".toList⟩] := by cbv
    obtain ⟨program, hprogram⟩ := Option.isSome_iff_exists.mp lazy_compiled
    have hcaptured : lazy.pattern.captures? program (trimmed "/a%20b/c//") =
        some [("head", "a%20b".toList), ("tail", "c".toList)] := by
      rw [captures?_eq lazy_regular.sound hprogram, hfirst]
      rfl
    have hfound : lazy.evaluate ⟨"GET", "http", "/a%20b/c//"⟩ =
        .ok ⟨lazy.matchParams [("head", "a%20b".toList), ("tail", "c".toList)] "GET" "http", none⟩ := by
      rw [evaluate_eq (admits_of_empty rfl rfl _) lazy_regular.sound lazy_compiled, hfirst]
      rfl
    have hbound : ∀ name ∈ lazy.pattern.names, ∃ value : String, value ≠ "" ∧
        (name, Percent.encodeChars value.toList) ∈
          [("head", "a%20b".toList), ("tail", "c".toList)] :=
      List.forall_mem_cons.mpr ⟨⟨"a b", by decide, by decide⟩,
        List.forall_mem_cons.mpr ⟨⟨"c", by decide, by decide⟩, fun _ hname => (by cases hname)⟩⟩
    exact ⟨_, hfound, hassemble _ _ program _ hfound hprogram hcaptured hbound⟩

end Switchyard.Route
