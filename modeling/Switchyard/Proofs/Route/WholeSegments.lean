import Mathlib
import Switchyard.Proofs.Route.Rigid

/-!
# Matching whole segments

What a route without constraints accepts and binds, in terms of splits of the path. All such routes
go by loose pieces; the rigid ones go by whole pieces, and no others do
(`Route.matches_whole_iff_rigid`).
-/

namespace Switchyard.Route

open Regex

variable {route : Route}

/-- The match holds the texts of the pieces, decoded, and the default where a piece has no text. -/
def Holds (route : Route) (found : RouteMatch) (pieces : List Piece) : Prop :=
  ∀ pair ∈ route.segments.zip pieces, ∀ name, pair.1.name? = some name →
    found.param? name =
      if pair.2.text = [] then route.config.defaults.get? name
      else some (String.ofList (Percent.decodeChars pair.2.text))

/-- The route goes by splits of the path into pieces that the segments take: it accepts the request
when there is one, and the match holds what one of them gives. -/
structure MatchesBy (route : Route) (takes : Segment → Piece → Prop) (request : Request) : Prop where
  accepts : (∃ found, route.evaluate request = .ok found) ↔
    ∃ pieces, List.Forall₂ takes route.segments pieces ∧
      trimmed request.path = pieces.flatMap Piece.chars
  binds : ∀ found, route.evaluate request = .ok found →
    ∃ pieces, List.Forall₂ takes route.segments pieces ∧
      trimmed request.path = pieces.flatMap Piece.chars ∧ route.Holds found pieces

theorem free_of_mem
    (hfree : ∀ name ∈ route.pattern.names, route.config.constraints.get? name = none) :
    ∀ segment ∈ route.segments, ∀ name, segment.name? = some name →
      route.config.constraints.get? name = none := fun segment hsegment name hname =>
  hfree name (List.mem_filterMap.mpr ⟨segment, hsegment, hname⟩)

theorem regular_of_free
    (hfree : ∀ name ∈ route.pattern.names, route.config.constraints.get? name = none) :
    route.pattern.Regular := by
  intro name hname constraint hget
  rw [show route.pattern.constraints.get? name = none from hfree name hname] at hget
  cases hget

/-- A match holds what the first reading of the path gives. -/
theorem holds_of_head? (hnodup : route.pattern.names.Nodup) (pieces : List Piece)
    (method scheme : String) :
    route.Holds ⟨route.matchParams (boundBy route.segments pieces) method scheme, none⟩ pieces :=
  fun _ hpair _ hname => get?_matchParams hnodup hpair hname method scheme

/-- What a match holds depends on the texts of the pieces alone. -/
theorem Holds.congr {found : RouteMatch} {pieces other : List Piece} (h : route.Holds found pieces)
    (hsame : other.map Piece.text = pieces.map Piece.text) : route.Holds found other := by
  rintro ⟨segment, piece⟩ hpair name hname
  have hmem : (segment, piece.text) ∈ route.segments.zip (pieces.map Piece.text) := by
    rw [← hsame, List.zip_map_right]
    exact List.mem_map.mpr ⟨_, hpair, rfl⟩
  rw [List.zip_map_right] at hmem
  obtain ⟨⟨segment', piece'⟩, hpair', heq⟩ := List.mem_map.mp hmem
  obtain ⟨rfl, htext⟩ := Prod.mk.injEq .. ▸ heq
  rw [← show piece'.text = piece.text from htext]
  exact h _ hpair' name hname

/-- Where nothing is constrained, loose pieces decide. -/
theorem matches_loosely (hcompiled : route.pattern.program?.isSome = true)
    (hfree : ∀ name ∈ route.pattern.names, route.config.constraints.get? name = none)
    {request : Request} (hadmits : route.Admits request) :
    route.MatchesBy Segment.TakesLoosely request := by
  have hregular := regular_of_free hfree
  have hreadings : ∀ pieces, pieces ∈ route.readings (trimmed request.path) ↔
      List.Forall₂ Segment.TakesLoosely route.segments pieces ∧
        trimmed request.path = pieces.flatMap Piece.chars := fun pieces => by
    rw [mem_readings hregular, forall₂_accepts_iff (free_of_mem hfree)]
  refine ⟨?_, fun found hfound => ?_⟩
  · rw [accepts_iff hadmits hregular.sound hcompiled]
    exact exists_congr hreadings
  · obtain ⟨pieces, hhead, rfl⟩ := (evaluate_eq_ok hadmits hregular.sound hcompiled).mp hfound
    obtain ⟨hloosely, hchars⟩ := (hreadings pieces).mp (List.mem_of_head? hhead)
    exact ⟨pieces, hloosely, hchars, holds_of_head? (Pattern.nodup_names hcompiled) pieces _ _⟩

/-- A rigid route goes by whole pieces: the first reading has the texts of whole ones. -/
theorem matches_whole (hcompiled : route.pattern.program?.isSome = true)
    (hfree : ∀ name ∈ route.pattern.names, route.config.constraints.get? name = none)
    (hrigid : Rigid route.segments) {request : Request} (hadmits : route.Admits request) :
    route.MatchesBy Segment.TakesWhole request := by
  have hregular := regular_of_free hfree
  have hloose := matches_loosely hcompiled hfree hadmits
  have hbinds : ∀ found, route.evaluate request = .ok found →
      ∃ pieces, List.Forall₂ Segment.TakesWhole route.segments pieces ∧
        trimmed request.path = pieces.flatMap Piece.chars ∧ route.Holds found pieces := by
    intro found hfound
    obtain ⟨pieces, hhead, rfl⟩ := (evaluate_eq_ok hadmits hregular.sound hcompiled).mp hfound
    obtain ⟨other, hwhole, hchars, hsame⟩ := whole_of_first hrigid (free_of_mem hfree)
      (fun segment hsegment => hregular.local_value hsegment) (getLast?_trimmed request.path) hhead
    exact ⟨other, hwhole, hchars,
      (holds_of_head? (Pattern.nodup_names hcompiled) pieces _ _).congr hsame⟩
  refine ⟨⟨fun ⟨found, hfound⟩ => ?_, fun ⟨pieces, hwhole, hchars⟩ => ?_⟩, hbinds⟩
  · obtain ⟨pieces, hwhole, hchars, -⟩ := hbinds found hfound
    exact ⟨pieces, hwhole, hchars⟩
  · exact hloose.accepts.mpr ⟨pieces, forall₂_loosely hwhole, hchars⟩

/-- A compiled route without constraints accepts the paths that split into loose pieces of its
segments, and binds the texts of such pieces. It goes by whole pieces for every request just when its
pattern is rigid. -/
theorem matches_whole_iff_rigid (hcompiled : route.pattern.program?.isSome = true)
    (hfree : ∀ name ∈ route.pattern.names, route.config.constraints.get? name = none) :
    (∀ request, route.Admits request → route.MatchesBy Segment.TakesLoosely request) ∧
      ((∀ request, route.Admits request → route.MatchesBy Segment.TakesWhole request) ↔
        Rigid route.segments) := by
  refine ⟨fun request hadmits => matches_loosely hcompiled hfree hadmits, fun hwhole => ?_,
    fun hrigid request hadmits => matches_whole hcompiled hfree hrigid hadmits⟩
  by_contra hloose
  obtain ⟨pieces, hloosely, htrimmed, hnot⟩ := exists_loose_path route.written hloose
  obtain ⟨request, hpath, hadmits⟩ :=
    route.exists_admitted (String.ofList (pieces.flatMap Piece.chars))
  have hchars : trimmed request.path = pieces.flatMap Piece.chars := by
    rw [hpath]
    exact trimmed_ofList htrimmed
  have haccepted := (matches_loosely hcompiled hfree hadmits).accepts.mpr ⟨pieces, hloosely, hchars⟩
  obtain ⟨other, hother, hsame⟩ := (hwhole request hadmits).accepts.mp haccepted
  exact hnot other hother (hchars.symm.trans hsame)

/-- A literal with an optional literal behind it. -/
def tailed : Route where
  config := { path := "/foo/~bar" }
  segments := [.literal "foo", .optionalLiteral "bar"]
  parsed := rfl
  canonical := rfl

theorem tailed_compiled : tailed.pattern.program?.isSome = true :=
  Pattern.isSome_program? (fun _ _ _ hget => by cases hget) (by decide) (of_decide_eq_true (by cbv))
    (of_decide_eq_true (by cbv)) (by cbv)

/-- The optional text is taken without its slash, and so as the end of another segment. -/
theorem tailed_not_whole :
    (∃ found, tailed.evaluate ⟨"GET", "http", "/foobar"⟩ = .ok found) ∧
      ¬ ∀ request, tailed.Admits request → tailed.MatchesBy Segment.TakesWhole request := by
  obtain ⟨hloose, hwhole⟩ := matches_whole_iff_rigid tailed_compiled fun name _ => rfl
  constructor
  · refine (hloose ⟨"GET", "http", "/foobar"⟩ (admits_of_empty rfl rfl _)).accepts.mpr
      ⟨[⟨true, "foo".toList⟩, ⟨false, "bar".toList⟩], ?_, by decide⟩
    exact .cons ⟨.inl (show "foo".toList = Percent.encodeChars "foo".toList by decide), fun _ => rfl⟩
      (.cons ⟨.inl (show "bar".toList = Percent.encodeChars "bar".toList by decide),
        fun hrequired => (by cases hrequired)⟩ .nil)
  · rw [hwhole]
    rintro (hslack | ⟨before, name, between, optional, after, hsegments, -⟩)
    · exact hslack (.optionalLiteral "bar") (by decide) ⟨rfl, by decide⟩
    · have hmem : Segment.placeholder name ∈ tailed.segments := by
        rw [hsegments]
        exact List.mem_append_right _ List.mem_cons_self
      simp [tailed] at hmem

end Switchyard.Route
