import Switchyard.Proofs.Route.WholeSegments

/-!
# Matching by allowed pieces

Where the constraints of a route hold no assertion, a constraint says by itself which texts stand for
its placeholder inside a path: those that may stand for the parameter when a path is assembled. So a
request is accepted just when its path splits into pieces with allowed texts, and the match binds the
texts of such a split, each to the name of its own placeholder, whatever groups the constraints hold
(`Route.evaluate_iff_allowedSplit`).
-/

namespace Switchyard

open Regex

/-- The piece is the segment's own text behind a slash, or a text that may stand for the placeholder;
an optional segment may do without the slash, and an optional literal without its text. What nothing
constrains takes no slash, and a required placeholder takes some text then. -/
def Segment.TakesAllowed (constraints : Params) (segment : Segment) (piece : Piece) : Prop :=
  match segment with
  | .literal text => piece = ⟨true, Percent.encodeChars text.toList⟩
  | .optionalLiteral text => piece.text = Percent.encodeChars text.toList ∨ piece.text = []
  | .placeholder name =>
    piece.slash = true ∧ Constraint.allows constraints name piece.text = true ∧
      (constraints.get? name = none → '/' ∉ piece.text ∧ piece.text ≠ [])
  | .optionalPlaceholder name =>
    Constraint.allows constraints name piece.text = true ∧
      (constraints.get? name = none → '/' ∉ piece.text)

/-- In a sound pattern the accepted pieces are the allowed ones. -/
theorem Segment.accepts_iff_allowed {pattern : Pattern} (hsound : pattern.Sound) {segment : Segment}
    (hmem : segment ∈ pattern.segments) (piece : Piece) :
    segment.Accepts pattern.constraints piece ↔ segment.TakesAllowed pattern.constraints piece := by
  cases segment with
  | literal text | optionalLiteral text => exact Iff.rfl
  | placeholder name =>
    rw [Accepts, TakesAllowed, takes_value_iff hsound hmem rfl]
    simp [isOptional]
  | optionalPlaceholder name =>
    rw [Accepts, TakesAllowed, takes_value_iff hsound hmem rfl]
    simp [isOptional]

namespace Route

variable {route : Route}

/-- The pieces make up the path, and each is allowed for its segment. -/
def AllowedSplit (route : Route) (path : List Char) (pieces : List Piece) : Prop :=
  List.Forall₂ (Segment.TakesAllowed route.config.constraints) route.segments pieces ∧
    path = pieces.flatMap Piece.chars

/-- Where no constraint holds an assertion, the readings of a path are its allowed splits. -/
theorem mem_readings_iff_allowedSplit (hregular : route.pattern.Regular) {path : List Char}
    {pieces : List Piece} :
    pieces ∈ route.readings path ↔ route.AllowedSplit path pieces := by
  have hsame : List.Forall₂ (Segment.Accepts route.config.constraints) route.segments pieces ↔
      List.Forall₂ (Segment.TakesAllowed route.config.constraints) route.segments pieces := by
    rw [List.forall₂_iff_zip, List.forall₂_iff_zip]
    refine and_congr_right fun _ => forall₂_congr fun segment piece => imp_congr_right fun hpair => ?_
    exact Segment.accepts_iff_allowed hregular.sound (List.of_mem_zip hpair).1 piece
  rw [mem_readings hregular, AllowedSplit, hsame]

/-- A compiled route whose constraints hold no assertion accepts the requests whose trimmed path has an
allowed split. The match is made from one of those: it holds the decoded texts of its pieces. -/
theorem evaluate_iff_allowedSplit (hcompiled : route.pattern.program?.isSome = true)
    (hregular : route.pattern.Regular) {request : Request} (hadmits : route.Admits request) :
    ((∃ found, route.evaluate request = .ok found) ↔
      ∃ pieces, route.AllowedSplit (trimmed request.path) pieces) ∧
    ∀ found, route.evaluate request = .ok found →
      ∃ pieces, route.AllowedSplit (trimmed request.path) pieces ∧ route.Holds found pieces ∧
        found = ⟨route.matchParams (boundBy route.segments pieces) (Text.upper request.method)
          (Text.lower request.scheme), none⟩ := by
  have hsplit : ∀ pieces, pieces ∈ route.readings (trimmed request.path) ↔
      route.AllowedSplit (trimmed request.path) pieces := fun _ =>
    mem_readings_iff_allowedSplit hregular
  refine ⟨(accepts_iff hadmits hregular.sound hcompiled).trans (exists_congr hsplit), ?_⟩
  intro found hfound
  obtain ⟨pieces, hhead, rfl⟩ := (evaluate_eq_ok hadmits hregular.sound hcompiled).mp hfound
  exact ⟨pieces, (hsplit pieces).mp (List.mem_of_head? hhead),
    holds_of_head? (Pattern.nodup_names hcompiled) pieces _ _, rfl⟩

/-- A constraint with groups of its own, in front of a placeholder without a constraint. -/
def dated : Route where
  config := { path := "/log/:date/~:page", constraints := .ofList [("date", "([0-9]+)-(?:x|(y))")] }
  segments := [.literal "log", .placeholder "date", .optionalPlaceholder "page"]
  parsed := rfl
  canonical := rfl

/-- A number, a hyphen and a letter, as a tree. -/
def numberedLetter : Regex :=
  sequence [.group .numbered (.repeats 1 none true (.set (.bracket false (.range '0' '9')))),
    .set (.single '-'),
    .group .plain (.alt (.set (.single 'x')) (.group .numbered (.set (.single 'y'))))]

theorem dated_regular : dated.pattern.Regular :=
  Pattern.regular_of_single (show _ = Keyed.empty.insert "date" "([0-9]+)-(?:x|(y))" from rfl)
    ⟨⟨⟨numberedLetter, by cbv⟩, by cbv⟩, by cbv⟩

theorem dated_compiled : dated.pattern.program?.isSome = true :=
  Pattern.isSome_program? dated_regular.sound (by decide) (of_decide_eq_true (by cbv))
    (of_decide_eq_true (by cbv)) (by cbv)

/-- Only one beginning of the path is an allowed date. -/
theorem date_of_append {date rest : List Char} (h : "12-y/3".toList = date ++ rest)
    (hallows : Constraint.allows dated.config.constraints "date" date = true) :
    date = "12-y".toList := by
  have hall : ("12-y/3".toList.inits.all fun text =>
      !Constraint.allows dated.config.constraints "date" text || text = "12-y".toList) = true := by
    cbv
  have hmem : date ∈ "12-y/3".toList.inits := by
    rw [List.mem_inits, h]
    exact List.prefix_append date rest
  have hdate := List.all_eq_true.mp hall date hmem
  rw [hallows] at hdate
  exact of_decide_eq_true hdate

/-- The groups inside the constraint take nothing away from the date and the page. -/
theorem dated_splits :
    ∃ found, dated.evaluate ⟨"GET", "http", "/log/12-y/3"⟩ = .ok found ∧
      found.param? "date" = some "12-y" ∧ found.param? "page" = some "3" := by
  obtain ⟨haccepts, hbinds⟩ := evaluate_iff_allowedSplit dated_compiled dated_regular
    (admits_of_empty rfl rfl ⟨"GET", "http", "/log/12-y/3"⟩)
  have hsplit : dated.AllowedSplit (trimmed "/log/12-y/3")
      [⟨true, "log".toList⟩, ⟨true, "12-y".toList⟩, ⟨true, "3".toList⟩] := by
    refine ⟨.cons (show _ = Piece.mk true (Percent.encodeChars "log".toList) by decide) (.cons
      ⟨rfl, by cbv, fun hnone => (by cases hnone)⟩ (.cons ⟨by cbv, fun _ => by decide⟩ .nil)), by decide⟩
  obtain ⟨found, hfound⟩ := haccepts.mpr ⟨_, hsplit⟩
  obtain ⟨pieces, ⟨hallowed, hpath⟩, hholds, -⟩ := hbinds found hfound
  obtain ⟨log, date, page, rfl⟩ : ∃ log date page, pieces = [log, date, page] := by
    have hlength := hallowed.length_eq
    exact List.length_eq_three.mp hlength.symm
  simp only [dated, List.forall₂_cons, List.forall₂_nil_right_iff] at hallowed
  obtain ⟨hlog, ⟨hslash, hdate, -⟩, ⟨-, hpage⟩, -⟩ := hallowed
  have hrest : "12-y/3".toList = date.text ++ page.chars := by
    rw [show log = ⟨true, "log".toList⟩ from hlog,
      show trimmed "/log/12-y/3" = "/log/12-y/3".toList by decide] at hpath
    simpa [Piece.chars, hslash] using congrArg (List.drop 5) hpath
  have hdate : date.text = "12-y".toList := date_of_append hrest hdate
  have hpage : page.text = "3".toList := by
    rw [hdate] at hrest
    have hchars : page.chars = "/3".toList :=
      (List.append_cancel_left (show "12-y".toList ++ "/3".toList = _ from hrest)).symm
    rw [Piece.chars] at hchars
    split at hchars
    · exact List.cons_injective hchars
    · have hslash : '/' ∈ page.text := by
        rw [hchars]
        decide
      exact absurd hslash (hpage rfl)
  refine ⟨found, hfound, ?_, ?_⟩
  · rw [hholds (.placeholder "date", date) (by simp [dated]) "date" rfl, hdate]
    cbv
  · rw [hholds (.optionalPlaceholder "page", page) (by simp [dated]) "page" rfl, hpage]
    cbv

end Route

end Switchyard
