import Switchyard.Proofs.Route.Evaluation

/-!
# Whole and loose splits

Without constraints a path is matched by splitting it into pieces. The piece of a segment is whole
when it is a slash and all of the segment's text, or is absent where the segment is optional. An
optional segment takes more than that: its slash and its text may each be missing alone, and a piece
is loose then. `Segment.accepts_iff_loosely` says that paths are read by loose pieces, and
`text_le_of_first` that the first reading gives a placeholder as much text as it can.
-/

namespace Switchyard

open Regex

namespace Segment

/-- The text is one that the segment stands for. -/
def Carries (segment : Segment) (text : List Char) : Prop :=
  match segment with
  | literal own | optionalLiteral own => text = Percent.encodeChars own.toList
  | placeholder _ | optionalPlaceholder _ => text ≠ [] ∧ '/' ∉ text

/-- The piece is a slash with a text of the segment, or is absent where the segment is optional. -/
def TakesWhole (segment : Segment) (piece : Piece) : Prop :=
  (piece.slash = true ∧ segment.Carries piece.text) ∨
    (segment.isOptional = true ∧ piece = ⟨false, []⟩)

/-- The piece is whole, but that an optional segment may do without the slash and without the text,
each for itself. -/
def TakesLoosely (segment : Segment) (piece : Piece) : Prop :=
  (segment.Carries piece.text ∨ segment.isOptional = true ∧ piece.text = []) ∧
    (segment.isOptional = false → piece.slash = true)

/-- The segment is optional, and leaving it out makes a difference. -/
def Slack (segment : Segment) : Prop :=
  segment.isOptional = true ∧ segment ≠ optionalLiteral ""

section

variable {segment : Segment} {piece : Piece}

theorem slash_not_mem_of_carries {text : List Char} (h : segment.Carries text) : '/' ∉ text := by
  cases segment with
  | literal own | optionalLiteral own =>
    rw [show text = _ from h]
    exact Percent.slash_not_mem_encodeChars _
  | placeholder name | optionalPlaceholder name => exact h.2

/-- Only an optional literal without text stands for no text. -/
theorem not_carries_nil (hwritten : segment.Written) (hne : segment ≠ optionalLiteral "") :
    ¬ segment.Carries [] := by
  intro h
  cases segment with
  | literal text =>
    exact hwritten (String.toList_eq_nil_iff.mp (Percent.encodeChars_eq_nil.mp h.symm))
  | optionalLiteral text =>
    rw [String.toList_eq_nil_iff.mp (Percent.encodeChars_eq_nil.mp h.symm)] at hne
    exact hne rfl
  | placeholder name | optionalPlaceholder name => exact h.1 rfl

theorem TakesWhole.loosely (h : segment.TakesWhole piece) : segment.TakesLoosely piece := by
  rcases h with ⟨hslash, hcarries⟩ | ⟨hoptional, rfl⟩
  · exact ⟨.inl hcarries, fun _ => hslash⟩
  · exact ⟨.inr ⟨hoptional, rfl⟩, fun hrequired => by rw [hoptional] at hrequired; cases hrequired⟩

/-- A segment that is not slack has whole pieces only. -/
theorem TakesLoosely.whole (h : segment.TakesLoosely piece) (hslack : ¬ segment.Slack) :
    segment.TakesWhole piece := by
  obtain ⟨slash, text⟩ := piece
  cases hoptional : segment.isOptional with
  | false =>
    refine .inl ⟨h.2 hoptional, h.1.resolve_right fun hnone => ?_⟩
    rw [hoptional] at hnone
    cases hnone.1
  | true =>
    -- An optional segment that is not slack has no text, and is whole with and without its slash.
    have hempty : segment = optionalLiteral "" := by
      by_contra hne
      exact hslack ⟨hoptional, hne⟩
    subst hempty
    have htext : text = [] := h.1.elim id And.right
    subst htext
    cases slash with
    | true => exact .inl ⟨rfl, rfl⟩
    | false => exact .inr ⟨rfl, rfl⟩

/-- Without a constraint a segment accepts the loose pieces. -/
theorem accepts_iff_loosely {constraints : Params}
    (hfree : ∀ name, segment.name? = some name → constraints.get? name = none) :
    segment.Accepts constraints piece ↔ segment.TakesLoosely piece := by
  obtain ⟨slash, text⟩ := piece
  -- Without constraints the four kinds differ in two ways only: what text they carry, and whether
  -- slash and text may be missing.
  cases segment with
  | literal own =>
    refine ⟨fun h => ?_, fun h => ?_⟩
    · cases h
      exact ⟨.inl rfl, fun _ => rfl⟩
    · have hslash : slash = true := h.2 rfl
      have htext : text = Percent.encodeChars own.toList :=
        h.1.resolve_right fun hnone => (by cases hnone.1)
      rw [hslash, htext]
      rfl
  | optionalLiteral own =>
    exact ⟨fun h => ⟨h.imp id fun hnil => ⟨rfl, hnil⟩, fun hrequired => (by cases hrequired)⟩,
      fun h => h.1.imp id And.right⟩
  | placeholder name =>
    rw [Accepts, value_placeholder (hfree name rfl), takes_slashFree_one]
    exact ⟨fun h => ⟨.inl h.2, fun _ => h.1⟩,
      fun h => ⟨h.2 rfl, h.1.resolve_right fun hnone => (by cases hnone.1)⟩⟩
  | optionalPlaceholder name =>
    rw [Accepts, value_optionalPlaceholder (hfree name rfl), takes_slashFree_zero]
    refine ⟨fun h => ⟨?_, fun hrequired => (by cases hrequired)⟩, fun h => ?_⟩
    · by_cases htext : text = []
      · exact .inr ⟨rfl, htext⟩
      · exact .inl ⟨htext, h⟩
    · rcases h.1 with hcarries | ⟨-, hnil⟩
      · exact hcarries.2
      · rw [show text = [] from hnil]
        exact List.not_mem_nil

end

end Segment

theorem forall₂_accepts_iff {constraints : Params} {segments : List Segment} {pieces : List Piece}
    (hfree : ∀ segment ∈ segments, ∀ name, segment.name? = some name →
      constraints.get? name = none) :
    List.Forall₂ (Segment.Accepts constraints) segments pieces ↔
      List.Forall₂ Segment.TakesLoosely segments pieces := by
  rw [List.forall₂_iff_zip, List.forall₂_iff_zip]
  refine and_congr_right fun _ => forall_congr' fun segment => forall_congr' fun piece =>
    forall_congr' fun hmem => ?_
  exact Segment.accepts_iff_loosely (hfree segment (List.of_mem_zip hmem).1)

/-! ## The longest text first -/

section

variable {constraints : Params} {name : String}

theorem pairwise_ends_slashFree (cursor : Cursor) :
    ((Pattern.slashFree 1).ends cursor).Pairwise
      fun first second => first.cursor.left < second.cursor.left := by
  rw [ends_slashFree_one]
  cases cursor.step? notSlash with
  | none => exact .nil
  | some place =>
    rw [Option.toList_some, List.flatMap_singleton]
    exact Walk.pairwise_runs place

/-- A placeholder without a constraint takes longer texts before shorter ones. -/
theorem pairwise_ways_placeholder (hfree : constraints.get? name = none) (cursor : Cursor) :
    ((Segment.placeholder name).ways constraints cursor).Pairwise
      fun first second => second.1.text.length ≤ first.1.text.length := by
  rw [Segment.ways]
  cases cursor.past? ['/'] with
  | none => exact .nil
  | some place =>
    rw [Option.toList_some, List.flatMap_singleton, List.pairwise_map, Segment.texts,
      List.pairwise_map, Segment.value_placeholder hfree]
    refine (pairwise_ends_slashFree place).imp fun {first second} hlt => ?_
    simp only [Cursor.taken, List.length_take, Cursor.left] at hlt ⊢
    omega

/-- Of the readings with the same pieces before it, the first has the longest text for a placeholder
without a constraint. -/
theorem text_le_of_first {before after : List Segment}
    (hlocal : ∀ segment ∈ before ++ .placeholder name :: after,
      Walk.Local (segment.value constraints).ends)
    (hfree : constraints.get? name = none) {cursor : Cursor} {first rest more : List Piece}
    {piece other : Piece} (hlength : before.length = first.length)
    (hhead : (readings constraints (before ++ .placeholder name :: after) cursor).head? =
      some (first ++ piece :: rest))
    (haccepts : List.Forall₂ (Segment.Accepts constraints) (before ++ .placeholder name :: after)
      (first ++ other :: more))
    (hafter : cursor.after = (first ++ other :: more).flatMap Piece.chars) :
    other.text.length ≤ piece.text.length := by
  -- The segments in front take the same pieces in both, so the two readings part at the placeholder
  -- at the earliest.
  induction before generalizing cursor first with
  | nil =>
    rw [List.length_eq_zero_iff.mp hlength.symm] at hhead haccepts hafter
    obtain ⟨sooner, way, later, hways, hsooner, hleads, tail, htail, heq⟩ := head?_readings_cons hhead
    obtain ⟨rfl, rfl⟩ := List.cons.inj heq
    rw [List.nil_append, List.flatMap_cons] at hafter
    cases haccepts with
    | cons hother hmore =>
      obtain ⟨next, hmem, hnext⟩ := exists_way (hlocal _ List.mem_cons_self) hother hafter
      have hreadable := leadsOn_of_accepts (fun segment hsegment =>
        hlocal segment (List.mem_cons_of_mem _ hsegment)) hmore hnext other
      have hpairwise := pairwise_ways_placeholder hfree cursor
      rw [hways, List.pairwise_append] at hpairwise
      rw [hways, List.mem_append, List.mem_cons] at hmem
      -- The other piece leads on as well, so its way is not in front of the first that does.
      rcases hmem with hmem | hmem | hmem
      · exact absurd hreadable (hsooner _ hmem)
      · rw [← hmem]
      · exact (List.pairwise_cons.mp hpairwise.2.1).1 _ hmem
  | cons segment before ih =>
    rcases first with _ | ⟨same, first⟩
    · cases hlength
    obtain ⟨sooner, way, later, hways, -, -, tail, htail, heq⟩ := head?_readings_cons hhead
    obtain ⟨rfl, rfl⟩ := List.cons.inj heq
    rw [List.cons_append, List.forall_mem_cons] at hlocal
    obtain ⟨-, hsplit⟩ := accepts_of_mem_ways hlocal.1 (show way ∈ _ by
      rw [hways]
      exact List.mem_append_right _ List.mem_cons_self)
    rw [List.cons_append, List.flatMap_cons] at hafter
    cases haccepts with
    | cons _ hmore =>
      exact ih hlocal.2 (Nat.succ.inj hlength) htail hmore
        (List.append_cancel_left (hsplit.symm.trans hafter))

end

end Switchyard
