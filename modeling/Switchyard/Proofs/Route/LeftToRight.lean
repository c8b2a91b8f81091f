import Switchyard.Proofs.Route.SegmentMatcher
import Switchyard.Proofs.Router.FirstMatch

/-!
# Filling from left to right

Required segments with optional placeholders behind them take the segments of a path one for one, from
left to right. The matcher prefers this way (`firstMatch?_literal_cons`, `firstMatch?_placeholder_cons`),
and no other leads to the end of the path: what a text leaves of itself has no slash in front for a
required segment, and a path with more slashes than segments has no room at all
(`count_slashes_le`). So a path is accepted when it has as many segments as can be placed and agrees
with the literals, and each placeholder takes the text at its own place
(`Route.fills_left_to_right`).
-/

namespace Switchyard

open Regex

/-- Required segments, and behind them optional placeholders. Where there are both, the last of the
required segments is a placeholder. -/
structure LeftToRight (required optional : List Segment) : Prop where
  isRequired : ∀ segment ∈ required, segment.isOptional = false
  isOptional : ∀ segment ∈ optional, ∃ name, segment = .optionalPlaceholder name
  border : optional = [] ∨ required = [] ∨ ∃ name, required.getLast? = some (.placeholder name)

/-- The texts are such as stand between slashes: none is empty, and none has a slash. -/
def AreTexts (texts : List (List Char)) : Prop := ∀ text ∈ texts, text ≠ [] ∧ '/' ∉ text

/-- There are texts for all required segments and not too many for the others, and where a literal
stands the text is its escaped form. -/
structure Fits (required optional : List Segment) (texts : List (List Char)) : Prop where
  enough : required.length ≤ texts.length
  room : texts.length ≤ required.length + optional.length
  literals : ∀ (place : Nat) (own : String) (text : List Char),
    required[place]? = some (.literal own) → texts[place]? = some text →
      text = Percent.encodeChars own.toList

/-- What the segments bind when each takes the text at its own place. -/
def filled : List Segment → List (List Char) → List (String × List Char)
  | segment :: rest, text :: texts => segment.bindText text (filled rest texts)
  | _, _ => []

/-! ## Runs and remainders -/

/-- The longest run without a slash is the text up to the next slash, and every other run leaves a
part of that text. -/
theorem slashFreeRuns_append {text rest : List Char} (hslash : '/' ∉ text)
    (hends : SegmentEnds rest) :
    ∃ shorter, slashFreeRuns (text ++ rest) = (text, rest) :: shorter ∧
      ∀ run ∈ shorter, ∃ left, left ≠ [] ∧ '/' ∉ left ∧ run.2 = left ++ rest := by
  -- The longest run stops at the slash; every shorter one leaves part of the text in front of it.
  induction text with
  | nil =>
    refine ⟨[], ?_, fun run hrun => (by cases hrun)⟩
    rcases rest with _ | ⟨c, rest⟩
    · rfl
    · exact if_pos (hends c rfl)
  | cons c text ih =>
    rw [List.mem_cons, not_or] at hslash
    obtain ⟨shorter, hruns, hshorter⟩ := ih hslash.2
    refine ⟨(shorter.map fun run => (c :: run.1, run.2)) ++ [([], c :: (text ++ rest))], ?_, ?_⟩
    · rw [List.cons_append, slashFreeRuns, if_neg (Ne.symm hslash.1), hruns]
      rfl
    · intro run hrun
      rcases List.mem_append.mp hrun with hrun | hrun
      · obtain ⟨before, hbefore, rfl⟩ := List.mem_map.mp hrun
        exact hshorter before hbefore
      · refine ⟨c :: text, List.cons_ne_nil _ _, ?_, ?_⟩
        · rw [List.mem_cons, not_or]
          exact hslash
        · rw [List.mem_singleton.mp hrun]
          rfl

theorem stripStart?_eq_some {start text left : List Char} :
    Text.stripStart? start text = some left ↔ text = start ++ left := by
  induction start generalizing text with
  | nil => exact Option.some_inj
  | cons c start ih =>
    rcases text with _ | ⟨d, text⟩
    · exact iff_of_false (fun h => by cases h) (fun h => by cases h)
    · rw [Text.stripStart?, List.cons_append, List.cons.injEq]
      by_cases hc : c = d
      · rw [if_pos hc, ih]
        exact ⟨fun h => ⟨hc.symm, h⟩, And.right⟩
      · rw [if_neg hc]
        exact iff_of_false (fun h => by cases h) (fun h => hc h.1.symm)

/-- A code in front of a text is the whole text, or leaves a part of it. -/
theorem remainder_of_strip {code text rest left : List Char} (hcode : '/' ∉ code)
    (htext : '/' ∉ text) (hends : SegmentEnds rest)
    (h : Text.stripStart? code (text ++ rest) = some left) :
    (code = text ∧ left = rest) ∨ ∃ part, part ≠ [] ∧ '/' ∉ part ∧ left = part ++ rest := by
  rw [stripStart?_eq_some] at h
  rcases List.append_eq_append_iff.mp h with ⟨part, rfl, hrest⟩ | ⟨part, rfl, hleft⟩
  · -- The code cannot go on behind the text, where a slash stands.
    rw [List.mem_append, not_or] at hcode
    obtain rfl : part = [] := eq_nil_of_segmentEnds hcode.2 (hrest ▸ hends)
    exact .inl ⟨List.append_nil _, hrest.symm⟩
  · by_cases hpart : part = []
    · subst hpart
      exact .inl ⟨(List.append_nil _).symm, hleft⟩
    · rw [List.mem_append, not_or] at htext
      exact .inr ⟨part, hpart, htext.2, hleft⟩

/-! ## Where the matcher fails -/

section

variable {segments : List Segment} {path : List Char} {bound : List (String × List Char)}

/-- What the matcher accepts splits into loose pieces. -/
theorem exists_pieces (h : firstMatch? segments path = some bound) :
    ∃ pieces, List.Forall₂ Segment.TakesLoosely segments pieces ∧
      path = pieces.flatMap Piece.chars := by
  -- Under no constraints at all the matcher is the first reading, and readings are splits.
  have hregular : Pattern.Regular ⟨segments, .empty⟩ := fun name _ constraint hget => by cases hget
  have hfree : ∀ segment ∈ segments, ∀ name, segment.name? = some name →
      (Keyed.empty : Params).get? name = none := fun _ _ _ _ => rfl
  have hfirst := boundBy_head?_readings hfree (Cursor.start path)
  obtain ⟨pieces, hhead, -⟩ := Option.map_eq_some_iff.mp (hfirst.trans h)
  obtain ⟨haccepts, hchars⟩ := (mem_readings_iff fun segment hsegment =>
    hregular.local_value hsegment).mp (List.mem_of_head? hhead)
  exact ⟨pieces, (forall₂_accepts_iff hfree).mp haccepts, hchars⟩

theorem slash_not_mem_of_loosely {segment : Segment} {piece : Piece}
    (h : segment.TakesLoosely piece) : '/' ∉ piece.text := by
  rcases h.1 with hcarries | ⟨-, htext⟩
  · exact Segment.slash_not_mem_of_carries hcarries
  · rw [htext]
    exact List.not_mem_nil

/-- Each segment takes one slash at most. -/
theorem count_slashes_le (h : firstMatch? segments path = some bound) :
    path.count '/' ≤ segments.length := by
  obtain ⟨pieces, hloosely, rfl⟩ := exists_pieces h
  clear h
  induction hloosely with
  | nil => exact Nat.le_refl 0
  | @cons segment piece segments pieces hfirst hrest ih =>
    have htext : piece.text.count '/' = 0 :=
      List.count_eq_zero.mpr (slash_not_mem_of_loosely hfirst)
    have hpiece : piece.chars.count '/' ≤ 1 := by
      rw [count_chars, htext]
      split <;> omega
    rw [List.flatMap_cons, List.count_append, List.length_cons]
    omega

/-- A required segment takes a slash from the front of the path. -/
theorem head?_of_required {segment : Segment} (hrequired : segment.isOptional = false)
    (h : firstMatch? (segment :: segments) path = some bound) : path.head? = some '/' := by
  obtain ⟨pieces, hloosely, rfl⟩ := exists_pieces h
  obtain ⟨piece, rest, hfirst, -, rfl⟩ := List.forall₂_cons_left_iff.mp hloosely
  rw [List.flatMap_cons, Piece.chars_eq, if_pos (hfirst.2 hrequired)]
  rfl

/-- Required segments alone take whole segments of a path. -/
theorem slashed_of_required (hrequired : ∀ segment ∈ segments, segment.isOptional = false)
    (hwritten : ∀ segment ∈ segments, segment.Written)
    (h : firstMatch? segments path = some bound) : ∃ texts, AreTexts texts ∧ path = slashed texts := by
  obtain ⟨pieces, hloosely, rfl⟩ := exists_pieces h
  clear h
  -- A required segment brings its slash, and a text that is not empty.
  induction hloosely with
  | nil => exact ⟨[], fun text htext => (by cases htext), rfl⟩
  | @cons segment piece segments pieces hfirst hrest ih =>
    rw [List.forall_mem_cons] at hrequired hwritten
    obtain ⟨texts, htexts, hchars⟩ := ih hrequired.2 hwritten.2
    have hcarries : segment.Carries piece.text := by
      refine hfirst.1.resolve_right fun hnone => ?_
      rw [hrequired.1] at hnone
      cases hnone.1
    have hne : piece.text ≠ [] := by
      intro hnil
      rw [hnil] at hcarries
      refine Segment.not_carries_nil hwritten.1 ?_ hcarries
      rintro rfl
      cases hrequired.1
    refine ⟨piece.text :: texts,
      List.forall_mem_cons.mpr ⟨⟨hne, Segment.slash_not_mem_of_carries hcarries⟩, htexts⟩, ?_⟩
    rw [List.flatMap_cons, hchars, Piece.chars_eq, if_pos (hfirst.2 hrequired.1)]
    rfl

end

theorem count_slashed {texts : List (List Char)} (htexts : AreTexts texts) :
    (slashed texts).count '/' = texts.length := by
  induction texts with
  | nil => rfl
  | cons text texts ih =>
    obtain ⟨⟨-, hslash⟩, hrest⟩ := List.forall_mem_cons.mp htexts
    have htext : text.count '/' = 0 := List.count_eq_zero.mpr hslash
    show ('/' :: text ++ slashed texts).count '/' = _
    rw [List.count_append, List.count_cons_self, htext, ih hrest, List.length_cons]
    omega

/-! ## One segment -/

section

variable {rest : List Segment} {text : List Char} {texts : List (List Char)}

/-- The first attempt that leads on decides, if the others lead on only where it does. -/
theorem findSome?_first {α β : Type} {f : α → Option β} {first : α} {others : List α}
    (h : f first = none → ∀ other ∈ others, f other = none) :
    (first :: others).findSome? f = f first := by
  rw [List.findSome?_cons]
  cases hfirst : f first with
  | some value => rfl
  | none => exact List.findSome?_eq_none_iff.mpr (h hfirst)

/-- A literal binds nothing. -/
theorem bindText_literal (own : String) (text : List Char) :
    Segment.bindText (.literal own) text = id := rfl

/-- A literal takes its own text, if nothing behind it goes on inside of a text. -/
theorem firstMatch?_literal_cons {own : String} (hslash : '/' ∉ text)
    (hpart : ∀ part, part ≠ [] → '/' ∉ part → firstMatch? rest (part ++ slashed texts) = none) :
    firstMatch? (.literal own :: rest) (slashed (text :: texts)) =
      if text = Percent.encodeChars own.toList then firstMatch? rest (slashed texts) else none := by
  show (((Text.stripStart? (Percent.encodeChars own.toList) (text ++ slashed texts)).toList.map
    fun left => (Percent.encodeChars own.toList, left)).findSome? fun attempt =>
      (firstMatch? rest attempt.2).map (Segment.bindText (.literal own) attempt.1)) = _
  simp only [bindText_literal, Option.map_id, id_eq]
  cases hstrip : Text.stripStart? (Percent.encodeChars own.toList) (text ++ slashed texts) with
  | none =>
    rw [if_neg]
    · rfl
    · rintro rfl
      rw [stripStart?_eq_some.mpr rfl] at hstrip
      cases hstrip
  | some left =>
    rw [Option.toList_some, List.map_singleton, List.findSome?_singleton]
    -- The literal is the whole text, or it leaves part of it, and what follows does not match a
    -- part.
    rcases remainder_of_strip (Percent.slash_not_mem_encodeChars _) hslash
      (segmentEnds_slashed texts) hstrip with ⟨hcode, rfl⟩ | ⟨part, hne, hfree, rfl⟩
    · rw [if_pos hcode.symm]
    · have htext : text ≠ Percent.encodeChars own.toList := by
        rintro rfl
        rw [stripStart?_eq_some.mpr rfl, Option.some.injEq] at hstrip
        exact hne (List.self_eq_append_left.mp hstrip)
      rw [if_neg htext]
      exact hpart part hne hfree

/-- A placeholder takes the text at its place, if what stands behind it goes on inside of a text only
where it goes on behind the text. -/
theorem firstMatch?_placeholder_cons {name : String} (hne : text ≠ []) (hslash : '/' ∉ text)
    (hpart : firstMatch? rest (slashed texts) = none →
      ∀ part, part ≠ [] → '/' ∉ part → firstMatch? rest (part ++ slashed texts) = none) :
    firstMatch? (.placeholder name :: rest) (slashed (text :: texts)) =
      (firstMatch? rest (slashed texts)).map
        (Segment.bindText (.placeholder name) text) := by
  obtain ⟨shorter, hruns, hshorter⟩ := slashFreeRuns_append hslash (segmentEnds_slashed texts)
  have hattempts : (Segment.placeholder name).attempts (slashed (text :: texts)) =
      (text, slashed texts) :: shorter.filter fun run => run.1 ≠ [] := by
    show [text ++ slashed texts].flatMap _ = _
    rw [List.flatMap_singleton, hruns, List.filter_cons_of_pos (by simpa using hne)]
  rw [firstMatch?, hattempts]
  -- The longest run is tried first. If nothing matches behind it, nothing does behind a shorter
  -- one.
  apply findSome?_first
  intro hnone run hrun
  rw [Option.map_eq_none_iff] at hnone ⊢
  obtain ⟨part, hne, hfree, hleft⟩ := hshorter run (List.mem_filter.mp hrun).1
  rw [hleft]
  exact hpart hnone part hne hfree

/-- An optional placeholder takes the text at its place where this leads on. -/
theorem firstMatch?_optional_cons {name : String} {bound : List (String × List Char)}
    (hslash : '/' ∉ text) (hrest : firstMatch? rest (slashed texts) = some bound) :
    firstMatch? (.optionalPlaceholder name :: rest) (slashed (text :: texts)) =
      some (Segment.bindText (.optionalPlaceholder name) text bound) := by
  obtain ⟨shorter, hruns, -⟩ := slashFreeRuns_append hslash (segmentEnds_slashed texts)
  have hattempts : (Segment.optionalPlaceholder name).attempts (slashed (text :: texts)) =
      (text, slashed texts) :: (shorter ++ slashFreeRuns (slashed (text :: texts))) := by
    show [text ++ slashed texts].flatMap _ ++ _ = _
    rw [List.flatMap_singleton, hruns]
    rfl
  rw [firstMatch?, hattempts, List.findSome?_cons, hrest]
  rfl

end

/-! ## All segments -/

section

variable {required optional : List Segment} {texts : List (List Char)}

theorem filled_nil (segments : List Segment) : filled segments [] = [] := by
  cases segments <;> rfl

/-- At the end of the path optional placeholders take nothing. -/
theorem firstMatch?_optional_nil
    (hoptional : ∀ segment ∈ optional, ∃ name, segment = .optionalPlaceholder name) :
    firstMatch? optional [] = some [] := by
  induction optional with
  | nil => rfl
  | cons segment optional ih =>
    obtain ⟨⟨name, rfl⟩, hrest⟩ := List.forall_mem_cons.mp hoptional
    show [([], [])].findSome? _ = _
    rw [List.findSome?_singleton, ih hrest]
    rfl

/-- Optional placeholders take the texts from left to right, if there are not too many. -/
theorem firstMatch?_optional
    (hoptional : ∀ segment ∈ optional, ∃ name, segment = .optionalPlaceholder name)
    (htexts : AreTexts texts) (hroom : texts.length ≤ optional.length) :
    firstMatch? optional (slashed texts) = some (filled optional texts) := by
  induction optional generalizing texts with
  | nil =>
    obtain rfl : texts = [] := List.length_eq_zero_iff.mp (Nat.le_zero.mp hroom)
    rfl
  | cons segment optional ih =>
    rcases texts with _ | ⟨text, texts⟩
    · rw [filled_nil]
      exact firstMatch?_optional_nil hoptional
    · obtain ⟨⟨name, rfl⟩, hrest⟩ := List.forall_mem_cons.mp hoptional
      obtain ⟨⟨-, hslash⟩, htexts⟩ := List.forall_mem_cons.mp htexts
      exact firstMatch?_optional_cons hslash (ih hrest htexts (Nat.le_of_succ_le_succ hroom))

theorem LeftToRight.tail {segment : Segment} (h : LeftToRight (segment :: required) optional) :
    LeftToRight required optional := by
  refine ⟨(List.forall_mem_cons.mp h.isRequired).2, h.isOptional, ?_⟩
  rcases h.border with hnone | hnil | ⟨name, hlast⟩
  · exact .inl hnone
  · cases hnil
  · rcases required with _ | ⟨next, required⟩
    · exact .inr (.inl rfl)
    · rw [List.getLast?_cons_cons] at hlast
      exact .inr (.inr ⟨name, hlast⟩)

/-- Inside of a text the segments behind a required one do not go on, unless they go on behind it:
another required segment misses the slash, and optional placeholders have no room there for more texts
than behind it. -/
theorem firstMatch?_part {segment : Segment} (h : LeftToRight (segment :: required) optional)
    (htexts : AreTexts texts)
    (hnone : (∃ own, segment = .literal own) ∨
      firstMatch? (required ++ optional) (slashed texts) = none)
    {part : List Char} (hne : part ≠ []) (hslash : '/' ∉ part) :
    firstMatch? (required ++ optional) (part ++ slashed texts) = none := by
  obtain ⟨c, part, rfl⟩ := List.exists_cons_of_ne_nil hne
  rcases required with _ | ⟨next, required⟩
  · rcases h.border with rfl | hnil | ⟨name, hlast⟩
    · exact if_neg (List.cons_ne_nil _ _)
    · cases hnil
    · -- A placeholder stands in front of optional ones: here the slashes are counted.
      cases hlast
      replace hnone := hnone.resolve_left (fun ⟨own, hown⟩ => by cases hown)
      rw [List.nil_append] at hnone ⊢
      have hmore : optional.length < texts.length := by
        by_contra hroom
        rw [firstMatch?_optional h.isOptional htexts (Nat.not_lt.mp hroom)] at hnone
        cases hnone
      cases hmatch : firstMatch? optional (c :: part ++ slashed texts) with
      | none => rfl
      | some bound =>
        have hcount := count_slashes_le hmatch
        rw [List.count_append, count_slashed htexts, List.count_eq_zero.mpr hslash] at hcount
        omega
  · -- A required segment is next, and it begins with a slash.
    have hnext := h.isRequired next (List.mem_cons_of_mem _ List.mem_cons_self)
    cases hmatch : firstMatch? (next :: required ++ optional) (c :: part ++ slashed texts) with
    | none => rfl
    | some bound =>
      have hc := Option.some.inj (head?_of_required hnext hmatch)
      exact absurd (hc ▸ List.mem_cons_self) hslash

/-- One step: the first required segment takes the first text, if it is no literal with another. -/
theorem firstMatch?_cons {segment : Segment} {text : List Char} {bound : List (String × List Char)}
    (h : LeftToRight (segment :: required) optional) (htexts : AreTexts (text :: texts)) :
    firstMatch? (segment :: required ++ optional) (slashed (text :: texts)) = some bound ↔
      (∀ own, segment = .literal own → text = Percent.encodeChars own.toList) ∧
        ∃ more, firstMatch? (required ++ optional) (slashed texts) = some more ∧
          segment.bindText text more = bound := by
  obtain ⟨⟨hne, hslash⟩, hrest⟩ := List.forall_mem_cons.mp htexts
  have hrequired := (List.forall_mem_cons.mp h.isRequired).1
  cases segment with
  | optionalLiteral own | optionalPlaceholder name => cases hrequired
  | literal own =>
    rw [List.cons_append, firstMatch?_literal_cons hslash fun part hne hslash =>
      firstMatch?_part h hrest (.inl ⟨own, rfl⟩) hne hslash]
    simp [bindText_literal]
  | placeholder name =>
    rw [List.cons_append, firstMatch?_placeholder_cons hne hslash fun hnone part hne hslash =>
      firstMatch?_part h hrest (.inr hnone) hne hslash, Option.map_eq_some_iff]
    exact (and_iff_right fun own hown => by cases hown).symm

theorem fits_nil : Fits [] optional texts ↔ texts.length ≤ optional.length := by
  constructor
  · intro h
    have hroom := h.room
    rwa [List.length_nil, Nat.zero_add] at hroom
  · intro hroom
    refine ⟨Nat.zero_le _, ?_, fun place own text hown => (by cases hown)⟩
    rwa [List.length_nil, Nat.zero_add]

theorem not_fits_nil {segment : Segment} : ¬Fits (segment :: required) optional [] :=
  fun h => absurd h.enough (Nat.not_succ_le_zero _)

theorem fits_cons {segment : Segment} {text : List Char} :
    Fits (segment :: required) optional (text :: texts) ↔
      (∀ own, segment = .literal own → text = Percent.encodeChars own.toList) ∧
        Fits required optional texts := by
  -- Counting the segments one lower on both sides leaves the room as it is.
  constructor
  · intro h
    have hroom := h.room
    simp only [List.length_cons] at hroom
    refine ⟨fun own hown => h.literals 0 own text (congrArg some hown) rfl,
      Nat.le_of_succ_le_succ h.enough, by omega, fun place own => h.literals (place + 1) own⟩
  · rintro ⟨hfirst, hrest⟩
    have henough := hrest.enough
    have hroom := hrest.room
    refine ⟨by simpa using henough, by simp only [List.length_cons]; omega, ?_⟩
    intro place own other hown hother
    cases place with
    | zero =>
      cases hother
      exact hfirst own (Option.some.inj hown)
    | succ place => exact hrest.literals place own other hown hother

/-- The whole run: the matcher accepts the texts that fit, and each segment takes the text at its own
place. -/
theorem firstMatch?_eq_some_iff (h : LeftToRight required optional) (htexts : AreTexts texts)
    {bound : List (String × List Char)} :
    firstMatch? (required ++ optional) (slashed texts) = some bound ↔
      Fits required optional texts ∧ bound = filled (required ++ optional) texts := by
  -- The induction follows the required segments; behind the last of them the slashes are counted.
  induction required generalizing texts bound with
  | nil =>
    rw [List.nil_append, fits_nil]
    by_cases hroom : texts.length ≤ optional.length
    · rw [firstMatch?_optional h.isOptional htexts hroom, Option.some.injEq]
      exact ⟨fun hbound => ⟨hroom, hbound.symm⟩, fun hbound => hbound.2.symm⟩
    · refine iff_of_false (fun hmatch => hroom ?_) (fun hbound => hroom hbound.1)
      rw [← count_slashed htexts]
      exact count_slashes_le hmatch
  | cons segment required ih =>
    rcases texts with _ | ⟨text, texts⟩
    · refine iff_of_false (fun hmatch => ?_) (fun hbound => not_fits_nil hbound.1)
      cases head?_of_required (List.forall_mem_cons.mp h.isRequired).1 hmatch
    · have hrest := (List.forall_mem_cons.mp htexts).2
      rw [firstMatch?_cons h htexts, fits_cons]
      simp only [ih h.tail hrest]
      constructor
      · rintro ⟨hfirst, more, ⟨hfits, rfl⟩, rfl⟩
        exact ⟨⟨hfirst, hfits⟩, rfl⟩
      · rintro ⟨⟨hfirst, hfits⟩, rfl⟩
        exact ⟨hfirst, _, ⟨hfits, rfl⟩, rfl⟩

end

/-- Where names stand once, a name is bound to the text at its place. -/
theorem lookup_filled {segments : List Segment} {texts : List (List Char)} {place : Nat}
    {segment : Segment} {name : String} (hnodup : (segments.filterMap Segment.name?).Nodup)
    (htexts : AreTexts texts) (hplace : segments[place]? = some segment)
    (hname : segment.name? = some name) :
    Keyed.lookup name (filled segments texts) = texts[place]? := by
  -- Segments and texts go side by side, so the place counts down in both.
  induction segments generalizing texts place with
  | nil => cases hplace
  | cons first segments ih =>
    rcases texts with _ | ⟨text, texts⟩
    · rfl
    · obtain ⟨⟨hne, -⟩, hrest⟩ := List.forall_mem_cons.mp htexts
      rw [filled, Segment.bindText]
      cases place with
      | zero =>
        cases hplace
        simp [hname, hne, Keyed.lookup]
      | succ place =>
        have hmem : segment ∈ segments := List.mem_of_getElem? hplace
        cases hfirst : first.name? with
        | none =>
          rw [List.filterMap_cons_none hfirst] at hnodup
          exact ih hnodup hrest hplace
        | some other =>
          rw [List.filterMap_cons_some hfirst, List.nodup_cons] at hnodup
          -- The name stands further on, so it is not the one bound here.
          have hother : other ≠ name := by
            rintro rfl
            exact hnodup.1 (List.mem_filterMap.mpr ⟨segment, hmem, hname⟩)
          simp only [if_neg hne, Keyed.lookup, if_neg hother]
          exact ih hnodup.2 hrest hplace

/-! ## Routes -/

/-- The decoded text at a place, where there is one. -/
def decodedAt (texts : List (List Char)) (place : Nat) : Option String :=
  texts[place]?.map fun text => String.ofList (Percent.decodeChars text)

/-- The path is the texts, each after a slash, and then any number of slashes. -/
def IsPathOf (path : String) (texts : List (List Char)) : Prop :=
  AreTexts texts ∧ ∃ slashes, path.toList = slashed texts ++ List.replicate slashes '/'

namespace Route

variable {route : Route} {request : Request} {texts : List (List Char)}

/-- What is trimmed off a path is slashes. -/
theorem toList_eq_trimmed (path : String) :
    ∃ slashes, path.toList = trimmed path ++ List.replicate slashes '/' := by
  refine ⟨(path.toList.reverse.takeWhile (· = '/')).length, ?_⟩
  have hslashes : (path.toList.reverse.takeWhile (· = '/')).reverse =
      List.replicate (path.toList.reverse.takeWhile (· = '/')).length '/' := by
    refine List.eq_replicate_iff.mpr ⟨List.length_reverse, fun c hc => ?_⟩
    have hdecided := List.mem_takeWhile_imp (List.mem_reverse.mp hc)
    exact of_decide_eq_true hdecided
  rw [trimmed, Text.trimEnd, ← hslashes, ← List.reverse_append, List.takeWhile_append_dropWhile,
    List.reverse_reverse]

theorem getLast?_slashed_texts (htexts : AreTexts texts) : (slashed texts).getLast? ≠ some '/' := by
  rcases List.eq_nil_or_concat' texts with rfl | ⟨front, text, rfl⟩
  · exact fun h => by cases h
  · obtain ⟨hne, hslash⟩ := htexts text (List.mem_append_right _ (List.mem_singleton.mpr rfl))
    exact getLast?_slashed hne hslash front

/-- The slashes at the end of a path do not count. -/
theorem trimmed_of_isPathOf {path : String} (h : IsPathOf path texts) :
    trimmed path = slashed texts := by
  obtain ⟨htexts, slashes, hpath⟩ := h
  have htrimmed := trimmed_ofList (getLast?_slashed_texts htexts)
  rw [trimmed, String.toList_ofList, Text.trimEnd] at htrimmed
  rw [trimmed, hpath, Text.trimEnd, List.reverse_append, List.reverse_replicate,
    List.dropWhile_append_of_pos (by simp), htrimmed]

/-- The first reading binds what the matcher finds. -/
theorem head?_readings_eq
    (hfree : ∀ name ∈ route.pattern.names, route.config.constraints.get? name = none)
    (path : List Char) :
    (route.readings path).head?.map (boundBy route.segments) = firstMatch? route.segments path :=
  boundBy_head?_readings (free_of_mem hfree) (Cursor.start path)

/-- The route accepts a request where the matcher comes to the end of its path. -/
theorem accepts_iff_firstMatch (hadmits : route.Admits request)
    (hcompiled : route.pattern.program?.isSome = true)
    (hfree : ∀ name ∈ route.pattern.names, route.config.constraints.get? name = none) :
    route.Accepts request ↔ ∃ bound, firstMatch? route.segments (trimmed request.path) = some bound := by
  rw [Accepts, accepts_iff hadmits (regular_of_free hfree).sound hcompiled,
    ← head?_readings_eq hfree]
  rcases route.readings (trimmed request.path) with _ | ⟨pieces, more⟩
  · simp
  · simp

/-- What a placeholder of the route takes is what the matcher binds under its name. -/
theorem captured?_eq_lookup (hcompiled : route.pattern.program?.isSome = true)
    (hfree : ∀ name ∈ route.pattern.names, route.config.constraints.get? name = none)
    (request : Request) (name : String) :
    route.captured? request name =
      (firstMatch? route.segments (trimmed request.path)).bind fun bound =>
        (Keyed.lookup name bound).map fun text => String.ofList (Percent.decodeChars text) := by
  obtain ⟨program, hprogram⟩ := Option.isSome_iff_exists.mp hcompiled
  have hcaptures := captures?_eq (regular_of_free hfree).sound hprogram (trimmed request.path)
  rw [← head?_readings_eq hfree, ← hcaptures, Pattern.captures?]
  simp only [captured?, hprogram, Option.bind_eq_bind, Option.bind_some]
  cases program.search? (trimmed request.path) with
  | none => rfl
  | some found =>
    rw [Option.map_some, Option.bind_some, Option.bind_some,
      Pattern.lookup_bindings found (Pattern.nodup_names hcompiled), Option.map_bind]
    simp only [Nat.zero_add]
    rfl

/-- A compiled route without filters and without constraints, with optional placeholders behind
required segments, takes the segments of a path from left to right. It accepts a path when the path
has a segment for each required one and none too many, and the literals agree; a placeholder then
takes the decoded segment at its own place, and where the path has none, nothing is captured and the
match holds the default. A route with required segments only accepts no other path. -/
theorem fills_left_to_right {required optional : List Segment}
    (hcompiled : route.pattern.program?.isSome = true)
    (hmethods : route.config.methods = .empty) (hschemes : route.config.schemes = .empty)
    (hfree : ∀ name ∈ route.pattern.names, route.config.constraints.get? name = none)
    (hsegments : route.segments = required ++ optional) (horder : LeftToRight required optional) :
    (∀ request texts, IsPathOf request.path texts →
      (route.Accepts request ↔ Fits required optional texts) ∧
      ∀ found, route.evaluate request = .ok found →
        ∀ (place : Nat) (segment : Segment) (name : String), route.segments[place]? = some segment →
          segment.name? = some name →
            route.captured? request name = decodedAt texts place ∧
              found.param? name = (decodedAt texts place).or (route.config.defaults.get? name)) ∧
    (optional = [] → ∀ request : Request, (∀ texts, ¬IsPathOf request.path texts) →
      route.Rejects request) := by
  have haccepts : ∀ request, route.Accepts request ↔
      ∃ bound, firstMatch? route.segments (trimmed request.path) = some bound := fun request =>
    accepts_iff_firstMatch (admits_of_empty hmethods hschemes request) hcompiled hfree
  refine ⟨fun request texts hpath => ?_, fun hnone request hother => ?_⟩
  · have hmatch : ∀ bound, firstMatch? route.segments (trimmed request.path) = some bound ↔
        Fits required optional texts ∧ bound = filled route.segments texts := by
      intro bound
      rw [trimmed_of_isPathOf hpath, hsegments]
      exact firstMatch?_eq_some_iff horder hpath.1
    refine ⟨?_, fun found hfound place segment name hplace hname => ?_⟩
    · rw [haccepts]
      simp only [hmatch, exists_and_left, exists_eq, and_true]
    · obtain ⟨bound, hbound⟩ := (haccepts request).mp ⟨found, hfound⟩
      have hcaptured : route.captured? request name = decodedAt texts place := by
        rw [captured?_eq_lookup hcompiled hfree, hbound, Option.bind_some,
          ((hmatch bound).mp hbound).2]
        exact congrArg _ (lookup_filled (Pattern.nodup_names hcompiled) hpath.1 hplace hname)
      obtain ⟨hmethod, hscheme⟩ := ne_of_isName (isName_of_mem (List.mem_of_getElem? hplace) hname)
      refine ⟨hcaptured, ?_⟩
      rw [param?_of_evaluate hfound, if_neg hmethod, if_neg hscheme, hcaptured]
  · -- What the matcher accepts, required segments have split into texts behind slashes.
    rw [← not_accepts_iff, haccepts]
    rintro ⟨bound, hbound⟩
    have hrequired : ∀ segment ∈ route.segments, segment.isOptional = false := by
      rw [hsegments, hnone, List.append_nil]
      exact horder.isRequired
    obtain ⟨texts, htexts, htrimmed⟩ := slashed_of_required hrequired route.written hbound
    obtain ⟨slashes, hslashes⟩ := toList_eq_trimmed request.path
    exact hother texts ⟨htexts, slashes, htrimmed ▸ hslashes⟩

/-- A literal and a placeholder, with two optional placeholders behind them. -/
def archive : Route where
  config := { path := "/posts/:year/~:month/~:day", defaults := .ofList [("day", "1")] }
  segments := [.literal "posts", .placeholder "year", .optionalPlaceholder "month",
    .optionalPlaceholder "day"]
  parsed := rfl
  canonical := rfl

theorem archive_compiled : archive.pattern.program?.isSome = true :=
  Pattern.isSome_program? (fun _ _ _ hget => by cases hget) (by decide) (of_decide_eq_true (by cbv))
    (of_decide_eq_true (by cbv)) (by cbv)

/-- A year and a month are taken, the day is left to its default, and the slashes at the end do not
count. -/
theorem archive_filled :
    ∃ found, archive.evaluate ⟨"GET", "http", "/posts/2026/07//"⟩ = .ok found ∧
      found.param? "year" = some "2026" ∧ found.param? "month" = some "07" ∧
        archive.captured? ⟨"GET", "http", "/posts/2026/07//"⟩ "day" = none ∧
          found.param? "day" = some "1" := by
  have horder : LeftToRight [.literal "posts", .placeholder "year"]
      [.optionalPlaceholder "month", .optionalPlaceholder "day"] :=
    ⟨by decide, by simp, .inr (.inr ⟨"year", rfl⟩)⟩
  obtain ⟨hfills, -⟩ :=
    fills_left_to_right archive_compiled rfl rfl (fun _ _ => rfl) rfl horder
  have hpath : IsPathOf "/posts/2026/07//" ["posts".toList, "2026".toList, "07".toList] :=
    ⟨by unfold AreTexts; decide, 2, by decide⟩
  obtain ⟨haccepts, hbinds⟩ := hfills ⟨"GET", "http", "/posts/2026/07//"⟩ _ hpath
  have hfits : Fits [.literal "posts", .placeholder "year"]
      [.optionalPlaceholder "month", .optionalPlaceholder "day"]
      ["posts".toList, "2026".toList, "07".toList] := by
    rw [fits_cons, fits_cons, fits_nil]
    refine ⟨fun own hown => ?_, fun own hown => (by cases hown), by decide⟩
    cases hown
    decide
  obtain ⟨found, hfound⟩ := haccepts.mpr hfits
  have hyear := hbinds found hfound 1 (.placeholder "year") "year" rfl rfl
  have hmonth := hbinds found hfound 2 (.optionalPlaceholder "month") "month" rfl rfl
  have hday := hbinds found hfound 3 (.optionalPlaceholder "day") "day" rfl rfl
  refine ⟨found, hfound, hyear.2.trans ?_, hmonth.2.trans ?_, hday.1, hday.2.trans ?_⟩
  · cbv
  · cbv
  · cbv

end Route

end Switchyard
