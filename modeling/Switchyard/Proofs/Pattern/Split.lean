import Switchyard.Proofs.Pattern.Slashes
import Switchyard.Proofs.Percent

/-!
# Splits of a path

Where no constraint holds an assertion, what a segment takes depends on the text of its piece alone
(`Segment.Accepts`), so the readings of a path are the ways to split it into pieces that the segments
accept (`mem_readings_iff`). A text that a constraint takes inside a path is one that the constraint
admits as a whole value (`admits_iff_takes`), and a placeholder without a constraint takes what has
no slash (`takes_slashFree`).
-/

namespace Switchyard

open Regex

/-! ## Pieces that a segment accepts -/

/-- The segment may take the piece, wherever the piece stands. -/
def Segment.Accepts (constraints : Params) (segment : Segment) (piece : Piece) : Prop :=
  match segment with
  | .literal text => piece = ⟨true, Percent.encodeChars text.toList⟩
  | .optionalLiteral text => piece.text = Percent.encodeChars text.toList ∨ piece.text = []
  | .placeholder _ =>
    piece.slash = true ∧ Walk.Takes (segment.value constraints).ends none piece.text []
  | .optionalPlaceholder _ => Walk.Takes (segment.value constraints).ends none piece.text []

section

variable {constraints : Params} {segment : Segment}

theorem mem_past? {cursor next : Cursor} {text : List Char} :
    next ∈ (cursor.past? text).toList ↔ cursor.past? text = some next := Option.mem_toList

theorem mem_slashWays {cursor : Cursor} {way : Bool × Cursor}
    (h : way ∈ Segment.slashWays cursor) :
    cursor.after = (if way.1 then ['/'] else []) ++ way.2.after := by
  rcases List.mem_append.mp h with h | h
  · obtain ⟨place, hplace, rfl⟩ := List.mem_map.mp h
    exact Cursor.after_of_past? (mem_past?.mp hplace)
  · rw [List.mem_singleton.mp h]
    rfl

theorem exists_slashWay {cursor : Cursor} {slash : Bool} {rest : List Char}
    (h : cursor.after = (if slash then ['/'] else []) ++ rest) :
    ∃ place, (slash, place) ∈ Segment.slashWays cursor ∧ place.after = rest := by
  cases slash with
  | false => exact ⟨cursor, List.mem_append_right _ (List.mem_singleton.mpr rfl), h⟩
  | true =>
    obtain ⟨place, hplace, hrest⟩ := Cursor.past?_of_after h
    exact ⟨place, List.mem_append_left _ (List.mem_map_of_mem (mem_past?.mpr hplace)), hrest⟩

theorem mem_texts {tree : Regex} (hlocal : Walk.Local tree.ends) {cursor : Cursor}
    {found : List Char × Cursor} (h : found ∈ Segment.texts tree cursor) :
    cursor.after = found.1 ++ found.2.after ∧ Walk.Takes tree.ends none found.1 [] := by
  obtain ⟨reach, hreach, rfl⟩ := List.mem_map.mp h
  obtain ⟨taken, htaken⟩ := suffix_of_mem_ends hreach
  simp only [Cursor.taken_of_after htaken]
  have htakes : Walk.Takes tree.ends cursor.before taken reach.cursor.after :=
    ⟨reach, by rwa [← htaken], rfl⟩
  exact ⟨htaken, hlocal.moves htakes none []⟩

theorem exists_text {tree : Regex} (hlocal : Walk.Local tree.ends) {cursor : Cursor}
    {text rest : List Char} (h : cursor.after = text ++ rest)
    (htakes : Walk.Takes tree.ends none text []) :
    ∃ place, (text, place) ∈ Segment.texts tree cursor ∧ place.after = rest := by
  obtain ⟨reach, hreach, hrest⟩ := hlocal.moves htakes cursor.before rest
  rw [← h] at hreach
  have htaken : cursor.taken reach.cursor = text := Cursor.taken_of_after (by rw [h, hrest])
  exact ⟨reach.cursor, List.mem_map.mpr ⟨reach, hreach, by rw [htaken]⟩, hrest⟩

/-- An optional segment accepts a text with and without a slash in front. -/
theorem accepts_slash (hoptional : segment.isOptional = true) {slash other : Bool}
    {text : List Char} (h : segment.Accepts constraints ⟨slash, text⟩) :
    segment.Accepts constraints ⟨other, text⟩ := by
  cases segment with
  | literal text | placeholder name => cases hoptional
  | optionalLiteral text | optionalPlaceholder name => exact h

theorem slash_of_required {piece : Piece} (h : segment.Accepts constraints piece)
    (hrequired : segment.isOptional = false) : piece.slash = true := by
  cases segment with
  | literal text =>
    cases h
    rfl
  | placeholder name => exact h.1
  | optionalLiteral text | optionalPlaceholder name => cases hrequired

/-- Every way of a segment is over an accepted piece. -/
theorem accepts_of_mem_ways (hlocal : Walk.Local (segment.value constraints).ends)
    {cursor : Cursor} {way : Piece × Cursor} (h : way ∈ segment.ways constraints cursor) :
    segment.Accepts constraints way.1 ∧ cursor.after = way.1.chars ++ way.2.after := by
  -- A way of a segment says where the slash was taken and where the text was; its piece is what it
  -- took up.
  cases segment with
  | literal text =>
    obtain ⟨next, hnext, rfl⟩ := List.mem_map.mp h
    exact ⟨rfl, Cursor.after_of_past? (mem_past?.mp hnext)⟩
  | optionalLiteral text =>
    obtain ⟨slash, hslash, h⟩ := List.mem_flatMap.mp h
    rcases List.mem_append.mp h with h | h
    · obtain ⟨next, hnext, rfl⟩ := List.mem_map.mp h
      refine ⟨.inl rfl, ?_⟩
      rw [mem_slashWays hslash, Cursor.after_of_past? (mem_past?.mp hnext), Piece.chars_eq,
        List.append_assoc]
    · rw [List.mem_singleton.mp h]
      refine ⟨.inr rfl, ?_⟩
      rw [mem_slashWays hslash, Piece.chars_eq, List.append_nil]
  | placeholder name =>
    obtain ⟨place, hplace, h⟩ := List.mem_flatMap.mp h
    obtain ⟨found, hfound, rfl⟩ := List.mem_map.mp h
    obtain ⟨hafter, htakes⟩ := mem_texts hlocal hfound
    refine ⟨⟨rfl, htakes⟩, ?_⟩
    rw [Cursor.after_of_past? (mem_past?.mp hplace), hafter]
    rfl
  | optionalPlaceholder name =>
    obtain ⟨slash, hslash, h⟩ := List.mem_flatMap.mp h
    obtain ⟨found, hfound, rfl⟩ := List.mem_map.mp h
    obtain ⟨hafter, htakes⟩ := mem_texts hlocal hfound
    refine ⟨htakes, ?_⟩
    rw [mem_slashWays hslash, hafter, Piece.chars_eq, List.append_assoc]

/-- An accepted piece that stands at a place is one of the ways from there. -/
theorem exists_way (hlocal : Walk.Local (segment.value constraints).ends) {cursor : Cursor}
    {piece : Piece} {rest : List Char} (h : segment.Accepts constraints piece)
    (hafter : cursor.after = piece.chars ++ rest) :
    ∃ next, (piece, next) ∈ segment.ways constraints cursor ∧ next.after = rest := by
  obtain ⟨slash, text⟩ := piece
  rw [Piece.chars_eq, List.append_assoc] at hafter
  -- The piece tells which way to take: past the slash if it has one, and then past its text.
  cases segment with
  | literal literal =>
    cases h
    have hstart : cursor.after = '/' :: Percent.encodeChars literal.toList ++ rest := hafter
    obtain ⟨next, hnext, hrest⟩ := Cursor.past?_of_after hstart
    exact ⟨next, List.mem_map_of_mem (mem_past?.mpr hnext), hrest⟩
  | optionalLiteral literal =>
    obtain ⟨place, hplace, hplaceAfter⟩ := exists_slashWay hafter
    rcases h with h | h
    · obtain ⟨next, hnext, hrest⟩ := Cursor.past?_of_after hplaceAfter
      simp only at h
      subst h
      exact ⟨next, List.mem_flatMap.mpr ⟨_, hplace, List.mem_append_left _
        (List.mem_map_of_mem (mem_past?.mpr hnext))⟩, hrest⟩
    · simp only at h
      subst h
      exact ⟨place, List.mem_flatMap.mpr ⟨_, hplace, List.mem_append_right _
        (List.mem_singleton.mpr rfl)⟩, hplaceAfter⟩
  | placeholder name =>
    obtain ⟨hslash, htakes⟩ := h
    simp only at hslash
    subst hslash
    obtain ⟨place, hplace, hplaceAfter⟩ := Cursor.past?_of_after hafter
    obtain ⟨next, hnext, hrest⟩ := exists_text hlocal hplaceAfter htakes
    exact ⟨next, List.mem_flatMap.mpr ⟨place, mem_past?.mpr hplace,
      List.mem_map.mpr ⟨_, hnext, rfl⟩⟩, hrest⟩
  | optionalPlaceholder name =>
    obtain ⟨place, hplace, hplaceAfter⟩ := exists_slashWay hafter
    obtain ⟨next, hnext, hrest⟩ := exists_text hlocal hplaceAfter h
    exact ⟨next, List.mem_flatMap.mpr ⟨_, hplace, List.mem_map.mpr ⟨_, hnext, rfl⟩⟩, hrest⟩

end

/-! ## Texts without a slash -/

/-- Every character but the slash. -/
def notSlash (c : Char) : Bool := c != '/'

theorem notSlash_iff (c : Char) : notSlash c = true ↔ c ≠ '/' := bne_iff_ne

theorem forall_notSlash {text : List Char} : (∀ c ∈ text, notSlash c = true) ↔ '/' ∉ text := by
  simp only [notSlash_iff]
  exact ⟨fun h hmem => h '/' hmem rfl, fun h c hc heq => h (heq ▸ hc)⟩

/-- The table of every character but the slash. It leaves a gap where no character has its value. -/
def notSlashRanges : Unicode.Ranges := [(0, 0x2E), (0x30, 0xD7FF), (0xE000, 0x10FFFF)]

theorem holds_notSlashRanges : notSlashRanges.holds = notSlash := by
  funext c
  have hvalid : c.toNat < 0xD800 ∨ (0xDFFF < c.toNat ∧ c.toNat < 0x110000) := c.valid
  have hslash : c = '/' ↔ c.toNat = 0x2F := ⟨fun h => h ▸ rfl, fun h => Char.toNat_inj.mp h⟩
  rw [Bool.eq_iff_iff, notSlash_iff, ne_eq, hslash]
  simp only [Unicode.Ranges.holds, notSlashRanges, Unicode.Ranges.contains]
  grind

/-- The class of every character but the slash, as a form. -/
theorem ofClass_notSlash :
    Form.ofClass (.bracket true (.single '/')) = .chars notSlashRanges := by
  -- Sorting is all that does not evaluate here; the slash stands below the surrogates already.
  have hsorted : [(0x2F, 0x2F), (0xD800, 0xDFFF)].mergeSort
      (fun left right : Nat × Nat => left.1 ≤ right.1) = [(0x2F, 0x2F), (0xD800, 0xDFFF)] :=
    List.mergeSort_of_pairwise (by decide)
  show Form.ofRanges (Unicode.Ranges.complement
    (Unicode.Ranges.normal [(0x2F, 0x2F), (0xD800, 0xDFFF)])) = _
  rw [Unicode.Ranges.normal, hsorted]
  rfl

theorem ofRegex_slashFree (min : Nat) : Form.ofRegex (Pattern.slashFree min) =
    Form.repetition min none true (.chars notSlashRanges) := by
  show Form.repetition _ _ true (Form.ofClass (.bracket true (.single '/'))) = _
  rw [ofClass_notSlash]
  rfl

theorem ends_slashFree_one (cursor : Cursor) :
    (Pattern.slashFree 1).ends cursor =
      (cursor.step? notSlash).toList.flatMap (Walk.runs notSlash) := by
  rw [← Walk.plain_onceOrMore_take, ends, ofRegex_slashFree]
  show Walk.plain (Walk.both .stay (Walk.onceOrMore (.take notSlashRanges.holds) true)) cursor = _
  rw [holds_notSlashRanges, Walk.plain_both, Walk.plain_stay, Walk.stay_andThen]

theorem ends_slashFree_zero : (Pattern.slashFree 0).ends = Walk.runs notSlash := by
  funext cursor
  rw [Walk.runs_eq, ← Walk.plain_onceOrMore_take, ends, ofRegex_slashFree]
  show Walk.plain (Walk.within .loop (Walk.optional true
    (Walk.onceOrMore (.take notSlashRanges.holds) true))) cursor = _
  rw [holds_notSlashRanges, Walk.plain_within, Walk.plain_optional]
  rfl

/-- An optional placeholder that nothing constrains takes any text without a slash. -/
theorem takes_slashFree_zero {before : Option Char} {text rest : List Char} :
    Walk.Takes (Pattern.slashFree 0).ends before text rest ↔ '/' ∉ text := by
  rw [ends_slashFree_zero, Walk.takes_runs, forall_notSlash]

/-- A required placeholder that nothing constrains takes the same, but not the empty text. -/
theorem takes_slashFree_one {before : Option Char} {text rest : List Char} :
    Walk.Takes (Pattern.slashFree 1).ends before text rest ↔ text ≠ [] ∧ '/' ∉ text := by
  unfold Walk.Takes
  simp only [ends_slashFree_one]
  rcases text with _ | ⟨c, text⟩
  · -- At least one character is taken, so a way that takes none would leave more than there is.
    refine iff_of_false ?_ fun h => h.1 rfl
    rintro ⟨reach, hreach, hrest⟩
    obtain ⟨place, hplace, hreach⟩ := List.mem_flatMap.mp hreach
    obtain ⟨d, after, hafter, -, rfl⟩ := step?_eq_some (Option.mem_toList.mp hplace)
    have hleft := Walk.left_le_of_mem_runs hreach
    rw [Cursor.left, hrest, show rest = d :: after from hafter, Cursor.left] at hleft
    simp only [List.length_cons] at hleft
    omega
  · have hstep : (⟨before, c :: text ++ rest⟩ : Cursor).step? notSlash =
        if notSlash c then some ⟨some c, text ++ rest⟩ else none := rfl
    rw [hstep, ← forall_notSlash, List.forall_mem_cons]
    by_cases hc : notSlash c = true
    · rw [if_pos hc, Option.toList_some, List.flatMap_singleton]
      refine Iff.trans Walk.takes_runs ?_
      exact ⟨fun h => ⟨List.cons_ne_nil c text, hc, h⟩, fun h => h.2.2⟩
    · rw [if_neg hc]
      refine iff_of_false ?_ fun h => hc h.2.1
      rintro ⟨reach, hreach, -⟩
      cases hreach

/-! ## Whole values -/

/-- A constraint admits the values that its pattern takes whole. -/
theorem admits_iff_takes {constraint : String} (h : Constraint.WellFormed constraint)
    (value : List Char) :
    Constraint.admits constraint value = true ↔
      Walk.Takes (treeOf constraint.toList).ends none value [] := by
  obtain ⟨program, hprogram⟩ := Option.isSome_iff_exists.mp h.2
  have hparse : parse (anchored constraint.toList) = .ok program := by
    have hcompiled := hprogram
    unfold Constraint.program? compile? at hcompiled
    rw [Constraint.sourceChars_eq] at hcompiled
    split at hcompiled
    · rename_i whole hwhole
      split at hcompiled
      · cases hcompiled
        exact hwhole
      · cases hcompiled
    · cases hcompiled
  have htree := parse_anchored h.toList hparse
  have hends : Walk.inOrder (([.group .plain (treeOf constraint.toList),
      .look .textEnd] : List Regex).map ends) =
      (treeOf constraint.toList).ends.andThen (.check .textEnd) := by
    rw [← ends_look]
    exact congrArg _ (Walk.andThen_stay _)
  rw [Constraint.admits, hprogram, Option.any_some, matchesIn, search?_eq_firstPath?, htree,
    firstPath?_textStart, hends, Option.isSome_map, List.isSome_head?, Walk.Takes, List.append_nil]
  -- Behind the group the pattern asks for the end, so a way through leaves nothing.
  constructor
  · intro hne
    obtain ⟨reach, hreach⟩ := List.exists_mem_of_ne_nil _ hne
    obtain ⟨sooner, hsooner, hreach⟩ := List.mem_flatMap.mp hreach
    obtain ⟨later, hlater, -⟩ := List.mem_map.mp hreach
    refine ⟨sooner, hsooner, ?_⟩
    unfold Walk.check at hlater
    split at hlater
    · rename_i hend
      exact List.isEmpty_iff.mp hend
    · cases hlater
  · rintro ⟨reach, hreach, hrest⟩
    have hend : { cursor := reach.cursor } ∈ Walk.check .textEnd reach.cursor := by
      rw [Walk.check, if_pos (by simp [Look.holds, hrest])]
      exact List.mem_singleton.mpr rfl
    exact List.ne_nil_of_mem (List.mem_flatMap.mpr ⟨reach, hreach, List.mem_map_of_mem hend⟩)

/-! ## Constraints without assertions -/

/-- The constraint is well formed and holds no assertion. -/
def Constraint.Regular (constraint : String) : Prop :=
  Constraint.WellFormed constraint ∧ (treeOf constraint.toList).lookFree = true

/-- Every constraint on a name that the pattern binds is regular. -/
def Pattern.Regular (pattern : Pattern) : Prop :=
  ∀ name ∈ pattern.names, ∀ constraint, pattern.constraints.get? name = some constraint →
    Constraint.Regular constraint

theorem Pattern.Regular.sound {pattern : Pattern} (h : pattern.Regular) : pattern.Sound :=
  fun name hname constraint hget => (h name hname constraint hget).1

/-- A pattern with a single constraint is regular when that is. -/
theorem Pattern.regular_of_single {pattern : Pattern} {name constraint : String}
    (hsingle : pattern.constraints = Keyed.empty.insert name constraint)
    (h : Constraint.Regular constraint) : pattern.Regular := by
  intro other _ found hget
  rw [constraint_of_single hsingle hget]
  exact h

namespace Segment

variable {constraints : Params} {name : String}

theorem value_placeholder (h : constraints.get? name = none) :
    (placeholder name).value constraints = Pattern.slashFree 1 := by
  rw [value, valueSource, h]
  exact Pattern.standalone_requiredValue.treeOf_eq

theorem value_optionalPlaceholder (h : constraints.get? name = none) :
    (optionalPlaceholder name).value constraints = Pattern.slashFree 0 := by
  rw [value, valueSource, h]
  exact Pattern.standalone_optionalValue.treeOf_eq

theorem value_of_constraint {segment : Segment} {constraint : String}
    (hname : segment.name? = some name) (h : constraints.get? name = some constraint) :
    segment.value constraints = treeOf constraint.toList := by
  cases segment with
  | literal text | optionalLiteral text => cases hname
  | placeholder other | optionalPlaceholder other =>
    cases hname
    rw [value, valueSource, h]
    rfl

end Segment

/-- What the segments of a regular pattern take depends on the text of their pieces alone. -/
theorem Pattern.Regular.local_value {pattern : Pattern} (h : pattern.Regular) {segment : Segment}
    (hmem : segment ∈ pattern.segments) :
    Walk.Local (segment.value pattern.constraints).ends := by
  refine local_ends ?_
  -- A segment without a name has the empty value, one with a constraint that, and any other the
  -- class without a slash. None of the three but the constraint could have an assertion.
  cases hname : segment.name? with
  | none =>
    cases segment with
    | literal text | optionalLiteral text =>
      rw [Segment.value, Segment.valueSource, Pattern.standalone_nil.treeOf_eq]
      rfl
    | placeholder name | optionalPlaceholder name => cases hname
  | some name =>
    cases hget : pattern.constraints.get? name with
    | some constraint =>
      rw [Segment.value_of_constraint hname hget]
      exact (h name (List.mem_filterMap.mpr ⟨segment, hmem, hname⟩) constraint hget).2
    | none =>
      cases segment with
      | literal text | optionalLiteral text => cases hname
      | placeholder other =>
        cases hname
        rw [Segment.value_placeholder hget]
        rfl
      | optionalPlaceholder other =>
        cases hname
        rw [Segment.value_optionalPlaceholder hget]
        rfl

/-- The group of a placeholder takes a whole value where it may stand for the parameter. Where nothing
constrains the parameter, the value has no slash, and a required one is not empty. -/
theorem takes_value_iff {pattern : Pattern} (hsound : pattern.Sound) {segment : Segment}
    (hmem : segment ∈ pattern.segments) {name : String} (hname : segment.name? = some name)
    {code : List Char} :
    Walk.Takes (segment.value pattern.constraints).ends none code [] ↔
      Constraint.allows pattern.constraints name code = true ∧
        (pattern.constraints.get? name = none →
          '/' ∉ code ∧ (segment.isOptional = false → code ≠ [])) := by
  -- What a constraint says alone decides; without one the slash is ruled out, and the empty text if
  -- the segment is required.
  cases hget : pattern.constraints.get? name with
  | some constraint =>
    have hwellFormed := hsound name (List.mem_filterMap.mpr ⟨segment, hmem, hname⟩) constraint hget
    rw [Segment.value_of_constraint hname hget, ← admits_iff_takes hwellFormed, Constraint.allows,
      hget]
    exact ⟨fun h => ⟨h, fun hnone => (by cases hnone)⟩, And.left⟩
  | none =>
    rw [Constraint.allows, hget]
    cases segment with
    | literal text | optionalLiteral text => cases hname
    | placeholder other =>
      cases hname
      rw [Segment.value_placeholder hget, takes_slashFree_one]
      exact ⟨fun h => ⟨rfl, fun _ => ⟨h.2, fun _ => h.1⟩⟩, fun h => ⟨(h.2 rfl).2 rfl, (h.2 rfl).1⟩⟩
    | optionalPlaceholder other =>
      cases hname
      rw [Segment.value_optionalPlaceholder hget, takes_slashFree_zero]
      exact ⟨fun h => ⟨rfl, fun _ => ⟨h, fun hrequired => (by cases hrequired)⟩⟩,
        fun h => (h.2 rfl).1⟩

/-- A value that may stand for a parameter is taken by the group of its placeholder. -/
theorem takes_of_allows {pattern : Pattern} (hsound : pattern.Sound) {segment : Segment}
    (hmem : segment ∈ pattern.segments) {name : String} (hname : segment.name? = some name)
    {code : List Char} (hne : segment.isOptional = false → code ≠ []) (hslash : '/' ∉ code)
    (h : Constraint.allows pattern.constraints name code = true) :
    Walk.Takes (segment.value pattern.constraints).ends none code [] :=
  (takes_value_iff hsound hmem hname).mpr ⟨h, fun _ => ⟨hslash, hne⟩⟩

/-- A text that the group of a placeholder takes may stand for the parameter. -/
theorem allows_of_takes {pattern : Pattern} (hsound : pattern.Sound) {segment : Segment}
    (hmem : segment ∈ pattern.segments) {name : String} (hname : segment.name? = some name)
    {code : List Char} (h : Walk.Takes (segment.value pattern.constraints).ends none code []) :
    Constraint.allows pattern.constraints name code = true :=
  ((takes_value_iff hsound hmem hname).mp h).1

/-! ## Splits -/

/-- The readings of a path are its splits into pieces that the segments accept. -/
theorem mem_readings_iff {constraints : Params} {segments : List Segment}
    (hlocal : ∀ segment ∈ segments, Walk.Local (segment.value constraints).ends)
    {cursor : Cursor} {pieces : List Piece} :
    pieces ∈ readings constraints segments cursor ↔
      List.Forall₂ (Segment.Accepts constraints) segments pieces ∧
        cursor.after = pieces.flatMap Piece.chars := by
  -- Segment by segment, for any place: the piece of the first one is cut off in front, and the
  -- place behind it is where the rest is read.
  induction segments generalizing cursor pieces with
  | nil =>
    rw [readings, List.forall₂_nil_left_iff]
    by_cases hafter : cursor.after = []
    · rw [if_pos hafter, List.mem_singleton]
      refine ⟨fun h => ⟨h, by rw [h, hafter]; rfl⟩, And.left⟩
    · rw [if_neg hafter]
      refine ⟨fun h => (by cases h), fun h => absurd ?_ hafter⟩
      rw [h.2, h.1]
      rfl
  | cons segment rest ih =>
    rw [List.forall_mem_cons] at hlocal
    rw [readings, List.mem_flatMap]
    constructor
    · rintro ⟨way, hway, hpieces⟩
      obtain ⟨more, hmore, rfl⟩ := List.mem_map.mp hpieces
      obtain ⟨haccepts, hafter⟩ := accepts_of_mem_ways hlocal.1 hway
      obtain ⟨hrest, hend⟩ := (ih hlocal.2).mp hmore
      exact ⟨.cons haccepts hrest, by rw [hafter, hend, List.flatMap_cons]⟩
    · rintro ⟨haccepts, hafter⟩
      cases haccepts with
      | cons hfirst hrest =>
        rw [List.flatMap_cons] at hafter
        obtain ⟨next, hnext, hend⟩ := exists_way hlocal.1 hfirst hafter
        exact ⟨_, hnext, List.mem_map_of_mem ((ih hlocal.2).mpr ⟨hrest, hend⟩)⟩

theorem forall₂_append_cons {α β : Type} {relation : α → β → Prop} {before after : List α} {item : α}
    {list : List β} (h : List.Forall₂ relation (before ++ item :: after) list) :
    ∃ first other rest, list = first ++ other :: rest ∧ List.Forall₂ relation before first ∧
      relation item other ∧ List.Forall₂ relation after rest := by
  induction before generalizing list with
  | nil =>
    cases h with
    | cons hitem hrest => exact ⟨[], _, _, rfl, .nil, hitem, hrest⟩
  | cons head before ih =>
    cases h with
    | cons hhead hmore =>
      obtain ⟨first, other, rest, rfl, hbefore, hitem, hafter⟩ := ih hmore
      exact ⟨_ :: first, other, rest, rfl, .cons hhead hbefore, hitem, hafter⟩

/-! ## The first reading -/

/-- A way leads on when the rest of the segments can be read from its end. -/
def LeadsOn (constraints : Params) (rest : List Segment) (way : Piece × Cursor) : Prop :=
  readings constraints rest way.2 ≠ []

section

variable {constraints : Params} {segment : Segment} {rest : List Segment}

/-- A place leads on when what stands there splits into pieces that the rest accepts. -/
theorem leadsOn_of_accepts (hlocal : ∀ later ∈ rest, Walk.Local (later.value constraints).ends)
    {pieces : List Piece} (haccepts : List.Forall₂ (Segment.Accepts constraints) rest pieces)
    {next : Cursor} (hnext : next.after = pieces.flatMap Piece.chars) (piece : Piece) :
    LeadsOn constraints rest (piece, next) :=
  List.ne_nil_of_mem ((mem_readings_iff hlocal).mpr ⟨haccepts, hnext⟩)

/-- A way that leads on splits what is left into its own piece and pieces of the rest. -/
theorem split_of_leadsOn
    (hlocal : ∀ later ∈ segment :: rest, Walk.Local (later.value constraints).ends)
    {cursor : Cursor} {way : Piece × Cursor} (hway : way ∈ segment.ways constraints cursor)
    (hleads : LeadsOn constraints rest way) :
    segment.Accepts constraints way.1 ∧ cursor.after = way.1.chars ++ way.2.after ∧
      ∃ pieces, List.Forall₂ (Segment.Accepts constraints) rest pieces ∧
        way.2.after = pieces.flatMap Piece.chars := by
  rw [List.forall_mem_cons] at hlocal
  obtain ⟨haccepts, hsplit⟩ := accepts_of_mem_ways hlocal.1 hway
  obtain ⟨pieces, hpieces⟩ := List.exists_mem_of_ne_nil _ hleads
  exact ⟨haccepts, hsplit, pieces, (mem_readings_iff hlocal.2).mp hpieces⟩

end

/-- The first reading goes by the first way that leads on. -/
theorem head?_readings_cons {constraints : Params} {segment : Segment} {rest : List Segment}
    {cursor : Cursor} {pieces : List Piece}
    (h : (readings constraints (segment :: rest) cursor).head? = some pieces) :
    ∃ before way later, segment.ways constraints cursor = before ++ way :: later ∧
      (∀ other ∈ before, ¬ LeadsOn constraints rest other) ∧ LeadsOn constraints rest way ∧
        ∃ more, (readings constraints rest way.2).head? = some more ∧ pieces = way.1 :: more := by
  rw [readings, List.head?_flatMap, List.findSome?_eq_some_iff] at h
  obtain ⟨before, way, later, hways, hway, hbefore⟩ := h
  rw [List.head?_map, Option.map_eq_some_iff] at hway
  obtain ⟨more, hmore, rfl⟩ := hway
  refine ⟨before, way, later, hways, fun other hother hleads => ?_, ?_, more, hmore, rfl⟩
  · have hnone := hbefore other hother
    rw [List.head?_map, Option.map_eq_none_iff, List.head?_eq_none_iff] at hnone
    exact hleads hnone
  · intro hnil
    rw [hnil] at hmore
    cases hmore

end Switchyard
