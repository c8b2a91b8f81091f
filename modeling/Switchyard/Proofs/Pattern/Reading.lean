import Mathlib.Data.List.Forall2
import Switchyard.Proofs.Pattern.Tree
import Switchyard.Proofs.Regex.Surroundings

/-!
# Readings of a path

A path is read segment by segment. `Segment.ways` lists what one segment may take at a place, the
preferred way first, and `readings` lists the ways of all segments to the end of the path.
`captures?_eq_readings` is the main statement: a sound pattern with a program takes from a path
exactly what the first reading gives to its placeholders. Everything that is said about matching
goes by readings from there on, and the regular expression is not looked at again.
-/

namespace Switchyard

open Regex

/-! ## Places -/

namespace Regex.Cursor

/-- The place after a text, where the text stands. -/
def past? (cursor : Cursor) : List Char → Option Cursor
  | [] => some cursor
  | c :: text => (cursor.step? (· == c)).bind fun place => place.past? text

/-- The text between two places. -/
def taken (cursor next : Cursor) : List Char :=
  cursor.after.take (cursor.after.length - next.after.length)

theorem after_of_past? {cursor next : Cursor} {text : List Char}
    (h : cursor.past? text = some next) : cursor.after = text ++ next.after := by
  induction text generalizing cursor with
  | nil =>
    cases h
    rfl
  | cons c text ih =>
    obtain ⟨place, hplace, hnext⟩ := Option.bind_eq_some_iff.mp h
    obtain ⟨d, rest, hafter, hsame, rfl⟩ := step?_eq_some hplace
    rw [hafter, beq_iff_eq.mp hsame, List.cons_append, ← ih hnext]

theorem past?_of_after {cursor : Cursor} {text rest : List Char}
    (h : cursor.after = text ++ rest) : ∃ next, cursor.past? text = some next ∧ next.after = rest := by
  induction text generalizing cursor with
  | nil => exact ⟨cursor, rfl, h⟩
  | cons c text ih =>
    obtain ⟨next, hnext, hrest⟩ := @ih ⟨some c, text ++ rest⟩ rfl
    have hstep : cursor.step? (· == c) = some ⟨some c, text ++ rest⟩ := by
      simp [step?, h]
    exact ⟨next, by rw [past?, hstep]; exact hnext, hrest⟩

theorem taken_of_after {cursor next : Cursor} {text : List Char}
    (h : cursor.after = text ++ next.after) : cursor.taken next = text := by
  rw [taken, h, List.length_append, Nat.add_sub_cancel, List.take_left]

end Regex.Cursor

/-! ## Ways of a segment -/

/-- What one segment takes from a path: whether its slash stands there, and the text after it. -/
structure Piece where
  slash : Bool
  text : List Char
  deriving Repr, DecidableEq

/-- The characters of the piece in the path. -/
def Piece.chars (piece : Piece) : List Char := if piece.slash then '/' :: piece.text else piece.text

namespace Segment

/-- A slash taken or left out, the slash preferred. -/
def slashWays (cursor : Cursor) : List (Bool × Cursor) :=
  ((cursor.past? ['/']).toList.map fun place => (true, place)) ++ [(false, cursor)]

/-- The texts that a pattern may take at a place, with the place after each. -/
def texts (tree : Regex) (cursor : Cursor) : List (List Char × Cursor) :=
  (tree.ends cursor).map fun reach => (cursor.taken reach.cursor, reach.cursor)

/-- What the segment may take at a place and where that leads, the preferred way first. -/
def ways (constraints : Params) (segment : Segment) (cursor : Cursor) : List (Piece × Cursor) :=
  match segment with
  | literal text =>
    let code := Percent.encodeChars text.toList
    (cursor.past? ('/' :: code)).toList.map fun next => (⟨true, code⟩, next)
  | optionalLiteral text =>
    let code := Percent.encodeChars text.toList
    (slashWays cursor).flatMap fun slash =>
      ((slash.2.past? code).toList.map fun next => (⟨slash.1, code⟩, next)) ++
        [(⟨slash.1, []⟩, slash.2)]
  | placeholder _ =>
    (cursor.past? ['/']).toList.flatMap fun place =>
      (texts (segment.value constraints) place).map fun found => (⟨true, found.1⟩, found.2)
  | optionalPlaceholder _ =>
    (slashWays cursor).flatMap fun slash =>
      (texts (segment.value constraints) slash.2).map fun found => (⟨slash.1, found.1⟩, found.2)

end Segment

/-- The ways of the segments through a path to its end, the preferred one first. -/
def readings (constraints : Params) : List Segment → Cursor → List (List Piece)
  | [], cursor => if cursor.after = [] then [[]] else []
  | segment :: rest, cursor =>
    (segment.ways constraints cursor).flatMap fun way =>
      (readings constraints rest way.2).map (way.1 :: ·)

/-- The names of the placeholders with the texts of their pieces, where those are not empty. -/
def boundBy : List Segment → List Piece → List (String × List Char)
  | segment :: rest, piece :: pieces =>
    match segment.name? with
    | some name =>
      if piece.text = [] then boundBy rest pieces else (name, piece.text) :: boundBy rest pieces
    | none => boundBy rest pieces
  | _, _ => []

/-! ## Marks -/

namespace Regex.Path

variable {path more : Path} {name : List Char}

theorem last?_append_left (h : ∀ mark ∈ more, mark.name ≠ name) (opens : Bool) :
    Path.last? (path ++ more) name opens = Path.last? path name opens := by
  have hnil : more.filter (fun mark => mark.name = name && mark.opens = opens) = [] :=
    List.filter_eq_nil_iff.mpr fun mark hmem => by simp [h mark hmem]
  rw [Path.last?, List.filter_append, hnil, List.append_nil]
  rfl

theorem last?_append_right (h : ∀ mark ∈ path, mark.name ≠ name) (opens : Bool) :
    Path.last? (path ++ more) name opens = Path.last? more name opens := by
  have hnil : path.filter (fun mark => mark.name = name && mark.opens = opens) = [] :=
    List.filter_eq_nil_iff.mpr fun mark hmem => by simp [h mark hmem]
  rw [Path.last?, List.filter_append, hnil, List.nil_append]
  rfl

/-- Marks of other groups make no difference to what a group took. -/
theorem captured?_append_left (h : ∀ mark ∈ more, mark.name ≠ name) :
    Path.captured? (path ++ more) name = Path.captured? path name := by
  simp only [Path.captured?, last?_append_left h]

theorem captured?_append_right (h : ∀ mark ∈ path, mark.name ≠ name) :
    Path.captured? (path ++ more) name = Path.captured? more name := by
  simp only [Path.captured?, last?_append_right h]

/-- A group with a name of its own took what stands between its two marks. -/
theorem captured?_named (h : ∀ mark ∈ path, mark.name ≠ name) (opened closed : List Char) :
    Path.captured? (⟨name, true, opened⟩ :: path ++ [⟨name, false, closed⟩]) name =
      some (opened.take (opened.length - closed.length)) := by
  have hnil : ∀ opens, path.filter (fun mark => mark.name = name && mark.opens = opens) = [] :=
    fun opens => List.filter_eq_nil_iff.mpr fun mark hmem => by simp [h mark hmem]
  have hopened : Path.last? (⟨name, true, opened⟩ :: path ++ [⟨name, false, closed⟩]) name true =
      some opened := by
    simp only [Path.last?, List.cons_append, List.filter_cons, List.filter_append, hnil]
    simp
  have hclosed : Path.last? (⟨name, true, opened⟩ :: path ++ [⟨name, false, closed⟩]) name false =
      some closed := by
    simp only [Path.last?, List.cons_append, List.filter_cons, List.filter_append, hnil]
    simp
  rw [Path.captured?, hopened, hclosed]

end Regex.Path

/-! ## Walks of the units -/

/-- After a walk that makes no marks, the next one starts from each of its places. -/
theorem andThen_of_places {first second : Walk} {cursor : Cursor} {places : List Cursor}
    (h : first cursor = places.map fun place => { cursor := place }) :
    first.andThen second cursor = places.flatMap second := by
  have hextend : ∀ place, (second place).map (Reach.extend { cursor := place }) = second place :=
    fun place => List.map_id (second place)
  rw [Walk.andThen, h, List.flatMap_map]
  simp only [hextend]

theorem inOrder_letters (text : List Char) (cursor : Cursor) :
    Walk.inOrder ((letters text).map ends) cursor =
      (cursor.past? text).toList.map fun place => { cursor := place } := by
  induction text generalizing cursor with
  | nil => rfl
  | cons c text ih =>
    have hstep : (Regex.set (.single c)).ends cursor =
        (cursor.step? (· == c)).toList.map fun place => { cursor := place } := by
      rw [ends_single, Walk.plain, Walk.take, List.map_map]
      rfl
    show (Regex.set (.single c)).ends.andThen (Walk.inOrder ((letters text).map ends)) cursor = _
    rw [andThen_of_places hstep, Cursor.past?]
    cases cursor.step? (· == c) with
    | none => rfl
    | some place => simp [ih]

/-- An item that may be absent is taken or passed over. -/
theorem ends_maybe (item : Regex) : (maybe item).ends = item.ends.orElse .stay := by
  have hbounds : bounds 0 (some 1) item = (0, some 1) := by
    unfold bounds
    split <;> rfl
  have hform : Form.ofRegex (maybe item) = .repeats 0 (some 1) true (Form.ofRegex item) := by
    show Form.repetition (bounds 0 (some 1) item).1 (bounds 0 (some 1) item).2 true _ = _
    rw [hbounds]
    rfl
  have hwalk : (Form.ofRegex (maybe item)).walk =
      Walk.stay.both (Walk.optional true ((Form.ofRegex item).walk.both .stay)) := by
    rw [hform]
    rfl
  rw [ends, hwalk, Walk.plain_both, Walk.plain_optional, Walk.plain_both, Walk.plain_stay,
    Walk.stay_andThen, Walk.andThen_stay]
  rfl

theorem ends_slash (cursor : Cursor) :
    slash.ends cursor = (cursor.past? ['/']).toList.map fun place => { cursor := place } := by
  have hletters := inOrder_letters ['/'] cursor
  rw [letters, List.map_cons, List.map_nil, List.map_cons, List.map_nil, Walk.inOrder_cons] at hletters
  rw [← hletters]
  exact (congrFun (Walk.andThen_stay slash.ends) cursor).symm

theorem ends_maybe_slash (cursor : Cursor) :
    (maybe slash).ends cursor =
      ((Segment.slashWays cursor).map Prod.snd).map fun place => { cursor := place } := by
  rw [ends_maybe, Walk.orElse, ends_slash, Segment.slashWays]
  simp [Walk.stay]

theorem forall₂_flatMap {α β γ : Type} {relation : β → γ → Prop} {list : List α}
    {left : α → List β} {right : α → List γ}
    (h : ∀ item ∈ list, List.Forall₂ relation (left item) (right item)) :
    List.Forall₂ relation (list.flatMap left) (list.flatMap right) := by
  induction list with
  | nil => exact .nil
  | cons item list ih =>
    rw [List.forall_mem_cons] at h
    exact List.rel_append h.1 (ih h.2)

/-- A way of a segment beside the way of the unit's tree: they come to the same place, and the
group of a placeholder took the text of the piece. -/
structure Follows (constraints : Params) (index : Nat) (segment : Segment)
    (way : Piece × Cursor) (reach : Reach) : Prop where
  place : reach.cursor = way.2
  names : ∀ mark ∈ reach.path, mark.name ∈ (segment.items constraints index).flatMap groupNames
  captured : segment.name?.isSome = true →
    Path.captured? reach.path (Pattern.groupName index) = some way.1.text

section

variable {constraints : Params} {index : Nat}

/-- The segments without a placeholder make no marks. -/
theorem Follows.of_unmarked {segment : Segment} (h : segment.name? = none) (piece : Piece)
    (place : Cursor) : Follows constraints index segment (piece, place) { cursor := place } where
  place := rfl
  names mark hmem := by cases hmem
  captured hname := by
    rw [h] at hname
    cases hname

theorem groupNames_placeholder (name : String) :
    ((Segment.placeholder name).items constraints index).flatMap groupNames =
      Pattern.groupName index :: ((Segment.placeholder name).value constraints).groupNames := by
  simp [Segment.items, groupNames, slash, Grouping.name?]

theorem groupNames_optionalPlaceholder (name : String) :
    ((Segment.optionalPlaceholder name).items constraints index).flatMap groupNames =
      Pattern.groupName index ::
        ((Segment.optionalPlaceholder name).value constraints).groupNames := by
  simp [Segment.items, groupNames, maybe, slash, Grouping.name?]

/-- The ways of a placeholder's group are the texts that it may take. -/
theorem follows_group {segment : Segment} {slash : Bool} (place : Cursor)
    (hitems : (segment.items constraints index).flatMap groupNames =
      Pattern.groupName index :: (segment.value constraints).groupNames)
    (hnodup : ((segment.items constraints index).flatMap groupNames).Nodup) :
    List.Forall₂ (Follows constraints index segment)
      ((Segment.texts (segment.value constraints) place).map
        fun found => (⟨slash, found.1⟩, found.2))
      ((Regex.group (.named (Pattern.groupName index)) (segment.value constraints)).ends place) := by
  rw [hitems, List.nodup_cons] at hnodup
  rw [Segment.texts, List.map_map, List.forall₂_map_left_iff, ends_group]
  show List.Forall₂ _ _ (Walk.named (Pattern.groupName index) _ place)
  rw [Walk.named, List.forall₂_map_right_iff, List.forall₂_same]
  intro reach hreach
  have hmarks : ∀ mark ∈ reach.path, mark.name ∈ (segment.value constraints).groupNames :=
    fun mark hmark => mem_groupNames_of_mem_path hreach hmark
  refine ⟨rfl, fun mark hmem => ?_, fun _ => ?_⟩
  · rw [hitems, List.mem_cons]
    simp only [Reach.marked, List.cons_append, List.mem_cons, List.mem_append, List.not_mem_nil,
      or_false] at hmem
    rcases hmem with rfl | hmem | rfl
    · exact .inl rfl
    · exact .inr (hmarks mark hmem)
    · exact .inl rfl
  -- No group inside has the name, so the outer marks are the only ones.
  · refine Path.captured?_named (fun mark hmem heq => hnodup.1 ?_) place.after reach.cursor.after
    rw [← heq]
    exact hmarks mark hmem

/-- The unit of a segment walks as the segment's ways say, in their order. -/
theorem follows_unit (segment : Segment)
    (hnodup : ((segment.items constraints index).flatMap groupNames).Nodup) (cursor : Cursor) :
    List.Forall₂ (Follows constraints index segment) (segment.ways constraints cursor)
      (Walk.inOrder ((segment.items constraints index).map ends) cursor) := by
  -- One case for each kind of segment: the ways of its items are those of a slash, or of a slash or
  -- none, and then of its text.
  cases segment with
  | literal text =>
    have hitems : (Segment.literal text).items constraints index =
        letters ('/' :: Percent.encodeChars text.toList) := rfl
    rw [hitems, inOrder_letters, Segment.ways, List.forall₂_map_left_iff,
      List.forall₂_map_right_iff, List.forall₂_same]
    exact fun place _ => .of_unmarked rfl _ place
  | optionalLiteral text =>
    have hitems : Walk.inOrder (((Segment.optionalLiteral text).items constraints index).map ends) =
        (maybe slash).ends.andThen (maybe (Regex.group .plain
          (sequence (letters (Percent.encodeChars text.toList))))).ends := by
      simp only [Segment.items, List.map_cons, List.map_nil, Walk.inOrder_cons]
      exact congrArg _ (Walk.andThen_stay _)
    rw [hitems, andThen_of_places (ends_maybe_slash cursor), List.flatMap_map, Segment.ways]
    refine forall₂_flatMap fun slash _ => ?_
    have hletters : (Regex.group .plain
        (sequence (letters (Percent.encodeChars text.toList)))).ends slash.2 =
        (slash.2.past? (Percent.encodeChars text.toList)).toList.map
          fun place => { cursor := place } := by
      rw [ends_group, ← inOrder_letters, ← ends_sequence]
      rfl
    rw [ends_maybe, Walk.orElse, hletters]
    refine List.rel_append ?_ (.cons (.of_unmarked rfl _ slash.2) .nil)
    rw [List.forall₂_map_left_iff, List.forall₂_map_right_iff, List.forall₂_same]
    exact fun place _ => .of_unmarked rfl _ place
  | placeholder name =>
    have hitems : Walk.inOrder (((Segment.placeholder name).items constraints index).map ends) =
        slash.ends.andThen (Regex.group (.named (Pattern.groupName index))
          ((Segment.placeholder name).value constraints)).ends := by
      simp only [Segment.items, List.map_cons, List.map_nil, Walk.inOrder_cons]
      exact congrArg _ (Walk.andThen_stay _)
    rw [hitems, andThen_of_places (ends_slash cursor), Segment.ways]
    exact forall₂_flatMap fun place _ => follows_group place (groupNames_placeholder name) hnodup
  | optionalPlaceholder name =>
    have hitems : Walk.inOrder
        (((Segment.optionalPlaceholder name).items constraints index).map ends) =
        (maybe slash).ends.andThen (Regex.group (.named (Pattern.groupName index))
          ((Segment.optionalPlaceholder name).value constraints)).ends := by
      simp only [Segment.items, List.map_cons, List.map_nil, Walk.inOrder_cons]
      exact congrArg _ (Walk.andThen_stay _)
    rw [hitems, andThen_of_places (ends_maybe_slash cursor), List.flatMap_map, Segment.ways]
    exact forall₂_flatMap fun slash _ =>
      follows_group slash.2 (groupNames_optionalPlaceholder name) hnodup

end

/-! ## The whole pattern -/

theorem bindings_congr {path other : Path} {index : Nat} {names : List String}
    (h : ∀ place, index ≤ place → place < index + names.length →
      Path.captured? path (Pattern.groupName place) =
        Path.captured? other (Pattern.groupName place)) :
    Pattern.bindings path index names = Pattern.bindings other index names := by
  induction names generalizing index with
  | nil => rfl
  | cons name names ih =>
    simp only [List.length_cons] at h
    rw [Pattern.bindings, Pattern.bindings, h index (by omega) (by omega),
      ih fun place hlow hhigh => h place (by omega) (by omega)]

theorem groupName_mem_items {constraints : Params} {index : Nat} {segment : Segment}
    (h : segment.name?.isSome = true) :
    Pattern.groupName index ∈ (segment.items constraints index).flatMap groupNames := by
  cases segment with
  | literal text | optionalLiteral text => cases h
  | placeholder name =>
    rw [groupNames_placeholder]
    exact List.mem_cons_self
  | optionalPlaceholder name =>
    rw [groupNames_optionalPlaceholder]
    exact List.mem_cons_self

/-- Every placeholder's group is among the groups of the units, under its own position. -/
theorem groupName_mem_unitItems {constraints : Params} {segments : List Segment} {index place : Nat}
    (hlow : index ≤ place) (hhigh : place < index + (segments.filterMap Segment.name?).length) :
    Pattern.groupName place ∈
      (Pattern.unitItems constraints index segments).flatMap groupNames := by
  -- Induction on the segments with the number of the first placeholder general.
  induction segments generalizing index with
  | nil =>
    simp only [List.filterMap_nil, List.length_nil] at hhigh
    omega
  | cons segment rest ih =>
    rw [Pattern.unitItems, List.flatMap_append, List.mem_append]
    cases hname : segment.name? with
    | none =>
      rw [List.filterMap_cons_none hname] at hhigh
      refine .inr (ih ?_ ?_) <;> simp only [Segment.nextIndex, hname, Option.isSome_none] <;>
        simpa
    | some name =>
      rw [List.filterMap_cons_some hname, List.length_cons] at hhigh
      rcases Nat.eq_or_lt_of_le hlow with rfl | hlt
      · exact .inl (groupName_mem_items (by rw [hname]; rfl))
      · refine .inr (ih ?_ ?_) <;>
          simp only [Segment.nextIndex, hname, Option.isSome_some, if_true] <;> omega

/-- A reading beside the way of the units' trees. -/
structure FollowsAll (constraints : Params) (index : Nat) (segments : List Segment)
    (pieces : List Piece) (reach : Reach) : Prop where
  names : ∀ mark ∈ reach.path,
    mark.name ∈ (Pattern.unitItems constraints index segments).flatMap groupNames
  bound : Pattern.bindings reach.path index (segments.filterMap Segment.name?) =
    boundBy segments pieces

/-- One more segment in front: its marks and those of the others do not meddle. -/
theorem FollowsAll.cons {constraints : Params} {index : Nat} {segment : Segment}
    {rest : List Segment} {way : Piece × Cursor} {reach later : Reach} {pieces : List Piece}
    (hnodup : ((Pattern.unitItems constraints index (segment :: rest)).flatMap groupNames).Nodup)
    (hway : Follows constraints index segment way reach)
    (hlater : FollowsAll constraints (segment.nextIndex index) rest pieces later) :
    FollowsAll constraints index (segment :: rest) (way.1 :: pieces) (reach.extend later) := by
  rw [Pattern.unitItems, List.flatMap_append] at hnodup
  -- The groups of different units have different names, so each is looked up in its own unit.
  have hdisjoint := (List.nodup_append.mp hnodup).2.2
  have hleft : ∀ place, Pattern.groupName place ∈ (Pattern.unitItems constraints
      (segment.nextIndex index) rest).flatMap groupNames →
      Path.captured? (reach.path ++ later.path) (Pattern.groupName place) =
        Path.captured? later.path (Pattern.groupName place) := fun place hmem =>
    Path.captured?_append_right fun mark hmark heq =>
      hdisjoint mark.name (hway.names mark hmark) (Pattern.groupName place) hmem heq
  have hrest : Pattern.bindings (reach.path ++ later.path) (segment.nextIndex index)
      (rest.filterMap Segment.name?) = boundBy rest pieces := by
    rw [← hlater.bound]
    exact bindings_congr fun place hlow hhigh => hleft place (groupName_mem_unitItems hlow hhigh)
  refine ⟨fun mark hmem => ?_, ?_⟩
  · rw [Pattern.unitItems, List.flatMap_append]
    rcases List.mem_append.mp hmem with hmem | hmem
    · exact List.mem_append_left _ (hway.names mark hmem)
    · exact List.mem_append_right _ (hlater.names mark hmem)
  · show Pattern.bindings (reach.path ++ later.path) index _ = _
    -- A literal binds nothing and takes no number.
    cases hname : segment.name? with
    | none =>
      have hindex : segment.nextIndex index = index := by simp [Segment.nextIndex, hname]
      rw [hindex] at hrest
      rw [List.filterMap_cons_none hname, hrest, boundBy, hname]
    | some name =>
      have hindex : segment.nextIndex index = index + 1 := by simp [Segment.nextIndex, hname]
      rw [hindex] at hrest
      have hsome : segment.name?.isSome = true := by rw [hname]; rfl
      have hcaptured : Path.captured? (reach.path ++ later.path) (Pattern.groupName index) =
          some way.1.text := by
        rw [← hway.captured hsome]
        exact Path.captured?_append_left fun mark hmark heq =>
          hdisjoint (Pattern.groupName index) (groupName_mem_items hsome) mark.name
            (hlater.names mark hmark) heq.symm
      rw [List.filterMap_cons_some hname, Pattern.bindings, hcaptured, hrest, boundBy, hname]
      rcases way.1.text with _ | ⟨c, text⟩ <;> rfl

/-- The units walk through a path as the readings say, in their order. -/
theorem follows_units {constraints : Params} {segments : List Segment} {index : Nat}
    (hnodup : ((Pattern.unitItems constraints index segments).flatMap groupNames).Nodup)
    (cursor : Cursor) :
    List.Forall₂ (FollowsAll constraints index segments) (readings constraints segments cursor)
      (Walk.inOrder
        ((Pattern.unitItems constraints index segments ++ [Regex.look .textEnd]).map ends)
        cursor) := by
  -- Unit by unit: the ways of the first unit go side by side, and so do, behind each of them, the
  -- readings of the rest.
  induction segments generalizing index cursor with
  | nil =>
    have hend : Walk.inOrder ((Pattern.unitItems constraints index [] ++
        [Regex.look .textEnd]).map ends) cursor =
        if cursor.after = [] then [{ cursor := cursor }] else [] := by
      show (Regex.look .textEnd).ends.andThen .stay cursor = _
      rw [Walk.andThen_stay, ends_look, Walk.check, Look.holds]
      simp [Walk.stay]
    rw [hend, readings]
    split
    · exact .cons ⟨fun mark hmem => (by cases hmem), rfl⟩ .nil
    · exact .nil
  | cons segment rest ih =>
    have hboth := hnodup
    rw [Pattern.unitItems, List.flatMap_append, List.nodup_append] at hboth
    rw [readings, Pattern.unitItems, List.append_assoc, List.map_append, Walk.inOrder_append,
      Walk.andThen]
    refine List.rel_flatMap (follows_unit segment hboth.1 cursor) fun way reach hway => ?_
    rw [List.forall₂_map_left_iff, List.forall₂_map_right_iff, hway.place]
    exact (ih hboth.2.1 way.2).imp fun pieces later hlater => .cons hnodup hway hlater

/-- A sound pattern with a program takes from a path what its first reading says. -/
theorem captures?_eq_readings {pattern : Pattern} (hsound : pattern.Sound) {program : Regex}
    (hprogram : pattern.program? = some program) (path : List Char) :
    pattern.captures? program path =
      (readings pattern.constraints pattern.segments (Cursor.start path)).head?.map
        (boundBy pattern.segments) := by
  obtain ⟨rfl, hnames, -⟩ := Pattern.program_eq_tree hsound hprogram
  rw [Pattern.groupNames_tree] at hnames
  have hfollows := follows_units hnames (Cursor.start path)
  rw [Pattern.captures?, search?_eq_firstPath?, Pattern.tree, List.cons_append,
    firstPath?_textStart]
  -- The readings and the ways go side by side, and both sides ask for the first.
  generalize readings pattern.constraints pattern.segments (Cursor.start path) = found at hfollows ⊢
  generalize Walk.inOrder ((Pattern.unitItems pattern.constraints 0 pattern.segments ++
    [Regex.look .textEnd]).map ends) (Cursor.start path) = reaches at hfollows ⊢
  cases hfollows with
  | nil => rfl
  | cons hfirst _ => exact congrArg some hfirst.bound

end Switchyard
