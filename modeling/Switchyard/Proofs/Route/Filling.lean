import Switchyard.Proofs.Route.Assembly

/-!
# The first reading of an assembled path

An assembled path can be read as it was put together, and often in other ways too, since an optional
segment may leave out its slash, its text or both. Matching takes the first reading. `InOrder` says
when that is the assembled one (`head?_readings_given`): optional segments are kept from the left on,
or yield to the required segment behind them, and a value is what its constraint prefers wherever the
segments behind it leave a choice. Everywhere else the slashes of the path leave none: a required
segment takes one, so none is left over.
-/

namespace Switchyard

open Regex

/-! ## Preferred texts -/

/-- From a place where the text stands as a whole segment, the pattern's preferred way takes the text
and no more. -/
def Regex.Prefers (tree : Regex) (text : List Char) : Prop :=
  ∀ before rest, SegmentEnds rest →
    (tree.ends ⟨before, text ++ rest⟩).head?.map (fun reach => reach.cursor.after) = some rest

/-- After the `a` this loop could take the `b` in a second turn, but it has passed the place of the `b`
without taking it, and leaves instead. -/
example : ((treeOf "(?:a?b??)+".toList).ends ⟨some '/', "ab".toList⟩).map Reach.cursor =
    [⟨some 'a', ['b']⟩, ⟨some 'b', []⟩, ⟨some '/', ['a', 'b']⟩] := by cbv

theorem head?_runs_notSlash {text rest : List Char} (hslash : '/' ∉ text) (hrest : SegmentEnds rest)
    (before : Option Char) :
    (Walk.runs notSlash ⟨before, text ++ rest⟩).head?.map
      (fun reach => reach.cursor.after) = some rest := by
  -- A run is greedy, so its first way takes one character more as long as there is one, and it
  -- stops at the slash.
  induction text generalizing before with
  | nil =>
    have hstep : (⟨before, rest⟩ : Cursor).step? notSlash = none := by
      rcases rest with _ | ⟨c, rest⟩
      · rfl
      · rw [hrest c rfl]
        rfl
    rw [List.nil_append, Walk.runs_eq, hstep]
    rfl
  | cons c text ih =>
    rw [List.mem_cons, not_or] at hslash
    have hstep : (⟨before, c :: text ++ rest⟩ : Cursor).step? notSlash =
        some ⟨some c, text ++ rest⟩ := by
      simp [Cursor.step?, (notSlash_iff c).mpr (Ne.symm hslash.1)]
    rw [Walk.runs_eq, hstep, Option.toList_some, List.flatMap_singleton, List.head?_append]
    have hhead := ih hslash.2 (some c)
    cases hruns : (Walk.runs notSlash ⟨some c, text ++ rest⟩).head? with
    | none =>
      rw [hruns] at hhead
      cases hhead
    | some reach =>
      rw [hruns] at hhead
      exact hhead

theorem prefers_slashFree_zero {text : List Char} (hslash : '/' ∉ text) :
    (Pattern.slashFree 0).Prefers text := by
  intro before rest hrest
  rw [ends_slashFree_zero]
  exact head?_runs_notSlash hslash hrest before

theorem prefers_slashFree_one {text : List Char} (hne : text ≠ []) (hslash : '/' ∉ text) :
    (Pattern.slashFree 1).Prefers text := by
  intro before rest hrest
  rcases text with _ | ⟨c, text⟩
  · exact absurd rfl hne
  · rw [List.mem_cons, not_or] at hslash
    have hstep : (⟨before, c :: text ++ rest⟩ : Cursor).step? notSlash =
        some ⟨some c, text ++ rest⟩ := by
      simp [Cursor.step?, (notSlash_iff c).mpr (Ne.symm hslash.1)]
    rw [ends_slashFree_one, hstep, Option.toList_some, List.flatMap_singleton]
    exact head?_runs_notSlash hslash.2 hrest (some c)

/-! ## Filling from the left -/

/-- What follows a segment leaves it a choice where to end: an optional segment comes next, or one
further on is kept. -/
def Contested (values : Params) (rest : List Segment) : Prop :=
  (∃ next ∈ rest.head?, next.isOptional = true) ∨
    ∃ later ∈ rest, later.isOptional = true ∧ (later.given values).slash = true

/-- The segment cannot stand in for the one behind it, which is required: it takes no slash, and not
the text that was given for that one. -/
def Yields (constraints values : Params) (segment : Segment) (rest : List Segment) : Prop :=
  ∃ next ∈ rest.head?, next.isOptional = false ∧
    ∀ text, segment.Accepts constraints ⟨true, text⟩ → '/' ∉ text ∧ text ≠ (next.given values).text

/-- After an optional segment that is left out no other is kept, unless it yields to a required one,
and a value that is contested is the one that its constraint prefers. -/
def InOrder (constraints values : Params) : List Segment → Prop
  | [] => True
  | segment :: rest =>
    (segment.isOptional = true → (segment.given values).slash = false →
      (∀ later ∈ rest, later.isOptional = true → (later.given values).slash = false) ∨
        Yields constraints values segment rest) ∧
    (Contested values rest → ∀ name value constraint, segment.name? = some name →
      values.get? name = some value → constraints.get? name = some constraint →
      (treeOf constraint.toList).Prefers (Percent.encodeChars value.toList)) ∧
    InOrder constraints values rest

/-- Required segments alone leave no choice. -/
theorem inOrder_of_required {constraints values : Params} {segments : List Segment}
    (h : ∀ segment ∈ segments, segment.isOptional = false) : InOrder constraints values segments := by
  induction segments with
  | nil => trivial
  | cons segment rest ih =>
    rw [List.forall_mem_cons] at h
    refine ⟨fun hoptional => ?_, fun hcontested => ?_, ih h.2⟩
    · rw [h.1] at hoptional
      cases hoptional
    · rcases hcontested with ⟨next, hnext, hoptional⟩ | ⟨later, hlater, hoptional, -⟩
      · rw [h.2 next (List.mem_of_head? hnext)] at hoptional
        cases hoptional
      · rw [h.2 later hlater] at hoptional
        cases hoptional

/-! ## Counting slashes -/

section

variable {constraints values : Params} {segment : Segment} {rest : List Segment}

/-- The number of segments that cannot do without a slash. -/
def requiredCount (segments : List Segment) : Nat :=
  segments.countP fun segment => !segment.isOptional

theorem count_text {piece : Piece} (h : piece.Whole) : piece.text.count '/' = 0 := by
  cases h with
  | absent => rfl
  | present hne hslash => exact List.count_eq_zero.mpr hslash

/-- A text that segments can be read from has a slash for every required one. -/
theorem requiredCount_le {segments : List Segment} {pieces : List Piece}
    (h : List.Forall₂ (Segment.Accepts constraints) segments pieces) :
    requiredCount segments ≤ (pieces.flatMap Piece.chars).count '/' := by
  induction h with
  | nil => exact Nat.zero_le _
  | @cons segment piece segments pieces hfirst hrest ih =>
    rw [requiredCount, List.countP_cons, ← requiredCount, List.flatMap_cons, List.count_append,
      count_chars]
    cases hoptional : segment.isOptional with
    | true =>
      simp only [Bool.not_true, Bool.false_eq_true, if_false]
      omega
    | false =>
      simp only [slash_of_required hfirst hoptional, Bool.not_false, if_true]
      omega

/-- What is given by segments of which no optional one is kept has no slash to spare. -/
theorem count_given {segments : List Segment}
    (hwhole : ∀ segment ∈ segments, (segment.given values).Whole)
    (hskipped : ∀ segment ∈ segments, segment.isOptional = true →
      (segment.given values).slash = false) :
    ((segments.map (Segment.given values)).flatMap Piece.chars).count '/' ≤
      requiredCount segments := by
  -- A required segment is given at most one slash, and an optional one none.
  induction segments with
  | nil => exact Nat.le_refl _
  | cons segment rest ih =>
    rw [List.forall_mem_cons] at hwhole hskipped
    have hrest := ih hwhole.2 hskipped.2
    rw [requiredCount, List.countP_cons, ← requiredCount, List.map_cons, List.flatMap_cons,
      List.count_append, count_chars, count_text hwhole.1]
    cases hoptional : segment.isOptional with
    | true =>
      rw [hskipped.1 hoptional]
      simpa using hrest
    | false =>
      simp only [Bool.not_false, if_true]
      split <;> omega

/-- Segments accept the pieces they give, as a list. -/
theorem forall₂_given {segments : List Segment}
    (h : ∀ segment ∈ segments, segment.Accepts constraints (segment.given values)) :
    List.Forall₂ (Segment.Accepts constraints) segments (segments.map (Segment.given values)) :=
  List.forall₂_map_right_iff.mpr (List.forall₂_same.mpr h)

theorem segmentEnds_given {segments : List Segment}
    (hwhole : ∀ segment ∈ segments, (segment.given values).Whole) :
    SegmentEnds ((segments.map (Segment.given values)).flatMap Piece.chars) := by
  rw [← slashed_textsOf fun piece hpiece => ?_]
  · exact segmentEnds_slashed _
  · obtain ⟨segment, hsegment, rfl⟩ := List.mem_map.mp hpiece
    exact text_eq_nil_of_whole (hwhole segment hsegment)

/-! ## Ways that lead on -/

/-- The texts of an optional placeholder stand after a slash before they stand without one. -/
theorem pairwise_ways {name : String} (cursor : Cursor) :
    ((Segment.optionalPlaceholder name).ways constraints cursor).Pairwise
      fun first second => second.1.slash = true → first.1.slash = true := by
  rw [Segment.ways, List.pairwise_flatMap]
  refine ⟨fun slash _ => ?_, ?_⟩
  · rw [List.pairwise_map]
    exact List.pairwise_of_forall fun _ _ h => h
  · rw [Segment.slashWays, List.pairwise_append]
    refine ⟨?_, List.pairwise_singleton _ _, fun first hfirst second hsecond => ?_⟩
    · cases cursor.past? ['/'] with
      | none => exact .nil
      | some place => exact List.pairwise_singleton _ _
    · intro way hway other hother hslash
      obtain ⟨place, -, rfl⟩ := List.mem_map.mp hfirst
      obtain ⟨found, -, rfl⟩ := List.mem_map.mp hway
      rfl

/-- Before a required segment the one in front of it is over. -/
theorem segmentEnds_of_required {pieces : List Piece}
    (h : List.Forall₂ (Segment.Accepts constraints) (segment :: rest) pieces)
    (hrequired : segment.isOptional = false) : SegmentEnds (pieces.flatMap Piece.chars) := by
  cases h with
  | cons hfirst _ =>
    intro c hc
    rw [List.flatMap_cons, Piece.chars, slash_of_required hfirst hrequired] at hc
    exact (Option.some.inj hc).symm

/-- An optional segment that is left out takes nothing: the rest needs every slash there is. -/
theorem way_of_skipped {cursor : Cursor} {way : Piece × Cursor}
    (hlocal : ∀ later ∈ segment :: rest, Walk.Local (later.value constraints).ends)
    (hwhole : ∀ later ∈ rest, (later.given values).Whole)
    (hskipped : ∀ later ∈ rest, later.isOptional = true → (later.given values).slash = false)
    (hafter : cursor.after = (rest.map (Segment.given values)).flatMap Piece.chars)
    (hway : way ∈ segment.ways constraints cursor) (hleads : LeadsOn constraints rest way) :
    way.1 = ⟨false, []⟩ ∧ way.2.after = cursor.after := by
  obtain ⟨-, hsplit, pieces, haccepts, hrest⟩ := split_of_leadsOn hlocal hway hleads
  -- The rest needs a slash for every required segment, and there are no more than that.
  have hneeded := requiredCount_le haccepts
  have hpresent := count_given hwhole hskipped
  have htotal := congrArg (List.count '/') hsplit
  rw [← hafter] at hpresent
  rw [List.count_append, count_chars, hrest] at htotal
  obtain ⟨⟨slash, text⟩, next⟩ := way
  simp only at htotal hsplit hrest ⊢
  cases slash with
  | true =>
    simp only [if_true] at htotal
    omega
  | false =>
    have hslash : '/' ∉ text := List.count_eq_zero.mp (by omega)
    have hends : SegmentEnds (text ++ next.after) := by
      rw [show text ++ next.after = cursor.after from hsplit.symm, hafter]
      exact segmentEnds_given hwhole
    cases eq_nil_of_segmentEnds hslash hends
    exact ⟨rfl, hsplit.symm⟩

/-- An optional segment that yields takes nothing either: the one behind it needs its own slash. -/
theorem way_of_yields {cursor : Cursor} {way : Piece × Cursor}
    (hlocal : ∀ later ∈ segment :: rest, Walk.Local (later.value constraints).ends)
    (hwhole : ∀ later ∈ rest, (later.given values).Whole)
    (haccepts : ∀ later ∈ rest, later.Accepts constraints (later.given values))
    (hoptional : segment.isOptional = true) (hyields : Yields constraints values segment rest)
    (hafter : cursor.after = (rest.map (Segment.given values)).flatMap Piece.chars)
    (hway : way ∈ segment.ways constraints cursor) (hleads : LeadsOn constraints rest way) :
    way.1 = ⟨false, []⟩ ∧ way.2.after = cursor.after := by
  obtain ⟨next, hnext, hrequired, hother⟩ := hyields
  rcases rest with _ | ⟨first, rest⟩
  · cases hnext
  cases hnext
  obtain ⟨haccepted, hsplit, pieces, hread, hrest⟩ := split_of_leadsOn hlocal hway hleads
  obtain ⟨⟨slash, text⟩, place⟩ := way
  obtain ⟨hslash, hne⟩ := hother text (accepts_slash hoptional haccepted)
  have hends : SegmentEnds place.after := by
    rw [hrest]
    exact segmentEnds_of_required hread hrequired
  have hgivenSlash := slash_of_required (haccepts next List.mem_cons_self) hrequired
  have hgiven := hwhole next List.mem_cons_self
  rw [List.forall_mem_cons] at hwhole
  cases hpiece : next.given values with
  | mk kept given =>
  rw [hpiece] at hgiven hgivenSlash hne
  rw [List.map_cons, List.flatMap_cons, hpiece] at hafter
  cases hgiven with
  | absent => cases hgivenSlash
  | present _ hgivenText =>
    -- Both texts end where a slash stands, so with a slash of its own the segment would have taken
    -- the text of the one behind it.
    cases slash with
    | true =>
      have hsame : text ++ place.after =
          given ++ (rest.map (Segment.given values)).flatMap Piece.chars :=
        (List.cons.inj (hsplit.symm.trans hafter)).2
      exact absurd (eq_of_append_eq hslash hgivenText hends
        (segmentEnds_given hwhole.2) hsame).1 hne
    | false =>
      have hstart : SegmentEnds (text ++ place.after) := by
        rw [show text ++ place.after = cursor.after from hsplit.symm, hafter]
        exact fun c hc => (Option.some.inj hc).symm
      cases eq_nil_of_segmentEnds hslash hstart
      exact ⟨rfl, hsplit.symm⟩

/-- Where nothing is contested, the slashes fix the text of a segment that has its own. -/
theorem way_of_uncontested {cursor : Cursor} {way : Piece × Cursor} {text : List Char}
    (hlocal : ∀ later ∈ segment :: rest, Walk.Local (later.value constraints).ends)
    (hwhole : ∀ later ∈ rest, (later.given values).Whole)
    (hfree : ¬ Contested values rest) (hslash : '/' ∉ text)
    (hafter : cursor.after =
      '/' :: text ++ (rest.map (Segment.given values)).flatMap Piece.chars)
    (hway : way ∈ segment.ways constraints cursor) (htaken : way.1.slash = true)
    (hleads : LeadsOn constraints rest way) :
    way.1 = ⟨true, text⟩ ∧
      way.2.after = (rest.map (Segment.given values)).flatMap Piece.chars := by
  rw [Contested, not_or] at hfree
  have hskipped : ∀ later ∈ rest, later.isOptional = true → (later.given values).slash = false :=
    fun later hlater hoptional =>
      Bool.not_eq_true _ ▸ fun hkept => hfree.2 ⟨later, hlater, hoptional, hkept⟩
  obtain ⟨-, hsplit, pieces, haccepts, hrest⟩ := split_of_leadsOn hlocal hway hleads
  obtain ⟨⟨slash, taken⟩, next⟩ := way
  cases htaken
  simp only at hrest hsplit ⊢
  have hsame : text ++ (rest.map (Segment.given values)).flatMap Piece.chars =
      taken ++ next.after := (List.cons.inj (hafter.symm.trans hsplit)).2
  have hends : SegmentEnds next.after := by
    rw [hrest]
    rcases rest with _ | ⟨later, others⟩
    · cases haccepts
      exact fun c hc => (by cases hc)
    · refine segmentEnds_of_required haccepts ?_
      rw [← Bool.not_eq_true]
      exact fun hoptional => hfree.1 ⟨later, rfl, hoptional⟩
  -- A slash in the text would be one that a required segment lacks.
  have htaken : '/' ∉ taken := by
    have hneeded := requiredCount_le haccepts
    have hpresent := count_given hwhole hskipped
    have htotal := congrArg (List.count '/') hsame
    rw [List.count_append, List.count_append, List.count_eq_zero.mpr hslash, hrest] at htotal
    exact List.count_eq_zero.mp (by omega)
  obtain ⟨rfl, hmore⟩ :=
    eq_of_append_eq hslash htaken (segmentEnds_given hwhole) hends hsame
  exact ⟨rfl, hmore.symm⟩

/-- A preferred value is the first way of its placeholder. -/
theorem head?_ways {name : String} (hname : segment.name? = some name) {text more : List Char}
    (hprefers : (segment.value constraints).Prefers text) (hmore : SegmentEnds more)
    {cursor : Cursor} (hafter : cursor.after = '/' :: text ++ more) :
    ∃ next, (segment.ways constraints cursor).head? = some (⟨true, text⟩, next) ∧
      next.after = more := by
  obtain ⟨place, hplace, hplaceAfter⟩ :=
    @Cursor.past?_of_after cursor ['/'] (text ++ more) hafter
  have hplace' : place = ⟨place.before, text ++ more⟩ := by
    rw [← hplaceAfter]
  -- Behind the slash the value goes first on its own text.
  have htexts : ∃ next, (Segment.texts (segment.value constraints) place).head? =
      some (text, next) ∧ next.after = more := by
    have hhead := hprefers place.before more hmore
    rw [← hplace'] at hhead
    obtain ⟨reach, hreach, rfl⟩ := Option.map_eq_some_iff.mp hhead
    refine ⟨reach.cursor, ?_, rfl⟩
    rw [Segment.texts, List.head?_map, hreach, Option.map_some,
      Cursor.taken_of_after hplaceAfter]
  obtain ⟨next, hnext, hrest⟩ := htexts
  refine ⟨next, ?_, hrest⟩
  cases segment with
  | literal other | optionalLiteral other => cases hname
  | placeholder other =>
    rw [Segment.ways, hplace, Option.toList_some, List.flatMap_singleton, List.head?_map, hnext]
    rfl
  | optionalPlaceholder other =>
    rw [Segment.ways, Segment.slashWays, hplace, Option.toList_some, List.map_cons, List.map_nil,
      List.cons_append, List.flatMap_cons, List.head?_append, List.head?_map, hnext]
    rfl

/-- A value that fills its placeholder as a contested one has to is preferred by what the
placeholder takes. -/
theorem prefers_given {name value : String} (hname : segment.name? = some name)
    (hne : Percent.encodeChars value.toList ≠ [])
    (h : ∀ constraint, constraints.get? name = some constraint →
      (treeOf constraint.toList).Prefers (Percent.encodeChars value.toList)) :
    (segment.value constraints).Prefers (Percent.encodeChars value.toList) := by
  have hslash := Percent.slash_not_mem_encodeChars value.toList
  cases hconstraint : constraints.get? name with
  | some constraint =>
    rw [Segment.value_of_constraint hname hconstraint]
    exact h constraint hconstraint
  | none =>
    cases segment with
    | literal text | optionalLiteral text => cases hname
    | placeholder other =>
      cases hname
      rw [Segment.value_placeholder hconstraint]
      exact prefers_slashFree_one hne hslash
    | optionalPlaceholder other =>
      cases hname
      rw [Segment.value_optionalPlaceholder hconstraint]
      exact prefers_slashFree_zero hslash

/-- Of the ways that lead on, the first has the segment's slash if any has. -/
theorem slash_of_first {cursor next : Cursor} {before later : List (Piece × Cursor)}
    {way : Piece × Cursor} {text : List Char} {name : String} (hname : segment.name? = some name)
    (hlocal : Walk.Local (segment.value constraints).ends)
    (hways : segment.ways constraints cursor = before ++ way :: later)
    (hbefore : ∀ other ∈ before, ¬ LeadsOn constraints rest other)
    (hmem : (⟨true, text⟩, next) ∈ segment.ways constraints cursor)
    (hleads : LeadsOn constraints rest (⟨true, text⟩, next)) : way.1.slash = true := by
  cases segment with
  | literal other | optionalLiteral other => cases hname
  | placeholder other =>
    have hway : way ∈ (Segment.placeholder other).ways constraints cursor := by
      rw [hways]
      exact List.mem_append_right _ List.mem_cons_self
    exact (accepts_of_mem_ways hlocal hway).1.1
  | optionalPlaceholder other =>
    -- The ways with a slash come first, and one of them leads on.
    have hpairwise := @pairwise_ways constraints other cursor
    rw [hways, List.pairwise_append] at hpairwise
    rw [hways, List.mem_append, List.mem_cons] at hmem
    rcases hmem with hmem | rfl | hmem
    · exact absurd hleads (hbefore _ hmem)
    · rfl
    · exact (List.pairwise_cons.mp hpairwise.2.1).1 _ hmem rfl

/-- A placeholder with a value takes the value, slash and all: contested it prefers the value, and
else the slashes leave no other text. -/
theorem way_of_kept {cursor : Cursor} {before later : List (Piece × Cursor)}
    {way : Piece × Cursor} {text : List Char} {name : String} (hname : segment.name? = some name)
    (hlocal : ∀ later ∈ segment :: rest, Walk.Local (later.value constraints).ends)
    (hwhole : ∀ later ∈ rest, (later.given values).Whole) (hslash : '/' ∉ text)
    (haccepts : segment.Accepts constraints ⟨true, text⟩)
    (hgiven : ∀ later ∈ rest, later.Accepts constraints (later.given values))
    (hprefers : Contested values rest → (segment.value constraints).Prefers text)
    (hafter : cursor.after =
      '/' :: text ++ (rest.map (Segment.given values)).flatMap Piece.chars)
    (hways : segment.ways constraints cursor = before ++ way :: later)
    (hbefore : ∀ other ∈ before, ¬ LeadsOn constraints rest other)
    (hleads : LeadsOn constraints rest way) :
    way.1 = ⟨true, text⟩ ∧
      way.2.after = (rest.map (Segment.given values)).flatMap Piece.chars := by
  have hreadable : ∀ next : Cursor,
      next.after = (rest.map (Segment.given values)).flatMap Piece.chars →
        LeadsOn constraints rest (⟨true, text⟩, next) := fun next hnext =>
    leadsOn_of_accepts (fun later hlater => hlocal later (List.mem_cons_of_mem _ hlater))
      (forall₂_given hgiven) hnext _
  -- If another segment could take the text, the value's preference decides; if none could, only one
  -- way leads on.
  by_cases hcontested : Contested values rest
  · obtain ⟨next, hhead, hnext⟩ :=
      head?_ways hname (hprefers hcontested) (segmentEnds_given hwhole) hafter
    rw [hways] at hhead
    rcases before with _ | ⟨first, before⟩
    · cases hhead
      exact ⟨rfl, hnext⟩
    · cases hhead
      exact absurd (hreadable next hnext) (hbefore _ List.mem_cons_self)
  · obtain ⟨next, hmem, hnext⟩ := exists_way (hlocal _ List.mem_cons_self) haccepts hafter
    have hway : way ∈ segment.ways constraints cursor := by
      rw [hways]
      exact List.mem_append_right _ List.mem_cons_self
    exact way_of_uncontested hlocal hwhole hcontested hslash hafter hway
      (slash_of_first hname (hlocal _ List.mem_cons_self) hways hbefore hmem
        (hreadable next hnext)) hleads

/-- Where values fill the segments in order, the first way that leads on gives the segment what it
gave to the path. -/
theorem way_given {cursor : Cursor} {before later : List (Piece × Cursor)} {way : Piece × Cursor}
    (hlocal : ∀ later ∈ segment :: rest, Walk.Local (later.value constraints).ends)
    (hwhole : ∀ later ∈ segment :: rest, (later.given values).Whole)
    (haccepts : ∀ later ∈ segment :: rest, later.Accepts constraints (later.given values))
    (horder : InOrder constraints values (segment :: rest))
    (hafter : cursor.after =
      ((segment :: rest).map (Segment.given values)).flatMap Piece.chars)
    (hways : segment.ways constraints cursor = before ++ way :: later)
    (hbefore : ∀ other ∈ before, ¬ LeadsOn constraints rest other)
    (hleads : LeadsOn constraints rest way) :
    way.1 = segment.given values ∧
      way.2.after = (rest.map (Segment.given values)).flatMap Piece.chars := by
  obtain ⟨hskips, hprefers, -⟩ := horder
  rw [List.forall_mem_cons] at hwhole haccepts
  have hmem : way ∈ segment.ways constraints cursor := by
    rw [hways]
    exact List.mem_append_right _ List.mem_cons_self
  rw [List.map_cons, List.flatMap_cons] at hafter
  have hskipped : segment.given values = ⟨false, []⟩ → way.1 = segment.given values ∧
      way.2.after = (rest.map (Segment.given values)).flatMap Piece.chars := by
    intro hgiven
    rw [hgiven] at haccepts hafter ⊢
    have hoptional : segment.isOptional = true := by
      rw [← Bool.not_eq_false]
      intro hrequired
      cases slash_of_required haccepts.1 hrequired
    rcases hskips hoptional (by rw [hgiven]) with hskips | hyields
    · obtain ⟨hpiece, hplace⟩ := way_of_skipped hlocal hwhole.2 hskips hafter hmem hleads
      exact ⟨hpiece, hplace.trans hafter⟩
    · obtain ⟨hpiece, hplace⟩ :=
        way_of_yields hlocal hwhole.2 haccepts.2 hoptional hyields hafter hmem hleads
      exact ⟨hpiece, hplace.trans hafter⟩
  -- A segment is skipped, or kept with a value, or is a literal, which has one way only.
  cases hname : segment.name? with
  | some name =>
    cases hget : values.get? name with
    | none => exact hskipped (given_of_none hname hget)
    | some value =>
      rw [given_of_some hname hget] at hwhole haccepts hafter ⊢
      cases hwhole.1 with
      | present hne hslash =>
        exact way_of_kept hname hlocal hwhole.2 hslash haccepts.1 haccepts.2
          (fun hcontested => prefers_given hname hne fun constraint =>
            hprefers hcontested name value constraint hname hget)
          hafter hways hbefore hleads
  | none =>
    cases segment with
    | placeholder name | optionalPlaceholder name => cases hname
    | optionalLiteral text => exact hskipped rfl
    | literal text =>
      obtain ⟨haccepted, hsplit⟩ := accepts_of_mem_ways (hlocal _ List.mem_cons_self) hmem
      refine ⟨haccepted, ?_⟩
      rw [hafter, show way.1 = _ from haccepted] at hsplit
      exact (List.append_cancel_left hsplit).symm

end

/-- Where values fill the segments in order, the first reading of the path they give is the one that
it was put together by. -/
theorem head?_readings_given {constraints values : Params} {segments : List Segment}
    (hlocal : ∀ segment ∈ segments, Walk.Local (segment.value constraints).ends)
    (hwhole : ∀ segment ∈ segments, (segment.given values).Whole)
    (haccepts : ∀ segment ∈ segments, segment.Accepts constraints (segment.given values))
    (horder : InOrder constraints values segments) {cursor : Cursor}
    (hafter : cursor.after = (segments.map (Segment.given values)).flatMap Piece.chars) :
    (readings constraints segments cursor).head? = some (segments.map (Segment.given values)) := by
  induction segments generalizing cursor with
  | nil =>
    rw [readings, if_pos (show cursor.after = [] from hafter)]
    rfl
  | cons segment rest ih =>
    have hmem := (mem_readings_iff hlocal).mpr ⟨forall₂_given haccepts, hafter⟩
    obtain ⟨pieces, hpieces⟩ :=
      Option.isSome_iff_exists.mp (List.isSome_head?.mpr (List.ne_nil_of_mem hmem))
    obtain ⟨before, way, later, hways, hbefore, hleads, more, hmore, rfl⟩ :=
      head?_readings_cons hpieces
    obtain ⟨hway, hrest⟩ :=
      way_given hlocal hwhole haccepts horder hafter hways hbefore hleads
    rw [List.forall_mem_cons] at hlocal hwhole haccepts
    rw [ih hlocal.2 hwhole.2 haccepts.2 horder.2.2 hrest, Option.some.injEq] at hmore
    rw [hpieces, hway, ← hmore]
    rfl

end Switchyard
