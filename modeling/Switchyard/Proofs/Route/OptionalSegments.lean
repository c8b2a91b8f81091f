import Mathlib
import Switchyard.Proofs.Route.Assembly

/-!
# Leaving out an optional segment

A route with one more optional segment accepts what the route without it accepts, as long as the
segment can be passed over. It can when it is a literal, has no constraint, or has one that admits the
empty text (`Route.includes_of_passes`). Where the constraints are tidy that is the only way
(`Route.passes_of_includes`): in a shortest path nothing is left for the segment to take.
-/

namespace Switchyard

open Regex

/-- The segment can be passed over: a constraint on it holds no assertion and admits the empty text. -/
def Segment.Passes (constraints : Params) (segment : Segment) : Prop :=
  ∀ name constraint, segment.name? = some name → constraints.get? name = some constraint →
    (treeOf constraint.toList).lookFree = true ∧ Constraint.admits constraint [] = true

section

variable {constraints : Params} {optional : Segment} {before after : List Segment}

/-- A pattern that takes the empty text takes it at any place, and stays there. -/
theorem mem_texts_nil {tree : Regex} (hlocal : Walk.Local tree.ends)
    (h : Walk.Takes tree.ends none [] []) (cursor : Cursor) :
    ([], cursor) ∈ Segment.texts tree cursor := by
  obtain ⟨reach, hreach, hrest⟩ := hlocal.moves h cursor.before cursor.after
  rw [List.nil_append] at hreach
  have hstays : reach.cursor = cursor := by
    rcases onward_ends hreach with hsame | hless
    · exact hsame
    · rw [Cursor.left, Cursor.left, hrest] at hless
      exact absurd hless (Nat.lt_irrefl _)
  refine List.mem_map.mpr ⟨reach, hreach, ?_⟩
  rw [hstays, Cursor.taken, Nat.sub_self, List.take_zero]

/-- A segment that can be passed over has the way that takes nothing. -/
theorem absent_mem_ways {pattern : Pattern} (hsound : pattern.Sound)
    (hmem : optional ∈ pattern.segments) (hoptional : optional.isOptional = true)
    (hpasses : optional.Passes pattern.constraints) (cursor : Cursor) :
    (⟨false, []⟩, cursor) ∈ optional.ways pattern.constraints cursor := by
  have hslash : (false, cursor) ∈ Segment.slashWays cursor :=
    List.mem_append_right _ (List.mem_singleton.mpr rfl)
  cases optional with
  | literal text | placeholder name => cases hoptional
  | optionalLiteral text =>
    exact List.mem_flatMap.mpr ⟨_, hslash, List.mem_append_right _ (List.mem_singleton.mpr rfl)⟩
  | optionalPlaceholder name =>
    -- The placeholder takes the empty text: the class without a slash does, and a constraint does
    -- if it passes.
    have htext : ([], cursor) ∈
        Segment.texts ((Segment.optionalPlaceholder name).value pattern.constraints) cursor := by
      cases hget : pattern.constraints.get? name with
      | none =>
        rw [Segment.value_optionalPlaceholder hget]
        exact mem_texts_nil (local_ends rfl) (takes_slashFree_zero.mpr List.not_mem_nil) cursor
      | some constraint =>
        obtain ⟨hlookFree, hadmits⟩ := hpasses name constraint rfl hget
        have hwellFormed := hsound name (List.mem_filterMap.mpr ⟨_, hmem, rfl⟩) constraint hget
        rw [Segment.value_of_constraint rfl hget]
        exact mem_texts_nil (local_ends hlookFree)
          ((admits_iff_takes hwellFormed []).mp hadmits) cursor
    exact List.mem_flatMap.mpr ⟨_, hslash, List.mem_map_of_mem htext⟩

/-- What can be read without the segment can be read with it. -/
theorem exists_reading_with (habsent : ∀ cursor,
      (⟨false, []⟩, cursor) ∈ optional.ways constraints cursor) {cursor : Cursor}
    {pieces : List Piece} (h : pieces ∈ readings constraints (before ++ after) cursor) :
    ∃ other, other ∈ readings constraints (before ++ optional :: after) cursor := by
  induction before generalizing cursor pieces with
  | nil =>
    exact ⟨⟨false, []⟩ :: pieces, List.mem_flatMap.mpr ⟨_, habsent cursor, List.mem_map_of_mem h⟩⟩
  | cons segment before ih =>
    obtain ⟨way, hway, hpieces⟩ := List.mem_flatMap.mp h
    obtain ⟨more, hmore, -⟩ := List.mem_map.mp hpieces
    obtain ⟨other, hother⟩ := ih hmore
    exact ⟨way.1 :: other, List.mem_flatMap.mpr ⟨way, hway, List.mem_map_of_mem hother⟩⟩

end

/-! ## Shortest paths -/

/-- A constraint on the segment admits no text that ends with a slash, and none that is empty when the
segment is required. -/
def Segment.Tidy (constraints : Params) (segment : Segment) : Prop :=
  ∀ name constraint, segment.name? = some name → constraints.get? name = some constraint →
    ∀ text, Constraint.admits constraint text = true →
      text.getLast? ≠ some '/' ∧ (segment.isOptional = false → text ≠ [])

theorem getLast?_ne_of_not_mem {text : List Char} (h : '/' ∉ text) : text.getLast? ≠ some '/' :=
  fun hlast => h (List.mem_of_getLast? hlast)

section

variable {pattern : Pattern} {segments : List Segment} {pieces : List Piece}

/-- What a tidy segment accepts does not end with a slash. -/
theorem text_of_tidy (hsound : pattern.Sound) {segment : Segment}
    (hmem : segment ∈ pattern.segments) (hwritten : segment.Written)
    (htidy : segment.Tidy pattern.constraints) {piece : Piece}
    (haccepts : segment.Accepts pattern.constraints piece) :
    piece.text.getLast? ≠ some '/' ∧ (segment.isOptional = false → piece.text ≠ []) := by
  -- With a constraint this is what `Tidy` says; without one the class has no slash at all.
  have hconstraint : ∀ name, segment.name? = some name → ∀ constraint,
      pattern.constraints.get? name = some constraint →
        Walk.Takes (segment.value pattern.constraints).ends none piece.text [] →
          piece.text.getLast? ≠ some '/' ∧ (segment.isOptional = false → piece.text ≠ []) := by
    intro name hname constraint hget htakes
    have hallows := allows_of_takes hsound hmem hname htakes
    rw [Constraint.allows, hget] at hallows
    exact htidy name constraint hname hget piece.text hallows
  cases segment with
  | literal text =>
    cases haccepts
    exact ⟨getLast?_ne_of_not_mem (Percent.slash_not_mem_encodeChars _),
      fun _ => encodeChars_toList_ne_nil hwritten⟩
  | optionalLiteral text =>
    refine ⟨?_, fun hrequired => (by cases hrequired)⟩
    rcases haccepts with htext | htext
    · rw [htext]
      exact getLast?_ne_of_not_mem (Percent.slash_not_mem_encodeChars _)
    · rw [htext]
      exact getLast?_ne_of_not_mem List.not_mem_nil
  | placeholder name =>
    cases hget : pattern.constraints.get? name with
    | some constraint => exact hconstraint name rfl constraint hget haccepts.2
    | none =>
      have htakes := haccepts.2
      rw [Segment.value_placeholder hget, takes_slashFree_one] at htakes
      exact ⟨getLast?_ne_of_not_mem htakes.2, fun _ => htakes.1⟩
  | optionalPlaceholder name =>
    cases hget : pattern.constraints.get? name with
    | some constraint => exact hconstraint name rfl constraint hget haccepts
    | none =>
      have htakes : Walk.Takes _ _ _ _ := haccepts
      rw [Segment.value_optionalPlaceholder hget, takes_slashFree_zero] at htakes
      exact ⟨getLast?_ne_of_not_mem htakes, fun hrequired => (by cases hrequired)⟩

/-- A tidy segment accepts the text of a piece in a piece that does not end with a slash and is no
longer: an optional segment does without its slash. -/
theorem exists_trimmed_piece (hsound : pattern.Sound) {segment : Segment}
    (hmem : segment ∈ pattern.segments) (hwritten : segment.Written)
    (htidy : segment.Tidy pattern.constraints) {piece : Piece}
    (haccepts : segment.Accepts pattern.constraints piece) :
    ∃ other, segment.Accepts pattern.constraints other ∧
      other.chars.length ≤ piece.chars.length ∧ other.chars.getLast? ≠ some '/' := by
  obtain ⟨hlast, hne⟩ := text_of_tidy hsound hmem hwritten htidy haccepts
  -- The slash of an optional segment can be left out; that of a required one has a text behind it.
  cases hoptional : segment.isOptional with
  | true =>
    refine ⟨⟨false, piece.text⟩, accepts_slash hoptional haccepts, ?_, hlast⟩
    rw [length_chars, length_chars]
    simp
  | false =>
    refine ⟨piece, haccepts, Nat.le_refl _, ?_⟩
    obtain ⟨slash, text⟩ := piece
    cases slash_of_required haccepts hoptional
    show (['/'] ++ text).getLast? ≠ some '/'
    rw [List.getLast?_append, List.getLast?_eq_some_getLast (hne hoptional), Option.some_or,
      ← List.getLast?_eq_some_getLast (hne hoptional)]
    exact hlast

/-- The same for the pieces of a path. -/
theorem exists_trimmed (hsound : pattern.Sound) (hmem : ∀ segment ∈ segments, segment ∈ pattern.segments)
    (hwritten : ∀ segment ∈ segments, segment.Written)
    (htidy : ∀ segment ∈ segments, segment.Tidy pattern.constraints)
    (h : List.Forall₂ (Segment.Accepts pattern.constraints) segments pieces) :
    ∃ other, List.Forall₂ (Segment.Accepts pattern.constraints) segments other ∧
      (other.flatMap Piece.chars).length ≤ (pieces.flatMap Piece.chars).length ∧
        ∀ piece ∈ other, piece.chars.getLast? ≠ some '/' := by
  induction h with
  | nil => exact ⟨[], .nil, Nat.le_refl _, fun piece hpiece => (by cases hpiece)⟩
  | cons hfirst _ ih =>
    rw [List.forall_mem_cons] at hmem hwritten htidy
    obtain ⟨piece, haccepts, hlength, hlast⟩ :=
      exists_trimmed_piece hsound hmem.1 hwritten.1 htidy.1 hfirst
    obtain ⟨other, hother, hlengths, hlasts⟩ := ih hmem.2 hwritten.2 htidy.2
    refine ⟨piece :: other, .cons haccepts hother, ?_, List.forall_mem_cons.mpr ⟨hlast, hlasts⟩⟩
    rw [List.flatMap_cons, List.flatMap_cons, List.length_append, List.length_append]
    omega

/-- Among the paths of tidy segments, if there are any, is a shortest that does not end with a
slash. -/
theorem exists_shortest (hsound : pattern.Sound) (hmem : ∀ segment ∈ segments, segment ∈ pattern.segments)
    (hwritten : ∀ segment ∈ segments, segment.Written)
    (htidy : ∀ segment ∈ segments, segment.Tidy pattern.constraints)
    (h : List.Forall₂ (Segment.Accepts pattern.constraints) segments pieces) :
    ∃ shortest, List.Forall₂ (Segment.Accepts pattern.constraints) segments shortest ∧
      (shortest.flatMap Piece.chars).getLast? ≠ some '/' ∧
        ∀ other, List.Forall₂ (Segment.Accepts pattern.constraints) segments other →
          (shortest.flatMap Piece.chars).length ≤ (other.flatMap Piece.chars).length := by
  induction hn : (pieces.flatMap Piece.chars).length using Nat.strongRecOn generalizing pieces with
  | ind n ih =>
    -- A path with no shorter one beside it is as long as its trimmed form.
    by_cases hless : ∃ other, List.Forall₂ (Segment.Accepts pattern.constraints) segments other ∧
        (other.flatMap Piece.chars).length < n
    · obtain ⟨other, hother, hlength⟩ := hless
      exact ih _ hlength hother rfl
    · obtain ⟨trimmed, htrimmed, hlength, hlast⟩ := exists_trimmed hsound hmem hwritten htidy h
      refine ⟨trimmed, htrimmed, getLast?_flatMap_chars hlast, fun other hother => ?_⟩
      by_contra hlonger
      exact hless ⟨other, hother, by omega⟩

end

namespace Route

variable {full short : Route} {before after : List Segment} {optional : Segment}

/-- The first route has the record of the second, but for an optional segment more in its pattern. -/
structure Extends (full short : Route) (before : List Segment) (optional : Segment)
    (after : List Segment) : Prop where
  config : short.config = { full.config with path := short.config.path }
  segments : full.segments = before ++ optional :: after
  rest : short.segments = before ++ after
  isOptional : optional.isOptional = true

/-- The first route accepts every request that the second accepts. -/
def Includes (full short : Route) : Prop :=
  ∀ request, (∃ found, short.evaluate request = .ok found) →
    ∃ found, full.evaluate request = .ok found

namespace Extends

theorem constraints (h : Extends full short before optional after) :
    short.config.constraints = full.config.constraints := by
  rw [h.config]

theorem pattern_constraints (h : Extends full short before optional after) :
    full.pattern.constraints = short.pattern.constraints := h.constraints.symm

theorem admits_iff (h : Extends full short before optional after) (request : Request) :
    short.Admits request ↔ full.Admits request := by
  rw [Admits, h.config]
  rfl

theorem mem_segments (h : Extends full short before optional after) :
    ∀ segment ∈ before ++ after, segment ∈ full.segments := by
  rw [h.segments]
  intro segment hsegment
  rw [List.mem_append, List.mem_cons]
  exact (List.mem_append.mp hsegment).imp id .inr

theorem mem_optional (h : Extends full short before optional after) :
    optional ∈ full.pattern.segments := by
  show optional ∈ full.segments
  rw [h.segments]
  exact List.mem_append_right _ List.mem_cons_self

theorem mem_names (h : Extends full short before optional after) :
    ∀ name ∈ short.pattern.names, name ∈ full.pattern.names := by
  intro name hname
  obtain ⟨segment, hsegment, hname⟩ := List.mem_filterMap.mp hname
  exact List.mem_filterMap.mpr
    ⟨segment, h.mem_segments segment (h.rest ▸ hsegment), hname⟩

theorem sound (h : Extends full short before optional after) (hsound : full.pattern.Sound) :
    short.pattern.Sound := fun name hname constraint hget =>
  hsound name (h.mem_names name hname) constraint (h.pattern_constraints ▸ hget)

theorem regular (h : Extends full short before optional after) (hregular : full.pattern.Regular) :
    short.pattern.Regular := fun name hname constraint hget =>
  hregular name (h.mem_names name hname) constraint (h.pattern_constraints ▸ hget)

end Extends

/-- Where the optional segment can be passed over, nothing is lost by it. -/
theorem includes_of_passes (hextends : Extends full short before optional after)
    (hcompiled : full.pattern.program?.isSome = true) (hsound : full.pattern.Sound)
    (hpasses : optional.Passes full.config.constraints) : full.Includes short := by
  rintro request ⟨found, hfound⟩
  obtain ⟨hadmits, hprogram⟩ := admits_of_evaluate hfound
  obtain ⟨pieces, hpieces⟩ :=
    (accepts_iff hadmits (hextends.sound hsound) hprogram).mp ⟨found, hfound⟩
  rw [readings, hextends.constraints, hextends.rest] at hpieces
  have habsent := absent_mem_ways hsound hextends.mem_optional hextends.isOptional hpasses
  refine (accepts_iff ((hextends.admits_iff request).mp hadmits) hsound hcompiled).mpr ?_
  rw [readings, hextends.segments]
  exact exists_reading_with habsent hpieces

/-- Where nothing is lost by the optional segment and the others are tidy, the segment accepts a piece
without text: a shortest path of the others leaves nothing for it to take. -/
theorem exists_empty_piece (hextends : Extends full short before optional after)
    (hcompiled : full.pattern.program?.isSome = true) (hregular : full.pattern.Regular)
    (htidy : ∀ segment ∈ before ++ after, segment.Tidy full.config.constraints)
    (hincludes : full.Includes short) {request : Request} {found : RouteMatch}
    (hfound : short.evaluate request = .ok found) :
    ∃ slash, optional.Accepts full.config.constraints ⟨slash, []⟩ := by
  obtain ⟨hadmits, hprogram⟩ := admits_of_evaluate hfound
  have hshort := hextends.regular hregular
  obtain ⟨pieces, hpieces⟩ := (accepts_iff hadmits hshort.sound hprogram).mp ⟨found, hfound⟩
  have haccepts := ((mem_readings hshort).mp hpieces).1
  rw [hextends.constraints, hextends.rest] at haccepts
  obtain ⟨shortest, hshortest, hlast, hleast⟩ := exists_shortest hregular.sound
    hextends.mem_segments (fun segment hsegment => full.written segment
      (hextends.mem_segments segment hsegment)) htidy haccepts
  -- The shorter route accepts the shortest path, and so the longer one splits it in its own way.
  obtain ⟨other, hpath, hother⟩ :=
    full.exists_admitted (String.ofList (shortest.flatMap Piece.chars))
  have hchars : trimmed other.path = shortest.flatMap Piece.chars := by
    rw [hpath]
    exact trimmed_ofList hlast
  have hread : shortest ∈ short.readings (trimmed other.path) := by
    refine (mem_readings hshort).mpr ⟨?_, hchars⟩
    rw [hextends.constraints, hextends.rest]
    exact hshortest
  have haccepted := hincludes other
    ((accepts_iff ((hextends.admits_iff other).mpr hother) hshort.sound hprogram).mpr ⟨_, hread⟩)
  obtain ⟨longer, hlonger⟩ := (accepts_iff hother hregular.sound hcompiled).mp haccepted
  obtain ⟨hlonger, hsame⟩ := (mem_readings hregular).mp hlonger
  rw [hextends.segments] at hlonger
  obtain ⟨first, ⟨slash, text⟩, rest, rfl, hfirst, hpiece, hrest⟩ := forall₂_append_cons hlonger
  -- Without its piece the split is one of the shorter route, and that is no shorter.
  have hle := hleast (first ++ rest) (List.rel_append hfirst hrest)
  have hlength := congrArg List.length (hchars.symm.trans hsame)
  simp only [List.flatMap_append, List.flatMap_cons, List.length_append, length_chars] at hle hlength
  have htext : text = [] := List.length_eq_zero_iff.mp (by omega)
  exact ⟨slash, htext ▸ hpiece⟩

/-- In this case the optional segment can be passed over. -/
theorem passes_of_includes (hextends : Extends full short before optional after)
    (hcompiled : full.pattern.program?.isSome = true) (hregular : full.pattern.Regular)
    (htidy : ∀ segment ∈ before ++ after, segment.Tidy full.config.constraints)
    (hincludes : full.Includes short) {request : Request} {found : RouteMatch}
    (hfound : short.evaluate request = .ok found) : optional.Passes full.config.constraints := by
  obtain ⟨slash, haccepts⟩ :=
    exists_empty_piece hextends hcompiled hregular htidy hincludes hfound
  intro name constraint hname hget
  have hmem := hextends.mem_optional
  have hbound : name ∈ full.pattern.names := List.mem_filterMap.mpr ⟨optional, hmem, hname⟩
  refine ⟨(hregular name hbound constraint hget).2, ?_⟩
  have htakes : Walk.Takes (optional.value full.pattern.constraints).ends none [] [] := by
    cases optional with
    | literal text | placeholder other => cases hextends.isOptional
    | optionalLiteral text => cases hname
    | optionalPlaceholder other => exact haccepts
  have hallows := allows_of_takes hregular.sound hmem hname htakes
  rwa [Constraint.allows, show full.pattern.constraints.get? name = _ from hget] at hallows

/-- A compiled route accepts what it accepts without one of its optional segments, if the segment can
be passed over: if it is a literal, or nothing constrains it, or its constraint holds no assertion and
admits the empty text. Where no constraint holds an assertion and those on the other segments are
tidy, this is so only then, but for a route that accepts nothing without the segment. -/
theorem includes_iff_passes (hextends : Extends full short before optional after)
    (hcompiled : full.pattern.program?.isSome = true) (hsound : full.pattern.Sound) :
    (optional.Passes full.config.constraints → full.Includes short) ∧
      (full.pattern.Regular →
        (∀ segment ∈ before ++ after, segment.Tidy full.config.constraints) →
        (full.Includes short ↔ (∀ request found, short.evaluate request ≠ .ok found) ∨
          optional.Passes full.config.constraints)) := by
  refine ⟨includes_of_passes hextends hcompiled hsound, fun hregular htidy =>
    ⟨fun hincludes => ?_, fun h => ?_⟩⟩
  · by_cases hsome : ∃ request found, short.evaluate request = .ok found
    · obtain ⟨request, found, hfound⟩ := hsome
      exact .inr (passes_of_includes hextends hcompiled hregular htidy hincludes hfound)
    · exact .inl fun request found hfound => hsome ⟨request, found, hfound⟩
  · rcases h with hnone | hpasses
    · rintro request ⟨found, hfound⟩
      exact absurd hfound (hnone request found)
    · exact includes_of_passes hextends hcompiled hsound hpasses

/-- A literal with an optional number behind it. -/
def numbered : Route where
  config := { path := "/foo/~:id", constraints := .ofList [("id", "[0-9]+")] }
  segments := [.literal "foo", .optionalPlaceholder "id"]
  parsed := rfl
  canonical := rfl

/-- The literal alone, under the same constraint. -/
def unnumbered : Route where
  config := { path := "/foo", constraints := .ofList [("id", "[0-9]+")] }
  segments := [.literal "foo"]
  parsed := rfl
  canonical := rfl

theorem numbered_extends : Extends numbered unnumbered [.literal "foo"] (.optionalPlaceholder "id") [] :=
  ⟨rfl, rfl, rfl, rfl⟩

theorem numbered_regular : numbered.pattern.Regular :=
  Pattern.regular_of_single (show _ = Keyed.empty.insert "id" "[0-9]+" from rfl)
    ⟨⟨⟨treeOf "[0-9]+".toList, by cbv⟩, by cbv⟩, by cbv⟩

theorem numbered_compiled : numbered.pattern.program?.isSome = true :=
  Pattern.isSome_program? numbered_regular.sound (by decide) (of_decide_eq_true (by cbv))
    (of_decide_eq_true (by cbv)) (by cbv)

theorem unnumbered_compiled : unnumbered.pattern.program?.isSome = true :=
  Pattern.isSome_program? (fun _ hname => by cases hname) (by decide) (of_decide_eq_true (by cbv))
    (of_decide_eq_true (by cbv)) (by cbv)

/-- The number cannot be passed over, and so the literal alone is no longer accepted. -/
theorem numbered_not_includes :
    (∃ found, unnumbered.evaluate ⟨"GET", "http", "/foo"⟩ = .ok found) ∧
      ¬ numbered.Includes unnumbered := by
  have hfound : ∃ found, unnumbered.evaluate ⟨"GET", "http", "/foo"⟩ = .ok found := by
    refine (accepts_iff (admits_of_empty rfl rfl _) (fun _ hname => by cases hname)
      unnumbered_compiled).mpr ⟨[⟨true, "foo".toList⟩], ?_⟩
    rw [show unnumbered.readings (trimmed "/foo") = [[⟨true, "foo".toList⟩]] by cbv]
    exact List.mem_singleton.mpr rfl
  have htidy : ∀ segment ∈ [Segment.literal "foo"] ++ [],
      segment.Tidy numbered.config.constraints := by
    intro segment hsegment name constraint hname
    rw [List.mem_singleton.mp hsegment] at hname
    cases hname
  refine ⟨hfound, fun hincludes => ?_⟩
  obtain ⟨-, hiff⟩ :=
    includes_iff_passes numbered_extends numbered_compiled numbered_regular.sound
  -- Neither side holds: the shorter route accepts a path, and the constraint refuses the empty
  -- text.
  rcases (hiff numbered_regular htidy).mp hincludes with hnone | hpasses
  · obtain ⟨found, hfound⟩ := hfound
    exact hnone _ found hfound
  · have hadmits := (hpasses "id" "[0-9]+" rfl rfl).2
    rw [show Constraint.admits "[0-9]+" [] = false by cbv] at hadmits
    cases hadmits

end Route

end Switchyard
