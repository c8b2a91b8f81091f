import Switchyard.Proofs.Route.Pieces

/-!
# Whole segments

A route without constraints accepts the paths that split into loose pieces of its segments.
`Route.Rigid` is the condition on the pattern under which these are the paths that split into whole
pieces: the only slack segment, if there is one, is the last to have a text and comes behind a
placeholder, which takes up what the slack segment could take without its slash. A rigid route matches
whole segments (`whole_of_loose`), and every other one accepts a path that does not split into whole
pieces (`exists_loose_path`).
-/

namespace Switchyard

open Regex

/-! ## Rigid patterns -/

/-- No segment is slack, or one is, behind a placeholder, and nothing but optional literals without
text stands around it there. -/
def Rigid (segments : List Segment) : Prop :=
  (∀ segment ∈ segments, ¬ segment.Slack) ∨
    ∃ before name between optional after,
      segments = before ++ .placeholder name :: (between ++ optional :: after) ∧
        optional.isOptional = true ∧ (∀ segment ∈ before, ¬ segment.Slack) ∧
          ∀ segment ∈ between ++ after, segment = .optionalLiteral ""

section

variable {segments : List Segment} {pieces : List Piece}

theorem whole_of_not_slack (h : List.Forall₂ Segment.TakesLoosely segments pieces)
    (hslack : ∀ segment ∈ segments, ¬ segment.Slack) :
    List.Forall₂ Segment.TakesWhole segments pieces := by
  induction h with
  | nil => exact .nil
  | cons hfirst _ ih =>
    rw [List.forall_mem_cons] at hslack
    exact .cons (hfirst.whole hslack.1) (ih hslack.2)

theorem not_slack_of_empty (h : ∀ segment ∈ segments, segment = Segment.optionalLiteral "") :
    ∀ segment ∈ segments, ¬ segment.Slack := fun segment hsegment hslack =>
  hslack.2 (h segment hsegment)

/-- Optional literals without text take slashes and nothing else. -/
theorem text_eq_nil (h : List.Forall₂ Segment.TakesLoosely segments pieces)
    (hempty : ∀ segment ∈ segments, segment = Segment.optionalLiteral "") :
    ∀ piece ∈ pieces, piece.text = [] := by
  induction h with
  | nil => exact fun piece hpiece => (by cases hpiece)
  | cons hfirst _ ih =>
    rw [List.forall_mem_cons] at hempty ⊢
    refine ⟨?_, ih hempty.2⟩
    rw [hempty.1] at hfirst
    exact hfirst.1.elim id And.right

theorem getLast?_slashes (htext : ∀ piece ∈ pieces, piece.text = [])
    (hne : pieces.flatMap Piece.chars ≠ []) :
    (pieces.flatMap Piece.chars).getLast? = some '/' := by
  have hslash : ∀ c ∈ pieces.flatMap Piece.chars, c = '/' := by
    intro c hc
    obtain ⟨piece, hpiece, hc⟩ := List.mem_flatMap.mp hc
    rw [Piece.chars_eq, htext piece hpiece, List.append_nil] at hc
    split at hc
    · exact List.mem_singleton.mp hc
    · cases hc
  rw [List.getLast?_eq_some_getLast hne, hslash _ (List.getLast_mem hne)]

/-- The last slash of optional literals without text can be taken from them. -/
theorem exists_without_last_slash (h : List.Forall₂ Segment.TakesLoosely segments pieces)
    (hempty : ∀ segment ∈ segments, segment = Segment.optionalLiteral "")
    (hne : pieces.flatMap Piece.chars ≠ []) :
    ∃ other, List.Forall₂ Segment.TakesLoosely segments other ∧
      other.map Piece.text = pieces.map Piece.text ∧
        pieces.flatMap Piece.chars = other.flatMap Piece.chars ++ ['/'] := by
  induction h with
  | nil => exact absurd rfl hne
  | @cons segment piece segments pieces hfirst hrest ih =>
    have htext : piece.text = [] :=
      text_eq_nil (.cons hfirst hrest) hempty piece List.mem_cons_self
    rw [List.forall_mem_cons] at hempty
    rw [List.flatMap_cons] at hne ⊢
    -- The slash to drop is this piece's if none behind it has one, and else one further on.
    by_cases hpieces : pieces.flatMap Piece.chars = []
    · refine ⟨⟨false, []⟩ :: pieces, .cons ?_ hrest, by rw [List.map_cons, List.map_cons, htext], ?_⟩
      · rw [hempty.1]
        exact ⟨.inl rfl, fun hrequired => (by cases hrequired)⟩
      · obtain ⟨slash, text⟩ := piece
        cases htext
        rw [hpieces] at hne
        rw [List.flatMap_cons, hpieces]
        cases slash with
        | true => rfl
        | false => exact absurd rfl hne
    · obtain ⟨other, hother, hsame, hchars⟩ := ih hempty.2 hpieces
      refine ⟨piece :: other, .cons hfirst hother, by rw [List.map_cons, List.map_cons, hsame], ?_⟩
      rw [List.flatMap_cons, hchars, List.append_assoc]

end

section

variable {constraints : Params} {name : String} {before between after : List Segment}
  {optional : Segment} {front middle back : List Piece} {piece last : Piece}

/-- Behind the last text of a path no slash is left over. -/
theorem back_eq_nil (hback : ∀ piece ∈ back, piece.text = [])
    (hlast : ((front ++ piece :: (middle ++ last :: back)).flatMap Piece.chars).getLast? ≠ some '/') :
    back.flatMap Piece.chars = [] := by
  by_contra hne
  refine hlast ?_
  simp only [List.flatMap_append, List.flatMap_cons, List.getLast?_append,
    getLast?_slashes hback hne, Option.some_or]

/-- A slack segment behind a placeholder does not take a text without a slash in the first reading:
the placeholder takes the text before. -/
theorem text_eq_nil_of_bare
    (hlocal : ∀ segment ∈ before ++ .placeholder name :: (between ++ optional :: after),
      Walk.Local (segment.value constraints).ends)
    (hfree : ∀ segment ∈ before ++ .placeholder name :: (between ++ optional :: after),
      ∀ name, segment.name? = some name → constraints.get? name = none)
    (hoptional : optional.isOptional = true) {cursor : Cursor} {text : List Char}
    (hhead : (readings constraints
      (before ++ .placeholder name :: (between ++ optional :: after)) cursor).head? =
        some (front ++ piece :: (middle ++ ⟨false, text⟩ :: back)))
    (hfront : List.Forall₂ Segment.TakesLoosely before front)
    (hpiece : (Segment.placeholder name).TakesLoosely piece)
    (hmiddle : List.Forall₂ Segment.TakesLoosely between middle)
    (hback : List.Forall₂ Segment.TakesLoosely after back)
    (hempty : middle.flatMap Piece.chars = []) (hnone : back.flatMap Piece.chars = [])
    (hcarries : optional.Carries text) : text = [] := by
  have hother : (Segment.placeholder name).TakesLoosely ⟨true, piece.text ++ text⟩ := by
    obtain ⟨hne, hslash⟩ := hpiece.1.resolve_right fun hnone => (by cases hnone.1)
    refine ⟨.inl ⟨List.append_ne_nil_of_left_ne_nil hne text, ?_⟩, fun _ => rfl⟩
    rw [List.mem_append, not_or]
    exact ⟨hslash, Segment.slash_not_mem_of_carries hcarries⟩
  have habsent : optional.TakesLoosely ⟨false, []⟩ :=
    ⟨.inr ⟨hoptional, rfl⟩, fun hrequired => by rw [hoptional] at hrequired; cases hrequired⟩
  -- The placeholder could take the text as well and leave the segment absent; it is the first to
  -- choose, and takes the longest text it can.
  have haccepts := (forall₂_accepts_iff hfree).mpr <|
    List.rel_append hfront (.cons hother (List.rel_append hmiddle (.cons habsent hback)))
  have hchars := ((mem_readings_iff hlocal).mp (List.mem_of_head? hhead)).2
  have hsame : cursor.after =
      (front ++ ⟨true, piece.text ++ text⟩ :: (middle ++ ⟨false, []⟩ :: back)).flatMap
        Piece.chars := by
    rw [hchars]
    simp only [List.flatMap_append, List.flatMap_cons, hempty, hnone, Piece.chars, hpiece.2 rfl,
      if_true, Bool.false_eq_true, if_false, List.nil_append, List.append_nil, List.cons_append]
  have hle := text_le_of_first hlocal (hfree _ (List.mem_append_right _ List.mem_cons_self) name rfl)
    (List.Forall₂.length_eq hfront) hhead haccepts hsame
  rw [List.length_append] at hle
  exact List.length_eq_zero_iff.mp (by omega)

end

/-- The first reading of a path by a rigid pattern has the texts of a split into whole pieces. -/
theorem whole_of_first {constraints : Params} {segments : List Segment} (hrigid : Rigid segments)
    (hfree : ∀ segment ∈ segments, ∀ name, segment.name? = some name →
      constraints.get? name = none)
    (hlocal : ∀ segment ∈ segments, Walk.Local (segment.value constraints).ends)
    {cursor : Cursor} (hlast : cursor.after.getLast? ≠ some '/') {pieces : List Piece}
    (hhead : (readings constraints segments cursor).head? = some pieces) :
    ∃ other, List.Forall₂ Segment.TakesWhole segments other ∧
      cursor.after = other.flatMap Piece.chars ∧ other.map Piece.text = pieces.map Piece.text := by
  obtain ⟨haccepts, hchars⟩ := (mem_readings_iff hlocal).mp (List.mem_of_head? hhead)
  have hloose := (forall₂_accepts_iff hfree).mp haccepts
  rcases hrigid with hslack | ⟨before, name, between, optional, after, rfl, hoptional, hbefore, hempty⟩
  · exact ⟨pieces, whole_of_not_slack hloose hslack, hchars, rfl⟩
  obtain ⟨front, piece, tail, rfl, hfront, hpiece, htail⟩ := forall₂_append_cons hloose
  obtain ⟨middle, ⟨slash, text⟩, back, rfl, hmiddle, hpart, hback⟩ := forall₂_append_cons htail
  have hbetween : ∀ segment ∈ between, segment = .optionalLiteral "" :=
    fun segment hsegment => hempty segment (List.mem_append_left _ hsegment)
  have hafter : ∀ segment ∈ after, segment = .optionalLiteral "" :=
    fun segment hsegment => hempty segment (List.mem_append_right _ hsegment)
  have hplaceholder : ¬ (Segment.placeholder name).Slack := fun hslack => (by cases hslack.1)
  -- All pieces but that of the slack segment are whole as they are.
  have hwhole : ∀ other part, List.Forall₂ Segment.TakesLoosely between other →
      optional.TakesWhole part → List.Forall₂ Segment.TakesWhole
        (before ++ .placeholder name :: (between ++ optional :: after))
          (front ++ piece :: (other ++ part :: back)) := fun other part hother hpart =>
    List.rel_append (whole_of_not_slack hfront hbefore) (.cons (hpiece.whole hplaceholder)
      (List.rel_append (whole_of_not_slack hother (not_slack_of_empty hbetween))
        (.cons hpart (whole_of_not_slack hback (not_slack_of_empty hafter)))))
  rw [hchars] at hlast
  have hnone := back_eq_nil (text_eq_nil hback hafter) hlast
  -- Without a text the slack segment is absent: a slash of it would end the path.
  by_cases htext : text = []
  · subst htext
    cases slash with
    | false => exact ⟨_, hwhole middle _ hmiddle (.inr ⟨hoptional, rfl⟩), hchars, rfl⟩
    | true =>
      refine absurd ?_ hlast
      simp [List.flatMap_append, List.flatMap_cons, hnone, Piece.chars]
  have hcarries : optional.Carries text := hpart.1.resolve_right fun hnil => htext hnil.2
  cases slash with
  | true => exact ⟨_, hwhole middle _ hmiddle (.inl ⟨rfl, hcarries⟩), hchars, rfl⟩
  | false =>
    -- A text without a slash takes over one of the slashes between, as the placeholder would have
    -- taken the text if there were none.
    by_cases hslashes : middle.flatMap Piece.chars = []
    · exact absurd (text_eq_nil_of_bare hlocal hfree hoptional hhead hfront hpiece hmiddle hback hslashes
        hnone hcarries) htext
    · obtain ⟨other, hother, hsame, hother_chars⟩ :=
        exists_without_last_slash hmiddle hbetween hslashes
      refine ⟨_, hwhole other ⟨true, text⟩ hother (.inl ⟨rfl, hcarries⟩), ?_, ?_⟩
      · rw [hchars]
        simp only [List.flatMap_append, List.flatMap_cons, hother_chars, Piece.chars, if_true,
          List.append_assoc, List.cons_append, List.nil_append]
        rfl
      · simp only [List.map_append, List.map_cons, hsame]

/-! ## Paths that are loose only -/

/-- A text that the segment carries. -/
def Segment.sample : Segment → List Char
  | .literal text | .optionalLiteral text => Percent.encodeChars text.toList
  | .placeholder _ | .optionalPlaceholder _ => ['x']

/-- The segment with its slash and its text. -/
def Segment.full (segment : Segment) : Piece := ⟨true, segment.sample⟩

/-- As little of the segment as can be. -/
def Segment.least (segment : Segment) : Piece :=
  if segment.isOptional then ⟨false, []⟩ else segment.full

section

variable {segment : Segment} {segments : List Segment} {pieces : List Piece}

theorem carries_sample (segment : Segment) : segment.Carries segment.sample := by
  cases segment with
  | literal text | optionalLiteral text => rfl
  | placeholder name | optionalPlaceholder name =>
    exact ⟨List.cons_ne_nil _ _, show '/' ∉ ['x'] by decide⟩

theorem whole_full (segment : Segment) : segment.TakesWhole segment.full :=
  .inl ⟨rfl, carries_sample segment⟩

theorem whole_least (segment : Segment) : segment.TakesWhole segment.least := by
  unfold Segment.least
  split
  · exact .inr ⟨‹_›, rfl⟩
  · exact whole_full segment

theorem whole_map {choose : Segment → Piece} (h : ∀ segment : Segment, segment.TakesWhole (choose segment))
    (segments : List Segment) : List.Forall₂ Segment.TakesWhole segments (segments.map choose) :=
  List.forall₂_map_right_iff.mpr (List.forall₂_same.mpr fun segment _ => h segment)

theorem forall₂_loosely (h : List.Forall₂ Segment.TakesWhole segments pieces) :
    List.Forall₂ Segment.TakesLoosely segments pieces :=
  h.imp fun _ _ => Segment.TakesWhole.loosely

/-- The path of whole pieces is their texts, each after a slash. -/
theorem slashed_of_whole (h : List.Forall₂ Segment.TakesWhole segments pieces) :
    slashed (Piece.textsOf pieces) = pieces.flatMap Piece.chars := by
  refine slashed_textsOf ?_
  induction h with
  | nil => exact fun piece hpiece => (by cases hpiece)
  | cons hfirst _ ih =>
    refine List.forall_mem_cons.mpr ⟨fun hslash => ?_, ih⟩
    rcases hfirst with ⟨hslash', -⟩ | ⟨-, rfl⟩
    · rw [hslash] at hslash'
      cases hslash'
    · rfl

theorem slash_not_mem_textsOf (h : List.Forall₂ Segment.TakesWhole segments pieces) :
    ∀ text ∈ Piece.textsOf pieces, '/' ∉ text := by
  induction h with
  | nil => exact fun text htext => (by cases htext)
  | @cons segment piece _ _ hfirst _ ih =>
    rw [textsOf_cons]
    intro text htext
    rcases List.mem_append.mp htext with htext | htext
    · rcases hfirst with ⟨hslash, hcarries⟩ | ⟨-, rfl⟩
      · rw [hslash] at htext
        rw [List.mem_singleton.mp htext]
        exact Segment.slash_not_mem_of_carries hcarries
      · cases htext
    · exact ih text htext

theorem least_of_empty (hempty : ∀ segment ∈ segments, segment = Segment.optionalLiteral "") :
    (segments.map Segment.least).flatMap Piece.chars = [] := by
  induction segments with
  | nil => rfl
  | cons segment segments ih =>
    rw [List.forall_mem_cons] at hempty
    rw [List.map_cons, List.flatMap_cons, ih hempty.2, hempty.1]
    rfl

theorem chars_full (segments : List Segment) :
    (segments.map Segment.full).flatMap Piece.chars = slashed (segments.map Segment.sample) := by
  rw [List.flatMap_map, slashed, List.flatMap_map]
  rfl

/-- Optional literals without text have no other text. -/
theorem textsOf_getLast_of_empty (h : List.Forall₂ Segment.TakesWhole segments pieces)
    (hempty : ∀ segment ∈ segments, segment = Segment.optionalLiteral "")
    (hne : Piece.textsOf pieces ≠ []) : (Piece.textsOf pieces).getLast hne = [] := by
  obtain ⟨piece, hpiece, htext⟩ := List.mem_filterMap.mp (List.getLast_mem hne)
  split at htext
  · rw [← Option.some.inj htext]
    exact text_eq_nil (forall₂_loosely h) hempty piece hpiece
  · cases htext

/-- Loose pieces of a path that is not a path of whole pieces. -/
structure LooseOnly (segments : List Segment) (pieces : List Piece) : Prop where
  loosely : List.Forall₂ Segment.TakesLoosely segments pieces
  trimmed : (pieces.flatMap Piece.chars).getLast? ≠ some '/'
  not_whole : ∀ other, List.Forall₂ Segment.TakesWhole segments other →
    pieces.flatMap Piece.chars ≠ other.flatMap Piece.chars

/-- No split into whole pieces has fewer slashes than the required segments. -/
theorem length_textsOf_least (h : List.Forall₂ Segment.TakesWhole segments pieces) :
    (Piece.textsOf (segments.map Segment.least)).length ≤ (Piece.textsOf pieces).length := by
  -- The least piece of an optional segment has no text, and any piece of a required one has its
  -- text.
  induction h with
  | nil => exact Nat.le_refl _
  | @cons segment piece _ _ hfirst _ ih =>
    rw [List.map_cons, textsOf_cons, textsOf_cons, List.length_append, List.length_append,
      Segment.least]
    cases hoptional : segment.isOptional with
    | true =>
      simp only [if_true, Bool.false_eq_true, if_false, Option.toList_none, List.length_nil]
      omega
    | false =>
      rcases hfirst with ⟨hslash, -⟩ | ⟨hoptional', -⟩
      · simp only [Bool.false_eq_true, if_false, Segment.full, hslash, if_true,
          Option.toList_some, List.length_singleton]
        omega
      · rw [hoptional] at hoptional'
        cases hoptional'

/-- In a split into whole pieces the last text is not one of optional literals without text, unless it
is empty. -/
theorem textsOf_eq_nil_of_last {front : List (List Char)} {text : List Char}
    (h : List.Forall₂ Segment.TakesWhole segments pieces)
    (hempty : ∀ segment ∈ segments, segment = Segment.optionalLiteral "")
    (hlast : (front ++ Piece.textsOf pieces).getLast? = some text) (hne : text ≠ []) :
    Piece.textsOf pieces = [] := by
  by_contra htexts
  rw [List.getLast?_append, List.getLast?_eq_some_getLast htexts, Option.some_or,
    textsOf_getLast_of_empty h hempty htexts, Option.some.injEq] at hlast
  exact hne hlast.symm

/-- A split has no more texts than pieces. -/
theorem length_textsOf_le {relation : Segment → Piece → Prop}
    (h : List.Forall₂ relation segments pieces) :
    (Piece.textsOf pieces).length ≤ segments.length := by
  rw [h.length_eq]
  exact List.length_filterMap_le _ _

/-- Where a split into whole pieces has as many texts as segments, every segment has its own. -/
theorem text_of_whole {texts more : List (List Char)} {text : List Char} {before after : List Segment}
    {optional : Segment} {first rest : List Piece} {piece : Piece}
    (hfirst : List.Forall₂ Segment.TakesWhole before first)
    (hpiece : optional.TakesWhole piece)
    (hrest : List.Forall₂ Segment.TakesWhole after rest)
    (htexts : texts ++ text :: more = Piece.textsOf (first ++ piece :: rest))
    (hbefore : texts.length = before.length) (hafter : more.length = after.length) :
    optional.Carries text := by
  have hfirstLength := length_textsOf_le hfirst
  have hrestLength := length_textsOf_le hrest
  have hlength := congrArg List.length htexts
  rw [textsOf_append, textsOf_cons] at htexts hlength
  -- The segments around have at most a text each, so the count leaves one for this segment, and it
  -- stands where the texts of those in front end.
  rcases hpiece with ⟨hslash, hcarries⟩ | ⟨-, rfl⟩
  · simp only [hslash, if_true, Option.toList_some, List.length_append, List.length_cons,
      List.length_nil] at hlength htexts
    obtain ⟨-, hmore⟩ := List.append_inj htexts (by omega)
    rw [(List.cons.inj hmore).1]
    exact hcarries
  · simp only [Bool.false_eq_true, if_false, Option.toList_none, List.length_append,
      List.length_cons, List.length_nil] at hlength
    omega

end

section

variable {before between after : List Segment} {optional last : Segment}

theorem sample_ne_nil {segment : Segment} (h : ¬ segment.Carries []) : segment.sample ≠ [] :=
  fun hnil => h (hnil ▸ carries_sample segment)

theorem slash_not_mem_sample (segment : Segment) : '/' ∉ segment.sample :=
  Segment.slash_not_mem_of_carries (carries_sample segment)

/-- A slash without a text, for a slack segment with a text behind it, has no place in a split into
whole pieces: that has as many texts as the path has slashes, and one of them would be empty. -/
theorem exists_loose_of_later (hoptional : optional.isOptional = true)
    (htext : ¬ optional.Carries []) (hlast : ¬ last.Carries [])
    (hempty : ∀ segment ∈ after, segment = Segment.optionalLiteral "") :
    ∃ pieces, LooseOnly (before ++ optional :: (between ++ last :: after)) pieces := by
  -- The slack segment takes its slash and no text, with another segment's text behind it.
  have hbare : optional.TakesLoosely ⟨true, []⟩ := ⟨.inr ⟨hoptional, rfl⟩, fun _ => rfl⟩
  have hchars : (before.map Segment.full ++ ⟨true, []⟩ :: (between.map Segment.full ++
      last.full :: after.map Segment.least)).flatMap Piece.chars =
      slashed (before.map Segment.sample ++ [] :: (between.map Segment.sample ++ [last.sample])) := by
    simp only [List.flatMap_append, List.flatMap_cons, least_of_empty hempty, chars_full]
    simp [slashed, Piece.chars, Segment.full]
  refine ⟨_, List.rel_append (forall₂_loosely (whole_map whole_full before)) <| .cons hbare <|
    List.rel_append (forall₂_loosely (whole_map whole_full between)) <|
      .cons (whole_full last).loosely (forall₂_loosely (whole_map whole_least after)),
    ?_, fun other hother hsame => ?_⟩
  · rw [hchars, ← List.cons_append, ← List.append_assoc]
    exact getLast?_slashed (sample_ne_nil hlast) (slash_not_mem_sample last) _
  · have hsamples : ∀ text ∈ before.map Segment.sample ++
        [] :: (between.map Segment.sample ++ [last.sample]), '/' ∉ text := by
      simp only [List.forall_mem_append, List.forall_mem_cons, List.forall_mem_map]
      exact ⟨fun segment _ => slash_not_mem_sample segment, List.not_mem_nil,
        fun segment _ => slash_not_mem_sample segment, slash_not_mem_sample last,
        fun text htext => (by cases htext)⟩
    rw [hchars, ← slashed_of_whole hother] at hsame
    have htexts := slashed_injective hsamples (slash_not_mem_textsOf hother) hsame
    obtain ⟨first, piece, tail, rfl, hfirst, hpiece, htail⟩ := forall₂_append_cons hother
    obtain ⟨middle, part, back, rfl, hmiddle, hpart, hback⟩ := forall₂_append_cons htail
    rw [show first ++ piece :: (middle ++ part :: back) =
      (first ++ piece :: (middle ++ [part])) ++ back by simp, textsOf_append] at htexts
    -- Behind the last text there is none, so every segment up to it has its own.
    have hends : (before.map Segment.sample ++
        [] :: (between.map Segment.sample ++ [last.sample])).getLast? = some last.sample := by
      rw [← List.cons_append, ← List.append_assoc]
      exact List.getLast?_concat
    rw [htexts] at hends
    have hnone := textsOf_eq_nil_of_last hback hempty hends (sample_ne_nil hlast)
    rw [hnone, List.append_nil] at htexts
    exact htext (text_of_whole hfirst hpiece (List.rel_append hmiddle (.cons hpart .nil)) htexts
      (List.length_map _) (by simp))

/-- A slack segment that stands alone takes a text without a slash, which begins no whole piece. -/
theorem exists_loose_of_alone (hoptional : optional.isOptional = true)
    (htext : ¬ optional.Carries [])
    (hempty : ∀ segment ∈ before ++ after, segment = Segment.optionalLiteral "") :
    ∃ pieces, LooseOnly (before ++ optional :: after) pieces := by
  -- The slack segment takes its text without a slash, and the path starts with none.
  have hbare : optional.TakesLoosely ⟨false, optional.sample⟩ :=
    ⟨.inl (carries_sample optional), fun hrequired => by rw [hoptional] at hrequired; cases hrequired⟩
  have hbefore := least_of_empty fun segment hsegment =>
    hempty segment (List.mem_append_left after hsegment)
  have hafter := least_of_empty fun segment hsegment =>
    hempty segment (List.mem_append_right before hsegment)
  have hchars : (before.map Segment.least ++ ⟨false, optional.sample⟩ ::
      after.map Segment.least).flatMap Piece.chars = optional.sample := by
    rw [List.flatMap_append, List.flatMap_cons, hbefore, hafter, List.append_nil]
    rfl
  refine ⟨_, List.rel_append (forall₂_loosely (whole_map whole_least before)) (.cons hbare
    (forall₂_loosely (whole_map whole_least after))), ?_, fun other hother hsame => ?_⟩
  · rw [hchars]
    exact getLast?_append_ne (sample_ne_nil htext) (slash_not_mem_sample optional) []
  · rw [hchars, ← slashed_of_whole hother] at hsame
    refine sample_ne_nil htext (@eq_nil_of_segmentEnds _ [] (slash_not_mem_sample optional) ?_)
    rw [List.append_nil, hsame]
    exact segmentEnds_slashed _

/-- Behind a literal the text of a slack segment, without its slash, makes the literal's text
longer, and the path has no slash for another segment to take it. -/
theorem exists_loose_of_literal {text : String} (hoptional : optional.isOptional = true)
    (htext : ¬ optional.Carries [])
    (hempty : ∀ segment ∈ between ++ after, segment = Segment.optionalLiteral "") :
    ∃ pieces, LooseOnly (before ++ .literal text :: (between ++ optional :: after)) pieces := by
  -- The slack segment's text stands right behind the literal's.
  have hbare : optional.TakesLoosely ⟨false, optional.sample⟩ :=
    ⟨.inl (carries_sample optional), fun hrequired => by rw [hoptional] at hrequired; cases hrequired⟩
  have hbetween := least_of_empty fun segment hsegment =>
    hempty segment (List.mem_append_left after hsegment)
  have hafter := least_of_empty fun segment hsegment =>
    hempty segment (List.mem_append_right between hsegment)
  have hbefore := @whole_map Segment.least whole_least before
  have hlonger : '/' ∉ Percent.encodeChars text.toList ++ optional.sample := by
    rw [List.mem_append, not_or]
    exact ⟨Percent.slash_not_mem_encodeChars _, slash_not_mem_sample optional⟩
  have hchars : (before.map Segment.least ++ (Segment.literal text).full ::
      (between.map Segment.least ++ ⟨false, optional.sample⟩ ::
        after.map Segment.least)).flatMap Piece.chars =
      slashed (Piece.textsOf (before.map Segment.least) ++
        [Percent.encodeChars text.toList ++ optional.sample]) := by
    rw [slashed_append, slashed_of_whole hbefore]
    simp only [List.flatMap_append, List.flatMap_cons, hbetween, hafter, List.append_nil,
      List.nil_append]
    simp [slashed, Piece.chars, Segment.full, Segment.sample]
  refine ⟨_, List.rel_append (forall₂_loosely hbefore) <| .cons (whole_full _).loosely <|
    List.rel_append (forall₂_loosely (whole_map whole_least between)) <|
      .cons hbare (forall₂_loosely (whole_map whole_least after)), ?_, fun other hother hsame => ?_⟩
  · rw [hchars]
    exact getLast?_slashed (List.append_ne_nil_of_right_ne_nil _ (sample_ne_nil htext)) hlonger _
  · have hsamples : ∀ longer ∈ Piece.textsOf (before.map Segment.least) ++
        [Percent.encodeChars text.toList ++ optional.sample], '/' ∉ longer :=
      List.forall_mem_append.mpr ⟨slash_not_mem_textsOf hbefore,
        List.forall_mem_singleton.mpr hlonger⟩
    rw [hchars, ← slashed_of_whole hother] at hsame
    have htexts := slashed_injective hsamples (slash_not_mem_textsOf hother) hsame
    obtain ⟨first, piece, tail, rfl, hfirst, hpiece, -⟩ := forall₂_append_cons hother
    obtain ⟨hslash, hcarries⟩ := hpiece.resolve_right fun habsent => (by cases habsent.1)
    -- The texts in front are no fewer than the required segments there, so the literal comes last.
    have hle := length_textsOf_least hfirst
    have hlength := congrArg List.length htexts
    rw [textsOf_append, textsOf_cons, hslash, show piece.text = _ from hcarries] at htexts hlength
    simp only [if_true, Option.toList_some, List.length_append, List.length_singleton] at hlength
    obtain ⟨-, hlast⟩ := List.append_inj htexts (by omega)
    have hsame := (List.cons.inj hlast).1
    exact sample_ne_nil htext (List.append_right_eq_self.mp hsame)

theorem exists_last {α : Type} {property : α → Prop} {list : List α}
    (h : ∃ item ∈ list, property item) :
    ∃ front last back, list = front ++ last :: back ∧ property last ∧
      ∀ item ∈ back, ¬ property item := by
  induction list with
  | nil =>
    obtain ⟨item, hitem, -⟩ := h
    cases hitem
  | cons head list ih =>
    by_cases hlater : ∃ item ∈ list, property item
    · obtain ⟨front, last, back, rfl, hlast, hback⟩ := ih hlater
      exact ⟨head :: front, last, back, rfl, hlast, hback⟩
    · obtain ⟨item, hitem, hproperty⟩ := h
      rcases List.mem_cons.mp hitem with rfl | hitem
      · exact ⟨[], item, list, rfl, hproperty, fun other hother hother' =>
          hlater ⟨other, hother, hother'⟩⟩
      · exact absurd ⟨item, hitem, hproperty⟩ hlater

/-- A pattern that is not rigid reads some path by loose pieces only. -/
theorem exists_loose_path {segments : List Segment}
    (hwritten : ∀ segment ∈ segments, segment.Written) (h : ¬ Rigid segments) :
    ∃ pieces, LooseOnly segments pieces := by
  rw [Rigid, not_or] at h
  obtain ⟨hsome, hnone⟩ := h
  obtain ⟨slack, hmem, hslack⟩ : ∃ segment ∈ segments, segment.Slack := by
    by_contra hall
    exact hsome fun segment hsegment hslack => hall ⟨segment, hsegment, hslack⟩
  obtain ⟨front, last, back, rfl, hlast, hback⟩ :=
    @exists_last _ (· ≠ Segment.optionalLiteral "") segments ⟨slack, hmem, hslack.2⟩
  have hempty : ∀ segment ∈ back, segment = Segment.optionalLiteral "" :=
    fun segment hsegment => not_not.mp (hback segment hsegment)
  have hlastText : ¬ last.Carries [] := Segment.not_carries_nil
    (hwritten last (List.mem_append_right _ List.mem_cons_self)) hlast
  by_cases hfront : ∃ segment ∈ front, segment.Slack
  · obtain ⟨optional, hoptional, hslack⟩ := hfront
    obtain ⟨before, between, rfl⟩ := List.append_of_mem hoptional
    rw [List.append_assoc, List.cons_append]
    refine exists_loose_of_later hslack.1
      (Segment.not_carries_nil (hwritten optional ?_) hslack.2) hlastText hempty
    exact List.mem_append_left _ hoptional
  -- The last segment with a text is the only slack one.
  have hfrontSlack : ∀ segment ∈ front, ¬ segment.Slack :=
    fun segment hsegment hslack => hfront ⟨segment, hsegment, hslack⟩
  have hoptional : last.isOptional = true := by
    rcases List.mem_append.mp hmem with hmem | hmem
    · exact absurd hslack (hfrontSlack slack hmem)
    · rcases List.mem_cons.mp hmem with rfl | hmem
      · exact hslack.1
      · exact absurd (hempty slack hmem) hslack.2
  have hrest : ∀ between, (∀ segment ∈ between, segment ∈ front) →
      (∀ segment ∈ between, ¬ segment.isOptional = false) →
        ∀ segment ∈ between ++ back, segment = Segment.optionalLiteral "" := by
    intro between hsubset hall segment hsegment
    rcases List.mem_append.mp hsegment with hsegment | hsegment
    · by_contra hne
      exact hfrontSlack segment (hsubset segment hsegment)
        ⟨Bool.not_eq_false _ ▸ hall segment hsegment, hne⟩
    · exact hempty segment hsegment
  -- In front of it a required segment stands last, or none at all. A placeholder there makes the
  -- route rigid, so it is a literal.
  by_cases hrequired : ∃ segment ∈ front, segment.isOptional = false
  · obtain ⟨before, required, between, rfl, hrequired, hbetween⟩ := exists_last hrequired
    have hall := hrest between (fun segment hsegment =>
      List.mem_append_right _ (List.mem_cons_of_mem _ hsegment)) hbetween
    rw [List.append_assoc, List.cons_append] at hnone ⊢
    cases required with
    | optionalLiteral text | optionalPlaceholder name => cases hrequired
    | literal text => exact exists_loose_of_literal hoptional hlastText hall
    | placeholder name =>
      exact absurd ⟨before, name, between, last, back, rfl, hoptional, fun segment hsegment =>
        hfrontSlack segment (List.mem_append_left _ hsegment), hall⟩ hnone
  · exact exists_loose_of_alone hoptional hlastText
      (hrest front (fun _ => id) fun segment hsegment hfalse => hrequired ⟨segment, hsegment, hfalse⟩)

end

end Switchyard
