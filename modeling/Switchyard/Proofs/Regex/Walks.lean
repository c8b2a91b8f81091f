import Mathlib.Data.List.Basic
import Switchyard.Proofs.Regex.Reduced

/-!
# What walks do to a text

Facts about the ways of a pattern that hold for every construct of the language: a way leaves a suffix
of its text, and only groups of the pattern make marks. A pattern that starts at the start of the text
matches there or nowhere, and some patterns take a text or do not whatever stands around it
(`Walk.Local`).
-/

namespace Switchyard.Regex

/-! ## Properties of single ways -/

/-- A property that composes, holds of a single character taken, is kept by the groups of the pattern,
and does not ask for the spots, holds of every way of the pattern. -/
theorem each_ends {property : Cursor → Reach → Prop} (h : Composes property)
    (htake : ∀ accepts, Walk.Each property (.take accepts))
    (hplain : ∀ cursor reach, property cursor reach → property cursor reach.plain) (pattern : Regex)
    (hnamed : ∀ name ∈ pattern.groupNames, ∀ cursor reach, property cursor reach →
      property cursor (reach.marked name cursor)) :
    Walk.Each property pattern.ends := by
  intro cursor reach hreach
  obtain ⟨way, hway, rfl⟩ := List.mem_map.mp hreach
  have hall := Form.all_ofRegex (fun _ _ => True.intro) hnamed
  exact hplain cursor way (each_walk h htake hall cursor way hway)

/-- A way of a pattern stays or gets further. -/
theorem onward_ends {pattern : Regex} {cursor : Cursor} {reach : Reach}
    (h : reach ∈ pattern.ends cursor) :
    reach.cursor = cursor ∨ reach.cursor.left < cursor.left := by
  obtain ⟨way, hway, rfl⟩ := List.mem_map.mp h
  exact (onward_walk _ cursor way hway).imp And.right And.right

/-! ## Suffixes and marks -/

theorem composes_suffix :
    Composes fun cursor reach => ∃ taken, cursor.after = taken ++ reach.cursor.after where
  stay cursor := ⟨[], rfl⟩
  extend := by
    rintro cursor first second ⟨taken, htaken⟩ ⟨later, hlater⟩
    exact ⟨taken ++ later, by rw [htaken, hlater, List.append_assoc]; rfl⟩
  within _ h := h

theorem each_take_suffix (accepts : Char → Bool) :
    Walk.Each (fun cursor reach => ∃ taken, cursor.after = taken ++ reach.cursor.after)
      (.take accepts) := by
  intro cursor reach hreach
  obtain ⟨c, rest, hafter, -, rfl⟩ := mem_take hreach
  exact ⟨[c], hafter⟩

/-- A way takes up the text in front of it and leaves the rest. -/
theorem suffix_of_mem_ends {pattern : Regex} {cursor : Cursor} {reach : Reach}
    (h : reach ∈ pattern.ends cursor) : ∃ taken, cursor.after = taken ++ reach.cursor.after :=
  each_ends composes_suffix each_take_suffix (fun _ _ hreach => hreach) pattern
    (fun _ _ _ _ hreach => hreach) cursor reach h

/-- Only the groups of the pattern make marks on its ways. -/
theorem mem_groupNames_of_mem_path {pattern : Regex} {cursor : Cursor} {reach : Reach}
    (h : reach ∈ pattern.ends cursor) {mark : Mark} (hmark : mark ∈ reach.path) :
    mark.name ∈ pattern.groupNames := by
  -- That all marks are of names in the pattern is a property of single ways.
  have hcomposes : Composes fun _ reach => ∀ mark ∈ reach.path, mark.name ∈ pattern.groupNames :=
    { stay := fun cursor mark hmem => by cases hmem
      extend := fun hfirst hsecond mark hmem =>
        (List.mem_append.mp hmem).elim (hfirst mark) (hsecond mark)
      within := fun _ hpath => hpath }
  have htake : ∀ accepts, Walk.Each
      (fun _ reach => ∀ mark ∈ reach.path, mark.name ∈ pattern.groupNames) (.take accepts) := by
    intro accepts cursor reach hreach mark hmem
    obtain ⟨c, rest, -, -, rfl⟩ := mem_take hreach
    cases hmem
  refine each_ends hcomposes htake (fun _ _ hpath => hpath) pattern
    (fun name hname cursor reach hpath mark hmem => ?_) cursor reach h mark hmark
  simp only [Reach.marked, List.cons_append, List.mem_cons, List.mem_append, List.not_mem_nil,
    or_false] at hmem
  rcases hmem with rfl | hmem | rfl
  · exact hname
  · exact hpath mark hmem
  · exact hname

/-! ## Matches from the start -/

/-- A sequence that starts at the start of the text matches there or nowhere. -/
theorem firstPath?_textStart (items : List Regex) (text : List Char) :
    firstPath? (sequence (.look .textStart :: items)) text =
      (Walk.inOrder (items.map ends) (Cursor.start text)).head?.map Reach.path := by
  -- The search tries later places too, and the assertion fails at each.
  have hlater : ∀ (before : Char) (rest : List Char),
      (Cursor.onward (some before) rest).findSome? (fun cursor =>
        ((sequence (.look .textStart :: items)).ends cursor).head?.map Reach.path) = none := by
    intro before rest
    induction rest generalizing before with
    | nil =>
      simp [Cursor.onward, ends_sequence, Walk.inOrder_cons, ends_look, Walk.andThen, Walk.check,
        Look.holds]
    | cons c rest ih =>
      rw [Cursor.onward, List.findSome?_cons, ih]
      simp [ends_sequence, Walk.inOrder_cons, ends_look, Walk.andThen, Walk.check, Look.holds]
  -- At the start the assertion holds and stays where it is.
  have hstart : (sequence (.look .textStart :: items)).ends (Cursor.start text) =
      Walk.inOrder (items.map ends) (Cursor.start text) := by
    rw [ends_sequence, List.map_cons, Walk.inOrder_cons, ends_look]
    exact congrFun (Walk.stay_andThen (Walk.inOrder (items.map ends))) (Cursor.start text)
  rw [← hstart, firstPath?]
  rcases text with _ | ⟨c, rest⟩
  · rw [Cursor.onward, List.findSome?_cons, List.findSome?_nil, ← Cursor.start]
    split
    · rename_i hfound
      exact hfound.symm
    · rename_i hnone
      exact hnone.symm
  · rw [Cursor.onward, List.findSome?_cons, hlater, ← Cursor.start]
    split
    · rename_i hfound
      exact hfound.symm
    · rename_i hnone
      exact hnone.symm

/-! ## Texts taken up -/

/-- No assertion stands in the pattern. -/
def lookFree : Regex → Bool
  | empty | set _ => true
  | look _ => false
  | cat first second | alt first second => first.lookFree && second.lookFree
  | group _ body | repeats _ _ _ body => body.lookFree

namespace Walk

/-- From the place after `before`, the walk has a way that takes up the text and leaves the rest. -/
def Takes (walk : Walk) (before : Option Char) (text rest : List Char) : Prop :=
  ∃ reach ∈ walk ⟨before, text ++ rest⟩, reach.cursor.after = rest

theorem takes_plain {walk : Walk} {before : Option Char} {text rest : List Char} :
    walk.plain.Takes before text rest ↔ walk.Takes before text rest := by
  constructor
  · rintro ⟨reach, hreach, hrest⟩
    obtain ⟨way, hway, rfl⟩ := List.mem_map.mp hreach
    exact ⟨way, hway, hrest⟩
  · rintro ⟨way, hway, hrest⟩
    exact ⟨way.plain, List.mem_map_of_mem hway, hrest⟩

/-- The walk takes up a text or does not, whatever stands around the text. -/
structure Local (walk : Walk) : Prop where
  suffix : walk.Each fun cursor reach => ∃ taken, cursor.after = taken ++ reach.cursor.after
  moves : ∀ {before text rest}, walk.Takes before text rest →
    ∀ before' rest', walk.Takes before' text rest'

end Walk

/-! ## Runs of characters -/

/-- The empty spot lies past no other. -/
theorem Spot.leadsPast_nil (last : Spot) : last.leadsPast [] = false := by
  rcases last with _ | ⟨step, last⟩
  · rfl
  · cases step <;> rfl

namespace Walk

variable (accepts : Char → Bool)

/-- Any number of accepted characters, as many as there are preferred. -/
def runs : Walk := plain (laps (take accepts) true [])

/-- Every turn takes its one character at the same spot, which bars none of the turns after it. -/
theorem plain_laps_take (last : Spot) (cursor : Cursor) :
    plain (laps (take accepts) true last) cursor =
      (cursor.step? accepts).toList.flatMap (runs accepts) ++ [{ cursor := cursor }] := by
  rw [plain, laps, if_pos rfl, List.map_append]
  refine congrArg (· ++ [({ cursor := cursor } : Reach)]) ?_
  rw [List.map_flatMap, take, List.flatMap_map]
  refine List.flatMap_congr fun place hplace => ?_
  have hlt : place.left < cursor.left := left_lt_of_step? (Option.mem_toList.mp hplace)
  rw [if_pos ⟨hlt, last.leadsPast_nil⟩, List.map_map]
  rfl

/-- A run goes on as long as it can, and then gives back one character at a time. -/
theorem runs_eq (cursor : Cursor) :
    runs accepts cursor =
      (cursor.step? accepts).toList.flatMap (runs accepts) ++ [{ cursor := cursor }] :=
  plain_laps_take accepts [] cursor

theorem plain_onceOrMore_take (cursor : Cursor) :
    plain (onceOrMore (take accepts) true) cursor =
      (cursor.step? accepts).toList.flatMap (runs accepts) := by
  rw [plain, onceOrMore, List.map_flatMap, take, List.flatMap_map]
  refine List.flatMap_congr fun place hplace => ?_
  have hlt : place.left < cursor.left := left_lt_of_step? (Option.mem_toList.mp hplace)
  rw [if_pos hlt, List.map_map]
  rfl

variable {accepts}

theorem left_le_of_mem_runs {cursor : Cursor} {reach : Reach} (h : reach ∈ runs accepts cursor) :
    reach.cursor.left ≤ cursor.left := by
  obtain ⟨way, hway, rfl⟩ := List.mem_map.mp h
  exact (Each.laps composes_onward (onward_take accepts) true [] cursor way hway).left_le

/-- The longest run comes first: along the list, more and more text is left. -/
theorem pairwise_runs (cursor : Cursor) :
    (runs accepts cursor).Pairwise fun first second => first.cursor.left < second.cursor.left := by
  induction hn : cursor.left using Nat.strongRecOn generalizing cursor with
  | ind n ih =>
    rw [runs_eq]
    cases hstep : cursor.step? accepts with
    | none => simp
    | some place =>
      have hlt : place.left < cursor.left := left_lt_of_step? hstep
      rw [Option.toList_some, List.flatMap_singleton, List.pairwise_append]
      refine ⟨ih _ (hn ▸ hlt) _ rfl, List.pairwise_singleton _ _,
        fun first hfirst second hsecond => ?_⟩
      rw [List.mem_singleton.mp hsecond]
      exact Nat.lt_of_le_of_lt (left_le_of_mem_runs hfirst) hlt

/-- Runs take exactly the texts of accepted characters. -/
theorem takes_runs {before : Option Char} {text rest : List Char} :
    (runs accepts).Takes before text rest ↔ ∀ c ∈ text, accepts c = true := by
  induction text generalizing before with
  | nil =>
    refine ⟨fun _ c hc => (by cases hc), fun _ => ⟨{ cursor := ⟨before, rest⟩ }, ?_, rfl⟩⟩
    rw [List.nil_append, runs_eq]
    exact List.mem_append_right _ (List.mem_singleton.mpr rfl)
  | cons c text ih =>
    rw [List.forall_mem_cons]
    have hstep : (⟨before, c :: text ++ rest⟩ : Cursor).step? accepts =
        if accepts c then some ⟨some c, text ++ rest⟩ else none := rfl
    constructor
    · rintro ⟨reach, hreach, hrest⟩
      rw [runs_eq, hstep] at hreach
      rcases List.mem_append.mp hreach with hreach | hreach
      · by_cases hc : accepts c = true
        · rw [if_pos hc, Option.toList_some, List.flatMap_singleton] at hreach
          exact ⟨hc, ih.mp ⟨reach, hreach, hrest⟩⟩
        · rw [if_neg hc] at hreach
          cases hreach
      · -- The way that stays leaves more than `rest`.
        rw [List.mem_singleton.mp hreach] at hrest
        have hlength := congrArg List.length hrest
        simp only [List.length_append, List.length_cons] at hlength
        omega
    · rintro ⟨hc, htext⟩
      obtain ⟨reach, hreach, hrest⟩ := (@ih (some c)).mpr htext
      refine ⟨reach, ?_, hrest⟩
      rw [runs_eq, hstep, if_pos hc, Option.toList_some, List.flatMap_singleton]
      exact List.mem_append_left _ hreach

end Walk

end Switchyard.Regex
