import Switchyard.Regex.Match

/-!
# Properties of ways

A property of single ways that holds where a walk stays, of one way after another and of ways in a
larger form composes. If it holds of a single character taken and is kept by the groups of a form, it
holds of every way of the form (`each_walk`). That ways get on is such a property (`onward_walk`).
-/

namespace Switchyard.Regex

/-! ## Turns of a repetition -/

namespace Walk

variable {walk : Walk} {greedy : Bool} {cursor : Cursor} {reach : Reach}

theorem mem_laps {last : Spot} :
    reach ∈ walk.laps greedy last cursor ↔ reach = { cursor := cursor } ∨
      ∃ turn ∈ walk cursor,
        (turn.cursor.left < cursor.left ∧ last.leadsPast turn.firstSpot = false) ∧
        ∃ later ∈ walk.laps greedy turn.lastSpot turn.cursor, reach = turn.extend later := by
  have hmore : reach ∈ (walk cursor).flatMap (fun turn =>
      if turn.cursor.left < cursor.left ∧ last.leadsPast turn.firstSpot = false then
        (laps walk greedy turn.lastSpot turn.cursor).map turn.extend else []) ↔
      ∃ turn ∈ walk cursor,
        (turn.cursor.left < cursor.left ∧ last.leadsPast turn.firstSpot = false) ∧
        ∃ later ∈ walk.laps greedy turn.lastSpot turn.cursor, reach = turn.extend later := by
    rw [List.mem_flatMap]
    refine exists_congr fun turn => and_congr_right fun _ => ?_
    by_cases hturn : turn.cursor.left < cursor.left ∧ last.leadsPast turn.firstSpot = false
    · rw [if_pos hturn]
      simp [hturn, eq_comm]
    · rw [if_neg hturn]
      simp [hturn]
  rw [laps]
  split
  · rw [List.mem_append, hmore, stay, List.mem_singleton, or_comm]
  · rw [List.mem_append, hmore, stay, List.mem_singleton]

theorem mem_onceOrMore :
    reach ∈ walk.onceOrMore greedy cursor ↔ ∃ turn ∈ walk cursor,
      (turn.cursor.left < cursor.left ∧
        ∃ later ∈ walk.laps greedy turn.lastSpot turn.cursor, reach = turn.extend later) ∨
      (¬ turn.cursor.left < cursor.left ∧ reach = turn) := by
  rw [onceOrMore, List.mem_flatMap]
  refine exists_congr fun turn => and_congr_right fun _ => ?_
  by_cases hlt : turn.cursor.left < cursor.left
  · simp [hlt, eq_comm]
  · simp [hlt]

end Walk

/-! ## Properties of single ways -/

/-- Every way of the walk has the property. -/
def Walk.Each (property : Cursor → Reach → Prop) (walk : Walk) : Prop :=
  ∀ cursor, ∀ reach ∈ walk cursor, property cursor reach

/-- The property holds where a walk stays, of one way after another, and of a way as part of a
larger form. -/
structure Composes (property : Cursor → Reach → Prop) : Prop where
  stay : ∀ cursor, property cursor { cursor := cursor }
  extend : ∀ {cursor first second}, property cursor first → property first.cursor second →
    property cursor (first.extend second)
  within : ∀ {cursor reach} (step : Descent), property cursor reach →
    property cursor (reach.within step)

namespace Walk.Each

variable {property : Cursor → Reach → Prop} {walk first second : Walk}

theorem stay (h : Composes property) : Each property Walk.stay := by
  intro cursor reach hreach
  rw [List.mem_singleton.mp hreach]
  exact h.stay cursor

theorem check (h : Composes property) (assertion : Look) :
    Each property (Walk.check assertion) := by
  intro cursor reach hreach
  unfold Walk.check at hreach
  split at hreach
  · exact Each.stay h cursor reach hreach
  · cases hreach

theorem andThen (h : Composes property) (hfirst : Each property first)
    (hsecond : Each property second) : Each property (first.andThen second) := by
  intro cursor reach hreach
  obtain ⟨sooner, hsooner, hreach⟩ := List.mem_flatMap.mp hreach
  obtain ⟨later, hlater, rfl⟩ := List.mem_map.mp hreach
  exact h.extend (hfirst cursor sooner hsooner) (hsecond sooner.cursor later hlater)

theorem orElse (hfirst : Each property first) (hsecond : Each property second) :
    Each property (first.orElse second) := by
  intro cursor reach hreach
  rcases List.mem_append.mp hreach with hreach | hreach
  · exact hfirst cursor reach hreach
  · exact hsecond cursor reach hreach

theorem within (h : Composes property) (hwalk : Each property walk) (step : Descent) :
    Each property (walk.within step) := by
  intro cursor reach hreach
  obtain ⟨inner, hinner, rfl⟩ := List.mem_map.mp hreach
  exact h.within step (hwalk cursor inner hinner)

theorem both (h : Composes property) (hfirst : Each property first)
    (hsecond : Each property second) : Each property (first.both second) :=
  andThen h (within h hfirst .sooner) (within h hsecond .later)

theorem either (h : Composes property) (hfirst : Each property first)
    (hsecond : Each property second) : Each property (first.either second) :=
  orElse (within h hfirst .left) (within h hsecond .right)

theorem letters (h : Composes property) (htake : ∀ accepts, Each property (Walk.take accepts))
    (text : List Char) : Each property (Walk.letters text) := by
  induction text with
  | nil => exact Each.stay h
  | cons c text ih => exact both h (htake _) ih

theorem optional (h : Composes property) (hwalk : Each property walk) (greedy : Bool) :
    Each property (walk.optional greedy) := by
  unfold Walk.optional
  split
  · exact hwalk.orElse (Each.stay h)
  · exact (Each.stay h).orElse hwalk

theorem times (h : Composes property) (hwalk : Each property walk) (count : Nat) :
    Each property (walk.times count) := by
  induction count with
  | zero => exact Each.stay h
  | succ count ih => exact both h ih hwalk

theorem upTo (h : Composes property) (hwalk : Each property walk) (greedy : Bool) (count : Nat) :
    Each property (walk.upTo greedy count) := by
  induction count with
  | zero => exact Each.stay h
  | succ count ih => exact optional h (both h hwalk ih) greedy

/-- Of any number of turns, by induction on the text that is left. -/
theorem laps (h : Composes property) (hwalk : Each property walk) (greedy : Bool) (last : Spot) :
    Each property (walk.laps greedy last) := by
  intro cursor
  -- A further turn leaves less text.
  induction hn : cursor.left using Nat.strongRecOn generalizing last cursor with
  | ind n ih =>
    intro reach hreach
    rcases mem_laps.mp hreach with rfl | ⟨turn, hturn, ⟨hlt, -⟩, later, hlater, rfl⟩
    · exact h.stay cursor
    · exact h.extend (hwalk cursor turn hturn)
        (ih turn.cursor.left (hn ▸ hlt) turn.lastSpot turn.cursor rfl later hlater)

theorem onceOrMore (h : Composes property) (hwalk : Each property walk) (greedy : Bool) :
    Each property (walk.onceOrMore greedy) := by
  intro cursor reach hreach
  obtain ⟨turn, hturn, ⟨-, later, hlater, rfl⟩ | ⟨-, rfl⟩⟩ := mem_onceOrMore.mp hreach
  · exact h.extend (hwalk cursor turn hturn) (laps h hwalk greedy _ turn.cursor later hlater)
  · exact hwalk cursor reach hturn

theorem repeated (h : Composes property) (hwalk : Each property walk) (takesText : Bool) (min : Nat)
    (max : Option Nat) (greedy : Bool) :
    Each property (walk.repeated takesText min max greedy) := by
  have hloop : Each property (Walk.optional greedy (walk.onceOrMore greedy)) :=
    optional h (onceOrMore h hwalk greedy) greedy
  unfold Walk.repeated
  split
  · exact both h (times h hwalk _) (upTo h hwalk greedy _)
  · split
    · exact within h hloop .loop
    · exact hloop
  · exact both h (times h hwalk _) (onceOrMore h hwalk greedy)

end Walk.Each

/-! ## Ways of a form -/

/-- What is asked of assertions and of names is true of all that stand in the form. -/
def Form.All (ofLook : Look → Prop) (ofName : List Char → Prop) : Form → Prop
  | empty | literal _ | chars _ => True
  | look assertion => ofLook assertion
  | capture none body => body.All ofLook ofName
  | capture (some name) body => ofName name ∧ body.All ofLook ofName
  | repeats _ _ _ body => body.All ofLook ofName
  | both first rest | either first rest => first.All ofLook ofName ∧ rest.All ofLook ofName

theorem Form.all_of_forall {ofLook : Look → Prop} {ofName : List Char → Prop}
    (hlook : ∀ assertion, ofLook assertion) (hname : ∀ name, ofName name) (form : Form) :
    form.All ofLook ofName := by
  induction form with
  | empty | literal | chars => trivial
  | look assertion => exact hlook assertion
  | capture name? body ih =>
    cases name? with
    | none => exact ih
    | some name => exact ⟨hname name, ih⟩
  | repeats min max greedy body ih => exact ih
  | both first rest hfirst hrest | either first rest hfirst hrest => exact ⟨hfirst, hrest⟩

/-- A property that composes, holds of a single character taken, and is kept by the groups of the
form holds of every way of the form. -/
theorem each_walk {property : Cursor → Reach → Prop} (h : Composes property)
    (htake : ∀ accepts, Walk.Each property (.take accepts)) {form : Form} {ofLook : Look → Prop}
    (hnamed : form.All ofLook fun name => ∀ cursor reach, property cursor reach →
      property cursor (reach.marked name cursor)) :
    Walk.Each property form.walk := by
  -- One case for each kind of form; only named groups ask for more than that the property composes.
  induction form with
  | empty => exact .stay h
  | literal text => exact .letters h htake text
  | chars members => exact htake members.holds
  | look assertion => exact .check h assertion
  | capture name? body hbody =>
    cases name? with
    | none => exact hbody hnamed
    | some name =>
      intro cursor reach hreach
      obtain ⟨inner, hinner, rfl⟩ := List.mem_map.mp hreach
      exact hnamed.1 cursor inner (hbody hnamed.2 cursor inner hinner)
  | repeats min max greedy body hbody => exact .repeated h (hbody hnamed) _ _ _ greedy
  | both first rest hfirst hrest => exact .both h (hfirst hnamed.1) (hrest hnamed.2)
  | either first rest hfirst hrest => exact .either h (hfirst hnamed.1) (hrest hnamed.2)

/-! ## Characters taken -/

section

variable {accepts : Char → Bool} {cursor place : Cursor}

theorem step?_eq_some (h : cursor.step? accepts = some place) :
    ∃ c rest, cursor.after = c :: rest ∧ accepts c = true ∧ place = ⟨some c, rest⟩ := by
  unfold Cursor.step? at h
  split at h
  · cases h
  · rename_i c rest hafter
    split at h
    · rename_i hholds
      cases h
      exact ⟨c, rest, hafter, hholds, rfl⟩
    · cases h

theorem left_lt_of_step? (h : cursor.step? accepts = some place) : place.left < cursor.left := by
  obtain ⟨c, rest, hafter, -, rfl⟩ := step?_eq_some h
  simp [Cursor.left, hafter]

theorem mem_take {reach : Reach} (h : reach ∈ Walk.take accepts cursor) :
    ∃ c rest, cursor.after = c :: rest ∧ accepts c = true ∧
      reach = ⟨⟨some c, rest⟩, [], [[]]⟩ := by
  obtain ⟨place, hplace, rfl⟩ := List.mem_map.mp h
  obtain ⟨c, rest, hafter, hholds, rfl⟩ := step?_eq_some (Option.mem_toList.mp hplace)
  exact ⟨c, rest, hafter, hholds, rfl⟩

end

/-! ## Ways that get on -/

/-- A way that takes no character stays, and one that takes any gets further. -/
def Reach.Onward (cursor : Cursor) (reach : Reach) : Prop :=
  (reach.taken = [] ∧ reach.cursor = cursor) ∨
    (reach.taken ≠ [] ∧ reach.cursor.left < cursor.left)

theorem Reach.Onward.left_lt_iff {cursor : Cursor} {reach : Reach} (h : reach.Onward cursor) :
    reach.cursor.left < cursor.left ↔ reach.taken ≠ [] := by
  rcases h with ⟨htaken, hsame⟩ | ⟨htaken, hlt⟩
  · simp [htaken, hsame]
  · simp [htaken, hlt]

theorem Reach.Onward.left_le {cursor : Cursor} {reach : Reach} (h : reach.Onward cursor) :
    reach.cursor.left ≤ cursor.left := by
  rcases h with ⟨-, hsame⟩ | ⟨-, hlt⟩
  · exact Nat.le_of_eq (congrArg Cursor.left hsame)
  · exact Nat.le_of_lt hlt

/-- Every way of the walk gets on. -/
abbrev Walk.Onward (walk : Walk) : Prop := walk.Each Reach.Onward

theorem composes_onward : Composes Reach.Onward where
  stay _ := .inl ⟨rfl, rfl⟩
  extend := by
    rintro cursor first second (⟨hfirst, rfl⟩ | ⟨hfirst, hlt⟩) hsecond
    · rcases hsecond with ⟨htaken, hsame⟩ | ⟨htaken, hlt⟩
      · exact .inl ⟨by simp [Reach.extend, hfirst, htaken], hsame⟩
      · exact .inr ⟨by simp [Reach.extend, hfirst, htaken], hlt⟩
    · exact .inr ⟨by simp [Reach.extend, hfirst], Nat.lt_of_le_of_lt hsecond.left_le hlt⟩
  within := by
    rintro cursor reach step (⟨htaken, hsame⟩ | ⟨htaken, hlt⟩)
    · exact .inl ⟨by simp [Reach.within, htaken], hsame⟩
    · exact .inr ⟨by simp [Reach.within, htaken], hlt⟩

theorem onward_take (accepts : Char → Bool) : Walk.Onward (.take accepts) := by
  intro cursor reach hreach
  obtain ⟨c, rest, hafter, -, rfl⟩ := mem_take hreach
  exact .inr ⟨by simp, by simp [Cursor.left, hafter]⟩

/-- Every way of a form gets on. -/
theorem onward_walk (form : Form) : form.walk.Onward := by
  have hmarked : ∀ name cursor reach, Reach.Onward cursor reach →
      Reach.Onward cursor (reach.marked name cursor) := fun _ _ _ h => h
  exact each_walk composes_onward onward_take
    (Form.all_of_forall (fun _ : Look => True.intro) hmarked form)

end Switchyard.Regex
