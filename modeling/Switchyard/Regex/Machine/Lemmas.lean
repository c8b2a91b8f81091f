import Switchyard.Regex.Machine
import Switchyard.Regex.Match.Lemmas

/-!
# Machines find the preferred way

The search with a machine answers what matching means (`search?_eq_firstPath?`). A machine follows
a walk when at every place its profile is the walk's, whatever comes after the form and wherever the
gate lets a way start (`Machine.Follows`); the machine of a form follows the ways of the form.
-/

namespace Switchyard.Regex

/-! ## Gates and what comes after -/

namespace Gate

@[simp] theorem within_opened (step : Descent) : opened.within step = opened := rfl

/-- A spot of a part is let through by the gate for the part. -/
theorem lets_within (gate : Gate) (step : Descent) (spot : Spot) :
    (gate.within step).lets spot = gate.lets (step :: spot) := by
  cases gate with
  | opened | closed => rfl
  | notPast last =>
    rcases last with _ | ⟨first, last⟩
    · rfl
    · cases first <;> cases step <;> rfl

end Gate

namespace Next

@[simp] theorem after_within (next : Next) (step : Descent) (spot : Spot) :
    (next.within step).after spot = next.after (step :: spot) := by
  cases next <;> rfl

@[simp] theorem after_map (next : Next) (change : Option Path → Option Path) (spot : Spot) :
    (next.map change).after spot = change (next.after spot) := by
  cases next <;> rfl

theorem within_map (next : Next) (change : Option Path → Option Path) (step : Descent) :
    (next.map change).within step = (next.within step).map change := by
  cases next <;> rfl

end Next

/-! ## Profiles -/

namespace Profile

@[simp] theorem fails_orElse (profile : Profile) : fails.orElse profile = profile := rfl

@[simp] theorem orElse_fails (profile : Profile) : profile.orElse fails = profile := by
  cases profile <;> simp [orElse, onward]

theorem onward_orElse (first second : Profile) :
    (first.orElse second).onward = (first.onward <|> second.onward) := by
  cases first <;> simp [orElse, onward]

theorem orElse_assoc (first second third : Profile) :
    (first.orElse second).orElse third = first.orElse (second.orElse third) := by
  cases first with
  | fails => rfl
  | settled path => rfl
  | stays here after =>
    show stays here ((after <|> second.onward) <|> third.onward) =
      stays here (after <|> (second.orElse third).onward)
    simp [onward_orElse, Option.or_assoc]

theorem plug_orElse (first second : Profile) (next : Option Path) :
    (first.orElse second).plug next = (first.plug next <|> second.plug next) := by
  cases first with
  | fails => simp [plug]
  | settled path => simp [orElse, plug]
  | stays here after =>
    cases next <;> cases second <;> simp [orElse, plug, onward]

theorem orElse_andThen (first second third : Profile) :
    (first.orElse second).andThen third =
      (first.andThen third).orElse (second.andThen third) := by
  cases first with
  | fails => rfl
  | settled path => rfl
  -- Only a first profile that stays lets what follows go on in both.
  | stays here after =>
    cases third with
    | fails =>
      cases after <;> cases second <;> simp [orElse, andThen, onward, ofPath?]
    | settled path => rfl
    | stays inner other =>
      cases other <;> cases second <;> simp [orElse, andThen, onward]

@[simp] theorem plug_ofPath? (path next : Option Path) : (ofPath? path).plug next = path := by
  cases path <;> rfl

@[simp] theorem onward_ofPath? (path : Option Path) : (ofPath? path).onward = path := by
  cases path <;> rfl

theorem ofPath?_orElse (first second : Option Path) :
    (ofPath? first).orElse (ofPath? second) = ofPath? (first <|> second) := by
  cases first <;> simp [ofPath?, orElse]

/-- One way in a profile. -/
def ofReach (next : Cursor → Next) (gate : Gate) (reach : Reach) : Profile :=
  if reach.taken = [] then stays reach.path none
  else if gate.lets reach.firstSpot then
    ofPath? (((next reach.cursor).after reach.lastSpot).map (reach.path ++ ·))
  else fails

/-- The profile of ways that start as the gate lets them, when what comes after them is given by
`next`. -/
def ofReaches (next : Cursor → Next) (gate : Gate) : List Reach → Profile
  | [] => fails
  | reach :: rest => (ofReach next gate reach).orElse (ofReaches next gate rest)

theorem ofReaches_append (next : Cursor → Next) (gate : Gate) (first second : List Reach) :
    ofReaches next gate (first ++ second) =
      (ofReaches next gate first).orElse (ofReaches next gate second) := by
  induction first with
  | nil => rfl
  | cons reach rest ih => simp [ofReaches, ih, orElse_assoc]

/-- When everything after the form has the empty path, the first way is preferred. -/
theorem plug_ofReaches_nil (reaches : List Reach) :
    (ofReaches (fun _ => .always (some [])) .opened reaches).plug (some []) =
      reaches.head?.map Reach.path := by
  cases reaches with
  | nil => rfl
  | cons reach rest =>
    rw [ofReaches, plug_orElse, ofReach]
    split
    · simp [plug]
    · simp [Gate.lets, Next.after]

end Profile

open Profile

variable (next : Cursor → Next) (gate : Gate)

/-! ## The profile of each walk -/

theorem ofReaches_stay (cursor : Cursor) : ofReaches next gate (Walk.stay cursor) = .stay := rfl

theorem lastSpot_within {reach : Reach} (h : reach.taken ≠ []) (step : Descent) :
    (reach.within step).lastSpot = step :: reach.lastSpot := by
  obtain ⟨spots, spot, hspots⟩ := List.eq_nil_or_concat reach.taken |>.resolve_left h
  simp [Reach.lastSpot, Reach.within, hspots]

theorem firstSpot_within {reach : Reach} (h : reach.taken ≠ []) (step : Descent) :
    (reach.within step).firstSpot = step :: reach.firstSpot := by
  obtain ⟨spot, spots, hspots⟩ := List.exists_cons_of_ne_nil h
  simp [Reach.firstSpot, Reach.within, hspots]

/-- The ways of a part have the profile that the part has by itself. -/
theorem ofReaches_within (walk : Walk) (step : Descent) (cursor : Cursor) :
    ofReaches next gate (walk.within step cursor) =
      ofReaches (fun place => (next place).within step) (gate.within step) (walk cursor) := by
  unfold Walk.within
  generalize walk cursor = reaches
  induction reaches with
  | nil => rfl
  | cons reach rest ih =>
    rw [List.map_cons, ofReaches, ofReaches, ih]
    congr 1
    by_cases htaken : reach.taken = []
    · simp [ofReach, Reach.within, htaken]
    · have hwithin : (reach.within step).taken ≠ [] := by simpa [Reach.within] using htaken
      rw [ofReach, ofReach, if_neg hwithin, if_neg htaken, Gate.lets_within,
        firstSpot_within htaken, lastSpot_within htaken, Next.after_within]
      rfl

section

variable {reach : Reach} {later : List Reach}

/-- Behind a way that stays, ways start as they do by themselves. -/
theorem ofReaches_extend_stay (htaken : reach.taken = []) :
    ofReaches next gate (later.map reach.extend) =
      (stays reach.path none).andThen (ofReaches next gate later) := by
  induction later with
  | nil => rfl
  | cons way rest ih =>
    rw [List.map_cons, ofReaches, ofReaches, ih]
    -- A way that takes nothing hands on the spots of the way behind it.
    have htail : (reach.extend way).taken = way.taken := by simp [Reach.extend, htaken]
    have hfirst : (reach.extend way).firstSpot = way.firstSpot := by
      rw [Reach.firstSpot, htail, Reach.firstSpot]
    have hlast : (reach.extend way).lastSpot = way.lastSpot := by
      rw [Reach.lastSpot, htail, Reach.lastSpot]
    rw [ofReach, ofReach, htail, hfirst, hlast]
    by_cases hway : way.taken = []
    · rw [if_pos hway, if_pos hway]
      cases ofReaches next gate rest <;> simp [andThen, orElse, onward, ofPath?, Reach.extend]
    · rw [if_neg hway, if_neg hway]
      by_cases hgate : gate.lets way.firstSpot = true
      · rw [if_pos hgate, if_pos hgate, show (reach.extend way).cursor = way.cursor from rfl]
        cases (next way.cursor).after way.lastSpot with
        | none => simp [ofPath?]
        | some path => simp [ofPath?, andThen, orElse, Reach.extend]
      · rw [if_neg hgate, if_neg hgate]
        rfl

/-- Behind a way that takes characters, ways start where that one does, and it is for what comes
behind it to show whether it leads on. -/
theorem ofReaches_extend_taken (htaken : reach.taken ≠ [])
    (honward : ∀ way ∈ later, way.Onward reach.cursor) :
    ofReaches next gate (later.map reach.extend) =
      if gate.lets reach.firstSpot then
        ofPath? (((ofReaches next .opened later).plug
          ((next reach.cursor).after reach.lastSpot)).map (reach.path ++ ·))
      else fails := by
  induction later with
  | nil => simp [ofReaches, plug, ofPath?]
  | cons way rest ih =>
    rw [List.forall_mem_cons] at honward
    rw [List.map_cons, ofReaches, ih honward.2]
    have hfirst : (reach.extend way).firstSpot = reach.firstSpot := by
      obtain ⟨spot, spots, hspots⟩ := List.exists_cons_of_ne_nil htaken
      simp [Reach.firstSpot, Reach.extend, hspots]
    have hlong : (reach.extend way).taken ≠ [] := by simp [Reach.extend, htaken]
    rw [ofReach, if_neg hlong, hfirst]
    split
    · have hway : ((next way.cursor).after (reach.extend way).lastSpot).map
          ((reach.extend way).path ++ ·) =
          ((ofReach next .opened way).plug ((next reach.cursor).after reach.lastSpot)).map
            (reach.path ++ ·) := by
        -- If the way behind takes nothing, the last spot is that of the first way, and what comes
        -- after it is what comes after both.
        rcases honward.1 with ⟨hnone, hsame⟩ | ⟨hsome, -⟩
        · have hlast : (reach.extend way).lastSpot = reach.lastSpot := by
            simp [Reach.lastSpot, Reach.extend, hnone]
          rw [hlast, ofReach, if_pos hnone, hsame]
          cases (next reach.cursor).after reach.lastSpot <;> simp [plug, Reach.extend]
        · have hlast : (reach.extend way).lastSpot = way.lastSpot := by
            obtain ⟨spots, spot, hspots⟩ := List.eq_nil_or_concat way.taken |>.resolve_left hsome
            simp [Reach.lastSpot, Reach.extend, hspots]
          rw [hlast, ofReach, if_neg hsome, if_pos (show Gate.opened.lets way.firstSpot = true from rfl),
            plug_ofPath?]
          cases (next way.cursor).after way.lastSpot <;> simp [Reach.extend]
      rw [show (reach.extend way).cursor = way.cursor from rfl, hway, ofPath?_orElse, ofReaches,
        plug_orElse]
      cases (ofReach next .opened way).plug _ <;> rfl
    · rfl

end

/-- What comes after the first of two walks is the second and all that comes after it. -/
theorem ofReaches_andThen {first second : Walk} (hfirst : first.Onward) (hsecond : second.Onward)
    (cursor : Cursor) :
    ofReaches next gate (first.andThen second cursor) =
      (ofReaches (fun place => (next place).map (ofReaches next .opened (second place)).plug) gate
        (first cursor)).andThen (ofReaches next gate (second cursor)) := by
  have honward := hfirst cursor
  unfold Walk.andThen
  generalize first cursor = reaches at honward
  induction reaches with
  | nil => rfl
  | cons reach rest ih =>
    rw [List.forall_mem_cons] at honward
    rw [List.flatMap_cons, ofReaches_append, ih honward.2, ofReaches, orElse_andThen]
    congr 1
    -- A way of the first walk that stays leaves the choice of a spot to the second; from any other
    -- one goes on behind the gate.
    rcases honward.1 with ⟨hnone, hsame⟩ | ⟨hsome, -⟩
    · rw [ofReaches_extend_stay next gate hnone, ofReach, if_pos hnone, hsame]
    · rw [ofReaches_extend_taken next gate hsome (hsecond reach.cursor), ofReach, if_neg hsome,
        Next.after_map]
      split
      · cases (ofReaches next .opened (second reach.cursor)).plug _ <;> rfl
      · rfl

theorem ofReaches_both {first second : Walk} (hfirst : first.Onward) (hsecond : second.Onward)
    (cursor : Cursor) :
    ofReaches next gate (first.both second cursor) =
      (ofReaches (fun place => ((next place).within .sooner).map
          (ofReaches (fun place => (next place).within .later) .opened (second place)).plug)
        (gate.within .sooner) (first cursor)).andThen
      (ofReaches (fun place => (next place).within .later) (gate.within .later) (second cursor)) := by
  rw [Walk.both, ofReaches_andThen next gate (hfirst.within composes_onward .sooner)
    (hsecond.within composes_onward .later)]
  simp only [ofReaches_within, Gate.within_opened, Next.within_map]

theorem ofReaches_either (first second : Walk) (cursor : Cursor) :
    ofReaches next gate (first.either second cursor) =
      (ofReaches (fun place => (next place).within .left) (gate.within .left) (first cursor)).orElse
      (ofReaches (fun place => (next place).within .right) (gate.within .right)
        (second cursor)) := by
  rw [Walk.either, Walk.orElse, ofReaches_append, ofReaches_within, ofReaches_within]

theorem ofReaches_optional (walk : Walk) (greedy : Bool) (cursor : Cursor) :
    ofReaches next gate (walk.optional greedy cursor) =
      (ofReaches next gate (walk cursor)).optional greedy := by
  cases greedy <;>
    simp [Walk.optional, Walk.orElse, Profile.optional, ofReaches_append, ofReaches_stay]

theorem ofReaches_named (walk : Walk) (name : List Char) (cursor : Cursor)
    (honward : walk.Onward) :
    ofReaches next gate (walk.named name cursor) =
      (ofReaches (fun place =>
        (next place).map (Option.map (⟨name, false, place.after⟩ :: ·))) gate
        (walk cursor)).named name cursor.after := by
  have honward := honward cursor
  unfold Walk.named
  generalize walk cursor = reaches at honward
  induction reaches with
  | nil => rfl
  | cons reach rest ih =>
    rw [List.forall_mem_cons] at honward
    rw [List.map_cons, ofReaches, ofReaches, ih honward.2]
    -- The marks of a way that stays stand in the profile; those of any other way are put around its
    -- path, the closing one by what comes after.
    rcases honward.1 with ⟨hnone, hsame⟩ | ⟨hsome, -⟩
    · have hmarked : (reach.marked name cursor).taken = [] := hnone
      rw [ofReach, if_pos hmarked, ofReach, if_pos hnone]
      cases ofReaches _ gate rest <;> simp [orElse, named, onward, Reach.marked, hsame]
    · have hmarked : (reach.marked name cursor).taken ≠ [] := hsome
      have hfirst : (reach.marked name cursor).firstSpot = reach.firstSpot := rfl
      have hlast : (reach.marked name cursor).lastSpot = reach.lastSpot := rfl
      have hcursor : (reach.marked name cursor).cursor = reach.cursor := rfl
      rw [ofReach, if_neg hmarked, ofReach, if_neg hsome, Next.after_map, hfirst, hlast, hcursor]
      by_cases hgate : gate.lets reach.firstSpot = true
      · rw [if_pos hgate, if_pos hgate]
        cases (next reach.cursor).after reach.lastSpot with
        | none => simp [ofPath?]
        | some path => simp [ofPath?, orElse, named, Reach.marked]
      · rw [if_neg hgate, if_neg hgate]
        rfl

/-- What comes after a turn of a repetition: further turns, and then what follows the repetition. -/
def lapNext (walk : Walk) (greedy : Bool) (place : Cursor) : Next :=
  .bySpot fun last =>
    (ofReaches next .opened (walk.laps greedy last place)).plug ((next place).after last)

variable {walk : Walk} (hwalk : walk.Onward) (greedy : Bool)

include hwalk in
/-- The further turns of a repetition, one way of the walk after another: the gate lets those start
that are new behind the last spot, and what comes after each of them are its own further turns. -/
theorem ofReaches_turns (last : Spot) (cursor : Cursor) :
    ofReaches next .opened ((walk cursor).flatMap fun turn =>
      if turn.cursor.left < cursor.left ∧ last.leadsPast turn.firstSpot = false then
        (walk.laps greedy turn.lastSpot turn.cursor).map turn.extend else []) =
      ofPath? (ofReaches (lapNext next walk greedy) (.notPast last) (walk cursor)).onward := by
  have honward := hwalk cursor
  generalize walk cursor = turns at honward
  induction turns with
  | nil => rfl
  | cons turn rest ih =>
    rw [List.forall_mem_cons] at honward
    rw [List.flatMap_cons, ofReaches_append, ih honward.2, ofReaches, onward_orElse,
      ← ofPath?_orElse]
    congr 1
    have hleft := honward.1.left_lt_iff
    by_cases htaken : turn.taken = []
    · rw [if_neg (fun h => hleft.mp h.1 htaken), ofReach, if_pos htaken]
      rfl
    · rw [ofReach, if_neg htaken]
      cases hpast : last.leadsPast turn.firstSpot with
      | true => simp [Gate.lets, hpast, ofReaches, onward, ofPath?]
      | false =>
        have hlaps : Walk.Onward (walk.laps greedy turn.lastSpot) :=
          Walk.Each.laps composes_onward hwalk greedy turn.lastSpot
        rw [if_pos ⟨hleft.mpr htaken, rfl⟩,
          ofReaches_extend_taken next .opened htaken (hlaps turn.cursor)]
        simp [Gate.lets, hpast, lapNext, Next.after]

include hwalk in
/-- After a turn that took characters comes a turn that takes some from where that is new, or what
follows the repetition. -/
theorem plug_laps (last : Spot) (cursor : Cursor) :
    (ofReaches next .opened (walk.laps greedy last cursor)).plug ((next cursor).after last) =
      (ofReaches (lapNext next walk greedy) (.notPast last) (walk cursor)).again greedy
        ((next cursor).after last) := by
  have hmore := ofReaches_turns next hwalk greedy last cursor
  have hstay : Profile.stay.plug ((next cursor).after last) = (next cursor).after last := by
    simp [plug, Profile.stay]
  -- Greed only says which of the two stands first.
  rw [Walk.laps]
  cases greedy <;>
    simp [again, ofReaches_append, hmore, ofReaches_stay, plug_orElse, hstay]

include hwalk in
theorem ofReaches_onceOrMore (cursor : Cursor) :
    ofReaches next gate (walk.onceOrMore greedy cursor) =
      ofReaches (lapNext next walk greedy) gate (walk cursor) := by
  have honward := hwalk cursor
  unfold Walk.onceOrMore
  generalize walk cursor = turns at honward
  induction turns with
  | nil => rfl
  | cons turn rest ih =>
    rw [List.forall_mem_cons] at honward
    rw [List.flatMap_cons, ofReaches_append, ih honward.2, ofReaches]
    congr 1
    have hleft := honward.1.left_lt_iff
    -- A first turn that takes no text is not followed by another.
    by_cases htaken : turn.taken = []
    · rw [if_neg (fun h => hleft.mp h htaken), ofReaches, ofReaches, orElse_fails, ofReach,
        if_pos htaken, ofReach, if_pos htaken]
    · have hlaps : Walk.Onward (walk.laps greedy turn.lastSpot) :=
        Walk.Each.laps composes_onward hwalk greedy turn.lastSpot
      rw [if_pos (hleft.mpr htaken), ofReaches_extend_taken next gate htaken (hlaps turn.cursor),
        ofReach, if_neg htaken]
      rfl

/-! ## Machines that follow a walk -/

namespace Machine

/-- The profile that a step comes to is that of an open gate. -/
theorem profile_step (cursor : Cursor) (machine : Machine) (after : Next) :
    (machine.step cursor after).profile = machine.profile cursor .opened := by
  -- The profile of a step is worked out with the machine before, so this holds part by part.
  induction machine generalizing after with
  | empty | look => rfl
  | take accepts next => simp [Gate.lets]
  | both first second hfirst hsecond | either first second hfirst hsecond =>
    simp [hfirst, hsecond]
  | group name body hbody | optional greedy body hbody | onceOrMore greedy body hbody
  | loop body hbody => simp [hbody]

/-- The machine at the place before a text, when what comes after the form is given by `next`. -/
@[simp] def settle (machine : Machine) (next : Cursor → Next) : List Char → Machine
  | [] => machine
  | c :: rest => ((machine.settle next rest).step ⟨some c, rest⟩ (next ⟨some c, rest⟩)).before

/-- At every place the machine has the profile of the walk, whatever comes after the form. -/
def Follows (machine : Machine) (walk : Walk) : Prop :=
  ∀ (next : Cursor → Next) (gate : Gate) (cursor : Cursor),
    (machine.settle next cursor.after).profile cursor gate = ofReaches next gate (walk cursor)

theorem settle_empty (next : Cursor → Next) (text : List Char) : settle empty next text = empty := by
  induction text with
  | nil => rfl
  | cons c rest ih => rw [settle, ih, step]

theorem follows_empty : Follows empty .stay := by
  intro next gate cursor
  rw [settle_empty]
  rfl

theorem settle_take (accepts : Char → Bool) (next : Cursor → Next) (text : List Char) :
    settle (take accepts none) next text =
      take accepts (match text with
        | [] => none
        | c :: rest => (next ⟨some c, rest⟩).after []) := by
  induction text with
  | nil => rfl
  | cons c rest ih => rw [settle, ih, step]

theorem follows_take (accepts : Char → Bool) : Follows (take accepts none) (.take accepts) := by
  intro next gate cursor
  obtain ⟨before, after⟩ := cursor
  rw [settle_take]
  cases after with
  | nil => simp [Cursor.step?, Walk.take, ofReaches]
  | cons c rest =>
    by_cases h : accepts c
    · cases hgate : gate.lets [] <;>
        simp [Cursor.step?, Walk.take, h, hgate, ofReaches, ofReach, Reach.firstSpot,
          Reach.lastSpot]
    · simp [Cursor.step?, Walk.take, h, ofReaches]

theorem settle_look (assertion : Look) (next : Cursor → Next) (text : List Char) :
    settle (look assertion) next text = look assertion := by
  induction text with
  | nil => rfl
  | cons c rest ih => rw [settle, ih, step]

theorem follows_look (assertion : Look) : Follows (look assertion) (.check assertion) := by
  intro next gate cursor
  rw [settle_look]
  by_cases h : assertion.holds cursor
  · simp [Walk.check, h, ofReaches_stay]
  · simp [Walk.check, h, ofReaches]

section

variable {first second body : Machine} {sooner later walk : Walk}

/-- What comes after the first part is the second, at each place as it is settled there. -/
theorem settle_both (hsecond : second.Follows later) (next : Cursor → Next) (text : List Char) :
    settle (both first second) next text =
      both (first.settle (fun place => ((next place).within .sooner).map
          (ofReaches (fun place => (next place).within .later) .opened (later place)).plug) text)
        (second.settle (fun place => (next place).within .later) text) := by
  -- At each place the second part has been settled up to there, and its profile is what comes after
  -- the first.
  induction text with
  | nil => rfl
  | cons c rest ih =>
    have hprofile : ((second.settle (fun place => (next place).within .later) rest).step
        ⟨some c, rest⟩ ((next ⟨some c, rest⟩).within .later)).profile =
        ofReaches (fun place => (next place).within .later) .opened (later ⟨some c, rest⟩) := by
      rw [profile_step]
      exact hsecond (fun place => (next place).within .later) .opened ⟨some c, rest⟩
    rw [settle, ih, step, settle, settle, hprofile]

theorem Follows.both (hfirst : first.Follows sooner) (hsecond : second.Follows later)
    (hsooner : sooner.Onward) (hlater : later.Onward) :
    (both first second).Follows (sooner.both later) := by
  intro next gate cursor
  rw [settle_both hsecond, ofReaches_both next gate hsooner hlater, profile, hfirst, hsecond]

theorem settle_either (next : Cursor → Next) (text : List Char) :
    settle (either first second) next text =
      either (first.settle (fun place => (next place).within .left) text)
        (second.settle (fun place => (next place).within .right) text) := by
  induction text with
  | nil => rfl
  | cons c rest ih => rw [settle, ih, step, settle, settle]

theorem Follows.either (hfirst : first.Follows sooner) (hsecond : second.Follows later) :
    (either first second).Follows (sooner.either later) := by
  intro next gate cursor
  rw [settle_either, ofReaches_either, profile, hfirst, hsecond]

theorem settle_group (name : List Char) (next : Cursor → Next) (text : List Char) :
    settle (group name body) next text =
      group name (body.settle (fun place =>
        (next place).map (Option.map (⟨name, false, place.after⟩ :: ·))) text) := by
  induction text with
  | nil => rfl
  | cons c rest ih => rw [settle, ih, step, settle]

theorem Follows.group (hbody : body.Follows walk) (hwalk : walk.Onward) (name : List Char) :
    (group name body).Follows (walk.named name) := by
  intro next gate cursor
  rw [settle_group, ofReaches_named next gate walk name cursor hwalk, profile, hbody]

theorem settle_optional (greedy : Bool) (next : Cursor → Next) (text : List Char) :
    settle (optional greedy body) next text = optional greedy (body.settle next text) := by
  induction text with
  | nil => rfl
  | cons c rest ih => rw [settle, ih, step, settle]

theorem Follows.optional (hbody : body.Follows walk) (greedy : Bool) :
    (optional greedy body).Follows (walk.optional greedy) := by
  intro next gate cursor
  rw [settle_optional, ofReaches_optional, profile, hbody]

/-- What comes after a turn is given by the turns that the repetition may take from there. -/
theorem settle_onceOrMore (hbody : body.Follows walk) (hwalk : walk.Onward) (greedy : Bool)
    (next : Cursor → Next) (text : List Char) :
    settle (onceOrMore greedy body) next text =
      onceOrMore greedy (body.settle (lapNext next walk greedy) text) := by
  induction text with
  | nil => rfl
  | cons c rest ih =>
    -- The turns that may follow are those of the body itself, as settled so far.
    have hlap : (Next.bySpot fun last =>
        ((body.settle (lapNext next walk greedy) rest).profile ⟨some c, rest⟩
          (.notPast last)).again greedy ((next ⟨some c, rest⟩).after last)) =
        lapNext next walk greedy ⟨some c, rest⟩ := by
      rw [lapNext]
      congr 1
      funext last
      rw [plug_laps next hwalk, hbody (lapNext next walk greedy) (.notPast last) ⟨some c, rest⟩]
    rw [settle, ih, step, settle, hlap]

theorem Follows.onceOrMore (hbody : body.Follows walk) (hwalk : walk.Onward) (greedy : Bool) :
    (onceOrMore greedy body).Follows (walk.onceOrMore greedy) := by
  intro next gate cursor
  rw [settle_onceOrMore hbody hwalk, ofReaches_onceOrMore next gate hwalk, profile, hbody]

theorem settle_loop (next : Cursor → Next) (text : List Char) :
    settle (loop body) next text =
      loop (body.settle (fun place => (next place).within .loop) text) := by
  induction text with
  | nil => rfl
  | cons c rest ih => rw [settle, ih, step, settle]

theorem Follows.loop (hbody : body.Follows walk) : (loop body).Follows (walk.within .loop) := by
  intro next gate cursor
  rw [settle_loop, ofReaches_within, profile, hbody]

theorem follows_letters (text : List Char) : (letters text).Follows (.letters text) := by
  induction text with
  | nil => exact follows_empty
  | cons c text ih =>
    exact (follows_take _).both ih (onward_take _) (.letters composes_onward onward_take text)

theorem Follows.times (hbody : body.Follows walk) (hwalk : walk.Onward) (count : Nat) :
    (body.times count).Follows (walk.times count) := by
  induction count with
  | zero => exact follows_empty
  | succ count ih => exact ih.both hbody (.times composes_onward hwalk count) hwalk

theorem Follows.upTo (hbody : body.Follows walk) (hwalk : walk.Onward) (greedy : Bool)
    (count : Nat) : (body.upTo greedy count).Follows (walk.upTo greedy count) := by
  induction count with
  | zero => exact follows_empty
  | succ count ih =>
    exact (hbody.both ih hwalk (.upTo composes_onward hwalk greedy count)).optional greedy

theorem Follows.repeated (hbody : body.Follows walk) (hwalk : walk.Onward) (takesText : Bool)
    (min : Nat) (max : Option Nat) (greedy : Bool) :
    (body.repeated takesText min max greedy).Follows (walk.repeated takesText min max greedy) := by
  have htimes := Walk.Each.times composes_onward hwalk
  have hturns := hbody.onceOrMore hwalk greedy
  unfold Machine.repeated Walk.repeated
  split
  · exact (hbody.times hwalk _).both (hbody.upTo hwalk greedy _) (htimes _)
      (.upTo composes_onward hwalk greedy _)
  · cases takesText with
    | true => exact (hturns.optional greedy).loop
    | false => exact hturns.optional greedy
  · exact (hbody.times hwalk _).both hturns (htimes _) (.onceOrMore composes_onward hwalk greedy)

end

/-- The machine of a form follows the ways of the form. -/
theorem follows_ofForm (form : Form) : (ofForm form).Follows form.walk := by
  -- One case for each kind of form, by the lemma on its machine.
  induction form with
  | empty => exact follows_empty
  | literal text => exact follows_letters text
  | chars members => exact follows_take members.holds
  | look assertion => exact follows_look assertion
  | capture name? body hbody =>
    cases name? with
    | none => exact hbody
    | some name => exact hbody.group (onward_walk body) name
  | repeats min max greedy body hbody => exact hbody.repeated (onward_walk body) _ _ _ greedy
  | both first rest hfirst hrest => exact hfirst.both hrest (onward_walk first) (onward_walk rest)
  | either first rest hfirst hrest => exact hfirst.either hrest

/-! ## The search -/

/-- A sweep comes to the machine at the place, and to the preferred path from the earliest place
that has one. -/
theorem sweep_eq (machine : Machine) (before : Option Char) (text : List Char) :
    machine.sweep before text =
      (machine.settle (fun _ => .always (some [])) text,
        (Cursor.onward before text).findSome? fun cursor =>
          ((machine.settle (fun _ => .always (some [])) cursor.after).profile cursor .opened).plug
            (some [])) := by
  induction text generalizing before with
  | nil => simp [sweep, settle, Cursor.onward]
  | cons c rest ih =>
    simp only [sweep, ih, settle, Cursor.onward, List.findSome?_cons]
    congr 1
    cases Profile.plug _ _ <;> rfl

end Machine

/-- The search finds the path of the preferred way from the earliest place that has one. -/
theorem search?_eq_firstPath? (pattern : Regex) (text : List Char) :
    pattern.search? text = pattern.firstPath? text := by
  rw [search?, Machine.sweep_eq, firstPath?]
  show List.findSome? _ _ = List.findSome? _ _
  congr 1
  funext cursor
  rw [Machine.follows_ofForm _ (fun _ => .always (some [])) .opened cursor, plug_ofReaches_nil,
    ends, Walk.plain, List.head?_map, Option.map_map]
  rfl

end Switchyard.Regex
