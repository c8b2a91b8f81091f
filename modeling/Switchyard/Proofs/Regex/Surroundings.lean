import Switchyard.Proofs.Regex.Walks
import Switchyard.Proofs.Unicode.Membership

/-!
# A text and what stands around it

The same text can stand alone or between other texts, and a pattern sees of the difference only what
its assertions see. A place in the text in one surrounding is beside the same place in another
(`Cursor.Beside`), and a walk that stays in the text is carried over from place to place, as long as
the assertions on it are (`takes_ends_of_carries`). So a pattern takes a text in all surroundings alike where
it holds no assertion (`local_ends`), and of a text behind a slash and in front of one it takes
nothing that it does not take of the text alone (`Look.carries_alone`). The other way round only the
anchors make a difference (`Look.carries_between`).
-/

namespace Switchyard.Regex

/-- What stands around a text: the character before it, and the text after it. -/
structure Surroundings where
  before : Option Char
  after : List Char

/-- Two places with the same text behind them and the same text ahead, each in its surroundings. -/
def Cursor.Beside (here there : Surroundings) (cursor other : Cursor) : Prop :=
  ∃ behind ahead : List Char,
    cursor = ⟨behind.getLast?.or here.before, ahead ++ here.after⟩ ∧
      other = ⟨behind.getLast?.or there.before, ahead ++ there.after⟩

/-- A way beside another: they take characters at the same spots, and end beside each other. -/
structure Reach.Beside (here there : Surroundings) (reach image : Reach) : Prop where
  taken : image.taken = reach.taken
  cursor : Cursor.Beside here there reach.cursor image.cursor

/-- The ways of the walk that stay in a text are carried over from one surrounding to another. -/
structure Walk.Carries (here there : Surroundings) (walk : Walk) : Prop where
  onward : walk.Onward
  moves : ∀ {cursor other}, Cursor.Beside here there cursor other → ∀ reach ∈ walk cursor,
    here.after.length ≤ reach.cursor.left → ∃ image ∈ walk other, reach.Beside here there image

/-- An assertion that holds at a place holds beside it. -/
def Look.Carries (here there : Surroundings) (assertion : Look) : Prop :=
  ∀ {cursor other}, Cursor.Beside here there cursor other → assertion.holds cursor = true →
    assertion.holds other = true

variable {here there : Surroundings}

namespace Cursor.Beside

variable {cursor other place image : Cursor}

theorem left (h : Beside here there cursor other) :
    cursor.left + there.after.length = other.left + here.after.length := by
  obtain ⟨behind, ahead, rfl, rfl⟩ := h
  simp only [Cursor.left, List.length_append]
  omega

/-- Beside two places, the one further on is further on as well. -/
theorem left_lt_iff (h : Beside here there cursor other) (hplace : Beside here there place image) :
    image.left < other.left ↔ place.left < cursor.left := by
  have hleft := h.left
  have hleftPlace := hplace.left
  omega

end Cursor.Beside

namespace Reach.Beside

variable {reach image later more : Reach}

theorem firstSpot (h : reach.Beside here there image) : image.firstSpot = reach.firstSpot :=
  congrArg (·.headD []) h.taken

theorem lastSpot (h : reach.Beside here there image) : image.lastSpot = reach.lastSpot :=
  congrArg (·.getLastD []) h.taken

theorem extend (h : reach.Beside here there image) (hlater : later.Beside here there more) :
    (reach.extend later).Beside here there (image.extend more) where
  taken := by rw [Reach.extend, Reach.extend, h.taken, hlater.taken]
  cursor := hlater.cursor

end Reach.Beside

/-! ## Walks carried over -/

namespace Walk.Carries

variable {walk first second : Walk}

theorem stay : Carries here there Walk.stay where
  onward := .stay composes_onward
  moves := by
    intro cursor other hbeside reach hreach _
    rw [List.mem_singleton.mp hreach]
    exact ⟨{ cursor := other }, List.mem_singleton.mpr rfl, rfl, hbeside⟩

theorem take (accepts : Char → Bool) : Carries here there (Walk.take accepts) where
  onward := onward_take accepts
  moves := by
    rintro cursor other ⟨behind, ahead, rfl, rfl⟩ reach hreach hwithin
    obtain ⟨c, rest, hafter, haccepts, rfl⟩ := mem_take hreach
    -- The character is one of the text, since the way stays in it.
    rcases ahead with _ | ⟨d, ahead⟩
    · simp only [Cursor.left, show here.after = c :: rest from hafter, List.length_cons] at hwithin
      omega
    · obtain ⟨rfl, rfl⟩ := List.cons_eq_cons.mp hafter
      refine ⟨⟨⟨some d, ahead ++ there.after⟩, [], [[]]⟩, ?_, rfl, behind ++ [d], ahead, ?_, ?_⟩
      · simp [Walk.take, Cursor.step?, haccepts]
      · simp
      · simp

theorem check {assertion : Look} (h : assertion.Carries here there) :
    Carries here there (Walk.check assertion) where
  onward := .check composes_onward assertion
  moves := by
    intro cursor other hbeside reach hreach _
    unfold Walk.check at hreach
    split at hreach
    · rename_i hholds
      rw [List.mem_singleton.mp hreach]
      refine ⟨{ cursor := other }, ?_, rfl, hbeside⟩
      rw [Walk.check, if_pos (h hbeside hholds)]
      exact List.mem_singleton.mpr rfl
    · cases hreach

theorem andThen (hfirst : first.Carries here there) (hsecond : second.Carries here there) :
    (first.andThen second).Carries here there where
  onward := .andThen composes_onward hfirst.onward hsecond.onward
  moves := by
    intro cursor other hbeside reach hreach hwithin
    obtain ⟨sooner, hsooner, hreach⟩ := List.mem_flatMap.mp hreach
    obtain ⟨later, hlater, rfl⟩ := List.mem_map.mp hreach
    have hleft : later.cursor.left ≤ sooner.cursor.left :=
      (hsecond.onward sooner.cursor later hlater).left_le
    have hwithinSooner : here.after.length ≤ sooner.cursor.left := Nat.le_trans hwithin hleft
    obtain ⟨start, hstart, hbesideStart⟩ := hfirst.moves hbeside sooner hsooner hwithinSooner
    obtain ⟨stop, hstop, hbesideStop⟩ := hsecond.moves hbesideStart.cursor later hlater hwithin
    exact ⟨start.extend stop, List.mem_flatMap.mpr ⟨start, hstart, List.mem_map_of_mem hstop⟩,
      hbesideStart.extend hbesideStop⟩

theorem orElse (hfirst : first.Carries here there) (hsecond : second.Carries here there) :
    (first.orElse second).Carries here there where
  onward := hfirst.onward.orElse hsecond.onward
  moves := by
    intro cursor other hbeside reach hreach hwithin
    rcases List.mem_append.mp hreach with hreach | hreach
    · obtain ⟨image, himage, hbeside⟩ := hfirst.moves hbeside reach hreach hwithin
      exact ⟨image, List.mem_append_left _ himage, hbeside⟩
    · obtain ⟨image, himage, hbeside⟩ := hsecond.moves hbeside reach hreach hwithin
      exact ⟨image, List.mem_append_right _ himage, hbeside⟩

theorem within (hwalk : walk.Carries here there) (step : Descent) :
    (walk.within step).Carries here there where
  onward := .within composes_onward hwalk.onward step
  moves := by
    intro cursor other hbeside reach hreach hwithin
    obtain ⟨inner, hinner, rfl⟩ := List.mem_map.mp hreach
    obtain ⟨image, himage, hbeside⟩ := hwalk.moves hbeside inner hinner hwithin
    exact ⟨image.within step, List.mem_map_of_mem himage,
      congrArg (List.map (step :: ·)) hbeside.taken, hbeside.cursor⟩

theorem both (hfirst : first.Carries here there) (hsecond : second.Carries here there) :
    (first.both second).Carries here there :=
  (hfirst.within .sooner).andThen (hsecond.within .later)

theorem letters (text : List Char) : Carries here there (Walk.letters text) := by
  induction text with
  | nil => exact stay
  | cons c text ih => exact (take _).both ih

theorem named (hwalk : walk.Carries here there) (name : List Char) :
    (walk.named name).Carries here there where
  onward := by
    intro cursor reach hreach
    obtain ⟨inner, hinner, rfl⟩ := List.mem_map.mp hreach
    exact hwalk.onward cursor inner hinner
  moves := by
    intro cursor other hbeside reach hreach hwithin
    obtain ⟨inner, hinner, rfl⟩ := List.mem_map.mp hreach
    obtain ⟨image, himage, hbeside⟩ := hwalk.moves hbeside inner hinner hwithin
    exact ⟨_, List.mem_map_of_mem himage, hbeside.taken, hbeside.cursor⟩

theorem optional (hwalk : walk.Carries here there) (greedy : Bool) :
    (walk.optional greedy).Carries here there := by
  unfold Walk.optional
  split
  · exact hwalk.orElse stay
  · exact stay.orElse hwalk

theorem times (hwalk : walk.Carries here there) (count : Nat) :
    (walk.times count).Carries here there := by
  induction count with
  | zero => exact stay
  | succ count ih => exact ih.both hwalk

theorem upTo (hwalk : walk.Carries here there) (greedy : Bool) (count : Nat) :
    (walk.upTo greedy count).Carries here there := by
  induction count with
  | zero => exact stay
  | succ count ih => exact (hwalk.both ih).optional greedy

/-- Any number of turns, by induction on the text that is left. A turn here and the one beside it start
and leave off at the same spots, so both may follow the turn before or neither. -/
theorem laps (hwalk : walk.Carries here there) (greedy : Bool) (last : Spot) :
    Carries here there (walk.laps greedy last) where
  onward := .laps composes_onward hwalk.onward greedy last
  moves := by
    intro cursor
    -- Strong induction on the text left here. The turn there takes its characters at the same
    -- spots, so it is new where the turn here is.
    induction hn : cursor.left using Nat.strongRecOn generalizing last cursor with
    | ind n ih =>
      intro other hbeside reach hreach hwithin
      rcases mem_laps.mp hreach with rfl | ⟨turn, hturn, ⟨hlt, hnew⟩, later, hlater, rfl⟩
      · exact ⟨{ cursor := other }, mem_laps.mpr (.inl rfl), rfl, hbeside⟩
      · have honward : Walk.Onward (walk.laps greedy turn.lastSpot) :=
          .laps composes_onward hwalk.onward greedy turn.lastSpot
        have hwithinTurn : here.after.length ≤ turn.cursor.left :=
          Nat.le_trans hwithin (honward turn.cursor later hlater).left_le
        obtain ⟨turn', hturn', hbesideTurn⟩ := hwalk.moves hbeside turn hturn hwithinTurn
        obtain ⟨later', hlater', hbesideLater⟩ := ih turn.cursor.left (hn ▸ hlt) turn.lastSpot rfl
          hbesideTurn.cursor later hlater hwithin
        rw [← hbesideTurn.lastSpot] at hlater'
        rw [← hbesideTurn.firstSpot] at hnew
        have hlt' : turn'.cursor.left < other.left :=
          (hbeside.left_lt_iff hbesideTurn.cursor).mpr hlt
        exact ⟨turn'.extend later',
          mem_laps.mpr (.inr ⟨turn', hturn', ⟨hlt', hnew⟩, later', hlater', rfl⟩),
          hbesideTurn.extend hbesideLater⟩

theorem onceOrMore (hwalk : walk.Carries here there) (greedy : Bool) :
    (walk.onceOrMore greedy).Carries here there where
  onward := .onceOrMore composes_onward hwalk.onward greedy
  moves := by
    intro cursor other hbeside reach hreach hwithin
    obtain ⟨turn, hturn, ⟨hlt, later, hlater, rfl⟩ | ⟨hle, rfl⟩⟩ := mem_onceOrMore.mp hreach
    · have hlaps := hwalk.laps greedy turn.lastSpot
      have hwithinTurn : here.after.length ≤ turn.cursor.left :=
        Nat.le_trans hwithin (hlaps.onward turn.cursor later hlater).left_le
      obtain ⟨turn', hturn', hbesideTurn⟩ := hwalk.moves hbeside turn hturn hwithinTurn
      obtain ⟨later', hlater', hbesideLater⟩ :=
        hlaps.moves hbesideTurn.cursor later hlater hwithin
      rw [← hbesideTurn.lastSpot] at hlater'
      have hlt' : turn'.cursor.left < other.left :=
        (hbeside.left_lt_iff hbesideTurn.cursor).mpr hlt
      exact ⟨turn'.extend later',
        mem_onceOrMore.mpr ⟨turn', hturn', .inl ⟨hlt', later', hlater', rfl⟩⟩,
        hbesideTurn.extend hbesideLater⟩
    -- A turn that took up no text is the only one, here and there.
    · obtain ⟨turn', hturn', hbesideTurn⟩ := hwalk.moves hbeside reach hturn hwithin
      have hle' : ¬ turn'.cursor.left < other.left := by
        rw [hbeside.left_lt_iff hbesideTurn.cursor]
        exact hle
      exact ⟨turn', mem_onceOrMore.mpr ⟨turn', hturn', .inr ⟨hle', rfl⟩⟩, hbesideTurn⟩

theorem repeated (hwalk : walk.Carries here there) (takesText : Bool) (min : Nat) (max : Option Nat)
    (greedy : Bool) : (walk.repeated takesText min max greedy).Carries here there := by
  have hloop := (hwalk.onceOrMore greedy).optional greedy
  unfold Walk.repeated
  split
  · exact (hwalk.times _).both (hwalk.upTo greedy _)
  · split
    · exact hloop.within .loop
    · exact hloop
  · exact (hwalk.times _).both (hwalk.onceOrMore greedy)

/-- A whole text is taken there where it is taken here. -/
theorem takes (h : walk.Carries here there) {text : List Char}
    (htakes : walk.Takes here.before text here.after) :
    walk.Takes there.before text there.after := by
  obtain ⟨reach, hreach, hrest⟩ := htakes
  have hstart : Cursor.Beside here there ⟨here.before, text ++ here.after⟩
      ⟨there.before, text ++ there.after⟩ := ⟨[], text, rfl, rfl⟩
  have hwithin : here.after.length ≤ reach.cursor.left :=
    Nat.le_of_eq (congrArg List.length hrest.symm)
  obtain ⟨image, himage, -, behind, ahead, hplace, hother⟩ :=
    h.moves hstart reach hreach hwithin
  have hahead : ahead = [] := by
    rw [hplace] at hrest
    simpa using hrest
  refine ⟨image, himage, ?_⟩
  rw [hother, hahead]
  rfl

end Walk.Carries

/-! ## Assertions of a pattern -/

theorem looks_of_lookFree {pattern : Regex} (h : pattern.lookFree = true) : pattern.looks = [] := by
  induction pattern with
  | empty | set chars => rfl
  | look assertion => cases h
  | cat first second hfirst hsecond | alt first second hfirst hsecond =>
    rw [lookFree, Bool.and_eq_true] at h
    rw [looks, hfirst h.1, hsecond h.2]
    rfl
  | group grouping body hbody | repeats min max greedy body hbody => exact hbody h

/-- A form is carried over when its assertions are. -/
theorem carries_walk {form : Form} {ofName : List Char → Prop}
    (h : form.All (Look.Carries here there) ofName) : Walk.Carries here there form.walk := by
  induction form with
  | empty => exact .stay
  | literal text => exact .letters text
  | chars members => exact .take members.holds
  | look assertion => exact .check h
  | capture name? body hbody =>
    cases name? with
    | none => exact hbody h
    | some name => exact (hbody h.2).named name
  | repeats min max greedy body hbody => exact (hbody h).repeated _ _ _ greedy
  | both first rest hfirst hrest => exact (hfirst h.1).both (hrest h.2)
  | either first rest hfirst hrest =>
    exact ((hfirst h.1).within .left).orElse ((hrest h.2).within .right)

/-- A pattern whose assertions are carried over takes a text there where it takes it here. -/
theorem takes_ends_of_carries {pattern : Regex}
    (h : ∀ assertion ∈ pattern.looks, assertion.Carries here there) {text : List Char}
    (htakes : pattern.ends.Takes here.before text here.after) :
    pattern.ends.Takes there.before text there.after := by
  have hall : (Form.ofRegex pattern).All (Look.Carries here there) fun _ => True :=
    Form.all_ofRegex h fun _ _ => True.intro
  exact Walk.takes_plain.mpr ((carries_walk hall).takes (Walk.takes_plain.mp htakes))

/-- A pattern without assertions takes a text alike wherever the text stands. -/
theorem local_ends {pattern : Regex} (h : pattern.lookFree = true) : Walk.Local pattern.ends where
  suffix cursor reach hreach := suffix_of_mem_ends hreach
  moves := by
    intro before text rest htakes before' rest'
    have hcarries : ∀ assertion ∈ pattern.looks,
        assertion.Carries ⟨before, rest⟩ ⟨before', rest'⟩ := by
      intro assertion hmem
      rw [looks_of_lookFree h] at hmem
      cases hmem
    exact takes_ends_of_carries hcarries htakes

/-! ## Between slashes -/

/-- A slash is no character of a word. -/
theorem CaseRule.isWord_slash (rule : CaseRule) : rule.isWord '/' = false := by
  cases rule with
  | ascii => decide
  | unicode => exact Unicode.Derived.word_above_slash.not_contains

namespace Surroundings

/-- Nothing stands around the text. -/
def alone : Surroundings := ⟨none, []⟩

/-- A slash stands in front of the text, and another one behind it if anything does. -/
structure Slashed (around : Surroundings) : Prop where
  before : around.before = some '/'
  after : ∀ c ∈ around.after.head?, c = '/'

end Surroundings

namespace Look

/-- The assertion asks for the start of the text or of a line. -/
def isStart : Look → Bool
  | textStart | lineStart _ => true
  | textEnd | lineEnd _ | word .. => false

/-- The assertion asks for the end of the text or of a line. -/
def isEnd : Look → Bool
  | textEnd | lineEnd _ => true
  | textStart | lineStart _ | word .. => false

variable {around : Surroundings}

/-- A slash on either side is to a word what nothing is. -/
theorem word_beside_alone (h : around.Slashed) (edge : WordEdge) (rule : CaseRule)
    (behind ahead : List Char) :
    (Look.word edge rule).holds ⟨behind.getLast?.or around.before, ahead ++ around.after⟩ =
      (Look.word edge rule).holds ⟨behind.getLast?.or none, ahead ++ []⟩ := by
  -- A slash is no word character, and neither is the end of a text.
  have hbefore : (behind.getLast?.or around.before).any rule.isWord =
      (behind.getLast?.or none).any rule.isWord := by
    rw [h.before]
    cases behind.getLast? with
    | none => exact rule.isWord_slash
    | some c => rfl
  have hafter : (ahead ++ around.after).head?.any rule.isWord =
      (ahead ++ []).head?.any rule.isWord := by
    cases ahead with
    | cons c ahead => rfl
    | nil =>
      cases hhead : around.after.head? with
      | none => simp [hhead]
      | some c => simp [hhead, h.after c hhead, rule.isWord_slash]
  rw [holds, hbefore, hafter]
  rfl

/-- What holds in a text between slashes holds in the text alone. -/
theorem carries_alone (h : around.Slashed) (assertion : Look) :
    assertion.Carries around .alone := by
  rintro cursor other ⟨behind, ahead, rfl, rfl⟩ hholds
  -- With a slash in front no assertion about the start holds in the text around, and where one
  -- about the end does, the same holds at the end of the text alone.
  cases assertion with
  | textStart =>
    rw [h.before] at hholds
    cases hlast : behind.getLast? <;> simp [holds, hlast] at hholds
  | textEnd =>
    have hempty : ahead ++ around.after = [] := List.isEmpty_iff.mp hholds
    rw [(List.append_eq_nil_iff.mp hempty).1]
    rfl
  | lineStart crlf =>
    rw [h.before] at hholds
    cases hlast : behind.getLast? with
    | none =>
      rw [hlast] at hholds
      cases crlf <;> cases hholds
    | some c =>
      rw [hlast] at hholds
      cases crlf with
      | false => exact hholds
      | true =>
        cases ahead with
        | cons d ahead => exact hholds
        | nil =>
          simp only [holds, Option.some_or, Option.all_some, Bool.or_eq_true,
            Bool.and_eq_true] at hholds ⊢
          exact hholds.imp_right fun hreturn => ⟨hreturn.1, rfl⟩
  | lineEnd crlf =>
    cases ahead with
    | nil => cases crlf <;> rfl
    | cons d ahead =>
      cases crlf with
      | false => exact hholds
      | true =>
        rw [h.before] at hholds
        cases hlast : behind.getLast? with
        | none | some c =>
          rw [hlast] at hholds
          exact hholds
  | word edge rule =>
    rw [word_beside_alone h] at hholds
    exact hholds

/-- Apart from anchors, what holds in a text alone holds in it between slashes; an anchor to an end
does so where nothing stands behind the text. -/
theorem carries_between (h : around.Slashed) {assertion : Look} (hstart : assertion.isStart = false)
    (hend : around.after = [] ∨ assertion.isEnd = false) : assertion.Carries .alone around := by
  rintro cursor other ⟨behind, ahead, rfl, rfl⟩ hholds
  -- An assertion about the end may fail in front of a slash, so it is left out there.
  cases assertion with
  | textStart | lineStart crlf => cases hstart
  | textEnd =>
    rw [hend.resolve_right (by decide)]
    exact hholds
  | lineEnd crlf =>
    rw [hend.resolve_right (by decide : ¬ true = false), h.before]
    cases crlf with
    | false => exact hholds
    | true =>
      cases hlast : behind.getLast? with
      | none | some c =>
        rw [hlast] at hholds
        exact hholds
  | word edge rule =>
    rw [word_beside_alone h]
    exact hholds

end Look

end Switchyard.Regex
