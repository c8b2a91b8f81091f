import Switchyard.Proofs.Regex.Lookahead.Token

/-!
# Readers only move forward

No reader leaves more of a text than it was given (`Leaves`), and a token takes at least one
character (`length_lt_of_read?`). So the fuel that a class is read with is always enough
(`readClass_fuel`): reading with more of it gives the same answer, also where the answer is an
error.
-/

namespace Switchyard.Regex

variable {α β : Type} {modes : Modes}

/-- What an answer leaves unread is no longer than the limit. -/
def Leaves (limit : Nat) (answer : Except ParseError (α × List Char)) : Prop :=
  ∀ found rest, answer = .ok (found, rest) → rest.length ≤ limit

namespace Leaves

variable {limit : Nat}

theorem ok {found : α} {rest : List Char} (h : rest.length ≤ limit) :
    Leaves limit (.ok (found, rest)) := by
  intro found' rest' heq
  cases heq
  exact h

theorem error {cause : ParseError} : Leaves limit (.error cause : Except ParseError (α × _)) := by
  intro found rest heq
  cases heq

theorem mono {answer : Except ParseError (α × List Char)} {more : Nat} (h : Leaves limit answer)
    (hle : limit ≤ more) : Leaves more answer :=
  fun found rest heq => Nat.le_trans (h found rest heq) hle

theorem bind {answer : Except ParseError (α × List Char)}
    {next : α × List Char → Except ParseError (β × List Char)} {last : Nat}
    (h : Leaves limit answer)
    (hnext : ∀ found, found.2.length ≤ limit → Leaves last (next found)) :
    Leaves last (answer >>= next) := by
  rcases answer with cause | ⟨found, rest⟩
  · exact error
  · exact hnext (found, rest) (h found rest rfl)

/-- What is settled without the text leaves the text as it is. -/
theorem settled {answer : Except ParseError α} {next : α → β} {rest : List Char}
    (h : rest.length ≤ limit) :
    Leaves limit (answer >>= fun found => .ok (next found, rest)) := by
  cases answer with
  | error cause => exact error
  | ok found => exact ok h

end Leaves

/-! ## Escapes -/

theorem length_spanSkipping (modes : Modes) (passes : Char → Bool) (text : List Char) :
    (spanSkipping modes passes text).2.length ≤ text.length := by
  induction text using spanSkipping.induct modes passes with
  | case1 => simp [spanSkipping]
  | case2 c rest hc taken after hspan ih =>
    rw [spanSkipping, if_pos hc]
    exact Nat.le_succ_of_le (Nat.le_trans ih (modes.length_skip_le rest))
  | case3 c rest hc =>
    simp only [spanSkipping, if_neg hc, Nat.le_refl]

theorem length_of_spanSkipping {passes : Char → Bool} {text taken rest : List Char}
    (h : spanSkipping modes passes text = (taken, rest)) : rest.length ≤ text.length := by
  have hspan := length_spanSkipping modes passes text
  rwa [h] at hspan

theorem leaves_readDigits (modes : Modes) (count : Nat) :
    ∀ text, Leaves text.length (readDigits modes count text) := by
  induction count with
  | zero => exact fun text => .ok (Nat.le_refl _)
  | succ count ih =>
    intro text
    rcases text with _ | ⟨c, rest⟩
    · exact .error
    · simp only [readDigits]
      split
      · have hskip := modes.length_skip_le rest
        exact .bind (ih _) fun digits hafter => .ok (Nat.le_succ_of_le (Nat.le_trans hafter hskip))
      · exact .error

theorem leaves_numbered (asByte : Bool) (digits : List Char) {rest : List Char} {limit : Nat}
    (h : rest.length ≤ limit) : Leaves limit (numbered asByte digits rest) := by
  unfold numbered
  split
  · exact .ok h
  · exact .error

/-- A character by its number between braces, after its digits. -/
def closeNumber (modes : Modes) (asByte : Bool) (digits : List Char) :
    List Char → Except ParseError (Primitive × List Char)
  | '\x7d' :: rest =>
    if digits = [] then .error .digitsExpected else numbered asByte digits (modes.skip rest)
  | _ => .error .digitsExpected

/-- A character by its number, after the blanks that may stand in front of the number. -/
def numberAfter (modes : Modes) (count : Nat) :
    List Char → Except ParseError (Primitive × List Char)
  | '\x7b' :: rest =>
    let span := spanSkipping modes (fun c => (Unicode.hexValue? c).isSome) (modes.skip rest)
    closeNumber modes false span.1 span.2
  | text => readDigits modes count text >>= fun digits => numbered (count == 2) digits.1 digits.2

theorem readNumbered_eq (modes : Modes) (count : Nat) (text : List Char) :
    readNumbered modes count text = numberAfter modes count (modes.skip text) := by
  unfold readNumbered
  generalize modes.skip text = left
  rcases left with _ | ⟨c, rest⟩
  · simp [numberAfter]
    rfl
  · by_cases hc : c = '\x7b'
    · subst hc
      simp only [numberAfter]
      rcases spanSkipping modes (fun c => (Unicode.hexValue? c).isSome) (modes.skip rest)
        with ⟨digits, _ | ⟨d, after⟩⟩
      · rfl
      · by_cases hd : d = '\x7d'
        · subst hd
          by_cases hnil : digits = []
          · simp [closeNumber, hnil]
            rfl
          · simp [closeNumber, hnil]
            rfl
        · simp [closeNumber, hd]
          rfl
    · simp [numberAfter, hc]
      rfl

theorem leaves_closeNumber (asByte : Bool) (digits text : List Char) :
    Leaves text.length (closeNumber modes asByte digits text) := by
  unfold closeNumber
  split
  · split
    · exact .error
    · exact leaves_numbered _ _ (Nat.le_succ_of_le (modes.length_skip_le _))
  · exact .error

theorem leaves_numberAfter (count : Nat) (text : List Char) :
    Leaves text.length (numberAfter modes count text) := by
  unfold numberAfter
  split
  · rename_i rest
    refine (leaves_closeNumber false _ _).mono (Nat.le_succ_of_le ?_)
    exact Nat.le_trans (length_spanSkipping _ _ _) (modes.length_skip_le rest)
  · exact .bind (leaves_readDigits modes count _) fun digits hrest =>
      leaves_numbered _ _ hrest

theorem leaves_readNumbered (modes : Modes) (count : Nat) (text : List Char) :
    Leaves text.length (readNumbered modes count text) := by
  rw [readNumbered_eq]
  exact (leaves_numberAfter count _).mono (modes.length_skip_le text)

theorem leaves_readBraced (modes : Modes) (text : List Char) :
    Leaves text.length (readBraced modes text) := by
  unfold readBraced
  split
  · rename_i name rest hspan
    have hrest := length_of_spanSkipping hspan
    have hskip := modes.length_skip_le text
    rw [List.length_cons] at hrest
    exact .ok (by omega)
  · exact .error

theorem leaves_ofProperty (negated : Bool) (found : Option Property.Query) {rest : List Char}
    {limit : Nat} (h : rest.length ≤ limit) :
    Leaves limit (ofProperty modes negated found rest) := by
  unfold ofProperty
  split
  · split
    · exact .ok h
    · exact .error
  · exact .error

/-- A property, after the blanks that may stand in front of it. -/
def propertyAfter (modes : Modes) (negated : Bool) :
    List Char → Except ParseError (Primitive × List Char)
  | [] => .error .escapeUnfinished
  | c :: rest =>
    if c = '\x7b' then
      readBraced modes rest >>= fun name =>
        ofProperty modes negated (Property.Query.ofBraces? name.1) name.2
    else if c = '\\' then .error .propertyUnknown
    else ofProperty modes negated (Property.Query.ofLetter? c) (modes.skip rest)

theorem readProperty_eq (modes : Modes) (negated : Bool) (text : List Char) :
    readProperty modes negated text = propertyAfter modes negated (modes.skip text) := by
  unfold readProperty
  generalize modes.skip text = left
  rcases left with _ | ⟨c, rest⟩
  · rfl
  · by_cases hc : c = '\x7b'
    · subst hc
      simp [propertyAfter]
      rfl
    · by_cases hescape : c = '\\'
      · subst hescape
        simp [propertyAfter]
        rfl
      · simp [propertyAfter, hc, hescape]
        rfl

theorem leaves_propertyAfter (negated : Bool) (text : List Char) :
    Leaves text.length (propertyAfter modes negated text) := by
  rcases text with _ | ⟨c, rest⟩
  · exact .error
  · have hrest : rest.length ≤ (c :: rest).length := Nat.le_succ _
    simp only [propertyAfter]
    split
    · exact (leaves_readBraced modes rest).bind fun name hname =>
        leaves_ofProperty _ _ (Nat.le_trans hname hrest)
    · split
      · exact .error
      · exact leaves_ofProperty _ _ (Nat.le_trans (modes.length_skip_le rest) hrest)

theorem leaves_readProperty (modes : Modes) (negated : Bool) (text : List Char) :
    Leaves text.length (readProperty modes negated text) := by
  rw [readProperty_eq]
  exact (leaves_propertyAfter negated _).mono (modes.length_skip_le text)

theorem leaves_readBoundary (modes : Modes) (text : List Char) :
    Leaves text.length (readBoundary modes text) := by
  unfold readBoundary
  -- Text is used up only by an edge named in full; a plain boundary leaves all of it.
  split
  · rename_i inner
    have hskip := modes.length_skip_le inner
    split
    · exact .error
    · rename_i c rest heq
      rw [heq] at hskip
      simp only
      split
      · split
        · rename_i name after hspan
          have hafter := length_of_spanSkipping hspan
          simp only [List.length_cons] at hafter hskip ⊢
          split
          · exact .ok (by omega)
          · exact .error
        · exact .error
      · exact .ok (Nat.le_refl _)
  · exact .ok (Nat.le_refl _)

/-- An escape takes at least one character. -/
theorem leaves_readEscape (c : Char) (rest : List Char) :
    Leaves rest.length (readEscape modes (c :: rest)) := by
  have hrest := Nat.le_refl rest.length
  simp only [readEscape]
  split
  -- Characters by number and properties, then the classes with a letter of their own.
  iterate 3 · exact leaves_readNumbered modes _ rest
  iterate 2 · exact leaves_readProperty modes _ rest
  iterate 6 · exact .settled hrest
  -- Controls, then places in the text.
  iterate 8 · exact .ok hrest
  · exact leaves_readBoundary modes rest
  iterate 3 · exact .ok hrest
  -- Any other character stands for itself, or may not be escaped.
  · split
    · exact .error
    · split
      · exact .ok hrest
      · exact .error

/-! ## Bracketed classes -/

/-- One end of a range takes at least one character. -/
theorem leaves_readClassPrimitive (c : Char) (rest : List Char) :
    Leaves rest.length (readClassPrimitive modes (c :: rest)) := by
  by_cases hc : c = '\\'
  · subst hc
    rcases rest with _ | ⟨d, rest⟩
    · exact .error
    · exact (leaves_readEscape d rest).mono (Nat.le_succ _)
  · simp only [readClassPrimitive]
    exact .ok (Nat.le_refl _)

theorem leaves_classItemAfter (first : Primitive) (text : List Char) :
    Leaves text.length (classItemAfter modes first text) := by
  rcases text with _ | ⟨c, rest⟩
  · exact .error
  · simp only [classItemAfter]
    split
    · exact .settled (Nat.le_refl _)
    · have hskip := modes.length_skip_le rest
      rcases hleft : modes.skip rest with _ | ⟨d, left⟩
      · exact .error
      · rw [hleft, List.length_cons] at hskip
        refine Leaves.bind (leaves_readClassPrimitive d left) fun second hafter => ?_
        exact .settled (by simp only [List.length_cons]; omega)

theorem leaves_readClassItem (c : Char) (rest : List Char) :
    Leaves rest.length (readClassItem modes (c :: rest)) := by
  rw [readClassItem_eq]
  refine (leaves_readClassPrimitive c rest).bind fun first hleft => ?_
  exact (leaves_classItemAfter first.1 _).mono (Nat.le_trans (modes.length_skip_le first.2) hleft)

theorem length_of_classOperation? {c : Char} {text rest : List Char} {operation : SetOperation}
    (h : classOperation? c text = some (operation, rest)) : rest.length ≤ text.length := by
  unfold classOperation? at h
  split at h
  all_goals cases h
  all_goals exact Nat.le_succ _

theorem length_of_posixNamed? {negated : Bool} {text rest : List Char}
    {members : Except ParseError CharClass}
    (h : posixNamed? modes negated text = some (members, rest)) : rest.length ≤ text.length := by
  unfold posixNamed? at h
  split at h
  · rename_i name after hcut
    have hafter := Text.length_of_cut hcut
    obtain ⟨inner, -, hfound⟩ := Option.map_eq_some_iff.mp h
    rw [List.length_cons] at hafter
    split at hfound
    all_goals cases hfound
    all_goals omega
  · cases h

/-- The name of a class goes on after the colon, or after the sign that may stand there. -/
theorem readPosix?_eq (modes : Modes) (text : List Char) :
    readPosix? modes text =
      match text with
      | ':' :: '^' :: rest => posixNamed? modes true rest
      | ':' :: rest => posixNamed? modes false rest
      | _ => none := by
  -- The equations of the match by its order: two signs, one sign, none.
  rcases text with _ | ⟨c, _ | ⟨d, rest⟩⟩
  · rfl
  · by_cases hc : c = ':'
    · subst hc
      rfl
    · simp [readPosix?, hc]
  · by_cases hc : c = ':'
    · subst hc
      by_cases hd : d = '^'
      · subst hd
        rfl
      · grind [readPosix?, posixNamed?]
    · simp [readPosix?, hc]

theorem length_of_readPosix? {text rest : List Char} {members : Except ParseError CharClass}
    (h : readPosix? modes text = some (members, rest)) : rest.length ≤ text.length := by
  rw [readPosix?_eq] at h
  split at h
  · exact Nat.le_succ_of_le (Nat.le_succ_of_le (length_of_posixNamed? h))
  · exact Nat.le_succ_of_le (length_of_posixNamed? h)
  · cases h

theorem length_classSign (modes : Modes) (text : List Char) :
    (classSign modes text).2.length ≤ text.length := by
  have hskip := modes.length_skip_le text
  unfold classSign
  split
  · rename_i rest heq
    have hrest := modes.length_skip_le rest
    rw [heq, List.length_cons] at hskip
    simp only
    omega
  · exact hskip

/-- The parts of a class before its items, and the text where the items begin. -/
def classItems (modes : Modes) (text : List Char) : ClassParts × List Char :=
  let hyphens := readHyphens modes {} (classSign modes text).2
  firstBracket hyphens.1 hyphens.2

theorem length_classItems (modes : Modes) (text : List Char) :
    (classItems modes text).2.length ≤ text.length := by
  have hfirst : ∀ parts text, (firstBracket parts text).2.length ≤ text.length := by
    intro parts text
    unfold firstBracket
    split
    · exact Nat.le_succ _
    · exact Nat.le_refl _
  have hhyphens := length_spanSkipping modes (· == '-') (classSign modes text).2
  exact Nat.le_trans (hfirst _ _) (Nat.le_trans hhyphens (length_classSign modes text))

theorem readClass_eq (modes : Modes) (fuel : Nat) (text : List Char) :
    readClass modes (fuel + 1) text =
      (readClassParts modes fuel (classItems modes text).1 (classItems modes text).2 >>=
        fun inner => bracketed modes (classSign modes text).1 inner.1 >>=
          fun members => .ok (members, inner.2)) :=
  readClass_succ modes fuel text

theorem leaves_classPartsAfter {fuel : Nat}
    (hclass : ∀ text, Leaves (text.length - 1) (readClass modes fuel text))
    (hparts : ∀ parts text, Leaves (text.length - 1) (readClassParts modes fuel parts text))
    (parts : ClassParts) (text : List Char) :
    Leaves (text.length - 1) (classPartsAfter modes fuel parts text) := by
  rcases text with _ | ⟨c, rest⟩
  · exact .error
  · -- What stands behind the first character is read on from at least as far.
    have hlater : ∀ parts after, after.length ≤ rest.length →
        Leaves rest.length (readClassParts modes fuel parts after) :=
      fun parts after hafter => (hparts parts after).mono (by omega)
    simp only [classPartsAfter, List.length_cons, Nat.add_sub_cancel]
    split
    · exact .ok (Nat.le_refl _)
    · split
      · rename_i operation after hoperation
        exact hlater _ _ (length_of_classOperation? hoperation)
      · split
        · split
          · rename_i members after hposix
            cases members with
            | error cause => exact .error
            | ok members => exact hlater _ _ (length_of_readPosix? hposix)
          · exact .bind (hclass rest) fun inner hafter => hlater _ inner.2 (by omega)
        · exact .bind (leaves_readClassItem c rest) fun item hafter => hlater _ item.2 hafter

/-- A class leaves less of the text than there was, whatever the fuel. -/
theorem leaves_readClass_readClassParts (fuel : Nat) :
    (∀ text, Leaves (text.length - 1) (readClass modes fuel text)) ∧
    ∀ parts text, Leaves (text.length - 1) (readClassParts modes fuel parts text) := by
  -- A class reads its parts and they read classes, so both bounds go by one induction on the fuel.
  induction fuel with
  | zero =>
    refine ⟨fun text => ?_, fun parts text => ?_⟩
    · rw [readClass]
      exact .error
    · rw [readClassParts]
      exact .error
  | succ fuel ih =>
    obtain ⟨ihclass, ihparts⟩ := ih
    refine ⟨fun text => ?_, fun parts text => ?_⟩
    · rw [readClass_eq]
      have hitems := Nat.sub_le_sub_right (length_classItems modes text) 1
      exact .bind (ihparts _ _) fun inner hrest => .settled (Nat.le_trans hrest hitems)
    · rw [readClassParts_eq]
      have hskip := Nat.sub_le_sub_right (modes.length_skip_le text) 1
      exact (leaves_classPartsAfter ihclass ihparts parts _).mono hskip

/-- Fuel that makes no difference to what follows the first part makes none to the parts. -/
theorem classPartsAfter_fuel {fuel : Nat} (parts : ClassParts) {text : List Char}
    (hclass : ∀ rest, rest.length < text.length →
      readClass modes (fuel + 1) rest = readClass modes fuel rest)
    (hparts : ∀ parts rest, rest.length < text.length →
      readClassParts modes (fuel + 1) parts rest = readClassParts modes fuel parts rest) :
    classPartsAfter modes (fuel + 1) parts text = classPartsAfter modes fuel parts text := by
  rcases text with _ | ⟨c, rest⟩
  · rfl
  · -- Fuel makes no difference to any text behind the first character, and every branch goes on
    -- there: `leaves_readClass_readClassParts` says so of what a nested class leaves.
    have hlater : ∀ parts after, after.length ≤ rest.length →
        readClassParts modes (fuel + 1) parts after = readClassParts modes fuel parts after :=
      fun parts after hafter => hparts parts after (Nat.lt_succ_of_le hafter)
    simp only [classPartsAfter]
    split
    · rfl
    · split
      · rename_i operation after hoperation
        exact hlater _ _ (length_of_classOperation? hoperation)
      · split
        · split
          · rename_i members after hposix
            simp only [hlater _ after (length_of_readPosix? hposix)]
          · rw [hclass rest (Nat.lt_succ_self _)]
            rcases hinner : readClass modes fuel rest with cause | ⟨inner, after⟩
            · rfl
            · have hafter : after.length ≤ rest.length - 1 :=
                (leaves_readClass_readClassParts fuel).1 rest inner after hinner
              exact hlater _ after (by omega)
        · rcases hitem : readClassItem modes (c :: rest) with cause | ⟨item, after⟩
          · rfl
          · exact hlater _ _ (leaves_readClassItem c rest item after hitem)

/-- Two units of fuel for each character are enough for a class. -/
theorem readClass_readClassParts_fuel (fuel : Nat) :
    (∀ text, 2 * text.length + 2 ≤ fuel →
      readClass modes (fuel + 1) text = readClass modes fuel text) ∧
    ∀ parts text, 2 * text.length + 1 ≤ fuel →
      readClassParts modes (fuel + 1) parts text = readClassParts modes fuel parts text := by
  induction fuel with
  | zero => exact ⟨fun text h => by omega, fun parts text h => by omega⟩
  | succ fuel ih =>
    obtain ⟨ihclass, ihparts⟩ := ih
    refine ⟨fun text h => ?_, fun parts text h => ?_⟩
    · have hitems := length_classItems modes text
      rw [readClass_eq, readClass_eq, ihparts _ _ (by omega)]
    · have hskip := modes.length_skip_le text
      rw [readClassParts_eq, readClassParts_eq]
      exact classPartsAfter_fuel parts (fun text hless => ihclass text (by omega))
        fun parts text hless => ihparts parts text (by omega)

/-- More fuel than a class is read with makes no difference. -/
theorem readClass_fuel {fuel : Nat} {text : List Char} (h : 2 * text.length + 2 ≤ fuel) :
    readClass modes fuel text = readClass modes (2 * text.length + 2) text := by
  induction h with
  | refl => rfl
  | step hle ih => rw [(readClass_readClassParts_fuel _).1 text hle, ih]

/-! ## Groups and tokens -/

theorem leaves_readModes (list : ModeList) (text : List Char) :
    Leaves text.length (readModes list text) := by
  induction text generalizing list with
  | nil => exact .error
  | cons c rest ih =>
    have hrest : rest.length ≤ (c :: rest).length := Nat.le_succ _
    simp only [readModes]
    -- A list of modes ends at `)` or `:`, and a sign or a letter goes on to what is behind it.
    split
    · split
      · exact .error
      · exact .ok hrest
    · split
      · split
        · exact .error
        · exact (ih _).mono hrest
      · split
        · exact .error
        · split
          · exact .error
          · exact (ih _).mono hrest

theorem leaves_readName (text : List Char) : Leaves text.length (readName text) := by
  unfold readName
  split
  · rename_i name rest hcut
    split
    · exact .error
    · split
      · exact .ok (Nat.le_of_lt (Text.length_of_cut hcut))
      · exact .error
  · exact .error

theorem leaves_namedOpening (text : List Char) :
    Leaves text.length (namedOpening modes text) :=
  .bind (leaves_readName text) fun _ hrest => .ok hrest

theorem leaves_modesToken (found : ModeList × Char) {rest : List Char} {limit : Nat}
    (h : rest.length ≤ limit) : Leaves limit (modesToken found rest) := by
  unfold modesToken
  split
  · exact .ok h
  · split
    · exact .error
    · exact .ok h

theorem leaves_readOpening (text : List Char) : Leaves text.length (readOpening modes text) := by
  have hskip := modes.length_skip_le text
  unfold readOpening
  simp only
  split
  iterate 4 · exact .error
  iterate 2
    · rename_i heq
      rw [heq] at hskip
      refine (leaves_namedOpening _).mono (Nat.le_trans ?_ hskip)
      simp only [List.length_cons]
      omega
  · rename_i rest _ _ _ _ _ _ heq
    rw [heq, List.length_cons] at hskip
    refine Leaves.bind (leaves_readModes { modes } rest) fun found hafter => ?_
    exact leaves_modesToken found.1 (by omega)
  · exact .ok hskip

theorem leaves_readCount (text : List Char) : Leaves text.length (readCount modes text) := by
  have hdrop : ∀ text : List Char, (text.dropWhile Modes.isBlank).length ≤ text.length :=
    fun text => (List.dropWhile_suffix _).length_le
  have hspan := length_spanSkipping modes Char.isDigit (text.dropWhile Modes.isBlank)
  have hrest := Nat.le_trans (hdrop _) (Nat.le_trans hspan (hdrop text))
  unfold readCount
  simp only
  split
  · exact .ok hrest
  · split
    · exact .ok hrest
    · exact .error

theorem leaves_upperBound (low : Nat) (text : List Char) :
    Leaves text.length (upperBound modes low text) := by
  unfold upperBound
  split
  · exact .ok (Nat.le_refl _)
  · refine Leaves.bind (leaves_readCount _) fun high hrest => ?_
    obtain ⟨_ | high, rest⟩ := high
    · exact .error
    · exact .ok hrest

theorem leaves_laterBounds (low : Option Nat) (text : List Char) :
    Leaves text.length (laterBounds modes low text) := by
  unfold laterBounds
  split
  · exact .error
  · split
    · exact .error
    · split
      · exact (leaves_upperBound _ _).mono (Nat.le_succ_of_le (modes.length_skip_le _))
      · exact .ok (Nat.le_refl _)

theorem length_readGreed (modes : Modes) (text : List Char) :
    (readGreed modes text).2.length ≤ text.length := by
  unfold readGreed
  split
  · exact Nat.le_succ _
  · exact Nat.le_refl _

theorem leaves_closeCount (limits : Nat × Option Nat) (text : List Char) :
    Leaves text.length (closeCount modes limits text) := by
  unfold closeCount
  split
  · rename_i rest
    have hgreed := length_readGreed modes (modes.skip rest)
    simp only
    split
    · exact .error
    · exact .ok (Nat.le_succ_of_le (Nat.le_trans hgreed (modes.length_skip_le rest)))
  · exact .error

theorem leaves_readCounted (text : List Char) : Leaves text.length (readCounted modes text) := by
  have hskip := modes.length_skip_le text
  rw [readCounted_eq]
  refine Leaves.bind (leaves_readCount (modes.skip text)) fun low hrest => ?_
  refine Leaves.bind (leaves_laterBounds low.1 low.2) fun limits hafter => ?_
  exact (leaves_closeCount limits.1 limits.2).mono (by omega)

theorem leaves_read (c : Char) (rest : List Char) :
    Leaves rest.length (Token.read modes c rest) := by
  have hrest := Nat.le_refl rest.length
  have hgreed := length_readGreed modes rest
  unfold Token.read
  simp only
  -- The kinds of tokens in the order of the reader; a class, a count and an escape read on behind
  -- their first character.
  split
  · exact leaves_readOpening rest
  iterate 2 · exact .ok hrest
  · refine Leaves.bind ((leaves_readClass_readClassParts _).1 rest) fun members hafter => ?_
    exact .ok (by omega)
  iterate 3 · exact .ok hgreed
  · exact leaves_readCounted rest
  · rcases rest with _ | ⟨d, rest⟩
    · exact .error
    · refine Leaves.bind (leaves_readEscape d rest) fun primitive hafter => ?_
      exact .settled (Nat.le_succ_of_le hafter)
  · exact .settled hrest
  iterate 2 · exact .ok hrest
  · exact .settled hrest

/-- A token takes at least one character. -/
theorem length_lt_of_read? {text rest : List Char} {token : Token}
    (h : Token.read? modes text = .ok (some (token, rest))) : rest.length < text.length := by
  have hskip := modes.length_skip_le text
  rcases hleft : modes.skip text with _ | ⟨c, left⟩
  · simp [Token.read?, hleft] at h
  · rw [hleft, List.length_cons] at hskip
    cases hread : Token.read modes c left with
    | error cause => simp [Token.read?, hleft, hread, Except.map] at h
    | ok answer =>
      simp only [Token.read?, hleft, hread, Except.map, Except.ok.injEq, Option.some.injEq] at h
      subst h
      have hrest := leaves_read c left token rest hread
      omega

end Switchyard.Regex
