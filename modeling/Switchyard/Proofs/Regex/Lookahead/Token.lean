import Switchyard.Proofs.Regex.Lookahead
import Switchyard.Proofs.Text.Split

/-!
# Tokens before a closing bracket

The readers that nest or branch: bracketed classes, the openings of groups, and the token itself.
A class is read with fuel that grows with the text, so that more of it must change nothing
(`readClass_mono`) before a class in a longer text can be compared. `stable_token` is the main
statement: one token is the same by itself and before the bracket that closes its group.
-/

namespace Switchyard.Regex

variable {α β : Type} {modes : Modes}

/-! ## Bracketed classes -/

/-- The set operation that stands at the front of what is left of a class, and what follows it. -/
def classOperation? : Char → List Char → Option (SetOperation × List Char)
  | '&', '&' :: rest => some (.intersection, rest)
  | '-', '-' :: rest => some (.difference, rest)
  | '~', '~' :: rest => some (.symmetricDifference, rest)
  | _, _ => none

theorem classOperation?_append (c : Char) (text more : List Char) :
    classOperation? c (text ++ ')' :: more) =
      (classOperation? c text).map fun found => (found.1, found.2 ++ ')' :: more) := by
  rcases text with _ | ⟨d, rest⟩
  · by_cases hand : c = '&' <;> by_cases hminus : c = '-' <;> by_cases htilde : c = '~' <;>
      simp [classOperation?, hand, hminus, htilde]
  · unfold classOperation?
    split <;> simp_all

/-- The sign of a class, and what follows it. -/
def classSign (modes : Modes) (text : List Char) : Bool × List Char :=
  match modes.skip text with
  | '^' :: text => (true, modes.skip text)
  | text => (false, text)

/-- The parts with a closing bracket that comes first, which stands for itself. -/
def firstBracket (parts : ClassParts) (text : List Char) : ClassParts × List Char :=
  match parts.items, text with
  | .nothing, ']' :: text => (parts.push (.single ']'), text)
  | _, text => (parts, text)

theorem readClass_of_first {fuel : Nat} {text : List Char} {sign : Bool × List Char}
    {hyphens first : ClassParts × List Char} (hsign : classSign modes text = sign)
    (hhyphens : readHyphens modes {} sign.2 = hyphens)
    (hfirst : firstBracket hyphens.1 hyphens.2 = first) :
    readClass modes (fuel + 1) text =
      match readClassParts modes fuel first.1 first.2 with
      | .error cause => .error cause
      | .ok (inner, rest) => (bracketed modes sign.1 inner).map fun members => (members, rest) := by
  subst hsign hhyphens hfirst
  rw [readClass]
  rfl

theorem readClass_succ (modes : Modes) (fuel : Nat) (text : List Char) :
    readClass modes (fuel + 1) text =
      ((Except.ok (classSign modes text) >>= fun sign =>
        .ok (readHyphens modes {} sign.2) >>= fun hyphens =>
          .ok (firstBracket hyphens.1 hyphens.2) >>= fun first =>
            readClassParts modes fuel first.1 first.2 >>= fun inner =>
              bracketed modes sign.1 inner.1 >>= fun members => .ok (members, inner.2)) :
        Except ParseError (CharClass × List Char)) := by
  let sign := classSign modes text
  let hyphens := readHyphens modes {} sign.2
  let first := firstBracket hyphens.1 hyphens.2
  rw [readClass_of_first rfl rfl rfl]
  show _ = (readClassParts modes fuel first.1 first.2 >>= _)
  rcases readClassParts modes fuel first.1 first.2 with cause | ⟨inner, rest⟩
  · rfl
  · simp only [Bind.bind, Except.bind, Except.map]

/-- The parts of a class, after the blanks that may stand in front of them. -/
def classPartsAfter (modes : Modes) (fuel : Nat) (parts : ClassParts) :
    List Char → Except ParseError (CharClass × List Char)
  | [] => .error .classUnclosed
  | c :: rest =>
    if c = ']' then .ok (parts.finish modes, rest)
    else
      match classOperation? c rest with
      | some (operation, rest) => readClassParts modes fuel (parts.operate modes operation) rest
      | none =>
        if c = '[' then
          match readPosix? modes rest with
          | some (members, rest) =>
            members >>= fun members => readClassParts modes fuel (parts.push members) rest
          | none =>
            readClass modes fuel rest >>= fun inner =>
              readClassParts modes fuel (parts.push inner.1) inner.2
        else
          readClassItem modes (c :: rest) >>= fun item =>
            readClassParts modes fuel (parts.push item.1) item.2

theorem readClassParts_eq (modes : Modes) (fuel : Nat) (parts : ClassParts) (text : List Char) :
    readClassParts modes (fuel + 1) parts text =
      classPartsAfter modes fuel parts (modes.skip text) := by
  rw [readClassParts]
  generalize modes.skip text = left
  -- The reader's cases: the end of the text, the closing bracket, the three operations, a bracket
  -- that opens, anything else.
  split
  · rfl
  · simp [classPartsAfter]
  iterate 3 · simp [classPartsAfter, classOperation?]
  · rename_i rest
    have hnone : classOperation? '[' rest = none := by simp [classOperation?]
    simp only [classPartsAfter, hnone, if_neg (show ¬ '[' = ']' by decide), if_true]
    rcases readPosix? modes rest with _ | ⟨members | members, after⟩
    · rcases readClass modes fuel rest with cause | ⟨members, after⟩ <;> rfl
    · rfl
    · rfl
  · rename_i hnil hclose hand hminus htilde hopen
    -- No earlier case applies, so the character starts no operation and is no bracket.
    rcases left with _ | ⟨c, rest⟩
    · exact absurd rfl hnil
    · have hnone : classOperation? c rest = none := by
        unfold classOperation?
        split <;> simp_all
      have hc : c ≠ ']' := fun h => hclose rest (by rw [h])
      have hc' : c ≠ '[' := fun h => hopen rest (by rw [h])
      simp only [classPartsAfter, hnone, if_neg hc, if_neg hc']
      rcases readClassItem modes (c :: rest) with cause | ⟨item, after⟩ <;> rfl

theorem bind_mono {ε : Type} {first second : Except ε α} {next later : α → Except ε β} {found : β}
    (hfirst : ∀ answer, first = .ok answer → second = .ok answer)
    (hnext : ∀ answer, next answer = .ok found → later answer = .ok found)
    (h : first >>= next = .ok found) : second >>= later = .ok found := by
  cases hanswer : first with
  | error cause =>
    rw [hanswer] at h
    cases h
  | ok answer =>
    rw [hanswer] at h
    rw [hfirst answer hanswer]
    exact hnext answer h

theorem classPartsAfter_mono {fuel : Nat}
    (hclass : ∀ text found, readClass modes fuel text = .ok found →
      readClass modes (fuel + 1) text = .ok found)
    (hparts : ∀ parts text found, readClassParts modes fuel parts text = .ok found →
      readClassParts modes (fuel + 1) parts text = .ok found)
    {parts : ClassParts} {text : List Char} {found : CharClass × List Char}
    (h : classPartsAfter modes fuel parts text = .ok found) :
    classPartsAfter modes (fuel + 1) parts text = .ok found := by
  -- Each branch reads with less fuel at most in a nested class or in the parts behind it.
  rcases text with _ | ⟨c, rest⟩
  · exact h
  · simp only [classPartsAfter] at h ⊢
    by_cases hclose : c = ']'
    · rwa [if_pos hclose] at h ⊢
    · rw [if_neg hclose] at h ⊢
      rcases hoperation : classOperation? c rest with _ | ⟨operation, after⟩
      · simp only [hoperation] at h ⊢
        by_cases hopen : c = '['
        · rw [if_pos hopen] at h ⊢
          rcases hposix : readPosix? modes rest with _ | ⟨members, after⟩
          · simp only [hposix] at h ⊢
            exact bind_mono (hclass rest) (fun inner => hparts _ _ _) h
          · simp only [hposix] at h ⊢
            exact bind_mono (fun members => id) (fun members => hparts _ _ _) h
        · rw [if_neg hopen] at h ⊢
          exact bind_mono (fun item => id) (fun item => hparts _ _ _) h
      · simp only [hoperation] at h ⊢
        exact hparts _ _ _ h

/-- One more unit of fuel finds what less of it found. -/
theorem readClass_readClassParts_mono (modes : Modes) (fuel : Nat) :
    (∀ text found, readClass modes fuel text = .ok found →
      readClass modes (fuel + 1) text = .ok found) ∧
    ∀ parts text found, readClassParts modes fuel parts text = .ok found →
      readClassParts modes (fuel + 1) parts text = .ok found := by
  induction fuel with
  | zero =>
    refine ⟨fun text found h => ?_, fun parts text found h => ?_⟩
    · simp [readClass] at h
    · simp [readClassParts] at h
  | succ fuel ih =>
    obtain ⟨ihclass, ihparts⟩ := ih
    refine ⟨fun text found h => ?_, fun parts text found h => ?_⟩
    -- Only the parts use up fuel: what stands in front of them is read without.
    · rw [readClass_succ] at h ⊢
      exact bind_mono (fun sign => id) (fun sign => bind_mono (fun hyphens => id) fun hyphens =>
        bind_mono (fun first => id) fun first =>
          bind_mono (ihparts first.1 first.2) fun inner => id) h
    · rw [readClassParts_eq] at h ⊢
      exact classPartsAfter_mono ihclass ihparts h

theorem readClass_mono {fuel more : Nat} {text : List Char} {found : CharClass × List Char}
    (h : readClass modes fuel text = .ok found) (hle : fuel ≤ more) :
    readClass modes more text = .ok found := by
  induction hle with
  | refl => exact h
  | step _ ih => exact (readClass_readClassParts_mono modes _).1 _ _ ih

theorem stable_classSign (text : List Char) :
    Stable modes (fun text => .ok (classSign modes text)) text := by
  refine .of_skipped (fun text => by simp only [classSign, modes.skip_skip])
    (fun text hfix hmore => ?_) text
  -- The sign is looked at after the blanks, so the text is taken with none in front.
  rcases text with _ | ⟨c, rest⟩
  · refine (Stable.ok false []).congr ?_ fun more => ?_
    · simp [classSign, hfix]
    · simp [classSign, modes.skip_bracket]
  · simp only [List.cons_append] at hmore
    by_cases hc : c = '^'
    · subst hc
      refine (Stable.ok true (modes.skip rest)).skip.congr ?_ fun more => ?_
      · simp [classSign, hfix]
      · simp [classSign, hmore]
    · refine (Stable.ok false (c :: rest)).congr ?_ fun more => ?_
      · simp [classSign, hfix, hc]
      · simp [classSign, hmore, hc]

theorem stable_readHyphens (parts : ClassParts) (text : List Char) :
    Stable modes (fun text => .ok (readHyphens modes parts text)) text := by
  have hspan : Stable modes (fun text => .ok (spanSkipping modes (· == '-') text)) text :=
    stable_spanSkipping (by decide) text
  exact (Stable.bind hspan fun hyphens rest _ =>
    .ok (hyphens.foldl (fun parts _ => parts.push (.single '-')) parts) rest).congr rfl
      fun more => rfl

theorem stable_firstBracket (parts : ClassParts) (text : List Char) :
    Stable modes (fun text => .ok (firstBracket parts text)) text := by
  have hkept : ∀ text, firstBracket parts text = (parts, text) → (∀ more,
      firstBracket parts (text ++ ')' :: more) = (parts, text ++ ')' :: more)) →
      Stable modes (fun text => .ok (firstBracket parts text)) text :=
    fun text htext hmore => (Stable.ok parts text).congr (by rw [htext]) fun more => by rw [hmore]
  rcases text with _ | ⟨c, rest⟩
  · refine hkept [] ?_ fun more => ?_ <;> cases hitems : parts.items <;> simp [firstBracket, hitems]
  · by_cases hc : c = ']'
    · subst hc
      -- Only as the first part does a closing bracket stand for itself.
      by_cases hitems : parts.items = .nothing
      · refine (Stable.ok (parts.push (.single ']')) rest).congr ?_ fun more => ?_ <;>
          simp [firstBracket, hitems]
      · have hlater : ∀ text, firstBracket parts text = (parts, text) := by
          intro text
          unfold firstBracket
          split
          · contradiction
          · rfl
        exact hkept _ (hlater _) fun more => hlater _
    · refine hkept (c :: rest) ?_ fun more => ?_ <;> simp [firstBracket, hc]

/-- The class with the name up to a colon, which a closing bracket must follow. -/
def posixNamed? (modes : Modes) (negated : Bool) (text : List Char) :
    Option (Except ParseError CharClass × List Char) :=
  match Text.cut ':' text with
  | (name, some (']' :: rest)) =>
    (CharClass.posix? name).map fun inner =>
      if negated && !modes.unicode then (.error .beyondScalars, rest)
      else (.ok (foldThenNegate modes negated inner), rest)
  | _ => none

theorem posixNamed?_append (negated : Bool) (text more : List Char) :
    posixNamed? modes negated (text ++ ')' :: more) =
      (posixNamed? modes negated text).map fun found => (found.1, found.2 ++ ')' :: more) := by
  -- Either the text has no colon, or nothing behind it, or the character behind it decides. In the
  -- first case the name would go on over the added bracket, and no name has one.
  rcases hcut : Text.cut ':' text with ⟨name, _ | ⟨_ | ⟨c, rest⟩⟩⟩
  · have hmem := Text.mem_cut_append (show ')' ≠ ':' by decide) hcut more
    have hnone := posix?_of_mem hmem
    unfold posixNamed?
    rw [hcut]
    split
    · rename_i heq
      rw [heq] at hnone
      simp [hnone]
    · rfl
  · simp [posixNamed?, hcut, Text.cut_append hcut]
  · by_cases hc : c = ']'
    · subst hc
      simp only [posixNamed?, hcut, Text.cut_append hcut, List.cons_append]
      rcases CharClass.posix? name with _ | inner
      · rfl
      · by_cases hnegated : (negated && !modes.unicode) = true <;> simp [hnegated]
    · simp [posixNamed?, hcut, Text.cut_append hcut, hc]

theorem readPosix?_append (text more : List Char) :
    readPosix? modes (text ++ ')' :: more) =
      (readPosix? modes text).map fun found => (found.1, found.2 ++ ')' :: more) := by
  rcases text with _ | ⟨c, rest⟩
  · rfl
  · -- A sign may stand in front of the name.
    by_cases hc : c = ':'
    · subst hc
      rcases rest with _ | ⟨d, rest⟩
      · exact posixNamed?_append false [] more
      · by_cases hd : d = '^'
        · subst hd
          exact posixNamed?_append true rest more
        · have hread : ∀ text, readPosix? modes (':' :: d :: text) =
              posixNamed? modes false (d :: text) := by
            intro text
            simp only [readPosix?, hd, List.cons.injEq, false_and, imp_self, implies_true]
            rfl
          rw [hread, List.cons_append, List.cons_append, hread]
          exact posixNamed?_append false (d :: rest) more
    · simp [readPosix?, hc]

theorem stable_classPartsAfter {fuel : Nat}
    (hclass : ∀ text, Stable modes (readClass modes fuel) text)
    (hparts : ∀ parts text, Stable modes (readClassParts modes fuel parts) text)
    (parts : ClassParts) (text : List Char) :
    Stable modes (classPartsAfter modes fuel parts) text := by
  -- The branches of the reader, in its order. In each, what is read first is stable, and what
  -- stands behind it is by assumption; blanks and operations are found alike in the longer text.
  rcases text with _ | ⟨c, rest⟩
  · exact .of_error rfl
  · by_cases hclose : c = ']'
    · refine (Stable.ok (parts.finish modes) rest).congr ?_ fun more => ?_
      · simp only [classPartsAfter, if_pos hclose]
      · simp only [classPartsAfter, List.cons_append, if_pos hclose]
    · rcases hoperation : classOperation? c rest with _ | ⟨operation, after⟩
      · by_cases hopen : c = '['
        · rcases hposix : readPosix? modes rest with _ | ⟨members, after⟩
          · have hnested := Stable.bind (hclass rest) fun inner rest _ =>
              hparts (parts.push inner) rest
            refine hnested.congr ?_ fun more => ?_
            · simp only [classPartsAfter, if_neg hclose, hoperation, if_pos hopen, hposix]
            · simp only [classPartsAfter, List.cons_append, if_neg hclose, classOperation?_append,
                hoperation, if_pos hopen, readPosix?_append, hposix, Option.map_none]
          · have hitem := Stable.bind (Stable.of_settled modes members after)
              fun members rest _ => hparts (parts.push members) rest
            refine hitem.congr ?_ fun more => ?_
            · simp only [classPartsAfter, if_neg hclose, hoperation, if_pos hopen, hposix,
                bind_assoc]
              rfl
            · simp only [classPartsAfter, List.cons_append, if_neg hclose, classOperation?_append,
                hoperation, if_pos hopen, readPosix?_append, hposix, Option.map_none,
                Option.map_some, bind_assoc]
              rfl
        · have hitem := Stable.bind (stable_readClassItem modes (c :: rest))
            fun item rest _ => hparts (parts.push item) rest
          refine hitem.congr ?_ fun more => ?_
          · simp only [classPartsAfter, if_neg hclose, hoperation, if_neg hopen]
          · simp only [classPartsAfter, List.cons_append, if_neg hclose, classOperation?_append,
              hoperation, if_neg hopen, Option.map_none]
      · refine (hparts (parts.operate modes operation) after).congr ?_ fun more => ?_
        · simp only [classPartsAfter, if_neg hclose, hoperation]
        · simp only [classPartsAfter, List.cons_append, if_neg hclose, classOperation?_append,
            hoperation, Option.map_some]

/-- A class is found alike in a longer text, fuel for fuel. -/
theorem stable_readClass_readClassParts (fuel : Nat) :
    (∀ text, Stable modes (readClass modes fuel) text) ∧
    ∀ parts text, Stable modes (readClassParts modes fuel parts) text := by
  -- Induction on the fuel, for a class and for its parts at once, as they are read in turn.
  induction fuel with
  | zero =>
    refine ⟨fun text => ?_, fun parts text => ?_⟩
    · exact .of_error (show _ = Except.error .classUnclosed by rw [readClass])
    · exact .of_error (show _ = Except.error .classUnclosed by rw [readClassParts])
  | succ fuel ih =>
    obtain ⟨ihclass, ihparts⟩ := ih
    refine ⟨fun text => ?_, fun parts text => ?_⟩
    · have hsign : Stable modes (fun text => .ok (classSign modes text)) text :=
        stable_classSign text
      have hread := hsign.bind fun negated rest _ =>
        Stable.bind (stable_readHyphens {} rest) fun parts rest _ =>
          Stable.bind (stable_firstBracket parts rest) fun parts rest _ =>
            Stable.bind (ihparts parts rest) fun inner rest _ =>
              Stable.of_settled modes (bracketed modes negated inner) rest
      refine hread.congr ?_ fun more => ?_
      · rw [readClass_succ]
      · rw [readClass_succ]
    · exact (Stable.skip (stable_classPartsAfter ihclass ihparts parts (modes.skip text))).congr
        (readClassParts_eq modes fuel parts text) fun more => readClassParts_eq modes fuel parts _

/-- The fuel for a class grows with the text that follows it, and finds the same. -/
theorem stable_readClass (text : List Char) :
    Stable modes (fun rest => readClass modes (2 * rest.length + 2) rest) text := by
  intro members rest h
  refine ((stable_readClass_readClassParts _).1 text members rest h).imp (fun hkeep more => ?_)
    fun hswallow => ⟨hswallow.1, fun more hmore => ?_⟩
  · exact readClass_mono (hkeep more) (by simp only [List.length_append]; omega)
  · exact readClass_mono (hswallow.2 more hmore) (by simp only [List.length_append]; omega)

/-! ## Groups -/

theorem stable_readModes (list : ModeList) (text : List Char) :
    Stable modes (readModes list) text := by
  induction text generalizing list with
  | nil => exact .of_error rfl
  | cons c rest ih =>
    refine .cons ?_
    simp only [readModes]
    -- A letter, a sign, or the end of the list: only a letter or a sign goes on.
    split
    · split
      · exact .of_error rfl
      · exact .ok _ rest
    · split
      · split
        · exact .of_error rfl
        · exact ih _
      · split
        · exact .of_error rfl
        · split
          · exact .of_error rfl
          · exact ih _

theorem stable_readName (text : List Char) : Stable modes readName text := by
  rcases hcut : Text.cut '>' text with ⟨name, _ | rest⟩
  · exact .of_error (show _ = Except.error .groupName by simp [readName, hcut])
  · have hmore : ∀ more, Text.cut '>' (text ++ ')' :: more) = (name, some (rest ++ ')' :: more)) :=
      fun more => Text.cut_append hcut _
    rcases name with _ | ⟨c, name⟩
    · exact .of_error (show _ = Except.error .groupName by simp [readName, hcut])
    · by_cases hname : (isNameChar true c && name.all (isNameChar false)) = true
      · refine (Stable.ok (c :: name) rest).congr ?_ fun more => ?_
        · simp only [readName, hcut, if_pos hname]
        · simp only [readName, hmore, if_pos hname]
      · exact .of_error (show _ = Except.error .groupName by simp only [readName, hcut, if_neg hname])

/-- The opening of a group with a name, after the angle bracket. -/
def namedOpening (modes : Modes) (rest : List Char) : Except ParseError (Token × List Char) :=
  readName rest >>= fun name => .ok (.opening (.named name.1) modes, name.2)

/-- The opening of a group without a number, or a mode directive, after its mode letters. -/
def modesToken (found : ModeList × Char) (rest : List Char) :
    Except ParseError (Token × List Char) :=
  if found.2 = ':' then .ok (.opening .plain found.1.modes, rest)
  else if found.1.seen = [] then .error .nothingToRepeat
  else .ok (.directive found.1.modes, rest)

theorem stable_namedOpening (text : List Char) : Stable modes (namedOpening modes) text :=
  .bind (stable_readName text) fun name rest _ => .ok (Token.opening (.named name) modes) rest

theorem stable_modesToken (found : ModeList × Char) (text : List Char) :
    Stable modes (modesToken found) text := by
  unfold modesToken
  split
  · exact .ok _ text
  · split
    · exact .of_error rfl
    · exact .ok _ text

/-- What a question mark after the bracket announces. -/
theorem stable_readOpening_question {rest : List Char}
    (hfix : modes.skip ('?' :: rest) = '?' :: rest)
    (hmore : ∀ more, modes.skip ('?' :: rest ++ ')' :: more) = '?' :: rest ++ ')' :: more) :
    Stable modes (readOpening modes) ('?' :: rest) := by
  simp only [List.cons_append] at hmore
  -- What follows the question mark tells the kind of the group: signs that look around are errors,
  -- `<` and `P<` start a name, and all else is a list of modes.
  rcases rest with _ | ⟨d, rest⟩
  · exact .of_error (by simp [readOpening, hfix, readModes]; rfl)
  · simp only [List.cons_append] at hmore
    by_cases hequals : d = '='
    · subst hequals
      exact .of_error (show _ = Except.error .lookAround by simp [readOpening, hfix])
    by_cases hbang : d = '!'
    · subst hbang
      exact .of_error (show _ = Except.error .lookAround by simp [readOpening, hfix])
    by_cases hangle : d = '<'
    · subst hangle
      rcases rest with _ | ⟨e, rest⟩
      · exact .of_error (by simp [readOpening, hfix, readName, Text.cut]; rfl)
      · simp only [List.cons_append] at hmore
        by_cases he : e = '=' ∨ e = '!'
        · refine .of_error (show _ = Except.error .lookAround from ?_)
          rcases he with rfl | rfl <;> simp [readOpening, hfix]
        · rw [not_or] at he
          refine (stable_namedOpening (e :: rest)).congr ?_ fun more => ?_
          · simp [readOpening, hfix, he]
            rfl
          · simp [readOpening, hmore, he]
            rfl
    by_cases hp : d = 'P'
    · subst hp
      rcases rest with _ | ⟨e, rest⟩
      · exact .of_error (by simp [readOpening, hfix, readModes, ModeLetter.ofChar?]; rfl)
      · simp only [List.cons_append] at hmore
        by_cases he : e = '<'
        · subst he
          refine (stable_namedOpening rest).congr ?_ fun more => ?_
          · simp [readOpening, hfix]
            rfl
          · simp [readOpening, hmore]
            rfl
        · exact .of_error (by simp [readOpening, hfix, he, readModes, ModeLetter.ofChar?]; rfl)
    · refine (Stable.bind (stable_readModes { modes } (d :: rest)) fun found rest _ =>
        stable_modesToken found rest).congr ?_ fun more => ?_
      · simp [readOpening, hfix, hequals, hbang, hangle, hp]
        rfl
      · simp [readOpening, hmore, hequals, hbang, hangle, hp]
        rfl

theorem stable_readOpening (text : List Char) : Stable modes (readOpening modes) text := by
  refine .of_skipped (fun text => by simp only [readOpening, modes.skip_skip])
    (fun text hfix hmore => ?_) text
  rcases text with _ | ⟨c, rest⟩
  · refine (Stable.ok (Token.opening .numbered modes) []).congr ?_ fun more => ?_
    · simp [readOpening, hfix]
    · simp [readOpening, modes.skip_bracket]
  · by_cases hc : c = '?'
    · subst hc
      exact stable_readOpening_question hfix hmore
    · simp only [List.cons_append] at hmore
      refine (Stable.ok (Token.opening .numbered modes) (c :: rest)).congr ?_ fun more => ?_
      · simp [readOpening, hfix, hc]
      · simp [readOpening, hmore, hc]

/-! ## One token -/

/-- One token, after its first character. -/
theorem stable_read (c : Char) (text : List Char) : Stable modes (Token.read modes c) text := by
  have hgreed : ∀ min max, Stable modes (fun rest => Except.ok
      (Token.quantifier min max (readGreed modes rest).1, (readGreed modes rest).2)) text :=
    fun min max => (stable_readGreed modes text).bind fun greedy rest _ =>
      .ok (Token.quantifier min max greedy) rest
  have hatom : ∀ (settled : Except ParseError Regex) rest,
      Stable modes (fun rest => settled >>= fun atom => .ok (Token.atom atom, rest)) rest := by
    intro settled rest
    cases settled with
    | error cause => exact .of_error rfl
    | ok atom => exact .ok _ rest
  -- One case for each kind of token, in the order of the reader.
  unfold Token.read
  split
  · exact stable_readOpening text
  · exact .ok Token.closing text
  · exact .ok Token.bar text
  · exact (stable_readClass text).bind fun members rest _ => .ok (Token.atom (.set members)) rest
  · exact hgreed 0 (some 1)
  · exact hgreed 0 none
  · exact hgreed 1 none
  · exact stable_readCounted modes text
  · exact (stable_readEscape modes text).bind fun primitive rest _ =>
      hatom (primitive.atom modes) rest
  · exact hatom (dotAtom modes) text
  · exact .ok _ text
  · exact .ok _ text
  · exact hatom _ text

/-- A token of the text is the same before the bracket, or takes the bracket into a comment. -/
theorem read?_append_of_some {text rest : List Char} {token : Token}
    (h : Token.read? modes text = .ok (some (token, rest))) :
    (∀ more, Token.read? modes (text ++ ')' :: more) = .ok (some (token, rest ++ ')' :: more))) ∨
    (modes.spaced = true ∧
      ∀ more, '\n' ∉ more → Token.read? modes (text ++ ')' :: more) = .ok (some (token, rest))) := by
  rcases hskip : modes.skip text with _ | ⟨c, after⟩
  · simp [Token.read?, hskip] at h
  · have hread : Token.read modes c after = .ok (token, rest) := by
      simp only [Token.read?, hskip] at h
      cases hanswer : Token.read modes c after with
      | error cause =>
        rw [hanswer] at h
        cases h
      | ok answer =>
        rw [hanswer] at h
        cases h
        rfl
    -- A character is left behind the blanks, so the blanks end within the text.
    have hmore : ∀ more, Token.read? modes (text ++ ')' :: more) =
        (Token.read modes c (after ++ ')' :: more)).map some := by
      intro more
      have hskip' : modes.skip (text ++ ')' :: more) = c :: (after ++ ')' :: more) := by
        rw [skip_append_of_ne_nil (by rw [hskip]; exact List.cons_ne_nil c after), hskip,
          List.cons_append]
      simp only [Token.read?, hskip']
    refine (stable_read c after token rest hread).imp (fun hkeep more => ?_)
      fun hswallow => ⟨hswallow.1, fun more hline => ?_⟩
    · rw [hmore, hkeep]
      rfl
    · rw [hmore, hswallow.2 more hline]
      rfl

/-- Where the text is used up, the bracket is the next token, or an open comment takes it. -/
theorem read?_append_of_none {text : List Char} (h : Token.read? modes text = .ok none) :
    (∀ more, Token.read? modes (text ++ ')' :: more) = .ok (some (.closing, more))) ∨
    (modes.spaced = true ∧
      ∀ more, '\n' ∉ more → Token.read? modes (text ++ ')' :: more) = .ok none) := by
  have hnil : modes.skip text = [] := by
    rcases hskip : modes.skip text with _ | ⟨c, after⟩
    · rfl
    · simp only [Token.read?, hskip] at h
      cases hanswer : Token.read modes c after <;> rw [hanswer] at h <;> cases h
  refine (skip_append modes text).imp (fun hkeep more => ?_)
    fun hswallow => ⟨hswallow.1, fun more hline => ?_⟩
  · simp only [Token.read?, hkeep, hnil, List.nil_append]
    rfl
  · simp only [Token.read?, hswallow.2.2 more hline]

end Switchyard.Regex
