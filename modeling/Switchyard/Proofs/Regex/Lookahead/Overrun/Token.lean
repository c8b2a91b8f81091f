import Switchyard.Proofs.Regex.Lookahead.Overrun
import Switchyard.Proofs.Unicode.Membership

/-!
# Refused tokens before a closing bracket

The readers that nest or branch, for a text that they refuse. A class that is not closed goes on
behind the bracket and has to be closed there, which `ClassOpen` text never does. Mode letters end
at the bracket, and an escape takes it in. `read?_append_of_error` is the main statement: a text
whose first token is malformed starts with none before the bracket either, or that token ends where
the text behind the bracket begins.
-/

namespace Switchyard.Regex

variable {α β : Type} {modes : Modes} {more : List Char}

/-! ## Bracketed classes -/

/-- What means something in a class, or ends a name between braces. -/
def classSigns : List Char := ['#', '\x7d', '\\', '-', ']', '[', '&', '~']

/-- A character that means nothing in a class, and ends no name between braces. -/
def isPlain (c : Char) : Bool := !Modes.isBlank c && !classSigns.contains c

theorem isPlain_ascii {c : Char} (hc : c.toNat < 0x80) :
    isPlain c = (!blanks.contains c && !classSigns.contains c) := by
  rw [isPlain, isBlank_ascii hc]

theorem isBlank_of_isPlain {c : Char} (h : isPlain c = true) : Modes.isBlank c = false := by
  rw [isPlain, Bool.and_eq_true] at h
  simpa using h.1

theorem not_mem_of_isPlain {c : Char} (h : isPlain c = true) : c ∉ classSigns := by
  rw [isPlain, Bool.and_eq_true] at h
  simpa using h.2

/-- A text that does not close the class that it begins in. -/
structure ClassOpen (text : List Char) : Prop where
  skipped : ∀ modes : Modes, modes.skip text = text
  hyphen : text.head? ≠ some '-'
  unclosed : ∀ modes fuel parts, ∃ cause, readClassParts modes fuel parts text = .error cause

namespace ClassOpen

variable {text : List Char}

/-- What a character that stands before the text is read as in a class. -/
theorem classItemAfter_eq (h : ClassOpen text) (modes : Modes) (first : Primitive) :
    (∃ cause, classItemAfter modes first (modes.skip text) = .error cause) ∨
      ∃ item, classItemAfter modes first (modes.skip text) = .ok (item, text) := by
  rw [h.skipped]
  rcases text with _ | ⟨c, rest⟩
  · exact .inl ⟨.classUnclosed, rfl⟩
  · have hc : (c != '-') = true := by
      have hhyphen := h.hyphen
      simpa using hhyphen
    simp only [classItemAfter, hc, Bool.true_or, if_true]
    cases first.item modes with
    | error cause => exact .inl ⟨cause, rfl⟩
    | ok item => exact .inr ⟨item, rfl⟩

/-- An item of the class that leaves the text does not close the class. -/
theorem of_primitive {c : Char} {rest : List Char} (h : ClassOpen text)
    (hskip : ∀ modes : Modes, modes.skip (c :: rest) = c :: rest)
    (hplain : c ∉ ['-', ']', '[', '&', '~'])
    (hread : ∀ modes, ∃ primitive,
      readClassPrimitive modes (c :: rest) = .ok (primitive, text)) : ClassOpen (c :: rest) := by
  simp only [List.mem_cons, List.not_mem_nil, or_false, not_or] at hplain
  obtain ⟨hhyphen, hclose, hopen, hand, htilde⟩ := hplain
  refine ⟨hskip, by simpa using hhyphen, fun modes fuel parts => ?_⟩
  rcases fuel with _ | fuel
  · exact ⟨.classUnclosed, by rw [readClassParts]⟩
  · have hoperation : classOperation? c rest = none := by
      unfold classOperation?
      split <;> simp_all
    obtain ⟨primitive, hprimitive⟩ := hread modes
    simp only [readClassParts_eq, hskip, classPartsAfter, if_neg hclose, hoperation, if_neg hopen]
    rw [readClassItem_eq, hprimitive]
    rcases h.classItemAfter_eq modes primitive with ⟨cause, hitem⟩ | ⟨item, hitem⟩
    · exact ⟨cause, by simp [Bind.bind, Except.bind, hitem]⟩
    · obtain ⟨cause, hcause⟩ := h.unclosed modes fuel (parts.push item)
      exact ⟨cause, by simp [Bind.bind, Except.bind, hitem, hcause]⟩

/-- A character without a meaning in classes. -/
theorem cons (h : ClassOpen text) {c : Char} (hplain : isPlain c = true) :
    ClassOpen (c :: text) := by
  have hmem := not_mem_of_isPlain hplain
  simp only [classSigns, List.mem_cons, not_or] at hmem
  obtain ⟨hsign, -, hescape, hmem⟩ := hmem
  have hskip : ∀ modes : Modes, modes.skip (c :: text) = c :: text :=
    fun modes => modes.skip_cons (isBlank_of_isPlain hplain) hsign text
  refine h.of_primitive hskip (by simpa using hmem) fun modes => ?_
  exact ⟨.literal c false, by simp [readClassPrimitive]⟩

/-- The bracket that closes a group closes no class. -/
theorem bracket (h : ClassOpen text) : ClassOpen (')' :: text) := h.cons (isPlain_ascii (by decide))

end ClassOpen

theorem overruns_readClassPrimitive (hline : '\n' ∉ more) (hbrace : '\x7d' ∉ more)
    (text : List Char) : Overruns more (EscapeLands modes more) (readClassPrimitive modes) text := by
  rcases text with _ | ⟨c, rest⟩
  · exact .of_lands (show _ = Except.ok (Primitive.literal ')' false, more) from rfl) (.inl rfl)
  · by_cases hc : c = '\\'
    · subst hc
      exact overruns_readEscape hline hbrace rest
    · have hread : readClassPrimitive modes (c :: rest) = .ok (.literal c false, rest) := by
        simp [readClassPrimitive]
      exact .of_ok hread

/-- An assertion is no item of a class, whatever follows it. -/
theorem classItemAfter_assertion (look : Look) (text : List Char) (found : CharClass × List Char) :
    classItemAfter modes (.assertion look) text ≠ .ok found := by
  intro h
  rcases text with _ | ⟨c, rest⟩
  · cases h
  · simp only [classItemAfter] at h
    split at h
    · cases h
    · cases hsecond : readClassPrimitive modes (modes.skip rest) <;> rw [hsecond] at h <;> cases h

/-- What is found after something settled comes from that, and the text is left as it is. -/
theorem of_settled {settled : Except ParseError α} {next : α → β} {text rest : List Char}
    {found : β} (h : (settled >>= fun found => .ok (next found, text)) = Except.ok (found, rest)) :
    (∃ answer, settled = .ok answer ∧ next answer = found) ∧ rest = text := by
  cases settled with
  | error cause => cases h
  | ok answer =>
    cases h
    exact ⟨⟨answer, rfl, rfl⟩, rfl⟩

theorem rangeTo_assertion (first : Primitive) (look : Look) (found : CharClass) :
    first.rangeTo modes (.assertion look) ≠ .ok found := by
  intro h
  unfold Primitive.rangeTo at h
  cases hfirst : first.character modes <;> rw [hfirst] at h <;> cases h

/-- An item of a class leaves what follows the bracket, or the bracket as well. -/
def ItemLands (more : List Char) (_ : CharClass) (rest : List Char) : Prop :=
  rest = more ∨ rest = ')' :: more

theorem overruns_classItemAfter (hline : '\n' ∉ more) (hbrace : '\x7d' ∉ more) (first : Primitive)
    (text : List Char) : Overruns more (ItemLands more) (classItemAfter modes first) text := by
  -- A single item leaves the text as it is. Only a range reads on, and its second end may be the
  -- bracket.
  rcases text with _ | ⟨c, rest⟩
  · cases hitem : first.item modes with
    | error cause =>
      exact .of_refused (show _ = Except.error cause by simp [classItemAfter, hitem]; rfl)
    | ok item =>
      have hread : classItemAfter modes first ([] ++ ')' :: more) = .ok (item, ')' :: more) := by
        simp [classItemAfter, hitem]
        rfl
      exact .of_lands hread (.inr rfl)
  · by_cases hrange : (c != '-' || peekPast modes (c :: rest) == some ']' ||
        peekPast modes (c :: rest) == some '-') = true
    · refine (Overruns.settled (first.item modes) (c :: rest)).congr ?_ ?_
      · rw [classItemAfter, if_pos hrange]
      · rw [List.cons_append, classItemAfter, peekPast_append modes c rest more (by decide),
          peekPast_append modes c rest more (by decide), if_pos hrange]
    · have hsecond : Overruns more (EscapeLands modes more)
          (fun rest => readClassPrimitive modes (modes.skip rest)) rest :=
        .skip hline (overruns_readClassPrimitive hline hbrace _)
      refine Overruns.congr (Overruns.bind hline (stable_readClassPrimitive modes _).skip hsecond
        (fun second rest _ => .settled (first.rangeTo modes second) rest) ?_) ?_ ?_
      · -- An assertion is no end of a range, so of the ways to land only the bracket is left.
        rintro second left (rfl | ⟨⟨look, rfl⟩, -⟩) answer after hafter
        · exact .inl (of_settled hafter).2
        · obtain ⟨⟨range, hrange, -⟩, -⟩ := of_settled hafter
          exact absurd hrange (rangeTo_assertion first look range)
      · rw [classItemAfter, if_neg hrange]
      · rw [List.cons_append, classItemAfter, peekPast_append modes c rest more (by decide),
          peekPast_append modes c rest more (by decide), if_neg hrange]

theorem overruns_readClassItem (hline : '\n' ∉ more) (hbrace : '\x7d' ∉ more)
    (hopen : ClassOpen more) (text : List Char) :
    Overruns more (ItemLands more) (readClassItem modes) text := by
  refine (Overruns.bind hline (stable_readClassPrimitive modes text)
    (overruns_readClassPrimitive hline hbrace text)
    (fun first rest _ => Overruns.skip hline (overruns_classItemAfter hline hbrace first _))
    ?_).congr (readClassItem_eq modes text) (readClassItem_eq modes _)
  rintro first left (rfl | ⟨⟨look, rfl⟩, -⟩) answer after hafter
  · rcases hopen.classItemAfter_eq modes first with ⟨cause, hitem⟩ | ⟨item, hitem⟩
    · rw [hitem] at hafter
      cases hafter
    · rw [hitem] at hafter
      cases hafter
      exact .inl rfl
  · exact absurd hafter (classItemAfter_assertion look _ _)

theorem firm_classPartsAfter (hline : '\n' ∉ more) (hbrace : '\x7d' ∉ more)
    (hopen : ClassOpen more) {fuel : Nat} (hclass : ∀ text, Firm more (readClass modes fuel) text)
    (hparts : ∀ parts text, Firm more (readClassParts modes fuel parts) text) (parts : ClassParts)
    (text : List Char) : Firm more (classPartsAfter modes fuel parts) text := by
  have hstable : ∀ text, Stable modes (readClass modes fuel) text :=
    (stable_readClass_readClassParts fuel).1
  -- The branches are those of `classPartsAfter`. In each of them the class is left open at the end
  -- of the text, and it stays so through what is added.
  rcases text with _ | ⟨c, rest⟩
  · obtain ⟨cause, hcause⟩ := hopen.bracket.unclosed modes (fuel + 1) parts
    rw [readClassParts_eq, modes.skip_bracket] at hcause
    exact .of_refused hcause
  · by_cases hclose : c = ']'
    · exact .of_ok (show _ = Except.ok (parts.finish modes, rest) by simp [classPartsAfter, hclose])
    · rcases hoperation : classOperation? c rest with _ | ⟨operation, after⟩
      · by_cases hnested : c = '['
        · rcases hposix : readPosix? modes rest with _ | ⟨members, after⟩
          · have hinner : Firm more (fun text => readClass modes fuel text >>= fun inner =>
                readClassParts modes fuel (parts.push inner.1) inner.2) rest :=
              Firm.bind hline (hstable rest) (hclass rest) fun inner rest _ => hparts _ rest
            refine hinner.congr ?_ ?_
            · simp only [classPartsAfter, if_neg hclose, hoperation, if_pos hnested, hposix]
            · simp only [classPartsAfter, List.cons_append, if_neg hclose, classOperation?_append,
                hoperation, if_pos hnested, readPosix?_append, hposix, Option.map_none]
          · have hitem : Firm more (fun text => (members >>= fun members => .ok (members, text)) >>=
                fun item => readClassParts modes fuel (parts.push item.1) item.2) after :=
              Firm.bind hline (Stable.of_settled modes members after) (.settled members after)
                fun item rest _ => hparts _ rest
            refine hitem.congr ?_ ?_
            · simp only [classPartsAfter, if_neg hclose, hoperation, if_pos hnested, hposix,
                bind_assoc]
              rfl
            · simp only [classPartsAfter, List.cons_append, if_neg hclose, classOperation?_append,
                hoperation, if_pos hnested, readPosix?_append, hposix, Option.map_none,
                Option.map_some, bind_assoc]
              rfl
        · have hitem : Firm more (fun text => readClassItem modes text >>= fun item =>
              readClassParts modes fuel (parts.push item.1) item.2) (c :: rest) := by
            refine Overruns.bind hline (stable_readClassItem modes _)
              (overruns_readClassItem hline hbrace hopen _) (fun item rest _ => hparts _ rest) ?_
            -- The class is open still, before the bracket or behind it.
            rintro item left (rfl | rfl) answer after hafter
            · obtain ⟨cause, hcause⟩ := hopen.unclosed modes fuel (parts.push item)
              rw [hcause] at hafter
              cases hafter
            · obtain ⟨cause, hcause⟩ := hopen.bracket.unclosed modes fuel (parts.push item)
              rw [hcause] at hafter
              cases hafter
          refine hitem.congr ?_ ?_
          · simp only [classPartsAfter, if_neg hclose, hoperation, if_neg hnested]
          · simp only [classPartsAfter, List.cons_append, if_neg hclose, classOperation?_append,
              hoperation, if_neg hnested, Option.map_none]
      · refine (hparts (parts.operate modes operation) after).congr ?_ ?_
        · simp only [classPartsAfter, if_neg hclose, hoperation]
        · simp only [classPartsAfter, List.cons_append, if_neg hclose, classOperation?_append,
            hoperation, Option.map_some]

/-- A class that is not closed in the text is not closed in what follows, fuel for fuel. -/
theorem firm_readClass_readClassParts (hline : '\n' ∉ more) (hbrace : '\x7d' ∉ more)
    (hopen : ClassOpen more) (fuel : Nat) :
    (∀ text, Firm more (readClass modes fuel) text) ∧
    ∀ parts text, Firm more (readClassParts modes fuel parts) text := by
  -- By induction on the fuel for a class and its parts together. In front of the parts stand a sign
  -- and brackets or hyphens, which are read alike in the longer text.
  induction fuel with
  | zero =>
    refine ⟨fun text => ?_, fun parts text => ?_⟩
    · exact .of_refused (show _ = Except.error .classUnclosed by rw [readClass])
    · exact .of_refused (show _ = Except.error .classUnclosed by rw [readClassParts])
  | succ fuel ih =>
    obtain ⟨ihclass, ihparts⟩ := ih
    refine ⟨fun text => ?_, fun parts text => ?_⟩
    · have hfront : Stable modes (fun text =>
          .ok (((classSign modes text).1, (classItems modes text).1), (classItems modes text).2))
          text :=
        Stable.bind (stable_classSign text) fun negated rest _ =>
          Stable.bind (stable_readHyphens {} rest) fun parts rest _ =>
            Stable.bind (stable_firstBracket parts rest) fun parts rest _ =>
              .ok (negated, parts) rest
      have hread : ∀ (front : Bool × ClassParts) rest, Firm more (fun text =>
          readClassParts modes fuel front.2 text >>= fun inner =>
            bracketed modes front.1 inner.1 >>= fun members => .ok (members, inner.2)) rest :=
        fun front rest => Firm.bind hline ((stable_readClass_readClassParts fuel).2 front.2 rest)
          (ihparts front.2 rest) fun inner rest _ => .settled (bracketed modes front.1 inner) rest
      exact (Firm.bind hline hfront (.of_ok rfl) fun front rest _ => hread front rest).congr
        (readClass_eq modes fuel text) (readClass_eq modes fuel _)
    · exact (Overruns.skip hline (firm_classPartsAfter hline hbrace hopen ihclass ihparts parts
        (modes.skip text))).congr (readClassParts_eq modes fuel parts text)
          (readClassParts_eq modes fuel parts _)

/-- More of the text gives a class more fuel, which does not help it either. -/
theorem firm_readClass (hline : '\n' ∉ more) (hbrace : '\x7d' ∉ more) (hopen : ClassOpen more)
    (text : List Char) :
    Firm more (fun rest => readClass modes (2 * rest.length + 2) rest) text := by
  intro cause hcause found rest hfound
  have hfuel : readClass modes (2 * (text ++ ')' :: more).length + 2) text =
      readClass modes (2 * text.length + 2) text :=
    readClass_fuel (by simp only [List.length_append]; omega)
  exact (firm_readClass_readClassParts hline hbrace hopen _).1 text cause (hfuel.trans hcause)
    found rest hfound

/-! ## Groups -/

/-- Mode letters that the text does not finish end at the bracket. -/
theorem overruns_readModes (list : ModeList) (text : List Char) :
    Overruns more (fun found rest => found.2 = ')' ∧ rest = more) (readModes list) text := by
  -- The list has no end in the text, so the bracket ends it, if the last sign has a letter behind
  -- it.
  induction text generalizing list with
  | nil =>
    by_cases hdangling : list.dangling = true
    · refine .of_refused (show _ = Except.error .modeDangling from ?_)
      simp [readModes, hdangling]
    · refine .of_lands (show _ = Except.ok ((list, ')'), more) from ?_) ⟨rfl, rfl⟩
      simp [readModes, hdangling]
  | cons c rest ih =>
    show Overruns more _ (fun rest => readModes list (c :: rest)) rest
    simp only [readModes]
    split
    · split
      · exact .of_refused rfl
      · exact .of_ok rfl
    · split
      · split
        · exact .of_refused rfl
        · exact ih _
      · split
        · exact .of_refused rfl
        · split
          · exact .of_refused rfl
          · exact ih _

theorem isNameChar_bracket (isFirst : Bool) : isNameChar isFirst ')' = false := by
  have halphabetic : Unicode.Later.alphabetic.contains 0x29 = false :=
    (Unicode.Later.alphabetic_above_slash.mono (by decide)).not_contains
  have halphanumeric : Unicode.Later.alphanumeric.contains 0x29 = false :=
    (Unicode.Later.alphanumeric_above_slash.mono (by decide)).not_contains
  cases isFirst <;> simp [isNameChar, halphabetic, halphanumeric]

/-- A name that is not closed in the text would hold the bracket. -/
theorem firm_readName (text : List Char) : Firm more readName text := by
  rcases hcut : Text.cut '>' text with ⟨name, _ | rest⟩
  · have hmem := Text.mem_cut_append (show ')' ≠ '>' by decide) hcut more
    refine .of_refused (show _ = Except.error .groupName from ?_)
    rcases hlonger : Text.cut '>' (text ++ ')' :: more) with ⟨longer, _ | left⟩
    · simp [readName, hlonger]
    · rw [hlonger] at hmem
      rcases longer with _ | ⟨c, longer⟩
      · cases hmem
      · -- A sign behind the bracket would close the name, and then the bracket were part of it.
        have hname : ¬ (isNameChar true c && longer.all (isNameChar false)) = true := by
          rw [Bool.and_eq_true, List.all_eq_true]
          rintro ⟨hfirst, hrest⟩
          rcases List.mem_cons.mp hmem with rfl | hmem
          · rw [isNameChar_bracket] at hfirst
            cases hfirst
          · have hbracket := hrest ')' hmem
            rw [isNameChar_bracket] at hbracket
            cases hbracket
        simp only [readName, hlonger, if_neg hname]
  · have hmore : Text.cut '>' (text ++ ')' :: more) = (name, some (rest ++ ')' :: more)) :=
      Text.cut_append hcut _
    rcases name with _ | ⟨c, name⟩
    · exact .of_refused (show _ = Except.error .groupName by simp [readName, hmore])
    · by_cases hname : (isNameChar true c && name.all (isNameChar false)) = true
      · exact .of_ok (show _ = Except.ok (c :: name, rest) by
          simp only [readName, hcut, if_pos hname])
      · exact .of_refused (show _ = Except.error .groupName by
          simp only [readName, hmore, if_neg hname])

/-- What a token that the text does not finish may be: an atom that takes the bracket in, or leaves
what is no token, or a mode directive that the bracket ends. -/
def TokenLands (modes : Modes) (more : List Char) (token : Token) (rest : List Char) : Prop :=
  (∃ pattern, token = .atom pattern ∧
    (rest = more ∨ ∃ cause, Token.read? modes rest = .error cause)) ∨
  ∃ inside, token = .directive inside ∧ rest = more

theorem firm_namedOpening (hline : '\n' ∉ more) (text : List Char) :
    Firm more (namedOpening modes) text := by
  have hopening : ∀ name rest, Firm more
      (fun rest => .ok (Token.opening (.named name) modes, rest)) rest :=
    fun name rest => .ok _ rest
  have hstable : Stable modes readName text := stable_readName text
  exact Firm.bind hline hstable (firm_readName text) fun name rest _ => hopening name rest

theorem overruns_modesOpening (hline : '\n' ∉ more) (text : List Char) :
    Overruns more (TokenLands modes more) (fun text => readModes { modes } text >>= fun found =>
      modesToken found.1 found.2) text := by
  have hstable : Stable modes (readModes { modes }) text := stable_readModes _ text
  refine Overruns.bind hline hstable (overruns_readModes _ text) (fun found rest _ => ?_) ?_
  · unfold modesToken
    split
    · exact .of_ok rfl
    · split
      · exact .of_refused rfl
      · exact .of_ok rfl
  · -- The bracket ends the list, so it sets modes and opens no group.
    rintro found left ⟨hlast, rfl⟩ token after hafter
    unfold modesToken at hafter
    rw [if_neg (by rw [hlast]; decide)] at hafter
    split at hafter
    · cases hafter
    · cases hafter
      exact .inr ⟨_, rfl, rfl⟩

/-- What follows the bracket of a group, after the blanks that may stand there. -/
def openingAfter (modes : Modes) : List Char → Except ParseError (Token × List Char)
  | '?' :: '=' :: _ | '?' :: '!' :: _ | '?' :: '<' :: '=' :: _ | '?' :: '<' :: '!' :: _ =>
    .error .lookAround
  | '?' :: 'P' :: '<' :: rest => namedOpening modes rest
  | '?' :: '<' :: rest => namedOpening modes rest
  | '?' :: rest => readModes { modes } rest >>= fun found => modesToken found.1 found.2
  | text => .ok (.opening .numbered modes, text)

theorem readOpening_eq (modes : Modes) (text : List Char) :
    readOpening modes text = openingAfter modes (modes.skip text) := by
  unfold readOpening openingAfter
  rfl

theorem overruns_openingAfter (hline : '\n' ∉ more) (text : List Char) :
    Overruns more (TokenLands modes more) (openingAfter modes) text := by
  have hnamed : ∀ rest, Overruns more (TokenLands modes more) (namedOpening modes) rest :=
    fun rest => (firm_namedOpening hline rest).overruns
  have hmodes : ∀ rest, Overruns more (TokenLands modes more)
      (fun text => readModes { modes } text >>= fun found => modesToken found.1 found.2) rest :=
    overruns_modesOpening hline
  -- What stands behind the opening bracket: nothing that starts with `?`, a sign that looks around,
  -- a name, or modes.
  rcases text with _ | ⟨c, rest⟩
  · exact .of_ok rfl
  by_cases hc : c = '?'
  · subst hc
    rcases rest with _ | ⟨d, rest⟩
    · exact (hmodes []).congr rfl rfl
    by_cases hlook : d = '=' ∨ d = '!'
    · refine .of_refused (show _ = Except.error .lookAround from ?_)
      rcases hlook with rfl | rfl <;> rfl
    rw [not_or] at hlook
    by_cases hangle : d = '<'
    · subst hangle
      rcases rest with _ | ⟨e, rest⟩
      · exact (hnamed []).congr rfl rfl
      by_cases hbehind : e = '=' ∨ e = '!'
      · refine .of_refused (show _ = Except.error .lookAround from ?_)
        rcases hbehind with rfl | rfl <;> rfl
      · rw [not_or] at hbehind
        refine (hnamed (e :: rest)).congr ?_ ?_ <;> simp [openingAfter, hbehind]
    by_cases hp : d = 'P'
    · subst hp
      rcases rest with _ | ⟨e, rest⟩
      · exact (hmodes ['P']).congr rfl rfl
      by_cases he : e = '<'
      · subst he
        exact (hnamed rest).congr rfl rfl
      · refine (hmodes ('P' :: e :: rest)).congr ?_ ?_ <;> simp [openingAfter, he]
    · refine (hmodes (d :: rest)).congr ?_ ?_ <;> simp [openingAfter, hlook, hangle, hp]
  · refine .of_ok (show _ = Except.ok (Token.opening .numbered modes, c :: rest) from ?_)
    simp [openingAfter, hc]

theorem overruns_readOpening (hline : '\n' ∉ more) (text : List Char) :
    Overruns more (TokenLands modes more) (readOpening modes) text :=
  (Overruns.skip hline (overruns_openingAfter hline (modes.skip text))).congr
    (readOpening_eq modes text) (readOpening_eq modes _)

/-! ## One token -/

/-- One token, after its first character. -/
theorem overruns_read (hline : '\n' ∉ more) (hbrace : '\x7d' ∉ more) (hopen : ClassOpen more)
    (c : Char) (text : List Char) :
    Overruns more (TokenLands modes more) (Token.read modes c) text := by
  have hatom : ∀ (settled : Except ParseError Regex) rest, Overruns more (TokenLands modes more)
      (fun rest => settled >>= fun atom => .ok (Token.atom atom, rest)) rest := by
    intro settled rest
    cases settled with
    | error cause => exact .of_refused rfl
    | ok atom => exact .of_ok rfl
  have hclass : ∀ members rest, Overruns more (TokenLands modes more)
      (fun rest => .ok (Token.atom (.set members), rest)) rest := fun members rest => .of_ok rfl
  unfold Token.read
  split
  · exact overruns_readOpening hline text
  iterate 2 · exact .of_ok rfl
  · exact Firm.bind hline (stable_readClass text) (firm_readClass hline hbrace hopen text)
      fun members rest _ => hclass members rest
  iterate 3 · exact .of_ok rfl
  · exact (firm_readCounted hline text).overruns
  · refine Overruns.bind hline (stable_readEscape modes text)
      (overruns_readEscape hline hbrace text)
      (fun primitive rest _ => hatom (primitive.atom modes) rest) ?_
    -- Only an escape can land behind the bracket with a token of its own.
    intro primitive left hlands token after hafter
    cases hprimitive : primitive.atom modes with
    | error cause =>
      rw [hprimitive] at hafter
      cases hafter
    | ok pattern =>
      rw [hprimitive] at hafter
      cases hafter
      exact .inl ⟨pattern, rfl, hlands.imp_right And.right⟩
  · exact hatom (dotAtom modes) text
  iterate 2 · exact .of_ok rfl
  · exact hatom _ text

/-- A token that the text does not finish is none before the bracket either, or it takes the
bracket in. -/
theorem read?_append_of_error (hline : '\n' ∉ more) (hbrace : '\x7d' ∉ more)
    (hopen : ClassOpen more) {text : List Char} {cause : ParseError}
    (h : Token.read? modes text = .error cause) :
    (∃ cause, Token.read? modes (text ++ ')' :: more) = .error cause) ∨
      ∃ token rest, Token.read? modes (text ++ ')' :: more) = .ok (some (token, rest)) ∧
        TokenLands modes more token rest := by
  rcases hskip : modes.skip text with _ | ⟨c, after⟩
  · simp [Token.read?, hskip] at h
  · -- The first character is the same in the longer text, so the error is that of the token.
    have hread : Token.read modes c after = .error cause := by
      cases hanswer : Token.read modes c after with
      | error other => simpa [Token.read?, hskip, hanswer, Except.map] using h
      | ok answer => simp [Token.read?, hskip, hanswer, Except.map] at h
    have hmore : modes.skip (text ++ ')' :: more) = c :: (after ++ ')' :: more) := by
      rw [skip_append_of_ne_nil (by rw [hskip]; exact List.cons_ne_nil c after), hskip,
        List.cons_append]
    simp only [Token.read?, hmore]
    cases hlonger : Token.read modes c (after ++ ')' :: more) with
    | error other => exact .inl ⟨other, rfl⟩
    | ok found =>
      obtain ⟨token, rest⟩ := found
      exact .inr ⟨token, rest, rfl,
        overruns_read hline hbrace hopen c after cause hread token rest hlonger⟩

end Switchyard.Regex
