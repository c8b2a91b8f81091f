import Switchyard.Proofs.Pattern.Tree
import Switchyard.Proofs.Percent
import Switchyard.Proofs.Regex.Malformed

/-!
# Malformed constraints in a source

A constraint that is no pattern by itself is written into the source of a route's pattern, and into
the check of a value. What stands behind it there is `Confined`: the units of segments without
constraints open and close their own groups and classes only (`Pattern.confined_units`). So neither
the source nor the check is a pattern (`Pattern.program?_of_malformed`,
`Constraint.program?_of_malformed`).
-/

namespace Switchyard

namespace Regex

variable {modes : Modes} {depth : Nat} {rest : List Char}

/-! ## Checks of a sequence -/

theorem height_cat (first second : Regex) :
    first.height ≤ (cat first second).height ∧ second.height ≤ (cat first second).height := by
  cases first <;> simp only [height] <;> omega

theorem height_sequence {items : List Regex} {item : Regex} (hmem : item ∈ items) :
    item.height ≤ (sequence items).height := by
  -- A sequence is put together from its left end, so the induction is for any first item.
  have hfold : ∀ (rest : List Regex) (first : Regex),
      ∀ item ∈ first :: rest, item.height ≤ (rest.foldl cat first).height := by
    intro rest
    induction rest with
    | nil =>
      intro first item hitem
      rw [List.mem_singleton.mp hitem]
      exact Nat.le_refl _
    | cons next rest ih =>
      intro first item hitem
      have hboth := height_cat first next
      have hcat := ih (cat first next) (cat first next) List.mem_cons_self
      rw [List.foldl_cons]
      rcases List.mem_cons.mp hitem with rfl | hitem
      · omega
      · rcases List.mem_cons.mp hitem with rfl | hitem
        · omega
        · exact ih _ item (List.mem_cons_of_mem _ hitem)
  rcases items with _ | ⟨first, rest⟩
  · cases hmem
  · exact hfold rest first item hmem

/-- The items of a sequence that passes the checks pass them. -/
theorem passes_of_mem {items : List Regex} {item : Regex} (hmem : item ∈ items)
    (h : Passes (sequence items)) : Passes item := by
  refine ⟨?_, Nat.le_trans (height_sequence hmem) h.2⟩
  have hnames := h.1
  rw [groupNames_sequence, List.flatMap] at hnames
  exact hnames.sublist (List.sublist_flatten_of_mem (List.mem_map_of_mem hmem))

theorem Passes.of_group {grouping : Grouping} {body : Regex} (h : Passes (.group grouping body)) :
    Passes body := by
  obtain ⟨hnames, hheight⟩ := h
  rw [groupNames, List.nodup_append] at hnames
  rw [height] at hheight
  exact ⟨hnames.2.1, by omega⟩

/-! ## Tokens in front of a confined text -/

/-- What a test tells apart from all the signs is none of them. -/
theorem contains_eq_false {p : Char → Bool} {signs : List Char} (hall : signs.all p = true)
    {c : Char} (h : p c = false) : signs.contains c = false := by
  rw [← Bool.not_eq_true, List.contains_iff_mem]
  intro hmem
  rw [List.all_eq_true.mp hall c hmem] at h
  cases h

/-- The signs a source is written with that mean nothing in a class. -/
def signs : List Char := ['/', '(', ')', '?', '*', '+', ':', '<', '>', 'P', 'p']

theorem isPlain_sign {c : Char} (hc : c ∈ signs) : isPlain c = true := by
  have hall : signs.all (fun c =>
      c.toNat < 0x80 && (!blanks.contains c && !classSigns.contains c)) = true := by decide
  have hsign := List.all_eq_true.mp hall c hc
  rw [Bool.and_eq_true, decide_eq_true_eq] at hsign
  exact (isPlain_ascii hsign.1).trans hsign.2

/-- The signs that a token or a class begins with. -/
def firstSigns : List Char := ['/', '(', ')', '?', '[', ']', '^', '\\']

/-- A sign is skipped in no modes. -/
theorem skip_sign (modes : Modes) (rest : List Char) {c : Char} (hc : c ∈ firstSigns) :
    modes.skip (c :: rest) = c :: rest := by
  have hall : firstSigns.all (fun c =>
      c.toNat < 0x80 && (blanks.contains c == false && c != '#')) = true := by decide
  have hsign := List.all_eq_true.mp hall c hc
  simp only [Bool.and_eq_true, decide_eq_true_eq, beq_iff_eq, bne_iff_ne] at hsign
  exact modes.skip_cons ((isBlank_ascii hsign.1).trans hsign.2.1) hsign.2.2 rest

theorem skip_plain (modes : Modes) (rest : List Char) {c : Char} (h : isPlain c = true) :
    modes.skip (c :: rest) = c :: rest :=
  modes.skip_cons (isBlank_of_isPlain h) (fun heq => not_mem_of_isPlain h (heq ▸ by decide)) rest

theorem read_of_read? {c : Char} (hskip : modes.skip (c :: rest) = c :: rest)
    {token : Token} {left : List Char}
    (h : Token.read? modes (c :: rest) = .ok (some (token, left))) :
    Token.read modes c rest = .ok (token, left) := by
  simp only [Token.read?, hskip] at h
  cases hread : Token.read modes c rest with
  | error cause =>
    rw [hread] at h
    cases h
  | ok answer =>
    rw [hread] at h
    cases h
    rfl

/-- The items of a class without slashes, up to its bracket. -/
theorem readClassParts_slash {fuel : Nat} {found : CharClass × List Char}
    (h : readClassParts modes fuel {} ('/' :: ']' :: rest) = .ok found) : found.2 = rest := by
  have hslash : ∀ text, modes.skip ('/' :: text) = '/' :: text :=
    fun text => skip_sign modes text (by decide)
  have hclose : ∀ text, modes.skip (']' :: text) = ']' :: text :=
    fun text => skip_sign modes text (by decide)
  have hitem : readClassItem modes ('/' :: ']' :: rest) =
      ((Primitive.literal '/' false).item modes >>= fun item => .ok (item, ']' :: rest)) := by
    rw [readClassItem_eq]
    show classItemAfter modes (.literal '/' false) (modes.skip (']' :: rest)) = _
    rw [hclose]
    rfl
  -- One step reads the slash as an item, the next one the closing bracket.
  rcases fuel with _ | fuel
  · rw [readClassParts] at h
    cases h
  · rw [readClassParts_eq, hslash] at h
    have hparts : (readClassItem modes ('/' :: ']' :: rest) >>= fun item =>
        readClassParts modes fuel (ClassParts.push {} item.1) item.2) = .ok found := h
    rw [hitem] at hparts
    cases hcharacter : (Primitive.literal '/' false).item modes with
    | error cause =>
      rw [hcharacter] at hparts
      cases hparts
    | ok item =>
      rw [hcharacter] at hparts
      have hend : readClassParts modes fuel (ClassParts.push {} item) (']' :: rest) = .ok found :=
        hparts
      rcases fuel with _ | fuel
      · rw [readClassParts] at hend
        cases hend
      · rw [readClassParts_eq, hclose] at hend
        cases hend
        rfl

/-- A class without slashes takes up its bracket, in any modes. -/
theorem readClass_slashFree {fuel : Nat} {members : CharClass} {left : List Char}
    (h : readClass modes fuel ('^' :: '/' :: ']' :: rest) = .ok (members, left)) : left = rest := by
  have hskip : modes.skip ('^' :: '/' :: ']' :: rest) = '^' :: '/' :: ']' :: rest :=
    skip_sign modes _ (by decide)
  have hskip' : modes.skip ('/' :: ']' :: rest) = '/' :: ']' :: rest :=
    skip_sign modes _ (by decide)
  have hsign : classSign modes ('^' :: '/' :: ']' :: rest) = (true, '/' :: ']' :: rest) := by
    simp only [classSign, hskip, hskip']
  -- No hyphen and no bracket stands in front of the slash.
  have hitems : classItems modes ('^' :: '/' :: ']' :: rest) = ({}, '/' :: ']' :: rest) := by
    have hhyphens : readHyphens modes {} ('/' :: ']' :: rest) = ({}, '/' :: ']' :: rest) := by
      rw [readHyphens, spanSkipping, if_neg (by decide)]
      rfl
    simp only [classItems, hsign, hhyphens]
    rfl
  rcases fuel with _ | fuel
  · rw [readClass] at h
    cases h
  · rw [readClass_eq, hitems] at h
    cases hparts : readClassParts modes fuel {} ('/' :: ']' :: rest) with
    | error cause =>
      rw [hparts] at h
      cases h
    | ok inner =>
      rw [hparts] at h
      obtain ⟨-, rfl⟩ := of_settled h
      exact readClassParts_slash hparts

namespace Confined

/-- A token of characters without a meaning in classes, in front of a confined text. -/
theorem plain {after : Nat} (h : Confined after rest) {text : List Char}
    (htext : ∀ c ∈ text, isPlain c = true)
    (hcloses : Assembly.Closes depth (text ++ rest)) : Confined depth (text ++ rest) where
  line := by
    rw [List.mem_append, not_or]
    exact ⟨fun hmem => absurd (htext _ hmem) (isPlain_ascii (c := '\n') (by decide) ▸ by decide), h.line⟩
  brace := by
    rw [List.mem_append, not_or]
    exact ⟨fun hmem => not_mem_of_isPlain (htext _ hmem) (by decide), h.brace⟩
  classOpen := by
    clear hcloses
    induction text with
    | nil => exact h.classOpen
    | cons c text ih =>
      rw [List.forall_mem_cons] at htext
      exact (ih htext.2).cons htext.1
  closes := hcloses

theorem closing (h : Confined depth rest) : Confined (depth + 1) (')' :: rest) := by
  refine h.plain (List.forall_mem_singleton.mpr (isPlain_sign (by decide)))
    (h.closes.step fun modes token left hread => ?_)
  cases read_of_read? (skip_sign modes _ (by decide)) hread
  refine ⟨rfl, fun assembly next haccept => ?_⟩
  obtain ⟨modes, branches, items, _ | ⟨group, enclosing⟩⟩ := assembly
  · cases haccept
  · cases haccept
    simp only [List.length_cons]
    omega

/-- The opening of a group, in front of a text that closes one more. -/
theorem opening (h : Confined (depth + 1) rest) {c : Char} {text : List Char}
    (htext : ∀ d ∈ c :: text, isPlain d = true)
    (hread : ∀ modes, ∃ grouping inside,
      Token.read modes c (text ++ rest) = .ok (.opening grouping inside, rest)) :
    Confined depth (c :: text ++ rest) := by
  have hplain := htext c List.mem_cons_self
  refine h.plain htext (h.closes.step fun modes token left htoken => ?_)
  obtain ⟨grouping, inside, hopening⟩ := hread modes
  cases hopening.symm.trans (read_of_read? (skip_plain modes _ hplain) htoken)
  refine ⟨rfl, fun assembly next haccept => ?_⟩
  cases haccept
  simp only [List.length_cons]
  omega

/-- A character that is no bracket and a token by itself. -/
theorem single (h : Confined depth rest) {c : Char} (hplain : isPlain c = true)
    (hread : ∀ modes token left, Token.read modes c rest = .ok (token, left) →
      left = rest ∧ token.isBracket = false) : Confined depth (c :: rest) := by
  refine h.plain (List.forall_mem_singleton.mpr hplain)
    (h.closes.neutral fun modes token left htoken => ?_)
  exact hread modes token left (read_of_read? (skip_plain modes _ hplain) htoken)

/-- What is read as an atom that is settled is no bracket. -/
theorem not_bracket_of_atom {settled : Except ParseError Regex} {token : Token} {left : List Char}
    (h : (settled >>= fun atom => .ok (Token.atom atom, rest)) = Except.ok (token, left)) :
    left = rest ∧ token.isBracket = false := by
  obtain ⟨⟨atom, -, rfl⟩, rfl⟩ := of_settled h
  exact ⟨rfl, rfl⟩

/-- A character that means nothing in a pattern. -/
theorem letter (h : Confined depth rest) {c : Char} (hplain : isPlain c = true)
    (hmeta : ¬ isMeta c = true) : Confined depth (c :: rest) := by
  refine h.single hplain fun modes token left hread => ?_
  rw [Assembly.read_of_not_isMeta hmeta] at hread
  exact not_bracket_of_atom hread

theorem isPlain_of_not_isMeta {c : Char} (hblank : Modes.isBlank c = false)
    (hmeta : ¬ isMeta c = true) : isPlain c = true := by
  have hall : classSigns.all isMeta = true := by decide
  have hmem : c ∉ classSigns := fun hmem => hmeta (List.all_eq_true.mp hall c hmem)
  rw [isPlain, hblank, Bool.not_false, Bool.true_and, Bool.not_eq_true']
  simpa using hmem

theorem slash (h : Confined depth rest) : Confined depth ('/' :: rest) :=
  h.letter (isPlain_sign (by decide)) (by decide)

theorem repeated (h : Confined depth rest) (hrest : rest.head? ≠ some '?') {c : Char}
    (hc : c ∈ ['?', '*', '+']) : Confined depth (c :: rest) := by
  have hgreed : ∀ modes, readGreed modes rest = (!modes.swapGreed, rest) := by
    intro modes
    rcases rest with _ | ⟨d, rest⟩
    · rfl
    · simp only [List.head?_cons, ne_eq, Option.some.injEq] at hrest
      simp [readGreed, hrest]
  have hplain : isPlain c = true :=
    isPlain_sign ((by decide : ['?', '*', '+'] ⊆ signs) hc)
  refine h.single hplain fun modes token left hread => ?_
  simp only [List.mem_cons, List.not_mem_nil, or_false] at hc
  rcases hc with rfl | rfl | rfl
  all_goals
    simp only [Token.read, hgreed] at hread
    cases hread
    exact ⟨rfl, rfl⟩

/-- A character with a meaning, escaped. -/
theorem escaped (h : Confined depth rest) {c : Char} (hmeta : isMeta c = true) (hc : c ≠ '\x7d') :
    Confined depth ('\\' :: c :: rest) := by
  have hread : ∀ modes, readEscape modes (c :: rest) = .ok (.literal c false, rest) := by
    intro modes
    have hmem : c ∈ ['\\', '.', '+', '*', '?', '(', ')', '|', '[', ']', '\x7b', '\x7d', '^', '$',
        '#', '&', '-', '~'] := by
      simpa [isMeta] using hmeta
    simp only [List.mem_cons, List.not_mem_nil, or_false] at hmem
    rcases hmem with rfl | rfl | rfl | rfl | rfl | rfl | rfl | rfl | rfl | rfl | rfl | rfl | rfl |
      rfl | rfl | rfl | rfl | rfl <;> rfl
  have hskip : ∀ modes : Modes, modes.skip ('\\' :: c :: rest) = '\\' :: c :: rest :=
    fun modes => skip_sign modes _ (by decide)
  -- Neither character is a line break or a brace; a class takes both as one item, and a group as
  -- one atom.
  refine ⟨?_, ?_, ?_, ?_⟩
  · simp only [List.mem_cons, not_or]
    refine ⟨by decide, fun heq => ?_, h.line⟩
    rw [← heq] at hmeta
    exact absurd hmeta (by decide)
  · simp only [List.mem_cons, not_or]
    exact ⟨by decide, hc.symm, h.brace⟩
  · exact h.classOpen.of_primitive hskip (by decide) fun modes => ⟨_, hread modes⟩
  · refine h.closes.neutral fun modes token left htoken => ?_
    have htoken' := read_of_read? (skip_sign modes _ (by decide)) htoken
    simp only [Token.read, hread] at htoken'
    have hatom : ((Primitive.literal c false).atom modes >>= fun atom =>
        .ok (Token.atom atom, rest)) = Except.ok (token, left) := htoken'
    exact not_bracket_of_atom hatom

theorem quoted (h : Confined depth rest) {text : List Char}
    (htext : ∀ c ∈ text, Modes.isBlank c = false ∧ c ≠ '\x7d') :
    Confined depth (quote text ++ rest) := by
  induction text with
  | nil => exact h
  | cons c text ih =>
    rw [List.forall_mem_cons] at htext
    have hquote : quote (c :: text) ++ rest = quote [c] ++ (quote text ++ rest) := by simp [quote]
    rw [hquote]
    by_cases hmeta : isMeta c = true
    · have hletter : quote [c] = ['\\', c] := by simp [quote, hmeta]
      rw [hletter]
      exact (ih htext.2).escaped hmeta htext.1.2
    · have hletter : quote [c] = [c] := by simp [quote, hmeta]
      rw [hletter]
      exact (ih htext.2).letter (isPlain_of_not_isMeta htext.1.1 hmeta) hmeta

/-! ## Units of segments without constraints -/

theorem plainOpening (h : Confined (depth + 1) rest) :
    Confined depth ('(' :: '?' :: ':' :: rest) := by
  have htext : ∀ c ∈ '(' :: ['?', ':'], isPlain c = true :=
    fun c hc => isPlain_sign ((by decide : ['(', '?', ':'] ⊆ signs) hc)
  refine h.opening htext fun modes => ⟨.plain, modes, ?_⟩
  have hskip : modes.skip ('?' :: ':' :: rest) = '?' :: ':' :: rest :=
    skip_sign modes _ (by decide)
  show readOpening modes ('?' :: ':' :: rest) = _
  rw [readOpening_eq, hskip]
  rfl

theorem isPlain_digit {c : Char} (h : c.isDigit = true) : isPlain c = true := by
  have hsmall : c.toNat < 0x80 := by
    simp only [Char.isDigit, Bool.and_eq_true, decide_eq_true_eq, UInt32.le_iff_toNat_le] at h
    exact Nat.lt_of_le_of_lt h.2 (by decide)
  have hnot : (!c.isDigit) = false := by rw [h, Bool.not_true]
  have hblank : blanks.contains c = false :=
    contains_eq_false (p := fun c => !c.isDigit) (by decide) hnot
  have hclass : classSigns.contains c = false :=
    contains_eq_false (p := fun c => !c.isDigit) (by decide) hnot
  rw [isPlain_ascii hsmall, hblank, hclass]
  rfl

theorem isPlain_groupName (index : Nat) : ∀ c ∈ Pattern.groupName index, isPlain c = true := by
  refine List.forall_mem_cons.mpr ⟨isPlain_sign (by decide), fun c hc => ?_⟩
  exact isPlain_digit (Nat.isDigit_of_mem_toDigits (by omega) (by omega) hc)

theorem namedOpening (h : Confined (depth + 1) rest) (index : Nat) :
    Confined depth ("(?P<".toList ++ Pattern.groupName index ++ '>' :: rest) := by
  have htext : ∀ c ∈ '(' :: (['?', 'P', '<'] ++ Pattern.groupName index ++ ['>']),
      isPlain c = true := by
    have hfront : ∀ c ∈ ['(', '?', 'P', '<'], isPlain c = true :=
      fun c hc => isPlain_sign ((by decide : ['(', '?', 'P', '<'] ⊆ signs) hc)
    have hback : ∀ c ∈ ['>'], isPlain c = true :=
      List.forall_mem_singleton.mpr (isPlain_sign (by decide))
    exact List.forall_mem_append.mpr
      ⟨List.forall_mem_append.mpr ⟨hfront, isPlain_groupName index⟩, hback⟩
  have hopening := h.opening htext fun modes =>
    ⟨.named (Pattern.groupName index), modes, ?_⟩
  · simpa using hopening
  · have hskip : ∀ text, modes.skip ('?' :: text) = '?' :: text :=
      fun text => skip_sign modes text (by decide)
    have hname : ['?', 'P', '<'] ++ Pattern.groupName index ++ ['>'] ++ rest =
        '?' :: 'P' :: '<' :: (Pattern.groupName index ++ '>' :: rest) := by simp
    rw [hname]
    show readOpening modes _ = _
    rw [readOpening_eq, hskip]
    show Regex.namedOpening modes _ = _
    rw [Regex.namedOpening, Assembly.readName_groupName]
    rfl

theorem slashFree (h : Confined depth rest) :
    Confined depth ('[' :: '^' :: '/' :: ']' :: rest) := by
  have hskip : ∀ modes : Modes, modes.skip ('[' :: '^' :: '/' :: ']' :: rest) =
      '[' :: '^' :: '/' :: ']' :: rest :=
    fun modes => skip_sign modes _ (by decide)
  -- Inside a class the text reads as a nested class, and in a group as an atom; both leave what is
  -- behind the closing bracket.
  refine ⟨?_, ?_, ⟨hskip, by simp, fun modes fuel parts => ?_⟩, ?_⟩
  · simpa using h.line
  · simpa using h.brace
  · rcases fuel with _ | fuel
    · exact ⟨.classUnclosed, by rw [readClassParts]⟩
    · have hparts : readClassParts modes (fuel + 1) parts ('[' :: '^' :: '/' :: ']' :: rest) =
          (readClass modes fuel ('^' :: '/' :: ']' :: rest) >>= fun inner =>
            readClassParts modes fuel (parts.push inner.1) inner.2) := by
        rw [readClassParts_eq, hskip]
        rfl
      rw [hparts]
      cases hclass : readClass modes fuel ('^' :: '/' :: ']' :: rest) with
      | error cause => exact ⟨cause, rfl⟩
      | ok inner =>
        obtain ⟨members, left⟩ := inner
        cases readClass_slashFree hclass
        exact h.classOpen.unclosed modes fuel (parts.push members)
  · refine h.closes.neutral fun modes token left htoken => ?_
    have htoken' := read_of_read? (skip_sign modes _ (by decide)) htoken
    simp only [Token.read] at htoken'
    cases hclass : readClass modes (2 * ('^' :: '/' :: ']' :: rest).length + 2)
        ('^' :: '/' :: ']' :: rest) with
    | error cause =>
      rw [hclass] at htoken'
      cases htoken'
    | ok inner =>
      obtain ⟨members, after⟩ := inner
      rw [hclass] at htoken'
      cases readClass_slashFree hclass
      cases htoken'
      exact ⟨rfl, rfl⟩

/-- The assertion that ends a source. -/
theorem textEnd : Confined 0 ['\\', 'z'] := by
  have hskip : ∀ modes : Modes, modes.skip ['\\', 'z'] = ['\\', 'z'] :=
    fun modes => skip_sign modes _ (by decide)
  refine ⟨by decide, by decide, ⟨hskip, by decide, fun modes fuel parts => ?_⟩, ?_⟩
  · -- The assertion is an item of a class, which then goes on to the end of the text.
    rcases fuel with _ | fuel
    · exact ⟨.classUnclosed, by rw [readClassParts]⟩
    · refine ⟨.classUnclosed, ?_⟩
      rw [readClassParts_eq, hskip]
      show (readClassItem modes ['\\', 'z'] >>= _) = _
      have hitem : readClassItem modes ['\\', 'z'] = .error .classUnclosed := by
        rw [readClassItem_eq]
        show classItemAfter modes (.assertion .textEnd) (modes.skip []) = _
        rw [show modes.skip [] = [] by simp [Modes.skip, Modes.dropBlanks]]
        rfl
      rw [hitem]
      rfl
  · refine Assembly.Closes.nil.neutral fun modes token left htoken => ?_
    have htoken' := read_of_read? (skip_sign modes _ (by decide)) htoken
    have hatom : (Except.ok (.look .textEnd) >>= fun atom => .ok (Token.atom atom, [])) =
        (Except.ok (token, left) : Except ParseError (Token × List Char)) := htoken'
    exact not_bracket_of_atom hatom

end Confined

end Regex

/-! ## Units -/

namespace Percent

theorem plain_of_not_reserved {c : Char} (hsmall : c.toNat < 0x80) (h : isReserved c = false) :
    Regex.Modes.isBlank c = false ∧ c ≠ '\x7d' := by
  have hblank : Regex.blanks.contains c = false := Regex.contains_eq_false (p := isReserved) (by decide) h
  refine ⟨(Regex.isBlank_ascii hsmall).trans hblank, ?_⟩
  rintro rfl
  exact absurd h (by decide)

/-- No blank and no brace stands in a code. -/
theorem plain_of_mem_encodeChars (text : List Char) :
    ∀ c ∈ encodeChars text, Regex.Modes.isBlank c = false ∧ c ≠ '\x7d' := by
  intro c hc
  rcases kept_of_mem_encodeChars hc with ⟨hsmall, hreserved⟩ | rfl
  · exact plain_of_not_reserved hsmall hreserved
  · exact ⟨Regex.isBlank_ascii (by decide), by decide⟩

end Percent

namespace Pattern

variable {constraints : Params}

/-- The group of a placeholder, from the name of the group on. -/
theorem groupSource_append (index : Nat) (name : String) (free more : List Char) :
    groupSource constraints index name free ++ more =
      "(?P<".toList ++ groupName index ++
        '>' :: (((constraints.get? name).map String.toList).getD free ++ ')' :: more) := by
  have hsource : groupSource constraints index name free = "(?P<".toList ++ groupName index ++
      ['>'] ++ ((constraints.get? name).map String.toList).getD free ++ [')'] := rfl
  simp [hsource]

/-- The group of a placeholder without a constraint. -/
theorem confined_group {more : List Char} (h : Regex.Confined 0 more) (index : Nat) {name : String}
    (hfree : constraints.get? name = none) (c : Char) (hc : c ∈ ['?', '*', '+']) :
    Regex.Confined 0 (groupSource constraints index name ['[', '^', '/', ']', c] ++ more) := by
  have hrepeated : Regex.Confined 1 (c :: ')' :: more) := h.closing.repeated (by simp) hc
  have hgroup := (hrepeated.slashFree).namedOpening index
  rw [groupSource_append, hfree]
  exact hgroup

theorem confined_unit {more : List Char} (h : Regex.Confined 0 more) (hmore : more.head? ≠ some '?')
    (index : Nat) {segment : Segment}
    (hfree : ∀ name, segment.name? = some name → constraints.get? name = none) :
    Regex.Confined 0 (unitSource constraints index segment ++ more) := by
  cases segment with
  | literal text => exact (h.quoted (Percent.plain_of_mem_encodeChars _)).slash
  | optionalLiteral text =>
    have hcode := Percent.plain_of_mem_encodeChars text.toList
    have hgroup := ((h.repeated hmore (c := '?') (by decide)).closing.quoted hcode).plainOpening
    have hunit := (hgroup.repeated (by simp) (c := '?') (by decide)).slash
    simpa [unitSource] using hunit
  | placeholder name =>
    exact (confined_group h index (hfree name rfl) '+' (by decide)).slash
  | optionalPlaceholder name =>
    have hgroup := confined_group h index (hfree name rfl) '*' (by decide)
    exact (hgroup.repeated (by simp [groupSource_append]) (c := '?') (by decide)).slash

/-- What stands in a source from segments without constraints on is confined. -/
theorem confined_units {segments : List Segment} (index : Nat)
    (hfree : ∀ name ∈ segments.filterMap Segment.name?, constraints.get? name = none) :
    Regex.Confined 0 (unitsSource constraints index segments ++ "\\z".toList) := by
  induction segments generalizing index with
  | nil => exact Regex.Confined.textEnd
  | cons segment rest ih =>
    have hrest : ∀ name ∈ rest.filterMap Segment.name?, constraints.get? name = none := by
      intro name hname
      obtain ⟨other, hmem, hother⟩ := List.mem_filterMap.mp hname
      exact hfree name (List.mem_filterMap.mpr ⟨other, List.mem_cons_of_mem _ hmem, hother⟩)
    have hsegment : ∀ name, segment.name? = some name → constraints.get? name = none :=
      fun name hname => hfree name (List.mem_filterMap.mpr ⟨segment, List.mem_cons_self, hname⟩)
    rw [unitsSource, List.append_assoc]
    exact confined_unit (ih _ hrest) (head?_unitsSource _ _ _ (by decide)) index hsegment

theorem unitsSource_append (front back : List Segment) (index : Nat) :
    unitsSource constraints index (front ++ back) =
      unitsSource constraints index front ++
        unitsSource constraints (front.foldl Segment.nextIndex index) back := by
  induction front generalizing index with
  | nil => rfl
  | cons segment front ih =>
    rw [List.cons_append, unitsSource, unitsSource, List.append_assoc, List.foldl_cons]
    exact congrArg _ (ih _)

/-! ## The whole source -/

/-- The units of segments without constraints are read to the end of the source. -/
theorem reads_back {assembly : Regex.Assembly} (hmodes : assembly.modes = {}) (index : Nat)
    {back : List Segment}
    (hfree : ∀ name ∈ back.filterMap Segment.name?, constraints.get? name = none) :
    Regex.Assembly.Reads assembly (unitsSource constraints index back ++ "\\z".toList)
      (assembly.pushAll (unitItems constraints index back ++ [.look .textEnd])) [] := by
  have hsound : Sound ⟨back, constraints⟩ := by
    intro name hname constraint hget
    rw [hfree name hname] at hget
    cases hget
  have hwell : ∀ segment ∈ back, Regex.WellFormed (segment.valueSource constraints) :=
    fun segment hmem => hsound.wellFormed hmem
  have hend : (assembly.pushAll (unitItems constraints index back)).modes = {} := hmodes
  rw [Regex.Assembly.pushAll_append]
  exact (reads_units hmodes index hwell (by decide)).trans (Regex.Assembly.reads_textEnd hend [])

/-- A source is no pattern that holds a malformed text between brackets, with units without
constraints behind it. -/
theorem parse_ne_ok_of_malformed {source text : List Char} {cause : Regex.ParseError}
    {assembly : Regex.Assembly} {grouping : Regex.Grouping}
    (hparse : Regex.parse text = .error cause) (hcause : cause ≠ .groupUnopened)
    (hmodes : assembly.modes = {}) (hbranches : assembly.branches = none)
    (henclosing : assembly.enclosing = []) (index : Nat) {back : List Segment}
    (hfree : ∀ name ∈ back.filterMap Segment.name?, constraints.get? name = none)
    (hreads : Regex.Assembly.Reads {} source (assembly.opened grouping {})
      (text ++ ')' :: (unitsSource constraints index back ++ "\\z".toList))) (whole : Regex) :
    Regex.parse source ≠ .ok whole := by
  refine Regex.parse_ne_ok_of_malformed hparse hcause (confined_units index hfree) hreads
    (fun tree htree => ?_) whole
  have hpush : (assembly.push (.group grouping tree)).modes = {} := hmodes
  refine ⟨_, reads_back hpush index hfree, henclosing, fun hpasses => htree ?_⟩
  -- What the run comes to is one sequence, and the group is among its items.
  let items := assembly.items.reverse ++
    .group grouping tree :: (unitItems constraints index back ++ [.look .textEnd])
  have hchoice : (Regex.Assembly.pushAll (unitItems constraints index back ++ [.look .textEnd])
      (assembly.push (.group grouping tree))).choice = Regex.sequence items := by
    simp [Regex.Assembly.choice, Regex.Assembly.pushAll, Regex.Assembly.push, hbranches, items]
  rw [hchoice] at hpasses
  have hmem : Regex.group grouping tree ∈ items :=
    List.mem_append_right _ List.mem_cons_self
  exact (Regex.passes_of_mem hmem hpasses).of_group

theorem compile?_eq_none {text : List Char} (h : ∀ whole, Regex.parse text ≠ .ok whole) :
    Regex.compile? text = none := by
  unfold Regex.compile?
  split
  · rename_i whole hparse
    exact absurd hparse (h whole)
  · rfl

/-- The unit of a constrained placeholder, up to its constraint. -/
theorem reads_constrained {assembly : Regex.Assembly} (hmodes : assembly.modes = {}) (index : Nat)
    {segment : Segment} {name constraint : String} (hname : segment.name? = some name)
    (hget : constraints.get? name = some constraint) (more : List Char) :
    ∃ item, Regex.Assembly.Reads assembly (unitSource constraints index segment ++ more)
      ((assembly.push item).opened (.named (groupName index)) {})
      (constraint.toList ++ ')' :: more) := by
  have hpush : ∀ item, (assembly.push item).modes = {} := fun item => hmodes
  have hgroup : ∀ free, groupSource constraints index name free ++ more =
      "(?P<".toList ++ groupName index ++ '>' :: (constraint.toList ++ ')' :: more) := by
    intro free
    rw [groupSource_append, hget]
    rfl
  -- Only placeholders have a name; the two kinds differ in the slash alone.
  cases segment with
  | literal text | optionalLiteral text => cases hname
  | placeholder other =>
    cases hname
    refine ⟨Regex.slash, ?_⟩
    rw [unitSource, List.cons_append, hgroup]
    exact (Regex.Assembly.reads_slash hmodes _).trans (Regex.Assembly.reads_named (hpush _) index _)
  | optionalPlaceholder other =>
    cases hname
    refine ⟨Regex.maybe Regex.slash, ?_⟩
    rw [unitSource, List.cons_append, List.cons_append, hgroup]
    exact (Regex.Assembly.reads_maybe_slash hmodes (by simp)).trans
      (Regex.Assembly.reads_named (hpush _) index _)

/-- A pattern has no program when a constraint of it is malformed, those before it are well formed,
and none comes after it. -/
theorem program?_of_malformed {pattern : Pattern} {front back : List Segment} {segment : Segment}
    {name constraint : String} {cause : Regex.ParseError}
    (hsegments : pattern.segments = front ++ segment :: back) (hname : segment.name? = some name)
    (hget : pattern.constraints.get? name = some constraint)
    (hparse : Regex.parse constraint.toList = .error cause) (hcause : cause ≠ .groupUnopened)
    (hfront : Sound ⟨front, pattern.constraints⟩)
    (hback : ∀ other ∈ back.filterMap Segment.name?, pattern.constraints.get? other = none) :
    pattern.program? = none := by
  let index := front.foldl Segment.nextIndex 0
  let later := unitsSource pattern.constraints (segment.nextIndex index) back ++ "\\z".toList
  have hsource : pattern.sourceChars = '\\' :: 'A' :: (unitsSource pattern.constraints 0 front ++
      (unitSource pattern.constraints index segment ++ later)) := by
    simp [sourceChars, hsegments, unitsSource_append, unitsSource, later, index]
    rfl
  have hwell : ∀ segment ∈ front, Regex.WellFormed (segment.valueSource pattern.constraints) :=
    fun segment hmem => hfront.wellFormed hmem
  have hhead : (unitSource pattern.constraints index segment ++ later).head? ≠ some '?' := by
    cases segment <;> simp [unitSource]
  let before := (Regex.Assembly.push (.look .textStart) {}).pushAll
    (unitItems pattern.constraints 0 front)
  -- Up to the segment the source is read as that of a sound pattern.
  have hbefore : Regex.Assembly.Reads {} pattern.sourceChars before
      (unitSource pattern.constraints index segment ++ later) := by
    rw [hsource]
    exact (Regex.Assembly.reads_textStart rfl _).trans (reads_units rfl 0 hwell hhead)
  have hmodes : before.modes = {} := rfl
  obtain ⟨item, hopening⟩ := reads_constrained hmodes index hname hget later
  have hnone : Regex.compile? pattern.sourceChars = none :=
    compile?_eq_none (parse_ne_ok_of_malformed hparse hcause rfl rfl rfl _ hback
      (hbefore.trans hopening))
  unfold program?
  split
  · rfl
  · exact hnone

end Pattern

namespace Constraint

/-- No value is held to a malformed constraint. -/
theorem program?_of_malformed {constraint : String} {cause : Regex.ParseError}
    (hparse : Regex.parse constraint.toList = .error cause) (hcause : cause ≠ .groupUnopened) :
    program? constraint = none := by
  have hreads : Regex.Assembly.Reads {} (sourceChars constraint)
      ((Regex.Assembly.push (.look .textStart) {}).opened .plain {})
      (constraint.toList ++ ')' :: (Pattern.unitsSource .empty 0 [] ++ "\\z".toList)) := by
    rw [sourceChars_eq]
    exact (Regex.Assembly.reads_textStart rfl _).trans (Regex.Assembly.reads_plain rfl _)
  exact Pattern.compile?_eq_none (Pattern.parse_ne_ok_of_malformed hparse hcause rfl rfl rfl 0
    (by simp) hreads)

end Constraint

end Switchyard
