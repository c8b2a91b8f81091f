import Mathlib.Data.List.Basic
import Switchyard.Pattern
import Switchyard.Proofs.Regex.Nesting
import Switchyard.Proofs.Unicode.Membership

/-!
# The tree of a route's pattern

The source of a pattern is text with constraints pasted into it, and matching goes by the tree that
the source is read as. `Pattern.tree` builds that tree from the segments; where every constraint is
well formed, `Pattern.parse_sourceChars` reads the source as it, and so a pattern with a program has
this tree for its program (`Pattern.program_eq_tree`).
-/

namespace Switchyard

namespace Regex

/-- The tree of a text that is a pattern. -/
def treeOf (text : List Char) : Regex := (parse text).toOption.getD .empty

/-- The item that takes one slash. -/
def slash : Regex := .set (.single '/')

/-- The items that take a text as it stands. -/
def letters (text : List Char) : List Regex := text.map fun c => .set (.single c)

/-- The item or nothing, the item preferred. -/
def maybe (item : Regex) : Regex := .repeats 0 (some 1) true item

/-- The text is a pattern by itself and between brackets. -/
def WellFormed (text : List Char) : Prop := Standalone text (treeOf text)

theorem groupNames_sequence (items : List Regex) :
    (sequence items).groupNames = items.flatMap groupNames := by
  rcases items with _ | ⟨first, rest⟩
  · rfl
  · have hfold : ∀ first : Regex, (rest.foldl cat first).groupNames =
        first.groupNames ++ rest.flatMap groupNames := by
      induction rest with
      | nil => exact fun first => (List.append_nil _).symm
      | cons next rest ih =>
        intro first
        rw [List.foldl_cons, ih, groupNames, List.flatMap_cons, List.append_assoc]
    exact hfold first

theorem Standalone.treeOf_eq {text : List Char} {tree : Regex} (h : Standalone text tree) :
    treeOf text = tree := by
  rw [treeOf, h.parsed]
  rfl

theorem Standalone.wellFormed {text : List Char} {tree : Regex} (h : Standalone text tree) :
    WellFormed text := by
  rw [WellFormed, h.treeOf_eq]
  exact h

namespace Assembly

variable {assembly : Assembly}

/-! ## Tokens of the source -/

theorem reads_slash (hmodes : assembly.modes = {}) (more : List Char) :
    Reads assembly ('/' :: more) (assembly.push slash) more := by
  refine .atom ?_ (by simp)
  rw [hmodes]
  rfl

/-- A character that means nothing in a pattern stands for itself. -/
theorem read_of_not_isMeta {c : Char} (hmeta : ¬ isMeta c = true) (modes : Modes)
    (rest : List Char) :
    Token.read modes c rest =
      ((Primitive.literal c false).atom modes >>= fun atom => .ok (.atom atom, rest)) := by
  unfold Token.read
  rcases readGreed modes rest with ⟨greedy, left⟩
  simp only []
  split
  iterate 12 exact absurd (by decide) hmeta
  rfl

/-- A quoted character is read back as itself. -/
theorem read?_quote (c : Char) (more : List Char) :
    Token.read? {} (quote [c] ++ more) = .ok (some (.atom (.set (.single c)), more)) := by
  have hskip : ∀ text, Modes.skip {} text = text := fun text => rfl
  by_cases hmeta : isMeta c = true
  · have hmem : c ∈ ['\\', '.', '+', '*', '?', '(', ')', '|', '[', ']', '\x7b', '\x7d', '^', '$',
        '#', '&', '-', '~'] := by
      simpa [isMeta] using hmeta
    simp only [quote, List.flatMap_cons, List.flatMap_nil, if_pos hmeta]
    simp only [List.mem_cons, List.not_mem_nil, or_false] at hmem
    rcases hmem with rfl | rfl | rfl | rfl | rfl | rfl | rfl | rfl | rfl | rfl | rfl | rfl | rfl |
      rfl | rfl | rfl | rfl | rfl <;> rfl
  · simp only [quote, List.flatMap_cons, List.flatMap_nil, if_neg hmeta]
    simp only [Token.read?, hskip, List.cons_append, List.nil_append, read_of_not_isMeta hmeta]
    rfl

/-- The assembly with more items, the first of them the oldest. -/
def pushAll (items : List Regex) (assembly : Assembly) : Assembly :=
  { assembly with items := items.reverse ++ assembly.items }

@[simp]
theorem pushAll_nil (assembly : Assembly) : assembly.pushAll [] = assembly := rfl

theorem pushAll_cons (item : Regex) (items : List Regex) (assembly : Assembly) :
    assembly.pushAll (item :: items) = (assembly.push item).pushAll items := by
  simp [pushAll, push]

theorem pushAll_append (first second : List Regex) (assembly : Assembly) :
    assembly.pushAll (first ++ second) = (assembly.pushAll first).pushAll second := by
  simp [pushAll]

/-- A quoted text is read back as it stands. -/
theorem reads_quote (hmodes : assembly.modes = {}) (text more : List Char) :
    Reads assembly (quote text ++ more) (assembly.pushAll (letters text)) more := by
  induction text generalizing assembly with
  | nil => exact .refl assembly more
  | cons c text ih =>
    have hquote : quote (c :: text) ++ more = quote [c] ++ (quote text ++ more) := by
      simp [quote]
    have hlength : 0 < (quote [c]).length := by
      by_cases hmeta : isMeta c = true <;> simp [quote, hmeta]
    rw [hquote, letters, List.map_cons, pushAll_cons]
    refine (Reads.atom ?_ ?_).trans (ih hmodes)
    · rw [hmodes]
      exact read?_quote c _
    · simp only [List.length_append]
      omega

/-- A question mark makes the newest item one that may be absent, unless another follows. -/
theorem reads_question (hmodes : assembly.modes = {}) {item : Regex} (hne : item ≠ .empty)
    {more : List Char} (hmore : more.head? ≠ some '?') :
    Reads (assembly.push item) ('?' :: more) (assembly.push (maybe item)) more := by
  have hread : Token.read? {} ('?' :: more) = .ok (some (.quantifier 0 (some 1) true, more)) := by
    rcases more with _ | ⟨c, rest⟩
    · rfl
    · have hc : c ≠ '?' := by simpa using hmore
      have hgreed : readGreed {} (c :: rest) = (true, c :: rest) := by simp [readGreed, hc]
      show (Token.read {} '?' (c :: rest)).map some = _
      simp only [Token.read, hgreed]
      rfl
  refine .token (by rw [push, hmodes]; exact hread) (by simp) ?_
  cases item with
  | empty => exact absurd rfl hne
  | _ => rfl

/-! ## Groups of placeholders -/

theorem isNameChar_digit {c : Char} (h : c.isDigit = true) : isNameChar false c = true := by
  simp only [Char.isDigit, Bool.and_eq_true, decide_eq_true_eq, UInt32.le_iff_toNat_le] at h
  have hvalue : 0x30 ≤ c.toNat ∧ c.toNat ≤ 0x39 := h
  unfold isNameChar
  rw [Unicode.Later.alphanumeric_of_digit hvalue.1 hvalue.2, Bool.or_true]
  rfl

theorem readName_groupName (index : Nat) (more : List Char) :
    readName (Pattern.groupName index ++ '>' :: more) = .ok (Pattern.groupName index, more) := by
  have hdigits : ∀ c ∈ Nat.toDigits 10 index, c.isDigit = true :=
    fun c hc => Nat.isDigit_of_mem_toDigits (by omega) (by omega) hc
  -- The name is a letter and digits, so it ends at the sign.
  have hcut : Text.cut '>' (Pattern.groupName index ++ '>' :: more) =
      (Pattern.groupName index, some more) := by
    refine Text.cut_of_not_mem (fun hmem => ?_) more
    rcases List.mem_cons.mp hmem with h | h
    · exact absurd h (by decide)
    · exact absurd (hdigits _ h) (by decide)
  have hfirst : isNameChar true 'p' = true := by
    unfold isNameChar
    rw [Unicode.Later.alphabetic_of_small (by decide) (by decide), Bool.or_true]
    rfl
  have hrest : (Nat.toDigits 10 index).all (isNameChar false) = true :=
    List.all_eq_true.mpr fun c hc => isNameChar_digit (hdigits c hc)
  rw [readName, hcut]
  simp only [Pattern.groupName, hfirst, hrest, Bool.and_self, if_true]

theorem reads_named (hmodes : assembly.modes = {}) (index : Nat) (more : List Char) :
    Reads assembly ("(?P<".toList ++ Pattern.groupName index ++ '>' :: more)
      (assembly.opened (.named (Pattern.groupName index)) {}) more := by
  refine .opening ?_ (by simp; omega)
  rw [hmodes]
  show (readOpening {} ('?' :: 'P' :: '<' :: (Pattern.groupName index ++ '>' :: more))).map some = _
  have hread : readOpening {} ('?' :: 'P' :: '<' :: (Pattern.groupName index ++ '>' :: more)) =
      (readName (Pattern.groupName index ++ '>' :: more) >>= fun name =>
        .ok (.opening (.named name.1) {}, name.2)) := rfl
  rw [hread, readName_groupName]
  rfl

theorem reads_closing (assembly : Assembly) (grouping : Grouping) (items : List Regex)
    (more : List Char) :
    Reads ((assembly.opened grouping {}).pushAll items) (')' :: more)
      (assembly.push (.group grouping (sequence items))) more := by
  refine .token (show _ = Except.ok (some (Token.closing, more)) from rfl) (by simp) ?_
  simp [accept, pushAll, opened, push, choice]

end Assembly

end Regex

/-! ## Units -/

namespace Segment

/-- What the group of a placeholder takes: its constraint, or what is free to it. -/
def valueSource (constraints : Params) : Segment → List Char
  | placeholder name =>
    ((constraints.get? name).map String.toList).getD Pattern.requiredValue
  | optionalPlaceholder name =>
    ((constraints.get? name).map String.toList).getD Pattern.optionalValue
  | literal _ | optionalLiteral _ => []

/-- The tree of what the group of a placeholder takes. -/
def value (constraints : Params) (segment : Segment) : Regex :=
  Regex.treeOf (segment.valueSource constraints)

/-- The items of the unit of one segment; `index` counts the placeholders before it. -/
def items (constraints : Params) (index : Nat) (segment : Segment) : List Regex :=
  match segment with
  | literal text => Regex.slash :: Regex.letters (Percent.encodeChars text.toList)
  | optionalLiteral text =>
    [Regex.maybe Regex.slash,
      Regex.maybe (.group .plain
        (Regex.sequence (Regex.letters (Percent.encodeChars text.toList))))]
  | placeholder _ =>
    [Regex.slash, .group (.named (Pattern.groupName index)) (segment.value constraints)]
  | optionalPlaceholder _ =>
    [Regex.maybe Regex.slash,
      .group (.named (Pattern.groupName index)) (segment.value constraints)]

/-- The count of placeholders after one more segment. -/
def nextIndex (index : Nat) (segment : Segment) : Nat :=
  if segment.name?.isSome then index + 1 else index

end Segment

namespace Regex.Assembly

variable {assembly : Assembly} {constraints : Params}

theorem reads_maybe_slash (hmodes : assembly.modes = {}) {more : List Char}
    (hmore : more.head? ≠ some '?') :
    Reads assembly ('/' :: '?' :: more) (assembly.push (maybe slash)) more :=
  (reads_slash hmodes _).trans (reads_question hmodes (by simp [slash]) hmore)

theorem reads_group (hmodes : assembly.modes = {}) (index : Nat) {text : List Char}
    (h : WellFormed text) (more : List Char) :
    Reads assembly ("(?P<".toList ++ Pattern.groupName index ++ ['>'] ++ text ++ [')'] ++ more)
      (assembly.push (.group (.named (Pattern.groupName index)) (treeOf text))) more := by
  have hread := (reads_named hmodes index (text ++ ')' :: more)).trans
    (Reads.group h assembly (.named (Pattern.groupName index)) more)
  simpa using hread

/-- The unit of a segment is read as its items, where the unit of another or the end follows. -/
theorem reads_unit (hmodes : assembly.modes = {}) (index : Nat) {segment : Segment}
    (h : WellFormed (segment.valueSource constraints)) {more : List Char}
    (hmore : more.head? ≠ some '?') :
    Reads assembly (Pattern.unitSource constraints index segment ++ more)
      (assembly.pushAll (segment.items constraints index)) more := by
  have hpush : ∀ item, (assembly.push item).modes = {} := fun item => hmodes
  cases segment with
  | literal text =>
    show Reads assembly ('/' :: (quote (Percent.encodeChars text.toList) ++ more)) _ more
    rw [Segment.items, pushAll_cons]
    exact (reads_slash hmodes _).trans (reads_quote (hpush slash) _ more)
  -- The group behind the slash is read from its opening to its closing, and the question mark makes
  -- both optional.
  | optionalLiteral text =>
    show Reads assembly
      ("/?(?:".toList ++ quote (Percent.encodeChars text.toList) ++ ")?".toList ++ more) _ more
    rw [Segment.items, pushAll_cons, pushAll_cons]
    have hopened : ((assembly.push (maybe slash)).opened .plain {}).modes = {} := rfl
    have hgroup := (reads_plain (hpush (maybe slash)) _).trans <|
      (reads_quote hopened (Percent.encodeChars text.toList) (')' :: '?' :: more)).trans
        (reads_closing _ .plain _ ('?' :: more))
    have hunit := (reads_maybe_slash hmodes (by simp)).trans
      (hgroup.trans (reads_question (hpush (maybe slash)) (by simp) hmore))
    simpa using hunit
  | placeholder name =>
    show Reads assembly ('/' :: ("(?P<".toList ++ Pattern.groupName index ++ ['>'] ++
      (Segment.placeholder name).valueSource constraints ++ [')'] ++ more)) _ more
    rw [Segment.items, pushAll_cons, pushAll_cons]
    exact (reads_slash hmodes _).trans (reads_group (hpush slash) index h more)
  | optionalPlaceholder name =>
    show Reads assembly ('/' :: '?' :: ("(?P<".toList ++ Pattern.groupName index ++ ['>'] ++
      (Segment.optionalPlaceholder name).valueSource constraints ++ [')'] ++ more)) _ more
    rw [Segment.items, pushAll_cons, pushAll_cons]
    exact (reads_maybe_slash hmodes (by simp)).trans
      (reads_group (hpush (maybe slash)) index h more)

end Regex.Assembly

/-! ## The whole source -/

namespace Constraint

/-- The constraint is a pattern by itself, and a value can be held to it. -/
def WellFormed (constraint : String) : Prop :=
  (∃ tree, Regex.parse constraint.toList = .ok tree) ∧ (program? constraint).isSome

theorem sourceChars_eq (constraint : String) :
    sourceChars constraint = Regex.anchored constraint.toList := by
  show "\\A(?:".toList ++ constraint.toList ++ ")\\z".toList = _
  simp [Regex.anchored]

theorem WellFormed.toList {constraint : String} (h : WellFormed constraint) :
    Regex.WellFormed constraint.toList := by
  obtain ⟨⟨tree, htree⟩, hprogram⟩ := h
  have hclosed : ∃ whole, Regex.parse (Regex.anchored constraint.toList) = .ok whole := by
    unfold program? Regex.compile? at hprogram
    rw [sourceChars_eq] at hprogram
    cases hparse : Regex.parse (Regex.anchored constraint.toList) with
    | error cause =>
      rw [hparse] at hprogram
      cases hprogram
    | ok whole => exact ⟨whole, rfl⟩
  have hstandalone : Regex.Standalone constraint.toList tree := ⟨htree, hclosed⟩
  exact hstandalone.wellFormed

end Constraint

namespace Pattern

/-- Every constraint on a name that the pattern binds is well formed. -/
def Sound (pattern : Pattern) : Prop :=
  ∀ name ∈ pattern.names, ∀ constraint, pattern.constraints.get? name = some constraint →
    Constraint.WellFormed constraint

/-- In a pattern with a single constraint every constraint that is found is that one. -/
theorem constraint_of_single {pattern : Pattern} {name constraint other found : String}
    (hsingle : pattern.constraints = Keyed.empty.insert name constraint)
    (hget : pattern.constraints.get? other = some found) : found = constraint := by
  rw [hsingle, Keyed.get?_insert] at hget
  split at hget
  · exact (Option.some.inj hget).symm
  · cases hget

theorem sound_of_single {pattern : Pattern} {name constraint : String}
    (hsingle : pattern.constraints = Keyed.empty.insert name constraint)
    (h : Constraint.WellFormed constraint) : pattern.Sound := by
  intro other _ found hget
  rw [constraint_of_single hsingle hget]
  exact h

/-- The items of the units, one after the other. -/
def unitItems (constraints : Params) : Nat → List Segment → List Regex
  | _, [] => []
  | index, segment :: rest =>
    segment.items constraints index ++ unitItems constraints (segment.nextIndex index) rest

/-- The pattern as a tree. -/
def tree (pattern : Pattern) : Regex :=
  Regex.sequence (.look .textStart :: unitItems pattern.constraints 0 pattern.segments ++
    [.look .textEnd])

theorem groupNames_tree (pattern : Pattern) :
    pattern.tree.groupNames =
      (unitItems pattern.constraints 0 pattern.segments).flatMap Regex.groupNames := by
  rw [tree, Regex.groupNames_sequence]
  simp [Regex.groupNames]

/-- A character other than the slash, any number of times from `min` up. -/
def slashFree (min : Nat) : Regex := .repeats min none true (.set (.bracket true (.single '/')))

theorem standalone_requiredValue : Regex.Standalone requiredValue (slashFree 1) where
  parsed := by cbv
  closed := ⟨.sequence [.look .textStart, .group .plain (slashFree 1), .look .textEnd], by cbv⟩

theorem standalone_optionalValue : Regex.Standalone optionalValue (slashFree 0) where
  parsed := by cbv
  closed := ⟨.sequence [.look .textStart, .group .plain (slashFree 0), .look .textEnd], by cbv⟩

theorem standalone_nil : Regex.Standalone [] .empty where
  parsed := rfl
  closed := ⟨.sequence [.look .textStart, .group .plain .empty, .look .textEnd], by cbv⟩

/-- In a sound pattern every placeholder's group is written with a well-formed text. -/
theorem Sound.wellFormed {pattern : Pattern} (h : pattern.Sound) {segment : Segment}
    (hmem : segment ∈ pattern.segments) :
    Regex.WellFormed (segment.valueSource pattern.constraints) := by
  have hconstraint : ∀ name free, segment.name? = some name → Regex.WellFormed free →
      Regex.WellFormed (((pattern.constraints.get? name).map String.toList).getD free) := by
    intro name free hname hfree
    cases hget : pattern.constraints.get? name with
    | none => exact hfree
    | some constraint =>
      exact (h name (List.mem_filterMap.mpr ⟨segment, hmem, hname⟩) constraint hget).toList
  cases segment with
  | literal text | optionalLiteral text => exact standalone_nil.wellFormed
  | placeholder name => exact hconstraint name _ rfl standalone_requiredValue.wellFormed
  | optionalPlaceholder name => exact hconstraint name _ rfl standalone_optionalValue.wellFormed

theorem head?_unitsSource (constraints : Params) (index : Nat) (segments : List Segment)
    {more : List Char} (hmore : more.head? ≠ some '?') :
    (unitsSource constraints index segments ++ more).head? ≠ some '?' := by
  rcases segments with _ | ⟨segment, rest⟩
  · exact hmore
  · cases segment <;> simp [unitsSource, unitSource]

theorem reads_units {assembly : Regex.Assembly} (hmodes : assembly.modes = {})
    {constraints : Params} {segments : List Segment} (index : Nat)
    (h : ∀ segment ∈ segments, Regex.WellFormed (segment.valueSource constraints))
    {more : List Char} (hmore : more.head? ≠ some '?') :
    Regex.Assembly.Reads assembly (unitsSource constraints index segments ++ more)
      (assembly.pushAll (unitItems constraints index segments)) more := by
  induction segments generalizing assembly index with
  | nil => exact .refl assembly more
  | cons segment rest ih =>
    rw [List.forall_mem_cons] at h
    rw [unitsSource, unitItems, Regex.Assembly.pushAll_append, List.append_assoc]
    have hunit := Regex.Assembly.reads_unit hmodes index h.1
      (head?_unitsSource constraints (segment.nextIndex index) rest hmore)
    exact hunit.trans (ih (by exact hmodes) (segment.nextIndex index) h.2)

/-- The source of a sound pattern is read as the pattern's tree. -/
theorem parse_sourceChars {pattern : Pattern} (h : pattern.Sound) (whole : Regex) :
    Regex.parse pattern.sourceChars = .ok whole ↔
      whole = pattern.tree ∧ whole.groupNames.Nodup ∧ whole.height ≤ Regex.nestLimit := by
  have hstart : Regex.Assembly.Reads {} pattern.sourceChars
      (Regex.Assembly.push (.look .textStart) {})
      (unitsSource pattern.constraints 0 pattern.segments ++ "\\z".toList) := by
    have hsource : pattern.sourceChars = '\\' :: 'A' ::
        (unitsSource pattern.constraints 0 pattern.segments ++ "\\z".toList) := by
      simp [sourceChars]
    rw [hsource]
    exact Regex.Assembly.reads_textStart rfl _
  have hmodes : (Regex.Assembly.push (.look .textStart) {}).modes = {} := rfl
  have hend : "\\z".toList.head? ≠ some '?' := by decide
  -- Between the two assertions stand the units, each of them read to its items.
  have hunits := reads_units hmodes 0 (fun segment hmem => h.wellFormed hmem) hend
  have hreads := hstart.trans (hunits.trans (Regex.Assembly.reads_textEnd rfl []))
  rw [Regex.parse_eq_ok_iff hreads rfl]
  simp [Regex.Assembly.choice, Regex.Assembly.push, Regex.Assembly.pushAll, tree]

/-- What a sound pattern is matched with is its tree, in which no group has the name of another. -/
theorem program_eq_tree {pattern : Pattern} (h : pattern.Sound) {program : Regex}
    (hprogram : pattern.program? = some program) :
    program = pattern.tree ∧ pattern.tree.groupNames.Nodup ∧ pattern.duplicate? = none := by
  unfold program? at hprogram
  split at hprogram
  · cases hprogram
  · rename_i hduplicate
    unfold Regex.compile? at hprogram
    split at hprogram
    · rename_i whole hparse
      obtain ⟨rfl, hnames, -⟩ := (parse_sourceChars h whole).mp hparse
      split at hprogram
      · cases hprogram
        exact ⟨rfl, hnames, hduplicate⟩
      · cases hprogram
    · cases hprogram

theorem program?_of_parse {pattern : Pattern} {whole : Regex} (hduplicate : pattern.duplicate? = none)
    (hparse : Regex.parse pattern.sourceChars = .ok whole) (hfits : whole.fits = true) :
    pattern.program? = some whole := by
  rw [program?, hduplicate]
  simp only [Regex.compile?, hparse, hfits, if_true]

/-- What keeps a sound pattern from having a program: a name or a group bound twice, and a tree that is
nested too deep or takes too much room. -/
theorem isSome_program? {pattern : Pattern} (h : pattern.Sound) (hduplicate : pattern.duplicate? = none)
    (hnames : pattern.tree.groupNames.Nodup) (hheight : pattern.tree.height ≤ Regex.nestLimit)
    (hfits : pattern.tree.fits = true) : pattern.program?.isSome = true := by
  have hparse := (parse_sourceChars h pattern.tree).mpr ⟨rfl, hnames, hheight⟩
  rw [program?_of_parse hduplicate hparse hfits, Option.isSome_some]

end Pattern

end Switchyard
