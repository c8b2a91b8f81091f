import Switchyard.Proofs.Text.Split
import Switchyard.Unicode.Later

/-!
# Membership in tables of characters

The tables are large, and asking one for a character by evaluation is out of reach of a proof. What
a table is made of is enough: a value in one of the ranges that a normal form was made from is in the
normal form (`Ranges.contains_normal`), so a letter or a digit is found by following the unions down
to the one table that lists it.
-/

namespace Switchyard.Unicode

namespace Ranges

/-- The value lies in one of the ranges, in whatever order they stand. -/
def Covers (ranges : Ranges) (value : Nat) : Prop :=
  ∃ range ∈ ranges, range.1 ≤ value ∧ value ≤ range.2

theorem covers_of_contains {ranges : Ranges} {value : Nat} (h : ranges.contains value = true) :
    Covers ranges value := by
  induction ranges with
  | nil => cases h
  | cons range rest ih =>
    obtain ⟨low, high⟩ := range
    rw [contains] at h
    split at h
    · cases h
    · rename_i hlow
      rcases Bool.or_eq_true _ _ ▸ h with hhigh | hrest
      · exact ⟨(low, high), List.mem_cons_self, Nat.le_of_not_lt hlow, of_decide_eq_true hhigh⟩
      · obtain ⟨range, hmem, hrange⟩ := ih hrest
        exact ⟨range, List.mem_cons_of_mem _ hmem, hrange⟩

/-- Joining loses no value of ranges that stand in increasing order. -/
theorem contains_joinOnto {rest : Ranges} : ∀ {low high value : Nat},
    rest.Pairwise (fun left right => left.1 ≤ right.1) → (∀ range ∈ rest, low ≤ range.1) →
    (low ≤ value ∧ value ≤ high) ∨ Covers rest value →
    (joinOnto low high rest).contains value = true := by
  induction rest with
  | nil =>
    intro low high value _ _ h
    rcases h with ⟨hlow, hhigh⟩ | ⟨range, hmem, -⟩
    · simp [joinOnto, contains, hhigh]
      omega
    · cases hmem
  | cons range rest ih =>
    intro low high value hsorted hlow h
    obtain ⟨nextLow, nextHigh⟩ := range
    rw [List.pairwise_cons] at hsorted
    have hnext : low ≤ nextLow := hlow _ List.mem_cons_self
    have hrest : ∀ range ∈ rest, low ≤ range.1 :=
      fun range hmem => hlow range (List.mem_cons_of_mem _ hmem)
    rw [joinOnto]
    split
    · refine ih hsorted.2 hrest ?_
      rcases h with ⟨hl, hh⟩ | ⟨range, hmem, hl, hh⟩
      · exact .inl ⟨hl, Nat.le_trans hh (Nat.le_max_left high nextHigh)⟩
      · rcases List.mem_cons.mp hmem with rfl | hmem
        · exact .inl ⟨Nat.le_trans hnext hl, Nat.le_trans hh (Nat.le_max_right high nextHigh)⟩
        · exact .inr ⟨range, hmem, hl, hh⟩
    · -- There is a gap before the next range, so the first one stands, and all later ones are
      -- joined from the next.
      have hvalue : low ≤ value := by
        rcases h with ⟨hl, -⟩ | ⟨range, hmem, hl, -⟩
        · exact hl
        · exact Nat.le_trans (hlow range hmem) hl
      rw [contains, if_neg (Nat.not_lt.mpr hvalue), Bool.or_eq_true]
      rcases h with ⟨-, hh⟩ | ⟨range, hmem, hl, hh⟩
      · exact .inl (decide_eq_true hh)
      · refine .inr (ih hsorted.2 hsorted.1 ?_)
        rcases List.mem_cons.mp hmem with rfl | hmem
        · exact .inl ⟨hl, hh⟩
        · exact .inr ⟨range, hmem, hl, hh⟩

theorem contains_normal {ranges : Ranges} {value : Nat} (h : Covers ranges value) :
    (normal ranges).contains value = true := by
  have hsorted : (ranges.mergeSort fun left right => left.1 ≤ right.1).Pairwise
      (fun left right => decide (left.1 ≤ right.1) = true) :=
    List.pairwise_mergeSort
      (fun first second third hfirst hsecond => by
        simp only [decide_eq_true_eq] at *
        omega)
      (fun left right => by
        simp only [Bool.or_eq_true, decide_eq_true_eq]
        omega) ranges
  obtain ⟨range, hmem, hrange⟩ := h
  replace hmem : range ∈ ranges.mergeSort fun left right => left.1 ≤ right.1 :=
    List.mem_mergeSort.mpr hmem
  unfold normal
  rcases hlist : ranges.mergeSort fun left right => left.1 ≤ right.1 with _ | ⟨⟨low, high⟩, rest⟩
  · rw [hlist] at hmem
    cases hmem
  · rw [hlist] at hmem hsorted
    simp only [decide_eq_true_eq] at hsorted
    rw [List.pairwise_cons] at hsorted
    refine contains_joinOnto hsorted.2 hsorted.1 ?_
    rcases List.mem_cons.mp hmem with rfl | hmem
    · exact .inl hrange
    · exact .inr ⟨range, hmem, hrange⟩

theorem covers_normal {ranges : Ranges} {value : Nat} (h : Covers ranges value) :
    Covers (normal ranges) value := covers_of_contains (contains_normal h)

theorem Covers.of_mem {table : Ranges} {tables : List Ranges} {value : Nat}
    (h : Covers table value) (hmem : table ∈ tables) : Covers (unionAll tables) value := by
  obtain ⟨range, hrange, hvalue⟩ := h
  exact covers_normal ⟨range, List.mem_flatten_of_mem hmem hrange, hvalue⟩

end Ranges

/-! ## The first range of a table -/

/-- The word that a table of several lines begins with, after the break and two blanks. -/
theorem words_append_cons {word : List Char} (hword : ∀ d ∈ word, ¬(d = ' ' ∨ d = '\n'))
    (hne : word ≠ []) (rest : List Char) :
    word ∈ Text.words ('\n' :: ' ' :: ' ' :: (word ++ ' ' :: rest)) := by
  have hpieces : Text.pieces (fun c => c = ' ' || c = '\n') (word ++ ' ' :: rest) =
      word :: Text.pieces (fun c => c = ' ' || c = '\n') rest :=
    Text.pieces_append_cons (fun d hd => by simpa using hword d hd) (by decide) rest
  unfold Text.words
  refine List.mem_filter.mpr ⟨?_, by simpa using hne⟩
  simp [Text.pieces, hpieces]

/-- The first range of a table of several lines. -/
theorem Ranges.mem_ofHex {text : String} {low high : Nat} (word rest : List Char)
    (htext : text.toList = '\n' :: ' ' :: ' ' :: (word ++ ' ' :: rest))
    (hword : ∀ d ∈ word, ¬(d = ' ' ∨ d = '\n')) (hne : word ≠ [])
    (hnumbers : (Text.pieces (· = '-') word).map hexNumber = [low, high]) :
    (low, high) ∈ Ranges.ofHex text := by
  refine List.mem_filterMap.mpr ⟨[low, high], ?_, rfl⟩
  unfold hexGroups
  rw [htext]
  exact List.mem_map.mpr ⟨word, words_append_cons hword hne rest, hnumbers⟩

set_option maxRecDepth 40000 in
theorem smallLetters_mem : (0x61, 0x7A) ∈ Category.lowercaseLetter := by
  unfold Category.lowercaseLetter
  exact Ranges.mem_ofHex ['6', '1', '-', '7', 'A'] _ String.toList_ofList (by simp) (by simp)
    (by decide)

set_option maxRecDepth 40000 in
theorem digits_mem : (0x30, 0x39) ∈ Category.decimalNumber := by
  unfold Category.decimalNumber
  exact Ranges.mem_ofHex ['3', '0', '-', '3', '9'] _ String.toList_ofList (by simp) (by simp)
    (by decide)

/-! ## Letters and digits -/

theorem Later.alphabetic_of_small {value : Nat} (hlow : 0x61 ≤ value) (hhigh : value ≤ 0x7A) :
    Later.alphabetic.contains value = true := by
  have hsmall : Category.lowercaseLetter.Covers value := ⟨_, smallLetters_mem, hlow, hhigh⟩
  have hcased : Derived.casedLetter.Covers value := hsmall.of_mem (by simp)
  have hletter : Derived.letter.Covers value := hcased.of_mem (by simp)
  have halphabetic : Derived.alphabetic.Covers value := hletter.of_mem (by simp)
  obtain ⟨range, hrange, hvalue⟩ := halphabetic
  exact Ranges.contains_normal ⟨range, List.mem_append_left _ hrange, hvalue⟩

theorem Later.alphanumeric_of_digit {value : Nat} (hlow : 0x30 ≤ value) (hhigh : value ≤ 0x39) :
    Later.alphanumeric.contains value = true := by
  have hdigit : Category.decimalNumber.Covers value := ⟨_, digits_mem, hlow, hhigh⟩
  have hnumber : Derived.number.Covers value := hdigit.of_mem (by simp)
  obtain ⟨range, hrange, hvalue⟩ := hnumber
  exact Ranges.contains_normal ⟨range, List.mem_flatten_of_mem (by simp) hrange, hvalue⟩

/-! ## Values below a table -/

namespace Ranges

/-- Every range starts above the value. -/
def Above (value : Nat) (ranges : Ranges) : Prop := ∀ range ∈ ranges, value < range.1

theorem Above.not_contains {value : Nat} {ranges : Ranges} (h : Above value ranges) :
    ranges.contains value = false := by
  rcases ranges with _ | ⟨⟨low, high⟩, rest⟩
  · rfl
  · rw [contains, if_pos (h (low, high) List.mem_cons_self)]

theorem Above.mono {value more : Nat} {ranges : Ranges} (hle : value ≤ more)
    (h : Above more ranges) : Above value ranges :=
  fun range hmem => Nat.lt_of_le_of_lt hle (h range hmem)

theorem above_joinOnto {value low high : Nat} {rest : Ranges} (hlow : value < low)
    (hrest : Above value rest) : Above value (joinOnto low high rest) := by
  induction rest generalizing low high with
  | nil =>
    intro range hmem
    rw [List.mem_singleton.mp hmem]
    exact hlow
  | cons next rest ih =>
    rw [Above, List.forall_mem_cons] at hrest
    rw [joinOnto]
    split
    · exact ih hlow hrest.2
    · exact List.forall_mem_cons.mpr ⟨hlow, ih hrest.1 hrest.2⟩

theorem Above.normal {value : Nat} {ranges : Ranges} (h : Above value ranges) :
    Above value ranges.normal := by
  have hsorted : Above value (ranges.mergeSort fun left right => left.1 ≤ right.1) := by
    intro range hmem
    exact h range (List.mem_mergeSort.mp hmem)
  unfold Ranges.normal
  split
  · intro range hmem
    cases hmem
  · rename_i low high rest hlist
    rw [hlist, Above, List.forall_mem_cons] at hsorted
    exact above_joinOnto hsorted.1 hsorted.2

theorem above_unionAll {value : Nat} {tables : List Ranges}
    (h : ∀ table ∈ tables, Above value table) : Above value (unionAll tables) := by
  refine Above.normal fun range hmem => ?_
  obtain ⟨table, htable, hrange⟩ := List.mem_flatten.mp hmem
  exact h table htable range hrange

/-- Every range that the text writes starts above the value. -/
def writtenAbove (value : Nat) (text : List Char) : Bool :=
  (Text.words text).all fun word => value < hexNumber ((Text.pieces (· = '-') word).headD [])

/-- What a table starts with is read off its text, taken as a list of characters. -/
theorem above_ofHex {value : Nat} {text : String} (chars : List Char) (htext : text.toList = chars)
    (h : writtenAbove value chars = true) : Above value (ofHex text) := by
  subst htext
  intro range hmem
  obtain ⟨numbers, hnumbers, hrange⟩ := List.mem_filterMap.mp hmem
  obtain ⟨word, hword, rfl⟩ := List.mem_map.mp hnumbers
  have habove := of_decide_eq_true (List.all_eq_true.mp h word hword)
  cases hpieces : Text.pieces (· = '-') word with
  | nil =>
    rw [hpieces] at hrange
    cases hrange
  | cons piece more =>
    rw [hpieces] at hrange habove
    rw [List.headD_cons] at habove
    -- A word is one number, or two with a hyphen; any other is no range.
    rcases more with _ | ⟨second, _ | ⟨third, more⟩⟩
    · cases hrange
      exact habove
    · cases hrange
      exact habove
    · cases hrange

end Ranges

set_option maxRecDepth 40000 in
/-- No table that letters come from lists anything up to the slash. -/
theorem Derived.letter_above_slash : Derived.letter.Above 0x2F := by
  have hcased : Derived.casedLetter.Above 0x2F := by
    refine Ranges.above_unionAll ?_
    rw [List.forall_mem_cons, List.forall_mem_cons, List.forall_mem_singleton]
    refine ⟨?_, ?_, ?_⟩
    all_goals exact Ranges.above_ofHex _ String.toList_ofList (by decide +kernel)
  refine Ranges.above_unionAll ?_
  rw [List.forall_mem_cons, List.forall_mem_cons, List.forall_mem_singleton]
  refine ⟨hcased, ?_, ?_⟩
  all_goals exact Ranges.above_ofHex _ String.toList_ofList (by decide +kernel)

set_option maxRecDepth 40000 in
theorem Derived.alphabetic_above_slash : Derived.alphabetic.Above 0x2F := by
  refine Ranges.above_unionAll ?_
  rw [List.forall_mem_cons, List.forall_mem_cons, List.forall_mem_singleton]
  refine ⟨Derived.letter_above_slash, ?_, ?_⟩
  all_goals exact Ranges.above_ofHex _ String.toList_ofList (by decide +kernel)

set_option maxRecDepth 40000 in
/-- No table that word characters come from lists anything up to the slash. -/
theorem Derived.word_above_slash : Derived.word.Above 0x2F := by
  have hmark : Derived.mark.Above 0x2F := by
    refine Ranges.above_unionAll ?_
    rw [List.forall_mem_cons, List.forall_mem_cons, List.forall_mem_singleton]
    refine ⟨?_, ?_, ?_⟩
    all_goals exact Ranges.above_ofHex _ String.toList_ofList (by decide +kernel)
  refine Ranges.above_unionAll ?_
  rw [List.forall_mem_cons, List.forall_mem_cons, List.forall_mem_cons, List.forall_mem_cons,
    List.forall_mem_singleton]
  refine ⟨Derived.alphabetic_above_slash, hmark, ?_, ?_, ?_⟩
  all_goals exact Ranges.above_ofHex _ String.toList_ofList (by decide +kernel)

set_option maxRecDepth 40000 in
theorem Later.alphabetic_above_slash : Later.alphabetic.Above 0x2F := by
  refine Ranges.Above.normal (List.forall_mem_append.mpr ⟨Derived.alphabetic_above_slash, ?_⟩)
  exact Ranges.above_ofHex _ String.toList_ofList (by decide +kernel)

set_option maxRecDepth 40000 in
/-- No table that the names of groups are made from lists anything up to the slash. -/
theorem Later.alphanumeric_above_slash : Later.alphanumeric.Above 0x2F := by
  have hnumber : Derived.number.Above 0x2F := by
    refine Ranges.above_unionAll ?_
    rw [List.forall_mem_cons, List.forall_mem_cons, List.forall_mem_singleton]
    refine ⟨?_, ?_, ?_⟩
    all_goals exact Ranges.above_ofHex _ String.toList_ofList (by decide +kernel)
  refine Ranges.above_unionAll ?_
  rw [List.forall_mem_cons, List.forall_mem_cons, List.forall_mem_singleton]
  refine ⟨Later.alphabetic_above_slash, hnumber, ?_⟩
  exact Ranges.above_ofHex _ String.toList_ofList (by decide +kernel)

end Switchyard.Unicode
