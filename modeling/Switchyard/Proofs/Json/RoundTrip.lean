import Switchyard.Json.Printer
import Switchyard.Json.Reader

/-!
# Printed values are read back

Reading takes a printed value off the front of a text, whatever follows it (`Value.Plain.reads`), and
a printed text holds nothing else (`Value.read_print`). This goes for values without numbers, whose
text is not the printer's own, and without breaks (`Value.Plain`). The reader counts its steps
down; a value takes no more of them than its text has characters.
-/

namespace Switchyard.Json

open Unicode

/-! ## Strings -/

theorem hexValue?_lowerHexDigit : ∀ value < 16, hexValue? (lowerHexDigit value) = some value := by
  decide

/-- A control is written by its number. -/
theorem readUnicode?_control {c : Char} (h : c.toNat < 0x20) (rest : List Char) :
    readUnicode? ('0' :: '0' :: lowerHexDigit (c.toNat / 16) :: lowerHexDigit (c.toNat % 16) ::
      rest) = some (c, rest) := by
  have hzero : hexValue? '0' = some 0 := by decide
  have hnumber : c.toNat / 16 * 16 + c.toNat % 16 = c.toNat := by omega
  rw [readUnicode?, hexFour?, hzero, hexValue?_lowerHexDigit _ (by omega),
    hexValue?_lowerHexDigit _ (by omega)]
  simp only [Nat.zero_mul, Nat.zero_add, hnumber]
  rw [if_pos (.inl (by omega)), Char.ofNat_toNat]

/-- A character is read back from the way it stands in a string. -/
theorem readString?_escapeChar (c : Char) (fuel : Nat) (rest : List Char) :
    readString? (fuel + 1) (escapeChar c ++ rest) =
      (readString? fuel rest).map fun pair => (c :: pair.1, pair.2) := by
  unfold escapeChar
  -- Seven characters have an escape of their own.
  iterate 7
    split
    · subst c
      rfl
  split
  · rename_i hcontrol
    simp only [List.cons_append, List.nil_append, readString?, readUnicode?_control hcontrol]
  · rename_i _ hbackslash _ _ _ _ _ hcontrol
    rw [List.singleton_append, readString?.eq_def]
    simp [hbackslash, hcontrol]

theorem escapeChar_ne_nil (c : Char) : escapeChar c ≠ [] := by
  unfold escapeChar
  repeat' split
  all_goals simp

theorem length_le_escaped (text : List Char) : text.length ≤ (text.flatMap escapeChar).length := by
  induction text with
  | nil => exact Nat.le_refl 0
  | cons c text ih =>
    have hpos := List.length_pos_iff.mpr (escapeChar_ne_nil c)
    rw [List.flatMap_cons, List.length_cons, List.length_append]
    omega

theorem readString?_escaped {text : List Char} {fuel : Nat} (h : text.length < fuel)
    (rest : List Char) :
    readString? fuel (text.flatMap escapeChar ++ '"' :: rest) = some (text, rest) := by
  induction text generalizing fuel with
  | nil =>
    obtain ⟨fuel, rfl⟩ : ∃ less, fuel = less + 1 := ⟨fuel - 1, by simp at h; omega⟩
    rfl
  | cons c text ih =>
    obtain ⟨fuel, rfl⟩ : ∃ less, fuel = less + 1 := ⟨fuel - 1, by simp at h; omega⟩
    rw [List.length_cons] at h
    rw [List.flatMap_cons, List.append_assoc, readString?_escapeChar, ih (by omega)]
    rfl

/-- What follows the first quote of a printed string is read up to the last. -/
theorem readString?_print (text : String) (rest : List Char) :
    ∃ more, printString text ++ rest = '"' :: more ∧
      readString? (more.length + 1) more = some (text.toList, rest) := by
  refine ⟨text.toList.flatMap escapeChar ++ '"' :: rest, by simp [printString], ?_⟩
  refine readString?_escaped ?_ rest
  have hlength := length_le_escaped text.toList
  rw [List.length_append]
  omega

/-! ## Blanks -/

theorem skipBlanks_newLine (level : Nat) (text : List Char) :
    skipBlanks (newLine level ++ text) = skipBlanks text := by
  have hblank : ∀ c ∈ newLine level, isBlank c = true := by
    intro c hmem
    rcases List.mem_cons.mp hmem with rfl | hmem
    · decide
    · rw [List.eq_of_mem_replicate hmem]
      decide
  exact List.dropWhile_append_of_pos hblank

theorem skipBlanks_cons {c : Char} (h : isBlank c = false) (text : List Char) :
    skipBlanks (c :: text) = c :: text := by
  rw [skipBlanks, List.dropWhile_cons_of_neg (by simp [h])]

/-! ## Values -/

/-- A value that can be read back from its print: it holds no number, and breaks off nowhere. -/
inductive Value.Plain : Value → Prop
  | null : Plain .null
  | boolean (value : Bool) : Plain (.boolean value)
  | string (text : String) : Plain (.string text)
  | array {items : List Value} (h : ∀ item ∈ items, Plain item) : Plain (.array items true)
  | object {members : List (String × Value)} (h : ∀ member ∈ members, Plain member.2) :
    Plain (.object members true)

/-- Reading takes the printed value off a text, given as many steps as the print has characters. -/
def Value.Reads (value : Value) : Prop :=
  ∀ level fuel rest, (value.print level).length ≤ fuel →
    readValue fuel (value.print level ++ rest) = (value, some rest)

/-- The print of a value begins with a character that is no blank and closes no array. -/
theorem Value.Plain.head {value : Value} (h : value.Plain) (level : Nat) :
    ∃ c text, value.print level = c :: text ∧ isBlank c = false ∧ c ≠ ']' := by
  -- The first character tells the kinds apart.
  cases h with
  | null => exact ⟨'n', _, by rw [Value.print]; rfl, by decide, by decide⟩
  | boolean value =>
    cases value with
    | false => exact ⟨'f', _, by rw [Value.print]; rfl, by decide, by decide⟩
    | true => exact ⟨'t', _, by rw [Value.print]; rfl, by decide, by decide⟩
  | string text => exact ⟨'"', _, by rw [Value.print, printString]; rfl, by decide, by decide⟩
  | @array items _ =>
    cases items with
    | nil => exact ⟨'[', _, by rw [Value.print], by decide, by decide⟩
    | cons item items => exact ⟨'[', _, by rw [Value.print]; rfl, by decide, by decide⟩
  | @object members _ =>
    cases members with
    | nil => exact ⟨'\x7b', _, by rw [Value.print], by decide, by decide⟩
    | cons member members => exact ⟨'\x7b', _, by rw [Value.print]; rfl, by decide, by decide⟩

/-- A print has characters, so as many steps are not none. -/
theorem fuel_succ {value : Value} (h : value.Plain) {level fuel : Nat}
    (hfuel : (value.print level).length ≤ fuel) : ∃ less, fuel = less + 1 := by
  obtain ⟨c, text, hhead, -⟩ := h.head level
  rw [hhead, List.length_cons] at hfuel
  exact ⟨fuel - 1, by omega⟩

theorem readValue_blank (fuel : Nat) (text : List Char) :
    readValue fuel (' ' :: text) = readValue fuel text := by
  cases fuel with
  | zero => rfl
  | succ fuel =>
    rw [readValue, readValue]
    rfl

/-! ### Arrays -/

theorem readItems_last {fuel : Nat} {text rest after : List Char} {item : Value}
    (hitem : readValue fuel text = (item, some rest)) (hrest : skipBlanks rest = ']' :: after) :
    readItems (fuel + 1) text = ([item], some after) := by
  rw [readItems, hitem]
  simp only [hrest]

theorem readItems_comma {fuel : Nat} {text rest after more : List Char} {item : Value} {c : Char}
    (hitem : readValue fuel text = (item, some rest)) (hrest : skipBlanks rest = ',' :: after)
    (hafter : skipBlanks after = c :: more) (hc : c ≠ ']') :
    readItems (fuel + 1) text =
      (item :: (readItems fuel (c :: more)).1, (readItems fuel (c :: more)).2) := by
  rw [readItems, hitem]
  simp only [hrest, hafter]
  split
  · rename_i heq
    exact absurd (List.cons.inj heq).1 hc
  · rename_i heq
    cases heq
  · rfl

/-- The items of an array, up to the bracket on the line after them. -/
theorem readItems_print {item : Value} {items : List Value}
    (hplain : ∀ value ∈ item :: items, value.Plain) (hreads : ∀ value ∈ item :: items, value.Reads)
    (level outer fuel : Nat) (rest : List Char)
    (hfuel : (item.print level ++ printItems level items).length < fuel) :
    readItems fuel (item.print level ++ (printItems level items ++ (newLine outer ++ ']' :: rest))) =
      (item :: items, some rest) := by
  induction items generalizing item fuel with
  | nil =>
    obtain ⟨fuel, rfl⟩ : ∃ less, fuel = less + 1 := ⟨fuel - 1, by omega⟩
    rw [List.length_append] at hfuel
    refine readItems_last (hreads item List.mem_cons_self level fuel _ (by omega)) ?_
    rw [printItems, List.nil_append, skipBlanks_newLine, skipBlanks_cons (by decide)]
  | cons next items ih =>
    obtain ⟨fuel, rfl⟩ : ∃ less, fuel = less + 1 := ⟨fuel - 1, by omega⟩
    obtain ⟨-, hplain⟩ := List.forall_mem_cons.mp hplain
    obtain ⟨hitem, hreads⟩ := List.forall_mem_cons.mp hreads
    obtain ⟨c, text, hhead, hblank, hc⟩ := (hplain next List.mem_cons_self).head level
    simp only [printItems, List.cons_append, List.append_assoc, List.length_append,
      List.length_cons] at hfuel
    have hnext := ih hplain hreads fuel (by rw [List.length_append]; omega)
    rw [hhead, List.cons_append] at hnext
    -- Behind an item stand a comma and a new line, and then the next item; none begins with the
    -- closing bracket.
    have hcomma := readItems_comma (hitem level fuel
      (printItems level (next :: items) ++ (newLine outer ++ ']' :: rest)) (by omega))
      (by simp only [printItems, List.cons_append, List.append_assoc]
          exact skipBlanks_cons (by decide) _)
      (by rw [skipBlanks_newLine, hhead, List.cons_append, skipBlanks_cons hblank]) hc
    rw [hcomma, hnext]

/-! ### Objects -/

theorem readMembers_last {fuel : Nat} {text string rest colon after last : List Char}
    {key : List Char} {value : Value} (htext : skipBlanks text = '"' :: string)
    (hkey : readString? (string.length + 1) string = some (key, rest))
    (hrest : skipBlanks rest = ':' :: colon) (hvalue : readValue fuel colon = (value, some after))
    (hafter : skipBlanks after = '\x7d' :: last) :
    readMembers (fuel + 1) text = ([(String.ofList key, value)], some last) := by
  rw [readMembers]
  simp only [htext, hkey, hrest, hvalue, hafter]

theorem readMembers_comma {fuel : Nat} {text string rest colon after more : List Char}
    {key : List Char} {value : Value} (htext : skipBlanks text = '"' :: string)
    (hkey : readString? (string.length + 1) string = some (key, rest))
    (hrest : skipBlanks rest = ':' :: colon) (hvalue : readValue fuel colon = (value, some after))
    (hafter : skipBlanks after = ',' :: more) :
    readMembers (fuel + 1) text =
      ((String.ofList key, value) :: (readMembers fuel more).1, (readMembers fuel more).2) := by
  rw [readMembers]
  simp only [htext, hkey, hrest, hvalue, hafter]

theorem readMembers_newLine (fuel level : Nat) (text : List Char) :
    readMembers fuel (newLine level ++ text) = readMembers fuel text := by
  cases fuel with
  | zero => rfl
  | succ fuel => rw [readMembers, readMembers, skipBlanks_newLine]

/-- The members of an object, up to the brace on the line after them. -/
theorem readMembers_print {member : String × Value} {members : List (String × Value)}
    (hreads : ∀ each ∈ member :: members, each.2.Reads) (level outer fuel : Nat)
    (rest : List Char)
    (hfuel : (member.2.print level ++ printMembers level members).length < fuel) :
    readMembers fuel (printString member.1 ++ (':' :: ' ' :: (member.2.print level ++
      (printMembers level members ++ (newLine outer ++ '\x7d' :: rest))))) =
      (member :: members, some rest) := by
  -- A member is its name, a colon and its value. Behind the last one stands the closing brace,
  -- behind any other a comma.
  induction members generalizing member fuel with
  | nil =>
    obtain ⟨fuel, rfl⟩ : ∃ less, fuel = less + 1 := ⟨fuel - 1, by omega⟩
    rw [List.length_append] at hfuel
    obtain ⟨string, hprint, hstring⟩ := readString?_print member.1 (':' :: ' ' ::
      (member.2.print level ++ (printMembers level [] ++ (newLine outer ++ '\x7d' :: rest))))
    have hvalue := hreads member List.mem_cons_self level fuel
      (printMembers level [] ++ (newLine outer ++ '\x7d' :: rest)) (by omega)
    rw [hprint, readMembers_last (skipBlanks_cons (by decide) _) hstring
      (skipBlanks_cons (by decide) _) ((readValue_blank fuel _).trans hvalue)
      (by rw [printMembers, List.nil_append, skipBlanks_newLine, skipBlanks_cons (by decide)]),
      String.ofList_toList]
  | cons next members ih =>
    obtain ⟨fuel, rfl⟩ : ∃ less, fuel = less + 1 := ⟨fuel - 1, by omega⟩
    obtain ⟨hmember, hreads⟩ := List.forall_mem_cons.mp hreads
    simp only [printMembers, List.cons_append, List.nil_append, List.append_assoc,
      List.length_append, List.length_cons] at hfuel
    have hnext := ih hreads fuel (by rw [List.length_append]; omega)
    obtain ⟨string, hprint, hstring⟩ := readString?_print member.1 (':' :: ' ' ::
      (member.2.print level ++ (printMembers level (next :: members) ++
        (newLine outer ++ '\x7d' :: rest))))
    have hvalue := hmember level fuel
      (printMembers level (next :: members) ++ (newLine outer ++ '\x7d' :: rest)) (by omega)
    rw [hprint, readMembers_comma (skipBlanks_cons (by decide) _) hstring
      (skipBlanks_cons (by decide) _) ((readValue_blank fuel _).trans hvalue)
      (by simp only [printMembers, List.cons_append, List.nil_append, List.append_assoc]
          exact skipBlanks_cons (by decide) _),
      readMembers_newLine, hnext, String.ofList_toList]

/-! ### All values -/

theorem readValue_items {fuel : Nat} {text more : List Char} {c : Char}
    (htext : skipBlanks text = c :: more) (hc : c ≠ ']') :
    readValue (fuel + 1) ('[' :: text) =
      (.array (readItems fuel (c :: more)).1 (readItems fuel (c :: more)).2.isSome,
        (readItems fuel (c :: more)).2) := by
  rw [readValue, skipBlanks_cons (by decide)]
  simp [htext, hc]

theorem readValue_members {fuel : Nat} {text more : List Char} {c : Char}
    (htext : skipBlanks text = c :: more) (hc : c ≠ '\x7d') :
    readValue (fuel + 1) ('\x7b' :: text) =
      (.object (readMembers fuel (c :: more)).1 (readMembers fuel (c :: more)).2.isSome,
        (readMembers fuel (c :: more)).2) := by
  rw [readValue, skipBlanks_cons (by decide)]
  simp [htext, hc]

/-- Whatever follows a printed value, reading takes the value and leaves what follows. -/
theorem Value.Plain.reads {value : Value} (h : value.Plain) : value.Reads := by
  induction h with
  | null =>
    intro level fuel rest hfuel
    obtain ⟨fuel, rfl⟩ := fuel_succ .null hfuel
    simp [print, readValue, skipBlanks_cons, isBlank, readWord]
  | boolean value =>
    intro level fuel rest hfuel
    obtain ⟨fuel, rfl⟩ := fuel_succ (.boolean value) hfuel
    cases value with
    | false => simp [print, readValue, skipBlanks_cons, isBlank, readWord]
    | true => simp [print, readValue, skipBlanks_cons, isBlank, readWord]
  | string text =>
    intro level fuel rest hfuel
    obtain ⟨fuel, rfl⟩ := fuel_succ (.string text) hfuel
    obtain ⟨string, hprint, hstring⟩ := readString?_print text rest
    rw [print, hprint, readValue, skipBlanks_cons (by decide)]
    simp [hstring]
  | @array items hplain ih =>
    intro level fuel rest hfuel
    obtain ⟨fuel, rfl⟩ := fuel_succ (.array hplain) hfuel
    cases items with
    | nil =>
      rw [print, readValue]
      rfl
    | cons item items =>
      -- The bracket takes a step, and is a character: the items are left enough of both.
      obtain ⟨c, text, hhead, hblank, hc⟩ :=
        (hplain item List.mem_cons_self).head (level + 1)
      simp only [print, List.cons_append, List.append_assoc, List.length_cons,
        List.length_append, List.nil_append] at hfuel ⊢
      have hitems := readItems_print hplain ih (level + 1) level fuel rest
        (by rw [List.length_append]; omega)
      rw [hhead, List.cons_append] at hitems
      rw [hhead, List.cons_append,
        readValue_items (by rw [skipBlanks_newLine, skipBlanks_cons hblank]) hc, hitems]
      rfl
  | @object members hplain ih =>
    intro level fuel rest hfuel
    obtain ⟨fuel, rfl⟩ := fuel_succ (.object hplain) hfuel
    cases members with
    | nil =>
      rw [print, readValue]
      rfl
    | cons member members =>
      simp only [print, List.cons_append, List.append_assoc, List.length_cons,
        List.length_append, List.nil_append] at hfuel ⊢
      have hmembers := readMembers_print ih (level + 1) level fuel rest
        (by rw [List.length_append]; omega)
      obtain ⟨string, hprint, -⟩ := readString?_print member.1 (':' :: ' ' ::
        (member.2.print (level + 1) ++ (printMembers (level + 1) members ++
          (newLine level ++ '\x7d' :: rest))))
      rw [hprint] at hmembers ⊢
      rw [readValue_members (by rw [skipBlanks_newLine, skipBlanks_cons (by decide)])
        (by decide), hmembers]
      rfl

/-- A printed text is read as its value, and holds nothing else. -/
theorem Value.read_print {value : Value} (h : value.Plain) (level : Nat) :
    Value.read (value.print level) = (value, true) := by
  have hread := h.reads level (2 * (value.print level).length + 2) [] (by omega)
  rw [List.append_nil] at hread
  rw [Value.read, hread]
  rfl

end Switchyard.Json
