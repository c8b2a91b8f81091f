import Switchyard.Text.Split

/-!
# Text at its separators

A text is cut at its first separator, whatever stands behind it (`cut_of_not_mem`), and the two parts
with the separator between them are the text again (`eq_of_cut`). Pieces that hold no separator are
found again in the text that they are joined to (`pieces_join`), and every text is joined from such
pieces (`join_pieces`, `not_mem_of_mem_pieces`).
-/

namespace Switchyard.Text

/-! ## The first separator -/

/-- A front without the separator stays before the cut. -/
theorem cut_append_of_not_mem {separator : Char} {front : List Char} (h : separator ∉ front)
    (text : List Char) :
    cut separator (front ++ text) = (front ++ (cut separator text).1, (cut separator text).2) := by
  induction front with
  | nil => rfl
  | cons c front ih =>
    rw [List.mem_cons, not_or] at h
    rw [List.cons_append, cut, if_neg (Ne.symm h.1), ih h.2, List.cons_append]

theorem cut_of_not_mem {separator : Char} {text : List Char} (h : separator ∉ text)
    (rest : List Char) : cut separator (text ++ separator :: rest) = (text, some rest) := by
  rw [cut_append_of_not_mem h, cut, if_pos rfl, List.append_nil]

theorem cut_eq_self {separator : Char} {text : List Char} (h : separator ∉ text) :
    cut separator text = (text, none) := by
  have happend := cut_append_of_not_mem h []
  rwa [List.append_nil, cut, List.append_nil] at happend

/-- The parts of a text that is cut are all of it. -/
theorem eq_of_cut {separator : Char} {text name rest : List Char}
    (h : cut separator text = (name, some rest)) :
    separator ∉ name ∧ text = name ++ separator :: rest := by
  by_cases hmem : separator ∈ text
  · obtain ⟨before, after, rfl, hbefore⟩ := List.eq_append_cons_of_mem hmem
    rw [cut_of_not_mem hbefore] at h
    cases h
    exact ⟨hbefore, rfl⟩
  · rw [cut_eq_self hmem] at h
    cases h

theorem not_mem_of_cut {separator : Char} {text name : List Char}
    (h : cut separator text = (name, none)) : separator ∉ text := by
  intro hmem
  obtain ⟨before, after, rfl, hbefore⟩ := List.eq_append_cons_of_mem hmem
  rw [cut_of_not_mem hbefore] at h
  cases h

theorem length_of_cut {separator : Char} {text name rest : List Char}
    (h : cut separator text = (name, some rest)) : rest.length < text.length := by
  rw [(eq_of_cut h).2, List.length_append, List.length_cons]
  omega

theorem cut_append {separator : Char} {text name rest : List Char}
    (h : cut separator text = (name, some rest)) (more : List Char) :
    cut separator (text ++ more) = (name, some (rest ++ more)) := by
  obtain ⟨hname, rfl⟩ := eq_of_cut h
  rw [List.append_assoc, List.cons_append, cut_of_not_mem hname]

theorem mem_cut_append {separator c : Char} (hc : c ≠ separator) {text name : List Char}
    (h : cut separator text = (name, none)) (more : List Char) :
    c ∈ (cut separator (text ++ c :: more)).1 := by
  rw [cut_append_of_not_mem (not_mem_of_cut h), cut, if_neg hc]
  exact List.mem_append_right _ List.mem_cons_self

/-! ## All separators -/

theorem pieces_append_cons {isSeparator : Char → Bool} {word : List Char} {c : Char}
    (hword : ∀ d ∈ word, isSeparator d = false) (hc : isSeparator c = true) (rest : List Char) :
    pieces isSeparator (word ++ c :: rest) = word :: pieces isSeparator rest := by
  induction word with
  | nil => simp [pieces, hc]
  | cons d word ih =>
    rw [List.forall_mem_cons] at hword
    simp [pieces, hword.1, ih hword.2]

theorem pieces_eq_self {isSeparator : Char → Bool} {word : List Char}
    (hword : ∀ d ∈ word, isSeparator d = false) : pieces isSeparator word = [word] := by
  induction word with
  | nil => rfl
  | cons d word ih =>
    rw [List.forall_mem_cons] at hword
    simp [pieces, hword.1, ih hword.2]

theorem join_cons_cons (separator first second : List Char) (texts : List (List Char)) :
    join separator (first :: second :: texts) =
      first ++ separator ++ join separator (second :: texts) := rfl

theorem mem_join {separator : List Char} {texts : List (List Char)} {c : Char}
    (h : c ∈ join separator texts) : c ∈ separator ∨ ∃ text ∈ texts, c ∈ text := by
  induction texts with
  | nil => cases h
  | cons first texts ih =>
    rcases texts with _ | ⟨second, texts⟩
    · exact .inr ⟨first, List.mem_cons_self, h⟩
    · rw [join_cons_cons, List.mem_append, List.mem_append] at h
      rcases h with (h | h) | h
      · exact .inr ⟨first, List.mem_cons_self, h⟩
      · exact .inl h
      · refine (ih h).imp id ?_
        rintro ⟨text, htext, hmem⟩
        exact ⟨text, List.mem_cons_of_mem _ htext, hmem⟩

/-- Texts without the separator are the pieces of what they are joined to. -/
theorem pieces_join {separator : Char} {texts : List (List Char)} (hne : texts ≠ [])
    (h : ∀ text ∈ texts, separator ∉ text) :
    pieces (· = separator) (join [separator] texts) = texts := by
  have hfree : ∀ text : List Char, separator ∉ text →
      ∀ c ∈ text, decide (c = separator) = false := fun text htext c hc =>
    decide_eq_false fun heq => htext (heq ▸ hc)
  induction texts with
  | nil => exact absurd rfl hne
  | cons first texts ih =>
    rw [List.forall_mem_cons] at h
    rcases texts with _ | ⟨second, texts⟩
    · exact pieces_eq_self (hfree first h.1)
    · rw [join_cons_cons, List.append_assoc, List.singleton_append,
        pieces_append_cons (hfree first h.1) (decide_eq_true rfl), ih (List.cons_ne_nil _ _) h.2]

theorem pieces_ne_nil (isSeparator : Char → Bool) (text : List Char) :
    pieces isSeparator text ≠ [] := by
  cases text with
  | nil => exact List.cons_ne_nil _ _
  | cons c rest =>
    rw [pieces]
    split
    · exact List.cons_ne_nil _ _
    · split <;> exact List.cons_ne_nil _ _

/-- The pieces with the separator between them are the text again. -/
theorem join_pieces (separator : Char) (text : List Char) :
    join [separator] (pieces (· = separator) text) = text := by
  induction text with
  | nil => rfl
  | cons c rest ih =>
    obtain ⟨piece, more, hpieces⟩ :=
      List.exists_cons_of_ne_nil (pieces_ne_nil (· = separator) rest)
    rw [hpieces] at ih
    rw [pieces, hpieces]
    by_cases hc : c = separator
    · rw [if_pos (decide_eq_true hc), join_cons_cons, ih, hc]
      rfl
    · rw [if_neg (by simpa using hc)]
      cases more with
      | nil => exact congrArg (c :: ·) ih
      | cons second more => exact congrArg (c :: ·) ih

theorem not_mem_of_mem_pieces {separator : Char} {text piece : List Char}
    (h : piece ∈ pieces (· = separator) text) : separator ∉ piece := by
  induction text generalizing piece with
  | nil =>
    rw [pieces, List.mem_singleton] at h
    rw [h]
    exact List.not_mem_nil
  | cons c rest ih =>
    obtain ⟨first, more, hpieces⟩ :=
      List.exists_cons_of_ne_nil (pieces_ne_nil (· = separator) rest)
    rw [hpieces, List.forall_mem_cons] at ih
    rw [pieces, hpieces] at h
    -- A separator opens an empty piece, and any other character goes to the first piece of the
    -- rest.
    by_cases hc : c = separator
    · rw [if_pos (decide_eq_true hc), List.mem_cons] at h
      rcases h with rfl | h
      · exact List.not_mem_nil
      · rcases List.mem_cons.mp h with rfl | h
        · exact ih.1
        · exact ih.2 piece h
    · rw [if_neg (by simpa using hc), List.mem_cons] at h
      rcases h with rfl | h
      · rw [List.mem_cons, not_or]
        exact ⟨Ne.symm hc, ih.1⟩
      · exact ih.2 piece h

end Switchyard.Text
