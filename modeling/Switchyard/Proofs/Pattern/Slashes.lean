import Switchyard.Proofs.Pattern.Reading

/-!
# Slashes of a path

The slashes of a path tell its segments apart: a path splits in one way only into texts without a
slash, each after one of its own (`slashed_injective`).
-/

namespace Switchyard

/-! ## Texts after slashes -/

/-- The texts, each after a slash. -/
def slashed (texts : List (List Char)) : List Char := texts.flatMap ('/' :: ·)

theorem slashed_append (texts more : List (List Char)) :
    slashed (texts ++ more) = slashed texts ++ slashed more := List.flatMap_append

/-- A segment is over where the text ends or a slash stands. -/
def SegmentEnds (rest : List Char) : Prop := ∀ c ∈ rest.head?, c = '/'

theorem segmentEnds_slashed (texts : List (List Char)) : SegmentEnds (slashed texts) := by
  rcases texts with _ | ⟨text, texts⟩
  · exact fun c hc => (by cases hc)
  · exact fun c hc => (Option.some.inj hc).symm

/-- Of two texts without a slash, followed by the end of the segment, neither goes beyond the other. -/
theorem eq_of_append_eq {first second more other : List Char} (hfirst : '/' ∉ first)
    (hsecond : '/' ∉ second) (hmore : SegmentEnds more) (hother : SegmentEnds other)
    (h : first ++ more = second ++ other) : first = second ∧ more = other := by
  -- The two texts run out together, since what follows either starts with a slash if it starts at
  -- all.
  induction first generalizing second with
  | nil =>
    rcases second with _ | ⟨c, second⟩
    · exact ⟨rfl, h⟩
    · have hc : c = '/' := hmore c (by rw [show more = c :: (second ++ other) from h]; rfl)
      exact absurd (hc ▸ List.mem_cons_self) hsecond
  | cons c first ih =>
    rw [List.mem_cons, not_or] at hfirst
    rcases second with _ | ⟨d, second⟩
    · have hc : c = '/' := hother c (by rw [show other = c :: (first ++ more) from h.symm]; rfl)
      exact absurd hc.symm hfirst.1
    · rw [List.mem_cons, not_or] at hsecond
      obtain ⟨hc, hrest⟩ := List.cons.inj h
      obtain ⟨htext, hmore⟩ := ih hfirst.2 hsecond.2 hrest
      exact ⟨by rw [hc, htext], hmore⟩

/-- A path splits in one way only into texts without a slash. -/
theorem slashed_injective {texts other : List (List Char)} (htexts : ∀ text ∈ texts, '/' ∉ text)
    (hother : ∀ text ∈ other, '/' ∉ text) (h : slashed texts = slashed other) : texts = other := by
  induction texts generalizing other with
  | nil =>
    rcases other with _ | ⟨text, other⟩
    · rfl
    · cases h
  | cons first texts ih =>
    rcases other with _ | ⟨second, other⟩
    · cases h
    · rw [List.forall_mem_cons] at htexts hother
      obtain ⟨hfirst, hmore⟩ := eq_of_append_eq htexts.1 hother.1 (segmentEnds_slashed texts)
        (segmentEnds_slashed other) (List.cons.inj h).2
      rw [hfirst, ih htexts.2 hother.2 hmore]

/-- A text without a slash that stands where its segment is over is empty. -/
theorem eq_nil_of_segmentEnds {text more : List Char} (hslash : '/' ∉ text)
    (h : SegmentEnds (text ++ more)) : text = [] := by
  rcases text with _ | ⟨c, text⟩
  · rfl
  · exact absurd (h c rfl ▸ List.mem_cons_self) hslash

theorem getLast?_append_ne {text : List Char} (hne : text ≠ []) (hslash : '/' ∉ text)
    (front : List Char) : (front ++ text).getLast? ≠ some '/' := by
  rw [List.getLast?_append, List.getLast?_eq_some_getLast hne, Option.some_or]
  intro hlast
  exact hslash (Option.some.inj hlast ▸ List.getLast_mem hne)

theorem getLast?_slashed {text : List Char} (hne : text ≠ []) (hslash : '/' ∉ text)
    (texts : List (List Char)) : (slashed (texts ++ [text])).getLast? ≠ some '/' := by
  rw [slashed_append, show slashed [text] = ['/'] ++ text by simp [slashed], ← List.append_assoc]
  exact getLast?_append_ne hne hslash _

/-! ## Pieces -/

theorem Piece.chars_eq (piece : Piece) :
    piece.chars = (if piece.slash then ['/'] else []) ++ piece.text := by
  unfold Piece.chars
  split <;> rfl

theorem count_chars (piece : Piece) :
    piece.chars.count '/' = (if piece.slash then 1 else 0) + piece.text.count '/' := by
  unfold Piece.chars
  split
  · rw [List.count_cons_self, Nat.add_comm]
  · rw [Nat.zero_add]

theorem length_chars (piece : Piece) :
    piece.chars.length = (if piece.slash then 1 else 0) + piece.text.length := by
  unfold Piece.chars
  split
  · rw [List.length_cons, Nat.add_comm]
  · rw [Nat.zero_add]

/-- A path of pieces that do not end with a slash does not end with one. -/
theorem getLast?_flatMap_chars {pieces : List Piece}
    (h : ∀ piece ∈ pieces, piece.chars.getLast? ≠ some '/') :
    (pieces.flatMap Piece.chars).getLast? ≠ some '/' := by
  induction pieces with
  | nil => exact fun hlast => (by cases hlast)
  | cons piece pieces ih =>
    rw [List.forall_mem_cons] at h
    rw [List.flatMap_cons, List.getLast?_append]
    cases hrest : (pieces.flatMap Piece.chars).getLast? with
    | none => exact h.1
    | some last =>
      rw [hrest] at ih
      exact ih h.2

/-- The texts of the pieces that have a slash. -/
def Piece.textsOf (pieces : List Piece) : List (List Char) :=
  pieces.filterMap fun piece => if piece.slash then some piece.text else none

theorem textsOf_cons (piece : Piece) (pieces : List Piece) :
    Piece.textsOf (piece :: pieces) =
      (if piece.slash then some piece.text else none).toList ++ Piece.textsOf pieces := by
  obtain ⟨slash, text⟩ := piece
  cases slash <;> rfl

theorem textsOf_append (pieces more : List Piece) :
    Piece.textsOf (pieces ++ more) = Piece.textsOf pieces ++ Piece.textsOf more :=
  List.filterMap_append

/-- Where no piece has a text without a slash, the slashes and their texts are the whole path. -/
theorem slashed_textsOf {pieces : List Piece}
    (h : ∀ piece ∈ pieces, piece.slash = false → piece.text = []) :
    slashed (Piece.textsOf pieces) = pieces.flatMap Piece.chars := by
  induction pieces with
  | nil => rfl
  | cons piece pieces ih =>
    rw [List.forall_mem_cons] at h
    rw [textsOf_cons, slashed_append, ih h.2, List.flatMap_cons]
    obtain ⟨slash, text⟩ := piece
    cases slash with
    | true => simp [slashed, Piece.chars]
    | false =>
      cases h.1 rfl
      rfl

end Switchyard
