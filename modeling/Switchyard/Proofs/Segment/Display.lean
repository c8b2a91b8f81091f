import Switchyard.Proofs.Segment.Grammar

/-!
# Segments shown as a path pattern

Segments are shown as their tokens with slashes between them, and the pattern that this gives is read
again. A segment comes back as it was, with one exception: an optional literal keeps none of its
tildes, and is shown with one. If its text starts with a colon, which a second tilde had moved out of
the first two characters, the token shown announces a name (`Segment.Veiled`). So the segments of a
pattern come back when none of them is veiled, and only then (`Segment.displayed_reads_back_iff`).
-/

namespace Switchyard.Segment

/-- The path pattern that shows the segments: their tokens, with slashes between them. -/
def displayed (segments : List Segment) : String :=
  String.ofList (Text.join ['/'] (segments.map displayChars))

/-- The segment is an optional literal whose text starts with a colon. -/
def Veiled : Segment → Prop
  | optionalLiteral text => text.toList.head? = some ':'
  | literal _ | placeholder _ | optionalPlaceholder _ => False

instance : DecidablePred Veiled
  | optionalLiteral text => inferInstanceAs (Decidable (text.toList.head? = some ':'))
  | literal _ | placeholder _ | optionalPlaceholder _ => inferInstanceAs (Decidable False)

/-- How a segment that is shown is read: as itself, or, when it is veiled, as the optional placeholder
that its text names. -/
inductive ReadsAs : Segment → Segment → Prop where
  | itself {segment : Segment} (hplain : ¬Veiled segment) : ReadsAs segment segment
  | named {text : String} {name : List Char} (htext : text.toList = ':' :: name)
    (hword : IsWord name) :
    ReadsAs (.optionalLiteral text) (.optionalPlaceholder (String.ofList name))

variable {token : List Char} {segment other : Segment}

/-! ## One token -/

theorem writes_unique (h : Writes token segment) (hother : Writes token other) :
    segment = other := by
  have hread := ofToken_of_writes h
  rw [ofToken_of_writes hother] at hread
  exact (Except.ok.inj hread).symm

theorem displayChars_ne_nil (hne : token ≠ []) (h : Writes token segment) :
    segment.displayChars ≠ [] := by
  cases h with
  | placeholder | optionalPlaceholder | optionalLiteral => exact List.cons_ne_nil _ _
  | literal =>
    rw [displayChars, String.toList_ofList]
    exact hne

/-- What is shown holds nothing but characters of the token. -/
theorem displayChars_subset (h : Writes token segment) : segment.displayChars ⊆ token := by
  cases h with
  | placeholder | optionalPlaceholder | literal =>
    rw [displayChars, String.toList_ofList]
    exact List.Subset.refl _
  | @optionalLiteral tildes text hplain hne htildes hhead =>
    obtain ⟨c, rest, rfl⟩ := List.exists_cons_of_ne_nil hne
    obtain rfl : c = '~' := htildes c List.mem_cons_self
    rw [displayChars, String.toList_ofList, List.cons_append]
    exact List.cons_subset_cons _ (List.subset_append_right rest text)

/-- Unless it is veiled, a segment is shown as a token that writes it. -/
theorem writes_displayChars (h : Writes token segment) (hplain : ¬Veiled segment) :
    Writes segment.displayChars segment := by
  have hsubset := displayChars_subset h
  cases h with
  | placeholder hword =>
    rw [displayChars, String.toList_ofList]
    exact .placeholder hword
  | optionalPlaceholder hword =>
    rw [displayChars, String.toList_ofList]
    exact .optionalPlaceholder hword
  | literal htext hhead =>
    rw [displayChars, String.toList_ofList]
    exact .literal htext hhead
  | @optionalLiteral tildes text htext hne htildes hhead =>
    rw [Veiled, String.toList_ofList] at hplain
    rw [displayChars, String.toList_ofList] at hsubset ⊢
    -- One tilde is left of several, and then the text's first character comes second; it is no
    -- colon.
    have hcolon : ':' ∉ ('~' :: text).take 2 := by
      cases text with
      | nil => decide
      | cons c text =>
        intro hmem
        simp only [List.take_succ_cons, List.take_zero, List.mem_cons, List.not_mem_nil,
          or_false] at hmem
        rcases hmem with hmem | rfl
        · cases hmem
        · exact hplain rfl
    exact @Writes.optionalLiteral ['~'] text
      ⟨hcolon, fun hmem => htext.2.1 (hsubset hmem), fun hmem => htext.2.2 (hsubset hmem)⟩
      (List.cons_ne_nil _ _) (List.forall_mem_singleton.mpr rfl) hhead

/-- A token with a tilde and a colon in front can write nothing but an optional placeholder. -/
theorem writes_announced {rest : List Char} (h : Writes ('~' :: ':' :: rest) other) :
    IsWord rest ∧ other = .optionalPlaceholder (String.ofList rest) := by
  have hcolon : ':' ∈ ('~' :: ':' :: rest).take 2 := List.mem_cons_of_mem _ List.mem_cons_self
  generalize htoken : '~' :: ':' :: rest = token at h hcolon
  cases h with
  | placeholder => cases htoken
  | optionalPlaceholder hword =>
    cases htoken
    exact ⟨hword, rfl⟩
  | literal hplain => exact absurd hcolon hplain.1
  | optionalLiteral hplain => exact absurd hcolon hplain.1

/-- What is shown of a segment writes what the segment reads as. -/
theorem writes_displayChars_iff (h : Writes token segment) :
    Writes segment.displayChars other ↔ ReadsAs segment other := by
  -- A veiled segment shows a tilde and a colon in front of a name; every other one shows a token of
  -- its own.
  by_cases hveiled : Veiled segment
  · cases segment with
    | literal | placeholder | optionalPlaceholder => exact hveiled.elim
    | optionalLiteral text =>
      obtain ⟨rest, hrest⟩ := List.head?_eq_some_iff.mp hveiled
      rw [displayChars, hrest]
      constructor
      · intro hwrites
        obtain ⟨hword, rfl⟩ := writes_announced hwrites
        exact .named hrest hword
      · intro hreads
        cases hreads with
        | itself hplain => exact absurd hveiled hplain
        | named htext hword =>
          cases hrest.symm.trans htext
          exact .optionalPlaceholder hword
  · have hself := writes_displayChars h hveiled
    constructor
    · intro hwrites
      rw [← writes_unique hself hwrites]
      exact .itself hveiled
    · intro hreads
      cases hreads with
      | itself => exact hself
      | named htext => exact absurd (List.head?_eq_some_iff.mpr ⟨_, htext⟩) hveiled

/-! ## All tokens -/

/-- The tokens of the pattern that shows segments are the tokens of the segments. -/
theorem tokens_displayed {segments : List Segment}
    (hne : ∀ segment ∈ segments, segment.displayChars ≠ [])
    (hslash : ∀ segment ∈ segments, '/' ∉ segment.displayChars) :
    tokens (displayed segments) = segments.map displayChars := by
  rw [tokens, displayed, String.toList_ofList]
  rcases segments with _ | ⟨first, rest⟩
  · rfl
  · have hpieces : Text.pieces (· = '/') (Text.join ['/'] ((first :: rest).map displayChars)) =
        (first :: rest).map displayChars :=
      Text.pieces_join (List.cons_ne_nil _ _) (by simpa using hslash)
    rw [hpieces]
    exact List.filter_eq_self.mpr (by simpa using hne)

/-- The tokens of a path pattern are not empty, and hold no slash. -/
theorem slash_not_mem_token {path : String} (h : token ∈ tokens path) : token ≠ [] ∧ '/' ∉ token := by
  obtain ⟨hpiece, hne⟩ := List.mem_filter.mp h
  exact ⟨of_decide_eq_true hne, Text.not_mem_of_mem_pieces hpiece⟩

/-- Every segment of a path pattern is written by one of its tokens. -/
theorem exists_token {tokens : List (List Char)} {segments : List Segment}
    (h : List.Forall₂ Writes tokens segments) :
    ∀ segment ∈ segments, ∃ token ∈ tokens, Writes token segment := by
  intro segment hsegment
  obtain ⟨index, hindex, rfl⟩ := List.getElem_of_mem hsegment
  have hlength : index < tokens.length := h.length_eq ▸ hindex
  exact ⟨tokens[index], List.getElem_mem hlength, h.get hlength hindex⟩

/-- The segments of a path pattern, shown as a pattern and read again. Each is read as itself, or,
when it is veiled, as the optional placeholder that its text names, and the pattern is refused when
its text names none. So they come back as they were just when none of them is veiled. -/
theorem displayed_reads_back_iff {path : String} {segments : List Segment}
    (hparsed : parsePath path = .ok segments) :
    (∀ others, parsePath (displayed segments) = .ok others ↔
      List.Forall₂ ReadsAs segments others) ∧
    (parsePath (displayed segments) = .ok segments ↔ ∀ segment ∈ segments, ¬Veiled segment) := by
  have hwrites : List.Forall₂ Writes (tokens path) segments := parseTokens_eq_ok_iff.mp hparsed
  have hfrom := exists_token hwrites
  have htokens : tokens (displayed segments) = segments.map displayChars := by
    refine tokens_displayed ?_ ?_
    · intro segment hsegment
      obtain ⟨token, htoken, hsame⟩ := hfrom segment hsegment
      exact displayChars_ne_nil (slash_not_mem_token htoken).1 hsame
    · intro segment hsegment hslash
      obtain ⟨token, htoken, hsame⟩ := hfrom segment hsegment
      exact (slash_not_mem_token htoken).2 (displayChars_subset hsame hslash)
  have hreads : ∀ others, parsePath (displayed segments) = .ok others ↔
      List.Forall₂ ReadsAs segments others := by
    intro others
    rw [parsePath, htokens, parseTokens_eq_ok_iff, List.forall₂_map_left_iff,
      List.forall₂_iff_zip, List.forall₂_iff_zip]
    refine and_congr_right fun _ => forall₂_congr fun segment other => imp_congr_right fun hpair => ?_
    obtain ⟨token, -, hsame⟩ := hfrom segment (List.of_mem_zip hpair).1
    exact writes_displayChars_iff hsame
  refine ⟨hreads, ?_⟩
  rw [hreads, List.forall₂_same]
  refine forall₂_congr fun segment _ => ⟨fun h => ?_, .itself⟩
  cases h with
  | itself hplain => exact hplain

/-- The colon inside a text that is not veiled does no harm, however many tildes stood before it. -/
theorem tilded_reads_back :
    parsePath "//~~~a:b/:id/" = .ok [.optionalLiteral "a:b", .placeholder "id"] ∧
      parsePath (displayed [.optionalLiteral "a:b", .placeholder "id"]) =
        .ok [.optionalLiteral "a:b", .placeholder "id"] := by
  have hparsed : parsePath "//~~~a:b/:id/" = .ok [.optionalLiteral "a:b", .placeholder "id"] := by
    rfl
  exact ⟨hparsed, (displayed_reads_back_iff hparsed).2.mpr (by decide)⟩

/-- Not all segments come back: one is veiled, and the pattern that shows it names a placeholder. -/
theorem veiled_reads_as_placeholder :
    (parsePath "/~~:x" = .ok [.optionalLiteral ":x"] ∧
      displayed [.optionalLiteral ":x"] = "~:x" ∧
        parsePath "~:x" = .ok [.optionalPlaceholder "x"]) ∧
    ¬∀ path segments, parsePath path = .ok segments →
      parsePath (displayed segments) = .ok segments := by
  have hparsed : parsePath "/~~:x" = .ok [.optionalLiteral ":x"] := by rfl
  refine ⟨⟨hparsed, by decide, by rfl⟩, fun hall => ?_⟩
  have hback := hall _ _ hparsed
  revert hback
  decide

end Switchyard.Segment
