import Switchyard.Regex.Parser

/-!
# Reading before a closing bracket

A pattern can be read by itself or in front of the bracket that closes the group around it. Reading
it by itself says what happens in the group: every reader answers alike when `)` and more text
follow (`Stable`), with one exception. In spaced text a comment may still be open where the pattern
ends, and then it swallows what follows up to the next line break. `stable_read?` is the statement
for one token; the readers that a token is made of come before it, leaves first.
-/

namespace Switchyard.Regex

variable {α β : Type}

/-- What the reader finds in the text it also finds when a closing bracket and more text follow.
It leaves them as well, or a comment of spaced text has swallowed them. -/
def Stable (modes : Modes) (read : List Char → Except ParseError (α × List Char))
    (text : List Char) : Prop :=
  ∀ found rest, read text = .ok (found, rest) →
    (∀ more, read (text ++ ')' :: more) = .ok (found, rest ++ ')' :: more)) ∨
    (modes.spaced = true ∧
      ∀ more, '\n' ∉ more → read (text ++ ')' :: more) = .ok (found, rest))

/-! ## Blanks and comments -/

/-- A property of all characters below 0x80, checked code by code. -/
theorem forall_ascii {P : Char → Prop} (h : ∀ n < 0x80, P (Char.ofNat n)) {c : Char}
    (hc : c.toNat < 0x80) : P c := by
  have hcode := h c.toNat hc
  rwa [Char.ofNat_toNat] at hcode

/-- The blanks below 0x80. -/
def blanks : List Char := ['\t', '\n', '\x0b', '\x0c', '\r', ' ']

theorem isBlank_ascii {c : Char} (hc : c.toNat < 0x80) : Modes.isBlank c = blanks.contains c :=
  forall_ascii (P := fun c => Modes.isBlank c = blanks.contains c) (by decide +kernel) hc

theorem isBlank_bracket : Modes.isBlank ')' = false := isBlank_ascii (by decide)

theorem dropBlanks_comment {text : List Char} (h : '\n' ∉ text) :
    Modes.dropBlanks true text = [] := by
  induction text with
  | nil => rfl
  | cons c rest ih =>
    simp only [List.mem_cons, not_or] at h
    have hc : (c != '\n') = true := by simpa using Ne.symm h.1
    simp only [Modes.dropBlanks, if_true, hc]
    exact ih h.2

theorem dropBlanks_append (text : List Char) : ∀ inComment,
    (∀ more, Modes.dropBlanks inComment (text ++ ')' :: more) =
      Modes.dropBlanks inComment text ++ ')' :: more) ∨
    (Modes.dropBlanks inComment text = [] ∧
      ∀ more, '\n' ∉ more → Modes.dropBlanks inComment (text ++ ')' :: more) = []) := by
  -- Induction on the text, for both states of the reader: a line break ends a comment, and the sign
  -- starts one. What decides is where the text ends. In a comment, the bracket behind it is dropped
  -- too.
  induction text with
  | nil =>
    intro inComment
    cases inComment with
    | false => exact .inl fun more => by simp [Modes.dropBlanks, isBlank_bracket]
    | true =>
      refine .inr ⟨rfl, fun more hmore => ?_⟩
      exact dropBlanks_comment (by simpa using hmore)
  | cons c rest ih =>
    intro inComment
    simp only [List.cons_append, Modes.dropBlanks]
    cases inComment with
    | true => exact ih (c != '\n')
    | false =>
      simp only [Bool.false_eq_true, if_false]
      split
      · exact ih false
      · split
        · exact ih true
        · exact .inl fun more => rfl

/-- Skipping stops before the bracket, or an open comment takes it. -/
theorem skip_append (modes : Modes) (text : List Char) :
    (∀ more, modes.skip (text ++ ')' :: more) = modes.skip text ++ ')' :: more) ∨
    (modes.spaced = true ∧ modes.skip text = [] ∧
      ∀ more, '\n' ∉ more → modes.skip (text ++ ')' :: more) = []) := by
  unfold Modes.skip
  split
  · rename_i hspaced
    exact (dropBlanks_append text false).imp id fun h => ⟨hspaced, h⟩
  · exact .inl fun more => rfl

theorem dropBlanks_append_of_ne_nil {text : List Char} : ∀ {inComment : Bool},
    Modes.dropBlanks inComment text ≠ [] → ∀ more,
      Modes.dropBlanks inComment (text ++ more) = Modes.dropBlanks inComment text ++ more := by
  -- Something is left only if the text does not end in a comment, so the same characters are
  -- dropped whatever follows.
  induction text with
  | nil => intro inComment h; exact absurd rfl h
  | cons c rest ih =>
    intro inComment h more
    simp only [List.cons_append, Modes.dropBlanks] at h ⊢
    split
    · rename_i hin
      simp only [hin, if_true] at h
      exact ih h more
    · rename_i hin
      simp only [hin] at h
      split
      · rename_i hblank
        simp only [hblank, if_true] at h
        exact ih h more
      · rename_i hblank
        simp only [hblank] at h
        split
        · rename_i hsign
          simp only [hsign, if_true] at h
          exact ih h more
        · rfl

theorem dropBlanks_dropBlanks (text : List Char) : ∀ inComment,
    Modes.dropBlanks false (Modes.dropBlanks inComment text) = Modes.dropBlanks inComment text := by
  induction text with
  | nil => intro inComment; rfl
  | cons c rest ih =>
    intro inComment
    cases inComment with
    | true => simpa [Modes.dropBlanks] using ih (c != '\n')
    | false =>
      by_cases hblank : Modes.isBlank c
      · simpa [Modes.dropBlanks, hblank] using ih false
      · by_cases hsign : c = '#'
        · subst hsign
          simpa [Modes.dropBlanks, hblank] using ih true
        · simp [Modes.dropBlanks, hblank, hsign]

theorem Modes.skip_skip (modes : Modes) (text : List Char) :
    modes.skip (modes.skip text) = modes.skip text := by
  unfold Modes.skip
  split
  · exact dropBlanks_dropBlanks text false
  · rfl

theorem Modes.skip_bracket (modes : Modes) (more : List Char) :
    modes.skip (')' :: more) = ')' :: more := by
  unfold Modes.skip
  split <;> simp [Modes.dropBlanks, isBlank_bracket]

/-- Where something is left after skipping, what follows the text makes no difference. -/
theorem skip_append_of_ne_nil {modes : Modes} {text : List Char} (h : modes.skip text ≠ [])
    (more : List Char) : modes.skip (text ++ more) = modes.skip text ++ more := by
  unfold Modes.skip at h ⊢
  split
  · rename_i hspaced
    rw [if_pos hspaced] at h
    exact dropBlanks_append_of_ne_nil h more
  · rfl

/-! ## Putting readers together -/

namespace Stable

variable {modes : Modes} {text : List Char}

theorem ok (found : α) (text : List Char) : Stable modes (fun text => .ok (found, text)) text := by
  intro found' rest h
  cases h
  exact .inl fun more => rfl

theorem of_error {read : List Char → Except ParseError (α × List Char)} {cause : ParseError}
    (h : read text = .error cause) : Stable modes read text := by
  intro found rest hfound
  rw [h] at hfound
  cases hfound

theorem bind {read : List Char → Except ParseError (α × List Char)}
    {next : α → List Char → Except ParseError (β × List Char)} (hread : Stable modes read text)
    (hnext : ∀ found rest, read text = .ok (found, rest) → Stable modes (next found) rest) :
    Stable modes (fun text => read text >>= fun answer => next answer.1 answer.2) text := by
  intro found rest h
  cases hr : read text with
  | error cause => simp [hr, Bind.bind, Except.bind] at h
  | ok answer =>
    obtain ⟨first, middle⟩ := answer
    have hnext' : next first middle = .ok (found, rest) := by
      simpa [hr, Bind.bind, Except.bind] using h
    -- The first reader may have swallowed all that was added. Then the second starts at the same
    -- text as before, and its answer is the same.
    rcases hread first middle hr with hkeep | ⟨hspaced, hswallow⟩
    · refine (hnext first middle hr found rest hnext').imp (fun hlater more => ?_)
        fun hlater => ⟨hlater.1, fun more hmore => ?_⟩
      · simpa [hkeep, Bind.bind, Except.bind] using hlater more
      · simpa [hkeep, Bind.bind, Except.bind] using hlater.2 more hmore
    · refine .inr ⟨hspaced, fun more hmore => ?_⟩
      simpa [hswallow more hmore, Bind.bind, Except.bind] using hnext'

/-- A reader that skips first. -/
theorem skip {read : List Char → Except ParseError (α × List Char)}
    (h : Stable modes read (modes.skip text)) :
    Stable modes (fun text => read (modes.skip text)) text := by
  intro found rest hread
  -- Either the skipping stops inside the text, or it goes on through the text and what is added.
  rcases skip_append modes text with hkeep | ⟨hspaced, hnil, hswallow⟩
  · refine (h found rest hread).imp (fun hlater more => ?_)
      fun hlater => ⟨hlater.1, fun more hmore => ?_⟩
    · show read (modes.skip _) = _
      rw [hkeep]
      exact hlater more
    · show read (modes.skip _) = _
      rw [hkeep]
      exact hlater.2 more hmore
  · refine .inr ⟨hspaced, fun more hmore => ?_⟩
    show read (modes.skip _) = _
    rw [hswallow more hmore, ← hnil]
    exact hread

/-- A reader that answers on this text, and on what goes on from it, as another one does on what
is left of the text. -/
theorem congr {read other : List Char → Except ParseError (α × List Char)} {left : List Char}
    (h : Stable modes other left) (hread : read text = other left)
    (hmore : ∀ more, read (text ++ ')' :: more) = other (left ++ ')' :: more)) :
    Stable modes read text := by
  intro found rest hfound
  simp only [hmore]
  exact h found rest (hread ▸ hfound)

/-- A reader that skips first need be looked at only where nothing is left to skip. -/
theorem of_skipped {read : List Char → Except ParseError (α × List Char)}
    (hskip : ∀ text, read text = read (modes.skip text))
    (h : ∀ text, modes.skip text = text →
      (∀ more, modes.skip (text ++ ')' :: more) = text ++ ')' :: more) → Stable modes read text)
    (text : List Char) : Stable modes read text := by
  have hfix := modes.skip_skip text
  have hread : Stable modes (fun text => read (modes.skip text)) text := by
    refine .skip (h _ hfix fun more => ?_)
    rcases hnil : modes.skip text with _ | ⟨c, rest⟩
    · exact modes.skip_bracket more
    · rw [skip_append_of_ne_nil, ← hnil, hfix]
      simp [← hnil, hfix]
      simp [hnil]
  exact hread.congr (hskip text) fun more => hskip _

/-- A reader that takes the first character first. -/
theorem cons {read : List Char → Except ParseError (α × List Char)} {c : Char}
    (h : Stable modes (fun rest => read (c :: rest)) text) : Stable modes read (c :: text) := h

end Stable

/-! ## Numbers and names -/

/-- A run of characters that ends before the text does is the same whatever follows the text. -/
theorem spanSkipping_append {modes : Modes} {passes : Char → Bool} {text taken rest : List Char}
    (h : spanSkipping modes passes text = (taken, rest)) (hrest : rest ≠ []) (more : List Char) :
    spanSkipping modes passes (text ++ more) = (taken, rest ++ more) := by
  induction text using spanSkipping.induct modes passes generalizing taken with
  | case1 =>
    rw [spanSkipping] at h
    exact absurd (congrArg Prod.snd h).symm hrest
  | case2 c after hc taken' after' hspan ih =>
    rw [spanSkipping, if_pos hc, hspan] at h
    cases h
    -- If nothing were left behind the blanks, nothing would be left behind the span.
    have hskip : modes.skip after ≠ [] := by
      intro hnil
      rw [hnil, spanSkipping] at hspan
      exact hrest (congrArg Prod.snd hspan).symm
    rw [List.cons_append, spanSkipping, if_pos hc, skip_append_of_ne_nil hskip, ih hspan]
  | case3 c after hc =>
    rw [spanSkipping, if_neg hc] at h
    cases h
    rw [List.cons_append, spanSkipping, if_neg hc]

theorem stable_readDigits (modes : Modes) (count : Nat) :
    ∀ text, Stable modes (readDigits modes count) text := by
  induction count with
  | zero => intro text; exact .ok [] text
  | succ count ih =>
    intro text
    cases text with
    | nil => exact .of_error rfl
    | cons c rest =>
      refine .cons ?_
      simp only [readDigits]
      split
      · exact .bind (.skip (ih _)) fun digits rest _ => .ok (c :: digits) rest
      · exact .of_error rfl

/-- A run that ends at a character of the text is found there whatever skipping comes first. -/
theorem spanSkipping_skip_append {modes : Modes} {passes : Char → Bool}
    {text taken rest : List Char} {c : Char}
    (h : spanSkipping modes passes (modes.skip text) = (taken, c :: rest)) (more : List Char) :
    spanSkipping modes passes (modes.skip (text ++ more)) = (taken, c :: (rest ++ more)) := by
  have hskip : modes.skip text ≠ [] := by
    intro hnil
    rw [hnil, spanSkipping] at h
    cases h
  rw [skip_append_of_ne_nil hskip]
  exact spanSkipping_append h (List.cons_ne_nil c rest) more

/-- The character with the number that the digits write, and the text after it. -/
def numbered (asByte : Bool) (digits rest : List Char) : Except ParseError (Primitive × List Char) :=
  match scalar? (Unicode.hexNumber digits) with
  | some c => .ok (.literal c asByte, rest)
  | none => .error .notScalar

theorem stable_numbered (modes : Modes) (asByte : Bool) (digits text : List Char) :
    Stable modes (numbered asByte digits) text := by
  unfold numbered
  split
  · exact .ok _ text
  · exact .of_error rfl

theorem stable_readNumbered (modes : Modes) (count : Nat) :
    ∀ text, Stable modes (readNumbered modes count) text := by
  -- Without a brace the digits are counted, and so they are told about first, for any text.
  have hdigits : ∀ text, Stable modes (fun text => readDigits modes count text >>= fun answer =>
      numbered (!false && count == 2) answer.1 answer.2) text :=
    fun text => .bind (stable_readDigits modes count text) fun digits rest _ =>
      stable_numbered modes _ digits rest
  refine .of_skipped (fun text => by simp only [readNumbered, modes.skip_skip])
    fun text hfix hmore => ?_
  rcases text with _ | ⟨c, rest⟩
  · refine (hdigits []).congr ?_ fun more => ?_
    · simp [readNumbered, hfix]
      rfl
    · simp [readNumbered, modes.skip_bracket]
      rfl
  · simp only [List.cons_append] at hmore
    by_cases hc : c = '\x7b'
    · subst hc
      -- In braces the digits go on to the brace. If it is missing, or nothing stands in front of
      -- it, that is an error whatever follows.
      rcases hspan : spanSkipping modes (fun c => (Unicode.hexValue? c).isSome) (modes.skip rest)
        with ⟨digits, _ | ⟨d, after⟩⟩
      · exact .of_error (by simp [readNumbered, hfix, hspan]; rfl)
      · have hmore' := spanSkipping_skip_append hspan
        by_cases hd : d = '\x7d'
        · subst hd
          by_cases hnil : digits = []
          · exact .of_error (by simp [readNumbered, hfix, hspan, hnil]; rfl)
          · refine (stable_numbered modes (!true && count == 2) digits
              (modes.skip after)).skip.congr ?_ fun more => ?_
            · simp [readNumbered, hfix, hspan, hnil]
              rfl
            · simp [readNumbered, hmore, hmore', hnil]
              rfl
        · exact .of_error (by simp [readNumbered, hfix, hspan, hd]; rfl)
    · refine (hdigits (c :: rest)).congr ?_ fun more => ?_
      · simp [readNumbered, hfix, hc]
        rfl
      · simp [readNumbered, hmore, hc]
        rfl

theorem stable_readBraced (modes : Modes) (text : List Char) :
    Stable modes (readBraced modes) text := by
  rcases hspan : spanSkipping modes (· != '\x7d') (modes.skip text) with ⟨name, _ | ⟨c, rest⟩⟩
  · exact .of_error (show _ = Except.error .escapeUnfinished by simp [readBraced, hspan])
  · have hmore := spanSkipping_skip_append hspan
    by_cases hc : c = '\x7d'
    · subst hc
      refine (Stable.ok name rest).congr ?_ fun more => ?_
      · simp [readBraced, hspan]
      · simp [readBraced, hmore]
    · exact .of_error (show _ = Except.error .escapeUnfinished by simp [readBraced, hspan, hc])

/-- The class of a property, if there is one, and the text after it. -/
def ofProperty (modes : Modes) (negated : Bool) (found : Option Property.Query)
    (rest : List Char) : Except ParseError (Primitive × List Char) :=
  match found with
  | some query =>
    if modes.unicode then
      .ok (.chars (foldThenNegate modes (negated != query.negated) (.table query.ranges)), rest)
    else .error .beyondScalars
  | none => .error .propertyUnknown

theorem stable_ofProperty (modes : Modes) (negated : Bool) (found : Option Property.Query)
    (text : List Char) : Stable modes (ofProperty modes negated found) text := by
  unfold ofProperty
  split
  · split
    · exact .ok _ text
    · exact .of_error rfl
  · exact .of_error rfl

theorem stable_readProperty (modes : Modes) (negated : Bool) :
    ∀ text, Stable modes (readProperty modes negated) text := by
  refine .of_skipped (fun text => by simp only [readProperty, modes.skip_skip])
    fun text hfix hmore => ?_
  rcases text with _ | ⟨c, rest⟩
  · exact .of_error (by simp [readProperty, hfix]; rfl)
  · simp only [List.cons_append] at hmore
    -- A name in braces, or a single letter. A backslash is neither.
    by_cases hc : c = '\x7b'
    · subst hc
      refine (Stable.bind (stable_readBraced modes rest) fun name rest _ =>
        stable_ofProperty modes negated (Property.Query.ofBraces? name) rest).congr ?_ fun more => ?_
      · simp [readProperty, hfix]
        rfl
      · simp [readProperty, hmore]
        rfl
    · by_cases hescape : c = '\\'
      · subst hescape
        exact .of_error (by simp [readProperty, hfix]; rfl)
      · have hfound := stable_ofProperty modes negated (Property.Query.ofLetter? c)
        refine (hfound (modes.skip rest)).skip.congr ?_ fun more => ?_
        · simp [readProperty, hfix, hescape]
          rfl
        · simp [readProperty, hmore, hescape]
          rfl

/-- A word boundary; a brace that starts no edge's name is left where it is. -/
theorem stable_readBoundary (modes : Modes) (text : List Char) :
    Stable modes (readBoundary modes) text := by
  -- An edge is named in braces; with no name behind the brace, it is a plain boundary, and the
  -- brace is read as a repetition later. So the cases are those of the brace, of what it is
  -- followed by, and of where the name ends.
  rcases text with _ | ⟨c, inner⟩
  · refine (Stable.ok (Primitive.assertion (.word .boundary modes.wordRule)) []).congr rfl
      fun more => rfl
  · by_cases hc : c = '\x7b'
    · subst hc
      rcases hskip : modes.skip inner with _ | ⟨d, rest⟩
      · exact .of_error (show _ = Except.error .edgeUnknown by simp [readBoundary, hskip])
      · have hmore : ∀ more, modes.skip (inner ++ ')' :: more) = d :: (rest ++ ')' :: more) := by
          intro more
          rw [skip_append_of_ne_nil (by simp [hskip]), hskip, List.cons_append]
        by_cases hname : (d.isAlpha || d == '-') = true
        · rcases hspan : spanSkipping modes (fun c => c.isAlpha || c == '-') (d :: rest)
            with ⟨name, _ | ⟨e, after⟩⟩
          · exact .of_error (show _ = Except.error .edgeUnknown by
              simp [readBoundary, hskip, hname, hspan])
          · have hmore' := spanSkipping_append hspan (List.cons_ne_nil e after)
            by_cases he : e = '\x7d'
            · subst he
              rcases hedge : edgeNamed? name with _ | edge
              · exact .of_error (show _ = Except.error .edgeUnknown by
                  simp [readBoundary, hskip, hname, hspan, hedge])
              · refine (Stable.ok (Primitive.assertion (.word edge modes.wordRule))
                  after).congr ?_ fun more => ?_
                · simp [readBoundary, hskip, hname, hspan, hedge]
                · have hspan' := hmore' (')' :: more)
                  rw [List.cons_append] at hspan'
                  simp [readBoundary, hmore, hname, hspan', hedge]
            · exact .of_error (show _ = Except.error .edgeUnknown by
                simp [readBoundary, hskip, hname, hspan, he])
        · refine (Stable.ok (Primitive.assertion (.word .boundary modes.wordRule))
            ('\x7b' :: inner)).congr ?_ fun more => ?_
          · simp [readBoundary, hskip, hname]
          · simp [readBoundary, hmore, hname]
    · refine (Stable.ok (Primitive.assertion (.word .boundary modes.wordRule))
        (c :: inner)).congr ?_ fun more => ?_
      · simp [readBoundary, hc]
      · simp [readBoundary, hc]

/-- A reader that gives what is settled already, or its error, and takes nothing. -/
theorem Stable.of_settled (modes : Modes) (settled : Except ParseError α) (text : List Char) :
    Stable modes (fun text => settled >>= fun found => .ok (found, text)) text := by
  cases settled with
  | error cause => exact .of_error rfl
  | ok found => exact .ok found text

theorem stable_readEscape (modes : Modes) (text : List Char) :
    Stable modes (readEscape modes) text := by
  rcases text with _ | ⟨c, rest⟩
  · exact .of_error rfl
  · refine .cons ?_
    simp only [readEscape]
    split
    -- Characters by number and properties, then the classes with a letter of their own.
    · exact stable_readNumbered modes 2 rest
    · exact stable_readNumbered modes 4 rest
    · exact stable_readNumbered modes 8 rest
    · exact stable_readProperty modes false rest
    · exact stable_readProperty modes true rest
    iterate 6 · exact .of_settled modes (letterClass modes _ _ _) rest
    -- Controls, then places in the text.
    iterate 8 · exact .ok _ rest
    · exact stable_readBoundary modes rest
    iterate 3 · exact .ok _ rest
    -- Any other character stands for itself, or may not be escaped.
    · split
      · exact .of_error rfl
      · split
        · exact .ok _ rest
        · exact .of_error rfl

/-! ## Quantifiers -/

theorem stable_spanSkipping {modes : Modes} {passes : Char → Bool} (hpasses : passes ')' = false)
    (text : List Char) : Stable modes (fun text => .ok (spanSkipping modes passes text)) text := by
  -- Where the span stops at the end of the text, the bracket stops it.
  induction text using spanSkipping.induct modes passes with
  | case1 =>
    refine (Stable.ok [] []).congr (by simp [spanSkipping]) fun more => ?_
    simp [spanSkipping, hpasses]
  | case2 c rest hc taken after hspan ih =>
    have hnext := Stable.bind ih.skip fun taken after _ => Stable.ok (c :: taken) after
    refine hnext.congr ?_ fun more => ?_
    · rw [spanSkipping, if_pos hc]
      rfl
    · rw [List.cons_append, spanSkipping, if_pos hc]
      rfl
  | case3 c rest hc =>
    refine (Stable.ok [] (c :: rest)).congr ?_ fun more => ?_
    · rw [spanSkipping, if_neg hc]
    · rw [List.cons_append, spanSkipping, if_neg hc]

theorem dropWhile_isBlank_append (text more : List Char) :
    (text ++ ')' :: more).dropWhile Modes.isBlank =
      text.dropWhile Modes.isBlank ++ ')' :: more := by
  induction text with
  | nil => simp [isBlank_bracket]
  | cons c rest ih => by_cases hc : Modes.isBlank c <;> simp [hc, ih]

/-- A bound of a counted quantifier, after its digits. -/
def countOf (digits rest : List Char) : Except ParseError (Option Nat × List Char) :=
  if digits = [] then .ok (none, rest.dropWhile Modes.isBlank)
  else if decimalNumber digits ≤ greatestCount then
    .ok (some (decimalNumber digits), rest.dropWhile Modes.isBlank)
  else .error .countTooLarge

theorem stable_countOf (modes : Modes) (digits rest : List Char) :
    Stable modes (countOf digits) rest := by
  unfold countOf
  split
  · exact (Stable.ok none (rest.dropWhile Modes.isBlank)).congr rfl fun more => by
      rw [dropWhile_isBlank_append]
  · split
    · exact (Stable.ok _ (rest.dropWhile Modes.isBlank)).congr rfl fun more => by
        rw [dropWhile_isBlank_append]
    · exact .of_error rfl

/-- A bound is read as a run of digits and the number that they make. -/
theorem readCount_append (modes : Modes) (text more : List Char) :
    readCount modes (text ++ ')' :: more) =
      (.ok (spanSkipping modes Char.isDigit (text.dropWhile Modes.isBlank ++ ')' :: more)) >>=
        fun span => countOf span.1 span.2) := by
  rw [readCount, dropWhile_isBlank_append]
  rfl

theorem stable_readCount (modes : Modes) (text : List Char) :
    Stable modes (readCount modes) text := by
  have hspan : Stable modes (fun text => .ok (spanSkipping modes Char.isDigit text))
      (text.dropWhile Modes.isBlank) := stable_spanSkipping (by decide) _
  exact (Stable.bind hspan fun digits rest _ => stable_countOf modes digits rest).congr rfl
    fun more => readCount_append modes text more

theorem stable_readGreed (modes : Modes) (text : List Char) :
    Stable modes (fun text => .ok (readGreed modes text)) text := by
  rcases text with _ | ⟨c, rest⟩
  · exact (Stable.ok (!modes.swapGreed) []).congr rfl fun more => rfl
  · by_cases hc : c = '?'
    · subst hc
      exact (Stable.ok modes.swapGreed rest).congr rfl fun more => rfl
    · refine (Stable.ok (!modes.swapGreed) (c :: rest)).congr ?_ fun more => ?_ <;>
        simp [readGreed, hc]

/-- The bounds of a counted quantifier, with the upper one. -/
def boundsTo (low : Nat) (high : Option Nat) (rest : List Char) :
    Except ParseError ((Nat × Option Nat) × List Char) :=
  match high with
  | some high => .ok ((low, some high), rest)
  | none => .error .countMissing

/-- The bounds of a counted quantifier, after the comma. -/
def upperBound (modes : Modes) (low : Nat) :
    List Char → Except ParseError ((Nat × Option Nat) × List Char)
  | '\x7d' :: rest => .ok ((low, none), '\x7d' :: rest)
  | rest => readCount modes rest >>= fun high => boundsTo low high.1 high.2

/-- The bounds of a counted quantifier, after the lower one has been read. -/
def laterBounds (modes : Modes) (low : Option Nat) :
    List Char → Except ParseError ((Nat × Option Nat) × List Char)
  | [] => .error .countUnclosed
  | c :: rest =>
    match low with
    | none => .error .countMissing
    | some low =>
      if c = ',' then upperBound modes low (modes.skip rest) else .ok ((low, some low), c :: rest)

/-- The end of a counted quantifier, after its bounds. -/
def closeCount (modes : Modes) (limits : Nat × Option Nat) (rest : List Char) :
    Except ParseError (Token × List Char) :=
  match rest with
  | '\x7d' :: rest =>
    let (greedy, rest) := readGreed modes (modes.skip rest)
    if limits.2.any (· < limits.1) then .error .countReversed
    else .ok (.quantifier limits.1 limits.2 greedy, rest)
  | _ => .error .countUnclosed

theorem readCounted_eq (modes : Modes) (text : List Char) : readCounted modes text =
    (readCount modes (modes.skip text) >>= fun low => laterBounds modes low.1 low.2 >>= fun limits =>
      closeCount modes limits.1 limits.2) := by
  unfold readCounted
  congr 1
  funext ⟨low, rest⟩
  -- The reader's branches: no comma, a comma and nothing, a comma and the closing brace, a comma
  -- and a second count.
  rcases rest with _ | ⟨c, rest⟩
  · rfl
  · by_cases hc : c = ','
    · subst hc
      rcases low with _ | low
      · rcases hskip : modes.skip rest with _ | ⟨d, after⟩ <;> simp [laterBounds, hskip] <;> rfl
      · rcases hskip : modes.skip rest with _ | ⟨d, after⟩
        · simp only [laterBounds, upperBound, hskip, if_true, bind_assoc]
          congr 1
          funext ⟨high, rest⟩
          cases high <;> rfl
        · by_cases hd : d = '\x7d'
          · subst hd
            simp [laterBounds, upperBound, hskip]
            rfl
          · simp [laterBounds, upperBound, hskip, hd]
            congr 1
            funext ⟨high, rest⟩
            cases high <;> rfl
    · rcases low with _ | low <;> simp [laterBounds, hc] <;> rfl

theorem stable_upperBound (modes : Modes) (low : Nat) (text : List Char) :
    Stable modes (upperBound modes low) text := by
  have hbound : ∀ (high : Option Nat) (rest : List Char), Stable modes (boundsTo low high) rest := by
    intro high rest
    cases high with
    | none => exact .of_error rfl
    | some bound => exact .ok (low, some bound) rest
  have hhigh := Stable.bind (stable_readCount modes text) fun high rest _ => hbound high rest
  rcases text with _ | ⟨c, rest⟩
  · exact hhigh.congr rfl fun more => rfl
  · by_cases hc : c = '\x7d'
    · subst hc
      exact (Stable.ok (low, none) ('\x7d' :: rest)).congr rfl fun more => rfl
    · refine hhigh.congr ?_ fun more => ?_ <;> simp [upperBound, hc]

theorem stable_laterBounds (modes : Modes) (low : Option Nat) (text : List Char) :
    Stable modes (laterBounds modes low) text := by
  rcases text with _ | ⟨c, rest⟩
  · exact .of_error rfl
  · refine .cons ?_
    simp only [laterBounds]
    split
    · exact .of_error rfl
    · split
      · exact (stable_upperBound modes _ (modes.skip rest)).skip
      · exact (Stable.ok _ (c :: rest)).congr rfl fun more => rfl

theorem stable_closeCount (modes : Modes) (limits : Nat × Option Nat) (text : List Char) :
    Stable modes (closeCount modes limits) text := by
  rcases text with _ | ⟨c, rest⟩
  · exact .of_error rfl
  · by_cases hc : c = '\x7d'
    · subst hc
      by_cases hlow : limits.2.any (· < limits.1)
      · exact .of_error (show _ = Except.error .countReversed by simp [closeCount, hlow])
      · have hgreed := Stable.bind (stable_readGreed modes (modes.skip rest)).skip
          fun greedy rest _ => Stable.ok (Token.quantifier limits.1 limits.2 greedy) rest
        refine hgreed.congr ?_ fun more => ?_ <;> simp [closeCount, hlow] <;> rfl
    · exact .of_error (show _ = Except.error .countUnclosed by simp [closeCount, hc])

theorem stable_readCounted (modes : Modes) (text : List Char) :
    Stable modes (readCounted modes) text := by
  refine Stable.congr (.bind (stable_readCount modes (modes.skip text)).skip fun low rest _ =>
    .bind (stable_laterBounds modes low rest) fun limits rest _ =>
      stable_closeCount modes limits rest) (readCounted_eq modes text) fun more => ?_
  exact readCounted_eq modes _

/-! ## Bracketed classes -/

theorem stable_readClassPrimitive (modes : Modes) (text : List Char) :
    Stable modes (readClassPrimitive modes) text := by
  rcases text with _ | ⟨c, rest⟩
  · exact .of_error rfl
  · by_cases hc : c = '\\'
    · subst hc
      exact stable_readEscape modes rest
    · refine (Stable.ok (Primitive.literal c false) rest).congr ?_ fun more => ?_ <;>
        simp [readClassPrimitive]

/-- What stands past a character is no other closing sign for the bracket that follows the text. -/
theorem peekPast_append (modes : Modes) (c : Char) (rest more : List Char) {d : Char}
    (hd : d ≠ ')') : (peekPast modes (c :: (rest ++ ')' :: more)) == some d) =
      (peekPast modes (c :: rest) == some d) := by
  have hhead : ∀ text : List Char,
      ((text ++ ')' :: more).head? == some d) = (text.head? == some d) := by
    intro text
    cases text <;> simp [hd.symm]
  by_cases hspaced : modes.spaced = true
  · simp only [peekPast, hspaced, if_true, dropWhile_isBlank_append]
    -- A comment may stand between the blanks and the character looked for; it ends within the text
    -- or the bracket is in it.
    rcases rest.dropWhile Modes.isBlank with _ | ⟨e, after⟩
    · exact hhead []
    · by_cases he : e = '#'
      · subst he
        simp only [List.cons_append, dropWhile_isBlank_append]
        exact hhead _
      · simp [he]
  · simp only [peekPast, hspaced]
    exact hhead rest

/-- The range from one character to another. -/
def Primitive.rangeTo (modes : Modes) (first second : Primitive) : Except ParseError CharClass := do
  let low ← first.character modes
  let high ← second.character modes
  if low ≤ high then .ok (.range low high) else .error .rangeReversed

/-- What follows the first character of an item: nothing that belongs to it, or a range. -/
def classItemAfter (modes : Modes) (first : Primitive) :
    List Char → Except ParseError (CharClass × List Char)
  | [] => .error .classUnclosed
  | c :: rest =>
    if c != '-' || peekPast modes (c :: rest) == some ']' || peekPast modes (c :: rest) == some '-'
    then do
      let item ← first.item modes
      .ok (item, c :: rest)
    else do
      let (second, rest) ← readClassPrimitive modes (modes.skip rest)
      let range ← first.rangeTo modes second
      .ok (range, rest)

theorem stable_classItemAfter (modes : Modes) (first : Primitive) (text : List Char) :
    Stable modes (classItemAfter modes first) text := by
  rcases text with _ | ⟨c, rest⟩
  · exact .of_error rfl
  · by_cases hrange : (c != '-' || peekPast modes (c :: rest) == some ']' ||
        peekPast modes (c :: rest) == some '-') = true
    · refine (Stable.of_settled modes (first.item modes) (c :: rest)).congr ?_ fun more => ?_
      · rw [classItemAfter, if_pos hrange]
      · rw [List.cons_append, classItemAfter, peekPast_append modes c rest more (by decide),
          peekPast_append modes c rest more (by decide), if_pos hrange]
    · have hsecond := Stable.bind (stable_readClassPrimitive modes (modes.skip rest)).skip
        fun second rest _ => Stable.of_settled modes (first.rangeTo modes second) rest
      refine hsecond.congr ?_ fun more => ?_
      · rw [classItemAfter, if_neg hrange]
      · rw [List.cons_append, classItemAfter, peekPast_append modes c rest more (by decide),
          peekPast_append modes c rest more (by decide), if_neg hrange]

theorem readClassItem_eq (modes : Modes) (text : List Char) : readClassItem modes text =
    (readClassPrimitive modes text >>= fun first =>
      classItemAfter modes first.1 (modes.skip first.2)) := by
  unfold readClassItem
  congr 1
  funext ⟨first, rest⟩
  -- One primitive, and a range if a hyphen follows it that has something behind it.
  rcases hskip : modes.skip rest with _ | ⟨c, rest⟩
  · simp only [hskip, classItemAfter]
  · simp only [hskip, classItemAfter]
    split
    · rfl
    · congr 1
      funext ⟨second, rest⟩
      unfold Primitive.rangeTo
      simp only [bind_assoc]
      congr 1
      funext low
      congr 1
      funext high
      split <;> rfl

theorem stable_readClassItem (modes : Modes) (text : List Char) :
    Stable modes (readClassItem modes) text := by
  refine (Stable.bind (stable_readClassPrimitive modes text) fun first rest _ =>
    (stable_classItemAfter modes first (modes.skip rest)).skip).congr
      (readClassItem_eq modes text) fun more => readClassItem_eq modes _

/-- A name with a bracket in it is no class's name. -/
theorem posix?_of_mem {name : List Char} (h : ')' ∈ name) : CharClass.posix? name = none := by
  have hne : ∀ word : String, ')' ∉ word.toList → String.ofList name ≠ word := by
    intro word hword heq
    rw [← heq, String.toList_ofList] at hword
    exact hword h
  unfold CharClass.posix?
  split
  iterate 14
    rename_i heq
    exact absurd heq (hne _ (by decide))
  rfl

end Switchyard.Regex
