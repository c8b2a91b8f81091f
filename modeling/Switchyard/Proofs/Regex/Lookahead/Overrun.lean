import Switchyard.Proofs.Regex.Lookahead.Progress

/-!
# Refused text before a closing bracket

`Stable` says what a reader makes of a text that it can read when a bracket and more text follow.
This is the other half: a text that a reader refuses. Most readers refuse it all the same (`Firm`).
A few miss one character only, and take the bracket for it; `Overruns` says what they find then and
what they leave. The readers of numbers, properties, escapes and counted quantifiers come here.
-/

namespace Switchyard.Regex

variable {α β : Type} {modes : Modes} {more : List Char}

/-- Where the reader refuses the text, it refuses it before a closing bracket as well, or it reads
past the end of the text, and what it finds there and leaves is as `lands` says. -/
def Overruns (more : List Char) (lands : α → List Char → Prop)
    (read : List Char → Except ParseError (α × List Char)) (text : List Char) : Prop :=
  ∀ cause, read text = .error cause → ∀ found rest,
    read (text ++ ')' :: more) = .ok (found, rest) → lands found rest

/-- Where the reader refuses the text, it refuses it before a closing bracket as well. -/
def Firm (more : List Char) (read : List Char → Except ParseError (α × List Char))
    (text : List Char) : Prop :=
  Overruns more (fun _ _ => False) read text

namespace Overruns

variable {lands : α → List Char → Prop} {read : List Char → Except ParseError (α × List Char)}
  {text : List Char}

theorem of_ok {found : α × List Char} (h : read text = .ok found) :
    Overruns more lands read text := by
  intro cause hcause
  rw [h] at hcause
  cases hcause

/-- Nothing is found once the bracket follows. -/
theorem of_refused {cause : ParseError} (h : read (text ++ ')' :: more) = .error cause) :
    Overruns more lands read text := by
  intro _ _ found rest hfound
  rw [h] at hfound
  cases hfound

theorem of_lands {found : α} {rest : List Char}
    (h : read (text ++ ')' :: more) = .ok (found, rest)) (hlands : lands found rest) :
    Overruns more lands read text := by
  intro _ _ found' rest' hfound
  rw [h] at hfound
  cases hfound
  exact hlands

/-- What is settled without the text is refused or not whatever follows it. -/
theorem settled (settled : Except ParseError α) (text : List Char) :
    Overruns more lands (fun text => settled >>= fun found => .ok (found, text)) text := by
  cases settled with
  | error cause => exact of_refused rfl
  | ok found => exact of_ok rfl

theorem bind {next : α → List Char → Except ParseError (β × List Char)}
    {final : β → List Char → Prop} (hline : '\n' ∉ more) (hstable : Stable modes read text)
    (hread : Overruns more lands read text)
    (hnext : ∀ found rest, read text = .ok (found, rest) → Overruns more final (next found) rest)
    (hlands : ∀ found rest, lands found rest → ∀ answer left,
      next found rest = .ok (answer, left) → final answer left) :
    Overruns more final (fun text => read text >>= fun answer => next answer.1 answer.2) text := by
  intro cause hcause answer left hanswer
  -- What the reader says of the longer text decides where the next one goes on.
  cases hlonger : read (text ++ ')' :: more) with
  | error other => simp [hlonger, Bind.bind, Except.bind] at hanswer
  | ok found =>
    obtain ⟨found, rest⟩ := found
    have hrest : next found rest = .ok (answer, left) := by
      simpa [hlonger, Bind.bind, Except.bind] using hanswer
    cases halone : read text with
    | error other => exact hlands found rest (hread other halone found rest hlonger) _ _ hrest
    | ok alone =>
      obtain ⟨initial, middle⟩ := alone
      have hrefused : next initial middle = .error cause := by
        simpa [halone, Bind.bind, Except.bind] using hcause
      rcases hstable initial middle halone with hkeep | ⟨-, hswallow⟩
      · rw [hkeep more] at hlonger
        cases hlonger
        exact hnext _ _ halone cause hrefused answer left hrest
      -- A comment has taken in the bracket, and the next reader sees what it saw before.
      · rw [hswallow more hline] at hlonger
        cases hlonger
        rw [hrefused] at hrest
        cases hrest

/-- A reader that skips first. -/
theorem skip (hline : '\n' ∉ more) (h : Overruns more lands read (modes.skip text)) :
    Overruns more lands (fun text => read (modes.skip text)) text := by
  intro cause hcause found rest hfound
  rcases skip_append modes text with hkeep | ⟨-, hnil, hswallow⟩
  · simp only [hkeep] at hfound
    exact h cause hcause found rest hfound
  · simp only [hswallow more hline] at hfound
    simp only [hnil] at hcause
    rw [hcause] at hfound
    cases hfound

/-- A reader that answers on this text, and on the text before the bracket, as another one does on
what is left of the text. -/
theorem congr {other : List Char → Except ParseError (α × List Char)} {left : List Char}
    (h : Overruns more lands other left) (hread : read text = other left)
    (hmore : read (text ++ ')' :: more) = other (left ++ ')' :: more)) :
    Overruns more lands read text := by
  intro cause hcause found rest hfound
  exact h cause (hread ▸ hcause) found rest (hmore ▸ hfound)

theorem mono {weaker : α → List Char → Prop} (h : Overruns more lands read text)
    (himp : ∀ found rest, lands found rest → weaker found rest) :
    Overruns more weaker read text :=
  fun cause hcause found rest hfound => himp found rest (h cause hcause found rest hfound)

end Overruns

namespace Firm

variable {lands : α → List Char → Prop} {read : List Char → Except ParseError (α × List Char)}
  {text : List Char}

theorem ok (found : α) (text : List Char) : Firm more (fun text => .ok (found, text)) text :=
  .of_ok rfl

theorem overruns (h : Firm more read text) : Overruns more lands read text :=
  Overruns.mono h fun _ _ => False.elim

/-- After a reader that is firm all depends on the next one. -/
theorem bind {next : α → List Char → Except ParseError (β × List Char)}
    {final : β → List Char → Prop} (hline : '\n' ∉ more) (hstable : Stable modes read text)
    (hread : Firm more read text)
    (hnext : ∀ found rest, read text = .ok (found, rest) → Overruns more final (next found) rest) :
    Overruns more final (fun text => read text >>= fun answer => next answer.1 answer.2) text :=
  Overruns.bind hline hstable hread hnext fun _ _ => False.elim

end Firm

/-! ## Numbers and properties -/

theorem hexValue?_bracket : Unicode.hexValue? ')' = none := by decide

theorem firm_readDigits (hline : '\n' ∉ more) (count : Nat) :
    ∀ text, Firm more (readDigits modes count) text := by
  induction count with
  | zero => exact fun text => .of_ok rfl
  | succ count ih =>
    intro text
    rcases text with _ | ⟨c, rest⟩
    · refine .of_refused (show _ = Except.error .digitsExpected from ?_)
      simp [readDigits, hexValue?_bracket]
    · by_cases hc : (Unicode.hexValue? c).isSome = true
      · have hdigits : Firm more (fun text => readDigits modes count (modes.skip text)) rest :=
          .skip hline (ih _)
        have hnext := Firm.bind hline (stable_readDigits modes count _).skip hdigits
          fun digits rest _ => Firm.ok (c :: digits) rest
        refine hnext.congr ?_ ?_ <;> simp [readDigits, hc]
      · refine .of_refused (show _ = Except.error .digitsExpected from ?_)
        simp [readDigits, hc]

theorem firm_numbered (asByte : Bool) (digits text : List Char) :
    Firm more (numbered asByte digits) text := by
  unfold numbered
  split
  · exact .ok _ text
  · exact .of_refused rfl

theorem firm_closeNumber (hline : '\n' ∉ more) (asByte : Bool) (digits text : List Char) :
    Firm more (closeNumber modes asByte digits) text := by
  rcases text with _ | ⟨c, rest⟩
  · exact .of_refused rfl
  · by_cases hc : c = '\x7d'
    · subst hc
      by_cases hnil : digits = []
      · refine .of_refused (show _ = Except.error .digitsExpected from ?_)
        simp [closeNumber, hnil]
      · have hnumbered : Firm more (numbered asByte digits) (modes.skip rest) :=
          firm_numbered asByte digits _
        refine (Overruns.skip hline hnumbered).congr ?_ ?_ <;> simp [closeNumber, hnil]
    · refine .of_refused (show _ = Except.error .digitsExpected from ?_)
      simp [closeNumber, hc]

theorem firm_numberAfter (hline : '\n' ∉ more) (count : Nat) (text : List Char) :
    Firm more (numberAfter modes count) text := by
  have hdigits := Firm.bind hline (stable_readDigits modes count text)
    (firm_readDigits hline count text) fun digits rest _ =>
      firm_numbered (count == 2) digits rest
  rcases text with _ | ⟨c, rest⟩
  · exact hdigits.congr rfl rfl
  · by_cases hc : c = '\x7b'
    · subst hc
      let passes := fun c => (Unicode.hexValue? c).isSome
      have hspan : Stable modes (fun text => .ok (spanSkipping modes passes (modes.skip text)))
          rest := (stable_spanSkipping (by decide) _).skip
      exact (Firm.bind hline hspan (.of_ok rfl) fun digits rest _ =>
        firm_closeNumber hline false digits rest).congr rfl rfl
    · refine hdigits.congr ?_ ?_ <;> simp [numberAfter, hc]

theorem firm_readNumbered (hline : '\n' ∉ more) (count : Nat) (text : List Char) :
    Firm more (readNumbered modes count) text :=
  (Overruns.skip hline (firm_numberAfter hline count (modes.skip text))).congr
    (readNumbered_eq modes count text) (readNumbered_eq modes count _)

theorem dropBlanks_suffix (text : List Char) :
    ∀ inComment, Modes.dropBlanks inComment text <:+ text := by
  induction text with
  | nil => exact fun inComment => List.suffix_refl []
  | cons c rest ih =>
    have hrest : ∀ inComment, Modes.dropBlanks inComment rest <:+ c :: rest :=
      fun inComment => (ih inComment).trans (List.suffix_cons c rest)
    intro inComment
    unfold Modes.dropBlanks
    split
    · exact hrest _
    · split
      · exact hrest _
      · split
        · exact hrest _
        · exact List.suffix_refl _

theorem Modes.skip_suffix (modes : Modes) (text : List Char) : modes.skip text <:+ text := by
  unfold Modes.skip
  split
  · exact dropBlanks_suffix text false
  · exact List.suffix_refl text

/-- A run that no character stops goes to the end. -/
theorem spanSkipping_eq_nil {passes : Char → Bool} {text : List Char}
    (h : ∀ c ∈ text, passes c = true) : (spanSkipping modes passes text).2 = [] := by
  induction text using spanSkipping.induct modes passes with
  | case1 => rw [spanSkipping]
  | case2 c rest hc taken after hspan ih =>
    rw [spanSkipping, if_pos hc]
    exact ih fun d hd => h d (List.mem_cons_of_mem c ((modes.skip_suffix rest).mem hd))
  | case3 c rest hc => exact absurd (h c List.mem_cons_self) hc

/-- A run that comes to the end of the text, and is not stopped behind it, goes to the end. -/
theorem spanSkipping_append_eq_nil {passes : Char → Bool} (hline : '\n' ∉ more)
    (hmore : ∀ c ∈ ')' :: more, passes c = true) {text : List Char}
    (h : (spanSkipping modes passes text).2 = []) :
    (spanSkipping modes passes (text ++ ')' :: more)).2 = [] := by
  induction text using spanSkipping.induct modes passes with
  | case1 => exact spanSkipping_eq_nil hmore
  | case2 c rest hc taken after hspan ih =>
    rw [spanSkipping, if_pos hc] at h
    rw [List.cons_append, spanSkipping, if_pos hc]
    rcases skip_append modes rest with hkeep | ⟨-, hnil, hswallow⟩
    · rw [hkeep]
      exact ih h
    · rw [hswallow more hline, spanSkipping]
  | case3 c rest hc =>
    rw [spanSkipping, if_neg hc] at h
    cases h

/-- A run stops at a character that does not pass. -/
theorem passes_of_spanSkipping {passes : Char → Bool} {text rest : List Char} {c : Char}
    (h : (spanSkipping modes passes text).2 = c :: rest) : passes c = false := by
  induction text using spanSkipping.induct modes passes with
  | case1 =>
    rw [spanSkipping] at h
    cases h
  | case2 d after hd taken left hspan ih =>
    rw [spanSkipping, if_pos hd] at h
    exact ih h
  | case3 d after hd =>
    rw [spanSkipping, if_neg hd] at h
    cases h
    exact Bool.not_eq_true _ ▸ hd

/-- A name between braces that is not closed in the text is not closed behind it. -/
theorem firm_readBraced (hline : '\n' ∉ more) (hbrace : '\x7d' ∉ more) (text : List Char) :
    Firm more (readBraced modes) text := by
  let passes : Char → Bool := (· != '\x7d')
  have hmore : ∀ c ∈ ')' :: more, passes c = true := by
    intro c hc
    have hne : c ≠ '\x7d' := by
      rintro rfl
      exact (List.mem_cons.mp hc).elim (by decide) hbrace
    simpa [passes] using hne
  -- Without a closing brace the name is unfinished, and nothing that is added has one.
  rcases hspan : spanSkipping modes passes (modes.skip text) with ⟨name, _ | ⟨c, rest⟩⟩
  · have hnil : (spanSkipping modes passes (modes.skip (text ++ ')' :: more))).2 = [] := by
      rcases skip_append modes text with hkeep | ⟨-, -, hswallow⟩
      · rw [hkeep]
        exact spanSkipping_append_eq_nil hline hmore (by rw [hspan])
      · rw [hswallow more hline, spanSkipping]
    rcases hlonger : spanSkipping modes passes (modes.skip (text ++ ')' :: more))
      with ⟨longer, left⟩
    rw [hlonger] at hnil
    subst hnil
    refine .of_refused (show _ = Except.error .escapeUnfinished from ?_)
    simp only [readBraced, passes] at hlonger ⊢
    rw [hlonger]
  · have hc : passes c = false := passes_of_spanSkipping (by rw [hspan])
    have hc' : c = '\x7d' := by simpa [passes] using hc
    subst hc'
    refine .of_ok (show _ = Except.ok (name, rest) from ?_)
    simp only [readBraced, passes] at hspan ⊢
    simp only [hspan]

/-- No property is named by a bracket. -/
theorem ofLetter?_bracket : Property.Query.ofLetter? ')' = none :=
  Option.isNone_iff_eq_none.mp (by decide +kernel)

theorem propertyAfter_bracket (negated : Bool) :
    propertyAfter modes negated (')' :: more) = .error .propertyUnknown := by
  have hletter : propertyAfter modes negated (')' :: more) =
      ofProperty modes negated (Property.Query.ofLetter? ')') (modes.skip more) := by
    simp only [propertyAfter]
    rw [if_neg (by decide), if_neg (by decide)]
  rw [hletter, ofLetter?_bracket]
  rfl

theorem firm_ofProperty (negated : Bool) (found : Option Property.Query) (text : List Char) :
    Firm more (ofProperty modes negated found) text := by
  unfold ofProperty
  split
  · split
    · exact .ok _ text
    · exact .of_refused rfl
  · exact .of_refused rfl

theorem firm_propertyAfter (hline : '\n' ∉ more) (hbrace : '\x7d' ∉ more) (negated : Bool)
    (text : List Char) : Firm more (propertyAfter modes negated) text := by
  rcases text with _ | ⟨c, rest⟩
  · exact .of_refused (propertyAfter_bracket negated)
  · by_cases hc : c = '\x7b'
    · subst hc
      have hnamed : ∀ name rest, Firm more
          (ofProperty modes negated (Property.Query.ofBraces? name)) rest :=
        fun name rest => firm_ofProperty negated _ rest
      refine (Firm.bind hline (stable_readBraced modes rest) (firm_readBraced hline hbrace rest)
        fun name rest _ => hnamed name rest).congr ?_ ?_ <;> simp [propertyAfter]
    · by_cases hescape : c = '\\'
      · exact .of_refused (show _ = Except.error .propertyUnknown by simp [propertyAfter, hescape])
      · have hfound : Firm more (ofProperty modes negated (Property.Query.ofLetter? c))
            (modes.skip rest) := firm_ofProperty negated _ _
        refine (Overruns.skip hline hfound).congr ?_ ?_ <;> simp [propertyAfter, hc, hescape]

theorem firm_readProperty (hline : '\n' ∉ more) (hbrace : '\x7d' ∉ more) (negated : Bool)
    (text : List Char) : Firm more (readProperty modes negated) text :=
  (Overruns.skip hline (firm_propertyAfter hline hbrace negated (modes.skip text))).congr
    (readProperty_eq modes negated text) (readProperty_eq modes negated _)

/-! ## Escapes -/

/-- What an escape that the text does not finish may find: it takes the bracket in, or it is an
assertion and leaves what is no token. -/
def EscapeLands (modes : Modes) (more : List Char) (found : Primitive) (rest : List Char) : Prop :=
  rest = more ∨ ((∃ look, found = .assertion look) ∧ ∃ cause, Token.read? modes rest = .error cause)

/-- A brace in front of a bracket opens no counted quantifier. -/
theorem readCounted_bracket {inner : List Char}
    (h : modes.skip (inner ++ ')' :: more) = ')' :: more) :
    readCounted modes (inner ++ ')' :: more) = .error .countMissing := by
  have hcount : readCount modes (')' :: more) = .ok (none, ')' :: more) := by
    have hdrop : (')' :: more).dropWhile Modes.isBlank = ')' :: more :=
      dropWhile_isBlank_append [] more
    have hspan : spanSkipping modes Char.isDigit (')' :: more) = ([], ')' :: more) := by
      rw [spanSkipping, if_neg (by decide)]
    simp only [readCount, hdrop, hspan, if_true]
  rw [readCounted_eq, h, hcount]
  rfl

theorem Modes.skip_cons (modes : Modes) {c : Char} (hblank : Modes.isBlank c = false)
    (hsign : c ≠ '#') (text : List Char) : modes.skip (c :: text) = c :: text := by
  unfold Modes.skip
  split <;> simp [Modes.dropBlanks, hblank, hsign]

/-- The assertion that a name between braces stands for, where the brace is closed after it. -/
def closeEdge (modes : Modes) (name : List Char) :
    List Char → Except ParseError (Primitive × List Char)
  | '\x7d' :: rest =>
    match edgeNamed? name with
    | some edge => .ok (.assertion (.word edge modes.wordRule), rest)
    | none => .error .edgeUnknown
  | _ => .error .edgeUnknown

theorem firm_closeEdge (name text : List Char) : Firm more (closeEdge modes name) text := by
  rcases text with _ | ⟨c, rest⟩
  · exact .of_refused rfl
  · by_cases hc : c = '\x7d'
    · subst hc
      rcases hedge : edgeNamed? name with _ | edge
      · exact .of_refused (show _ = Except.error .edgeUnknown by simp [closeEdge, hedge])
      · exact .of_ok (by simp only [closeEdge, hedge]; rfl)
    · exact .of_refused (show _ = Except.error .edgeUnknown by simp [closeEdge, hc])

/-- The characters of the name of an edge. -/
def isEdgeChar (c : Char) : Bool := c.isAlpha || c == '-'

theorem readBoundary_named {inner rest : List Char} {c : Char} (h : modes.skip inner = c :: rest)
    (hc : isEdgeChar c = true) :
    readBoundary modes ('\x7b' :: inner) =
      closeEdge modes (spanSkipping modes isEdgeChar (c :: rest)).1
        (spanSkipping modes isEdgeChar (c :: rest)).2 := by
  have hc' : (c.isAlpha || c == '-') = true := hc
  have hspan : spanSkipping modes (fun c => c.isAlpha || c == '-') (c :: rest) =
      spanSkipping modes isEdgeChar (c :: rest) := rfl
  simp only [readBoundary, h, hc', if_true, hspan]
  rcases spanSkipping modes isEdgeChar (c :: rest) with ⟨name, _ | ⟨d, after⟩⟩
  · rfl
  · by_cases hd : d = '\x7d'
    · subst hd
      rfl
    · simp [closeEdge, hd]

theorem overruns_readBoundary (hline : '\n' ∉ more) (text : List Char) :
    Overruns more (EscapeLands modes more) (readBoundary modes) text := by
  rcases text with _ | ⟨c, inner⟩
  · exact .of_ok rfl
  · by_cases hc : c = '\x7b'
    · subst hc
      rcases hskip : modes.skip inner with _ | ⟨d, rest⟩
      · rcases skip_append modes inner with hkeep | ⟨-, -, hswallow⟩
        -- The brace is left for a quantifier, and the bracket makes it none.
        · have hleft : modes.skip (inner ++ ')' :: more) = ')' :: more := by
            rw [hkeep, hskip, List.nil_append]
          have hread : readBoundary modes ('\x7b' :: inner ++ ')' :: more) =
              .ok (.assertion (.word .boundary modes.wordRule),
                '\x7b' :: (inner ++ ')' :: more)) := by
            simp [readBoundary, hleft]
          refine .of_lands hread (.inr ⟨⟨_, rfl⟩, .countMissing, ?_⟩)
          have hbrace := modes.skip_cons (c := '\x7b') (isBlank_ascii (by decide)) (by decide)
            (inner ++ ')' :: more)
          simp [Token.read?, hbrace, Token.read, readCounted_bracket hleft, Except.map]
        · refine .of_refused (show _ = Except.error .edgeUnknown from ?_)
          simp [readBoundary, hswallow more hline]
      · have hmore : modes.skip (inner ++ ')' :: more) = d :: (rest ++ ')' :: more) := by
          rw [skip_append_of_ne_nil (by simp [hskip]), hskip, List.cons_append]
        -- Behind the blanks a name starts, and then the brace has to close it, or none does.
        by_cases hname : isEdgeChar d = true
        · have hspan : Stable modes (fun text => .ok (spanSkipping modes isEdgeChar text))
              (d :: rest) := stable_spanSkipping (by decide) _
          exact (Firm.bind hline hspan (.of_ok rfl) fun name rest _ =>
            (firm_closeEdge name rest).overruns).congr (readBoundary_named hskip hname)
              (readBoundary_named hmore hname)
        · have hname' : ¬ (d.isAlpha || d == '-') = true := hname
          have hread : readBoundary modes ('\x7b' :: inner) =
              .ok (.assertion (.word .boundary modes.wordRule), '\x7b' :: inner) := by
            simp [readBoundary, hskip, hname']
          exact .of_ok hread
    · have hread : readBoundary modes (c :: inner) =
          .ok (.assertion (.word .boundary modes.wordRule), c :: inner) := by
        simp [readBoundary, hc]
      exact .of_ok hread

theorem overruns_readEscape (hline : '\n' ∉ more) (hbrace : '\x7d' ∉ more) (text : List Char) :
    Overruns more (EscapeLands modes more) (readEscape modes) text := by
  rcases text with _ | ⟨c, rest⟩
  · exact .of_lands (show _ = Except.ok (Primitive.literal ')' false, more) from rfl) (.inl rfl)
  · have hnumbered : ∀ count, Overruns more (EscapeLands modes more)
        (readNumbered modes count) rest := fun count => (firm_readNumbered hline count rest).overruns
    have hproperty : ∀ negated, Overruns more (EscapeLands modes more)
        (readProperty modes negated) rest :=
      fun negated => (firm_readProperty hline hbrace negated rest).overruns
    show Overruns more _ (fun rest => readEscape modes (c :: rest)) rest
    simp only [readEscape]
    split
    -- Characters by number and properties, then the classes with a letter of their own.
    iterate 3 · exact hnumbered _
    iterate 2 · exact hproperty _
    iterate 6 · exact .settled _ rest
    -- Controls, then places in the text.
    iterate 8 · exact .of_ok rfl
    · exact overruns_readBoundary hline rest
    iterate 3 · exact .of_ok rfl
    -- Any other character stands for itself, or may not be escaped.
    · split
      · exact .of_refused rfl
      · split
        · exact .of_ok rfl
        · exact .of_refused rfl

/-! ## Quantifiers -/

theorem firm_readCount (hline : '\n' ∉ more) (text : List Char) :
    Firm more (readCount modes) text := by
  have hspan : Stable modes (fun text => .ok (spanSkipping modes Char.isDigit text))
      (text.dropWhile Modes.isBlank) := stable_spanSkipping (by decide) _
  have hcount : ∀ digits rest, Firm more (countOf digits) rest := by
    intro digits rest
    unfold countOf
    split
    · exact .of_ok rfl
    · split
      · exact .of_ok rfl
      · exact .of_refused rfl
  exact (Firm.bind hline hspan (.of_ok rfl) fun digits rest _ => hcount digits rest).congr rfl
    (readCount_append modes text more)

theorem firm_upperBound (hline : '\n' ∉ more) (low : Nat) (text : List Char) :
    Firm more (upperBound modes low) text := by
  have hbound : ∀ (high : Option Nat) (rest : List Char), Firm more (boundsTo low high) rest := by
    intro high rest
    cases high with
    | none => exact .of_refused rfl
    | some bound => exact .ok (low, some bound) rest
  have hhigh := Firm.bind hline (stable_readCount modes text) (firm_readCount hline text)
    fun high rest _ => hbound high rest
  rcases text with _ | ⟨c, rest⟩
  · exact hhigh.congr rfl rfl
  · by_cases hc : c = '\x7d'
    · subst hc
      exact .of_ok rfl
    · refine hhigh.congr ?_ ?_ <;> simp [upperBound, hc]

/-- Where the text ends after a lower bound, the bracket is left for the end of the quantifier. -/
theorem overruns_laterBounds (hline : '\n' ∉ more) (low : Option Nat) (text : List Char) :
    Overruns more (fun _ rest => rest = ')' :: more) (laterBounds modes low) text := by
  rcases text with _ | ⟨c, rest⟩
  · cases low with
    | none => exact .of_refused rfl
    | some low =>
      exact .of_lands (show _ = Except.ok ((low, some low), ')' :: more) from rfl) rfl
  · show Overruns more _ (fun rest => laterBounds modes low (c :: rest)) rest
    simp only [laterBounds]
    split
    · exact .of_refused rfl
    · split
      · exact (Overruns.skip hline (firm_upperBound hline _ (modes.skip rest))).mono
          fun _ _ => False.elim
      · exact .of_ok rfl

theorem firm_closeCount (limits : Nat × Option Nat) (text : List Char) :
    Firm more (closeCount modes limits) text := by
  rcases text with _ | ⟨c, rest⟩
  · exact .of_refused rfl
  · by_cases hc : c = '\x7d'
    · subst hc
      by_cases hlow : limits.2.any (· < limits.1)
      · exact .of_refused (show _ = Except.error .countReversed by simp [closeCount, hlow])
      · exact .of_ok (by simp only [closeCount, hlow]; rfl)
    · exact .of_refused (show _ = Except.error .countUnclosed by simp [closeCount, hc])

theorem firm_readCounted (hline : '\n' ∉ more) (text : List Char) :
    Firm more (readCounted modes) text := by
  have hlow : Firm more (fun text => readCount modes (modes.skip text)) text :=
    Overruns.skip hline (firm_readCount hline _)
  have hlimits : ∀ low rest, Firm more (fun rest => laterBounds modes low rest >>= fun limits =>
      closeCount modes limits.1 limits.2) rest := by
    intro low rest
    refine Overruns.bind hline (stable_laterBounds modes low rest)
      (overruns_laterBounds hline low rest) (fun limits rest _ => firm_closeCount limits rest) ?_
    -- The bracket does not close the quantifier.
    rintro limits left rfl answer after hafter
    cases hafter
  exact (Firm.bind hline (stable_readCount modes (modes.skip text)).skip hlow
    fun low rest _ => hlimits low rest).congr (readCounted_eq modes text) (readCounted_eq modes _)

end Switchyard.Regex
