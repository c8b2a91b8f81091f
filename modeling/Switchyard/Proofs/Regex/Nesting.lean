import Switchyard.Proofs.Regex.Lookahead.Token

/-!
# Patterns inside patterns

A pattern that stands between the brackets of a group is read there as it is read by itself
(`Assembly.Reads.group`): the groups around it lie under its own on the stack and are never looked
at, and the closing bracket is the first token after it. The one text for which this fails leaves a
comment open at its end, and such a text is no pattern once it is held between brackets.
-/

namespace Switchyard.Regex

namespace Assembly

/-- The assembly with more groups open around it. -/
def under (outer : List OpenGroup) (assembly : Assembly) : Assembly :=
  { assembly with enclosing := assembly.enclosing ++ outer }

@[simp]
theorem modes_under (outer : List OpenGroup) (assembly : Assembly) :
    (assembly.under outer).modes = assembly.modes := rfl

/-- A token does to the innermost groups what it does without those around them. -/
theorem accept_under (outer : List OpenGroup) {assembly next : Assembly} {token : Token}
    (h : assembly.accept token = .ok next) :
    (assembly.under outer).accept token = .ok (next.under outer) := by
  -- Only the closing of a group looks at the groups around, and it takes the innermost. If there is
  -- one inside, those outside are not reached.
  cases token with
  | atom pattern | directive modes | bar | opening grouping inside =>
    cases h
    rfl
  | closing =>
    obtain ⟨modes, branches, items, _ | ⟨group, enclosing⟩⟩ := assembly
    · cases h
    · cases h
      rfl
  | quantifier min max greedy =>
    obtain ⟨modes, branches, items, enclosing⟩ := assembly
    rcases items with _ | ⟨item, items⟩
    · cases h
    · cases item with
      | empty => cases h
      | _ =>
        cases h
        rfl

/-! ## Runs -/

theorem run_of_none {assembly : Assembly} {text : List Char} (fuel : Nat)
    (h : Token.read? assembly.modes text = .ok none) :
    run (fuel + 1) assembly text = .ok assembly := by
  rw [run, h]
  rfl

theorem run_of_some {assembly next : Assembly} {text rest : List Char} {token : Token} (fuel : Nat)
    (h : Token.read? assembly.modes text = .ok (some (token, rest)))
    (haccept : assembly.accept token = .ok next) :
    run (fuel + 1) assembly text = run fuel next rest := by
  rw [run, h]
  simp only [Bind.bind, Except.bind, haccept]

/-- What a run that succeeds does first: it stops, or it takes one token. -/
theorem run_cases {assembly last : Assembly} {text : List Char} {fuel : Nat}
    (h : run (fuel + 1) assembly text = .ok last) :
    (Token.read? assembly.modes text = .ok none ∧ last = assembly) ∨
    ∃ token rest next, Token.read? assembly.modes text = .ok (some (token, rest)) ∧
      assembly.accept token = .ok next ∧ run fuel next rest = .ok last := by
  rw [run] at h
  cases hread : Token.read? assembly.modes text with
  | error cause =>
    rw [hread] at h
    cases h
  | ok found =>
    rw [hread] at h
    rcases found with _ | ⟨token, rest⟩
    · cases h
      exact .inl ⟨rfl, rfl⟩
    · cases haccept : assembly.accept token with
      | error cause => simp [Bind.bind, Except.bind, haccept] at h
      | ok next =>
        simp only [Bind.bind, Except.bind, haccept] at h
        exact .inr ⟨token, rest, next, rfl, haccept, h⟩

/-- A run takes no notice of more groups around it, nor of more fuel. -/
theorem run_under (outer : List OpenGroup) {fuel : Nat} {assembly last : Assembly}
    {text : List Char} (h : run fuel assembly text = .ok last) (more : Nat) :
    run (fuel + more) (assembly.under outer) text = .ok (last.under outer) := by
  induction fuel generalizing assembly text with
  | zero => cases h
  | succ fuel ih =>
    rw [Nat.add_right_comm]
    rcases run_cases h with ⟨hread, rfl⟩ | ⟨token, rest, next, hread, haccept, hrun⟩
    · exact run_of_none _ hread
    · have hread' : Token.read? (assembly.under outer).modes text = _ := hread
      rw [run_of_some _ hread' (accept_under outer haccept)]
      exact ih hrun

theorem run_append_of_none {assembly : Assembly} {text : List Char} (fuel : Nat)
    (h : Token.read? assembly.modes text = .ok none) :
    (∃ count ≤ fuel, ∀ outer more spare,
      run (count + 1 + spare) (assembly.under outer) (text ++ ')' :: more) =
        (assembly.under outer).accept .closing >>= fun next => run spare next more) ∨
    ∀ outer more, '\n' ∉ more → ∀ spare,
      run (fuel + 1 + spare) (assembly.under outer) (text ++ ')' :: more) =
        .ok (assembly.under outer) := by
  rcases read?_append_of_none h with hkeep | ⟨-, hswallow⟩
  · refine .inl ⟨0, Nat.zero_le fuel, fun outer more spare => ?_⟩
    rw [show 0 + 1 + spare = spare + 1 by omega, run, modes_under, hkeep]
    rfl
  · refine .inr fun outer more hline spare => ?_
    rw [show fuel + 1 + spare = fuel + spare + 1 by omega]
    exact run_of_none _ (hswallow more hline)

/-- A run over a text that a closing bracket follows: it comes to the bracket as it came to the end
of the text, or a comment that is open there swallows the bracket and all that follows in the
line. -/
theorem run_append {fuel : Nat} {assembly last : Assembly} {text : List Char}
    (h : run (fuel + 1) assembly text = .ok last) :
    (∃ count ≤ fuel, ∀ outer more spare,
      run (count + 1 + spare) (assembly.under outer) (text ++ ')' :: more) =
        (last.under outer).accept .closing >>= fun next => run spare next more) ∨
    ∀ outer more, '\n' ∉ more → ∀ spare,
      run (fuel + 1 + spare) (assembly.under outer) (text ++ ')' :: more) =
        .ok (last.under outer) := by
  -- By induction on the tokens read. Each of them is read in the longer text as well, up to the end
  -- of the text or to a comment that goes on through the bracket.
  induction fuel generalizing assembly text with
  | zero =>
    rcases run_cases h with ⟨hread, rfl⟩ | ⟨token, rest, next, hread, haccept, hrun⟩
    · exact run_append_of_none 0 hread
    · cases hrun
  | succ fuel ih =>
    rcases run_cases h with ⟨hread, rfl⟩ | ⟨token, rest, next, hread, haccept, hrun⟩
    · exact run_append_of_none (fuel + 1) hread
    · have hstep : ∀ outer left spare more,
          Token.read? assembly.modes (text ++ ')' :: more) = .ok (some (token, left)) →
          run (spare + 1) (assembly.under outer) (text ++ ')' :: more) =
            run spare (next.under outer) left :=
        fun outer left spare more hmore => run_of_some spare hmore (accept_under outer haccept)
      rcases read?_append_of_some hread with hkeep | ⟨-, hswallow⟩
      · rcases ih hrun with ⟨count, hcount, hlater⟩ | hlater
        · refine .inl ⟨count + 1, by omega, fun outer more spare => ?_⟩
          rw [show count + 1 + 1 + spare = count + 1 + spare + 1 by omega,
            hstep outer _ _ more (hkeep more)]
          exact hlater outer more spare
        · refine .inr fun outer more hline spare => ?_
          rw [show fuel + 1 + 1 + spare = fuel + 1 + spare + 1 by omega,
            hstep outer _ _ more (hkeep more)]
          exact hlater outer more hline spare
      -- The comment began inside a token: the rest of the run is over the text alone.
      · refine .inr fun outer more hline spare => ?_
        rw [show fuel + 1 + 1 + spare = fuel + 1 + spare + 1 by omega,
          hstep outer _ _ more (hswallow more hline)]
        exact run_under outer hrun spare

/-- From the assembly the run comes to the next one, and leaves the rest of the text. It takes no
more tokens than characters. -/
def Reads (assembly : Assembly) (text : List Char) (next : Assembly) (rest : List Char) : Prop :=
  ∃ count, count + rest.length ≤ text.length ∧
    ∀ spare, run (count + spare) assembly text = run spare next rest

namespace Reads

theorem refl (assembly : Assembly) (text : List Char) : Reads assembly text assembly text :=
  ⟨0, by simp, fun spare => by rw [Nat.zero_add]⟩

theorem trans {first second third : Assembly} {text middle rest : List Char}
    (hfirst : Reads first text second middle) (hsecond : Reads second middle third rest) :
    Reads first text third rest := by
  obtain ⟨count, hcount, hrun⟩ := hfirst
  obtain ⟨more, hmore, hrun'⟩ := hsecond
  refine ⟨count + more, by omega, fun spare => ?_⟩
  rw [Nat.add_assoc, hrun, hrun']

theorem token {assembly next : Assembly} {text rest : List Char} {token : Token}
    (hread : Token.read? assembly.modes text = .ok (some (token, rest)))
    (hlength : rest.length < text.length) (haccept : assembly.accept token = .ok next) :
    Reads assembly text next rest :=
  ⟨1, by omega, fun spare => by rw [Nat.add_comm, run_of_some spare hread haccept]⟩

/-- The run of a whole text, once it is known to come to the end. -/
theorem run {assembly last : Assembly} {text : List Char} (h : Reads assembly text last []) :
    Assembly.run (text.length + 1) assembly text = .ok last := by
  obtain ⟨count, hcount, hrun⟩ := h
  rw [List.length_nil, Nat.add_zero] at hcount
  rw [show text.length + 1 = count + (text.length - count + 1) by omega, hrun]
  refine run_of_none _ ?_
  have hskip : last.modes.skip [] = [] := by simp [Modes.skip, Modes.dropBlanks]
  rw [Token.read?, hskip]

end Reads

end Assembly

/-! ## Whole patterns -/

/-- What the run of a pattern that reads comes to, and what is checked after it. -/
theorem run_of_parse {text : List Char} {tree : Regex} (h : parse text = .ok tree) :
    ∃ last, Assembly.run (text.length + 1) {} text = .ok last ∧ last.enclosing = [] ∧
      last.choice = tree ∧ tree.groupNames.Nodup ∧ tree.height ≤ nestLimit := by
  unfold parse at h
  -- The checks behind the run, in order: open groups, names given twice, depth.
  cases hrun : Assembly.run (text.length + 1) {} text with
  | error cause =>
    rw [hrun] at h
    cases h
  | ok last =>
    rw [hrun] at h
    simp only [Bind.bind, Except.bind] at h
    split at h
    · cases h
    · rename_i henclosing
      split at h
      · cases h
      · rename_i hnames
        split at h
        · cases h
        · rename_i hheight
          cases h
          exact ⟨last, rfl, henclosing, rfl, Classical.not_not.mp hnames, by omega⟩

/-- A text whose run is known is a pattern when the checks after the run go through. -/
theorem parse_eq_ok_iff {text : List Char} {last : Assembly} {whole : Regex}
    (h : Assembly.Reads {} text last []) (henclosing : last.enclosing = []) :
    parse text = .ok whole ↔
      whole = last.choice ∧ whole.groupNames.Nodup ∧ whole.height ≤ nestLimit := by
  constructor
  · intro hparse
    obtain ⟨last', hrun, -, hchoice, hnames, hheight⟩ := run_of_parse hparse
    rw [h.run] at hrun
    cases hrun
    exact ⟨hchoice.symm, hnames, hheight⟩
  · rintro ⟨rfl, hnames, hheight⟩
    rw [parse, h.run]
    simp only [Bind.bind, Except.bind, henclosing]
    rw [if_neg (Classical.not_not.mpr hnames), if_neg (Nat.not_lt.mpr hheight)]

/-- The text that holds a pattern to a whole text. -/
def anchored (text : List Char) : List Char :=
  '\\' :: 'A' :: '(' :: '?' :: ':' :: (text ++ [')', '\\', 'z'])

/-- The text is a pattern by itself, and still one between brackets. -/
structure Standalone (text : List Char) (tree : Regex) : Prop where
  parsed : parse text = .ok tree
  closed : ∃ whole, parse (anchored text) = .ok whole

namespace Assembly

/-- The assembly with a new group open. -/
def opened (grouping : Grouping) (inside : Modes) (assembly : Assembly) : Assembly :=
  { modes := inside
    enclosing := ⟨grouping, assembly.modes, assembly.branches, assembly.items⟩ ::
      assembly.enclosing }

/-- The assembly with one more item. -/
def push (item : Regex) (assembly : Assembly) : Assembly :=
  { assembly with items := item :: assembly.items }

theorem Reads.atom {assembly : Assembly} {text rest : List Char} {item : Regex}
    (hread : Token.read? assembly.modes text = .ok (some (.atom item, rest)))
    (hlength : rest.length < text.length) : Reads assembly text (assembly.push item) rest :=
  .token hread hlength rfl

theorem Reads.opening {assembly : Assembly} {text rest : List Char} {grouping : Grouping}
    {inside : Modes}
    (hread : Token.read? assembly.modes text = .ok (some (.opening grouping inside, rest)))
    (hlength : rest.length < text.length) :
    Reads assembly text (assembly.opened grouping inside) rest :=
  .token hread hlength rfl

theorem reads_textStart {assembly : Assembly} (hmodes : assembly.modes = {}) (more : List Char) :
    Reads assembly ('\\' :: 'A' :: more) (assembly.push (.look .textStart)) more := by
  refine .atom ?_ (by simp only [List.length_cons]; omega)
  rw [hmodes]
  rfl

theorem reads_textEnd {assembly : Assembly} (hmodes : assembly.modes = {}) (more : List Char) :
    Reads assembly ('\\' :: 'z' :: more) (assembly.push (.look .textEnd)) more := by
  refine .atom ?_ (by simp only [List.length_cons]; omega)
  rw [hmodes]
  rfl

theorem reads_plain {assembly : Assembly} (hmodes : assembly.modes = {}) (more : List Char) :
    Reads assembly ('(' :: '?' :: ':' :: more) (assembly.opened .plain {}) more := by
  refine .opening ?_ (by simp only [List.length_cons]; omega)
  rw [hmodes]
  rfl

/-- A text whose run ends outside all groups gives what it comes to between the brackets of a group,
or leaves a comment open that swallows the closing bracket. -/
theorem reads_group_or_swallow {text : List Char} {last : Assembly}
    (h : run (text.length + 1) {} text = .ok last) (henclosing : last.enclosing = []) :
    (∀ (assembly : Assembly) (grouping : Grouping) (more : List Char),
      Reads (assembly.opened grouping {}) (text ++ ')' :: more)
        (assembly.push (.group grouping last.choice)) more) ∨
    ∀ outer more, '\n' ∉ more → ∀ spare,
      run (text.length + 1 + spare) (under outer {}) (text ++ ')' :: more) =
        .ok (last.under outer) := by
  refine (run_append h).imp_left ?_
  rintro ⟨count, hcount, hrun⟩ assembly grouping more
  refine ⟨count + 1, ?_, fun spare => ?_⟩
  · simp only [List.length_append, List.length_cons]
    omega
  · have haccept : (last.under (assembly.opened grouping {}).enclosing).accept .closing =
        .ok (assembly.push (.group grouping last.choice)) := by
      simp [accept, under, henclosing, opened, push]
      rfl
    have hstart : assembly.opened grouping {} =
        under (assembly.opened grouping {}).enclosing {} := rfl
    rw [hstart, hrun, haccept]
    rfl

/-- A source that comes to the inside of a group is no pattern where all that is left of it ends
inside groups. -/
theorem parse_ne_ok_of_reads {source text : List Char} {assembly : Assembly}
    (hreads : Reads {} source assembly text)
    (h : ∀ fuel last, text.length < fuel → run fuel assembly text = .ok last →
      last.enclosing ≠ []) (whole : Regex) : parse source ≠ .ok whole := by
  intro hparse
  obtain ⟨last, hrun, hnil, -⟩ := run_of_parse hparse
  obtain ⟨count, hcount, hstart⟩ := hreads
  rw [show source.length + 1 = count + (source.length - count + 1) by omega, hstart] at hrun
  exact h _ last (by omega) hrun hnil

/-- A comment that swallows the closing bracket leaves the group open. -/
theorem parse_ne_ok_of_swallow {source text more : List Char} {assembly last : Assembly}
    {grouping : Grouping} (hline : '\n' ∉ more)
    (hreads : Reads {} source (assembly.opened grouping {}) (text ++ ')' :: more))
    (hswallow : ∀ outer more, '\n' ∉ more → ∀ spare,
      run (text.length + 1 + spare) (under outer {}) (text ++ ')' :: more) =
        .ok (last.under outer)) (whole : Regex) : parse source ≠ .ok whole := by
  refine parse_ne_ok_of_reads hreads (fun fuel final hfuel hfinal => ?_) whole
  have hend := hswallow (assembly.opened grouping {}).enclosing more hline
    (fuel - (text.length + 1))
  rw [List.length_append] at hfuel
  rw [show text.length + 1 + (fuel - (text.length + 1)) = fuel by omega] at hend
  rw [Except.ok.inj (hfinal.symm.trans hend)]
  exact List.append_ne_nil_of_right_ne_nil _ (List.cons_ne_nil _ _)

/-- Between the brackets of a group a standalone text gives its own tree. -/
theorem Reads.group {text : List Char} {tree : Regex} (h : Standalone text tree)
    (assembly : Assembly) (grouping : Grouping) (more : List Char) :
    Reads (assembly.opened grouping {}) (text ++ ')' :: more)
      (assembly.push (.group grouping tree)) more := by
  obtain ⟨last, hrun, henclosing, rfl, -, -⟩ := run_of_parse h.parsed
  rcases reads_group_or_swallow hrun henclosing with hgroup | hswallow
  · exact hgroup assembly grouping more
  -- Otherwise the anchored text would end inside its group.
  · obtain ⟨whole, hwhole⟩ := h.closed
    have hopening : Reads {} (anchored text) ((push (.look .textStart) {}).opened .plain {})
        (text ++ ')' :: ['\\', 'z']) := (reads_textStart rfl _).trans (reads_plain rfl _)
    exact absurd hwhole (parse_ne_ok_of_swallow (by decide) hopening hswallow whole)

end Assembly

/-- The tree of a standalone text that is held to a whole text. -/
theorem parse_anchored {text : List Char} {tree whole : Regex} (h : Standalone text tree)
    (hwhole : parse (anchored text) = .ok whole) :
    whole = sequence [.look .textStart, .group .plain tree, .look .textEnd] := by
  have hreads : Assembly.Reads {} (anchored text)
      { items := [.look .textEnd, .group .plain tree, .look .textStart] } [] :=
    (Assembly.reads_textStart rfl _).trans <| (Assembly.reads_plain rfl _).trans <|
      (Assembly.Reads.group h _ .plain _).trans (Assembly.reads_textEnd rfl [])
  exact ((parse_eq_ok_iff hreads rfl).mp hwhole).1

end Switchyard.Regex
