import Switchyard.Proofs.Regex.Lookahead.Overrun.Token
import Switchyard.Proofs.Regex.Nesting

/-!
# Malformed text between brackets

A text that is no pattern is put between the brackets of a group, and what follows the brackets is
`Confined`: it closes neither a class nor a group that is open where it begins. Then the whole is no
pattern either (`parse_ne_ok_of_malformed`), unless the text closes a group too many: that is the one
error which surroundings can mend. The text is run twice, by itself and in its group. The two runs
go together until the first one fails or ends, and from there on no token closes the group
(`enclosing_ne_nil`).
-/

namespace Switchyard.Regex

/-- The token opens a group or closes one. -/
def Token.isBracket : Token → Bool
  | opening .. | closing => true
  | atom _ | bar | directive _ | quantifier .. => false

namespace Assembly

/-! ## Groups that stay open -/

/-- A run over the text closes at most so many more groups than it opens. -/
def Closes (depth : Nat) (text : List Char) : Prop :=
  ∀ fuel assembly last, run fuel assembly text = .ok last →
    assembly.enclosing.length ≤ last.enclosing.length + depth

namespace Closes

variable {depth : Nat} {text rest : List Char}

/-- All depends on the rest after one token, which changes the count of open groups by one at
most. -/
theorem step {after : Nat} (h : Closes after rest)
    (hread : ∀ modes token left, Token.read? modes text = .ok (some (token, left)) →
      left = rest ∧ ∀ assembly next : Assembly, assembly.accept token = .ok next →
        assembly.enclosing.length + after ≤ next.enclosing.length + depth) : Closes depth text := by
  intro fuel assembly last hrun
  rcases fuel with _ | fuel
  · cases hrun
  · rcases run_cases hrun with ⟨-, rfl⟩ | ⟨token, left, next, htoken, haccept, hrun⟩
    · exact Nat.le_add_right _ _
    · obtain ⟨rfl, hcount⟩ := hread _ _ _ htoken
      have hlater := h fuel next last hrun
      have hnow := hcount assembly next haccept
      omega

theorem nil : Closes 0 [] := by
  intro fuel assembly last hrun
  rcases fuel with _ | fuel
  · cases hrun
  · rcases run_cases hrun with ⟨-, rfl⟩ | ⟨token, rest, next, hread, -, -⟩
    · exact Nat.le_refl _
    · exact absurd (length_lt_of_read? hread) (Nat.not_lt_zero _)

end Closes

/-- Tokens other than brackets leave the groups that are open as they are. -/
theorem enclosing_of_accept {assembly next : Assembly} {token : Token}
    (h : assembly.accept token = .ok next) (hbracket : token.isBracket = false) :
    next.enclosing = assembly.enclosing := by
  cases token with
  | atom pattern | directive modes | bar =>
    cases h
    rfl
  -- The brackets are what is ruled out.
  | opening grouping inside | closing => cases hbracket
  | quantifier min max greedy =>
    obtain ⟨modes, branches, items, enclosing⟩ := assembly
    rcases items with _ | ⟨item, items⟩
    · cases h
    · cases item with
      | empty => cases h
      | _ =>
        cases h
        rfl

/-- Tokens other than brackets make no difference. -/
theorem Closes.neutral {depth : Nat} {text rest : List Char} (h : Closes depth rest)
    (hread : ∀ modes token left, Token.read? modes text = .ok (some (token, left)) →
      left = rest ∧ token.isBracket = false) : Closes depth text := by
  refine h.step fun modes token left htoken => ?_
  obtain ⟨rfl, hbracket⟩ := hread modes token left htoken
  refine ⟨rfl, fun assembly next haccept => ?_⟩
  exact Nat.le_of_eq (by rw [enclosing_of_accept haccept hbracket])

end Assembly

/-- A text that closes no class that is open where it begins, and at most so many groups. -/
structure Confined (depth : Nat) (text : List Char) : Prop where
  line : '\n' ∉ text
  brace : '\x7d' ∉ text
  classOpen : ClassOpen text
  closes : Assembly.Closes depth text

namespace Assembly

/-! ## Runs that fail -/

/-- What a run that fails does first: its token is malformed, or it cannot be taken, or the run
fails later. -/
theorem run_error_cases {assembly : Assembly} {text : List Char} {cause : ParseError} {fuel : Nat}
    (h : run (fuel + 1) assembly text = .error cause) :
    Token.read? assembly.modes text = .error cause ∨
    ∃ token rest, Token.read? assembly.modes text = .ok (some (token, rest)) ∧
      (assembly.accept token = .error cause ∨
        ∃ next, assembly.accept token = .ok next ∧ run fuel next rest = .error cause) := by
  rw [run] at h
  cases hread : Token.read? assembly.modes text with
  | error other =>
    rw [hread] at h
    cases h
    exact .inl rfl
  | ok found =>
    rw [hread] at h
    rcases found with _ | ⟨token, rest⟩
    · cases h
    · refine .inr ⟨token, rest, rfl, ?_⟩
      cases haccept : assembly.accept token with
      | error other =>
        simp only [Bind.bind, Except.bind, haccept] at h
        cases h
        exact .inl rfl
      | ok next =>
        simp only [Bind.bind, Except.bind, haccept] at h
        exact .inr ⟨next, rfl, h⟩

/-- A token that cannot be taken cannot be taken inside more groups either, unless it is a bracket
that one of them closes at. -/
theorem accept_under_error (outer : List OpenGroup) {assembly : Assembly} {token : Token}
    {cause : ParseError} (h : assembly.accept token = .error cause)
    (hcause : cause ≠ .groupUnopened) : (assembly.under outer).accept token = .error cause := by
  cases token with
  | atom pattern | directive modes | bar | opening grouping inside => cases h
  | closing =>
    obtain ⟨modes, branches, items, _ | ⟨group, enclosing⟩⟩ := assembly
    · cases h
      exact absurd rfl hcause
    · cases h
  | quantifier min max greedy =>
    obtain ⟨modes, branches, items, enclosing⟩ := assembly
    rcases items with _ | ⟨item, items⟩
    · exact h
    · cases item with
      | empty => exact h
      | _ => cases h

/-- A run that fails for another reason than a closing bracket too many fails inside more groups as
well. -/
theorem run_under_error (outer : List OpenGroup) {fuel : Nat} {assembly : Assembly}
    {text : List Char} {cause : ParseError} (h : run fuel assembly text = .error cause)
    (hcause : cause ≠ .groupUnopened) (hfuel : text.length < fuel) (more : Nat) :
    run (fuel + more) (assembly.under outer) text = .error cause := by
  induction fuel generalizing assembly text with
  | zero => exact absurd hfuel (Nat.not_lt_zero _)
  | succ fuel ih =>
    rw [Nat.add_right_comm]
    -- The run ends at a token that cannot be read, or at one that does not fit, or later. None of
    -- them looks at the groups outside, save for a bracket without a group.
    rcases run_error_cases h with hread | ⟨token, rest, hread, haccept | ⟨next, haccept, hrun⟩⟩
    · rw [run, modes_under, hread]
      rfl
    · rw [run, modes_under, hread]
      simp only [Bind.bind, Except.bind, accept_under_error outer haccept hcause]
    · have hlength := length_lt_of_read? hread
      have hread' : Token.read? (assembly.under outer).modes text = _ := hread
      rw [run_of_some _ hread' (accept_under outer haccept)]
      exact ih hrun (by omega)

/-- A run that neither ends outside all groups nor meets a closing bracket too many. -/
def Unfinished (answer : Except ParseError Assembly) : Prop :=
  answer ≠ .error .groupUnopened ∧ ∀ last, answer = .ok last → last.enclosing ≠ []

namespace Unfinished

variable {assembly : Assembly} {text more : List Char} {outer : List OpenGroup} {fuel : Nat}

/-- Inside more groups an unfinished run ends in them, if it ends. -/
theorem under (h : Unfinished (run fuel assembly text)) (hfuel : text.length < fuel)
    (houter : outer ≠ []) {count : Nat} {last : Assembly}
    (hrun : run count (assembly.under outer) text = .ok last) : last.enclosing ≠ [] := by
  -- The two runs are compared with fuel enough for both.
  have hlonger : run (count + fuel) (assembly.under outer) text = .ok last := by
    have hlonger := run_under [] hrun fuel
    simpa [Assembly.under] using hlonger
  rw [Nat.add_comm] at hlonger
  cases halone : run fuel assembly text with
  | error cause =>
    have hcause : cause ≠ .groupUnopened := fun heq => h.1 (heq ▸ halone)
    rw [run_under_error outer halone hcause hfuel] at hlonger
    cases hlonger
  | ok final =>
    rw [run_under outer halone] at hlonger
    cases hlonger
    exact List.append_ne_nil_of_right_ne_nil _ houter

/-- An unfinished run takes its first token, and goes on unfinished. -/
theorem next {token : Token} {rest : List Char}
    (h : Unfinished (run (fuel + 1) assembly text))
    (hread : Token.read? assembly.modes text = .ok (some (token, rest))) {after : Assembly}
    (haccept : (assembly.under outer).accept token = .ok after) :
    ∃ next, after = next.under outer ∧ Unfinished (run fuel next rest) := by
  -- A token that does not fit here does not fit among more groups either: it is no bracket without
  -- a group, as the run is unfinished for another cause.
  cases halone : assembly.accept token with
  | error cause =>
    have hrun : run (fuel + 1) assembly text = .error cause := by
      rw [run, hread]
      simp only [Bind.bind, Except.bind, halone]
    have hcause : cause ≠ .groupUnopened := fun heq => h.1 (heq ▸ hrun)
    rw [accept_under_error outer halone hcause] at haccept
    cases haccept
  | ok next =>
    rw [accept_under outer halone] at haccept
    cases haccept
    rw [run_of_some fuel hread halone] at h
    exact ⟨next, rfl, h⟩

end Unfinished

section

variable {outer : List OpenGroup} {assembly last : Assembly} {text more : List Char} {count : Nat}

/-- A confined text closes the groups that it opens, and no others. -/
theorem enclosing_ne_nil_of_confined (hmore : Confined 0 more) {next : Assembly}
    (hnext : next.enclosing ≠ []) (hrun : run count next more = .ok last) :
    last.enclosing ≠ [] := by
  intro hnil
  have hcount := hmore.closes count next last hrun
  rw [hnil] at hcount
  exact hnext (List.length_eq_zero_iff.mp (Nat.le_zero.mp hcount))

/-- A malformed token that the bracket mends takes it in, and what follows is confined. -/
theorem enclosing_ne_nil_of_error (hmore : Confined 0 more) (houter : outer ≠ [])
    {cause : ParseError} (hread : Token.read? assembly.modes text = .error cause)
    (hrun : run (count + 1) (assembly.under outer) (text ++ ')' :: more) = .ok last) :
    last.enclosing ≠ [] := by
  have hunder : assembly.enclosing ++ outer ≠ [] := List.append_ne_nil_of_right_ne_nil _ houter
  have hcases := run_cases hrun
  rw [modes_under] at hcases
  rcases read?_append_of_error hmore.line hmore.brace hmore.classOpen hread with
    ⟨other, hread⟩ | ⟨token, rest, hread, hlands⟩
  · simp [hread] at hcases
  · rw [hread] at hcases
    obtain ⟨hnone, -⟩ | ⟨token', rest', next, hsome, haccept, hlater⟩ := hcases
    · cases hnone
    · cases hsome
      -- The ways to land: an escape that took the bracket, an escape with a quantifier that is none
      -- behind it, a setting of modes.
      rcases hlands with ⟨pattern, rfl, rfl | ⟨other, hother⟩⟩ | ⟨inside, rfl, rfl⟩
      · cases haccept
        exact enclosing_ne_nil_of_confined hmore hunder hlater
      · cases haccept
        rcases count with _ | count
        · cases hlater
        · rcases run_cases hlater with ⟨hend, -⟩ | ⟨token, rest, next, hend, -⟩ <;>
            exact absurd (hother.symm.trans hend) nofun
      · cases haccept
        exact enclosing_ne_nil_of_confined hmore hunder hlater

/-- Where the text ends in a group of its own, the bracket closes that group or is taken in by a
comment. -/
theorem enclosing_ne_nil_of_none (hmore : Confined 0 more) (houter : outer ≠ [])
    (hread : Token.read? assembly.modes text = .ok none) (hopen : assembly.enclosing ≠ [])
    (hrun : run (count + 1) (assembly.under outer) (text ++ ')' :: more) = .ok last) :
    last.enclosing ≠ [] := by
  have hunder : ∀ enclosing : List OpenGroup, enclosing ++ outer ≠ [] :=
    fun enclosing => List.append_ne_nil_of_right_ne_nil _ houter
  have hcases := run_cases hrun
  rw [modes_under] at hcases
  -- The text ends in front of the bracket, which closes the innermost open group; or it ends in a
  -- comment, and all groups stay open.
  rcases read?_append_of_none hread with hkeep | ⟨-, hswallow⟩
  · rw [hkeep more] at hcases
    obtain ⟨hnone, -⟩ | ⟨token, rest, next, hsome, haccept, hlater⟩ := hcases
    · cases hnone
    · cases hsome
      obtain ⟨modes, branches, items, _ | ⟨group, enclosing⟩⟩ := assembly
      · exact absurd rfl hopen
      · cases haccept
        exact enclosing_ne_nil_of_confined hmore (hunder _) hlater
  · rw [hswallow more hmore.line] at hcases
    obtain ⟨-, rfl⟩ | ⟨token, rest, next, hsome, -⟩ := hcases
    · exact hunder _
    · cases hsome

/-- Between brackets an unfinished text never ends outside all groups: what is left open at its end
takes the bracket in, and the text behind it closes the groups that it opens, and no others. -/
theorem enclosing_ne_nil (hmore : Confined 0 more) (houter : outer ≠ []) {fuel : Nat}
    (h : Unfinished (run fuel assembly text)) (hfuel : text.length < fuel)
    (hrun : run count (assembly.under outer) (text ++ ')' :: more) = .ok last) :
    last.enclosing ≠ [] := by
  -- Induction on the tokens of the longer text, as long as the shorter one gives the same.
  induction count generalizing fuel assembly text with
  | zero => cases hrun
  | succ count ih =>
    rcases fuel with _ | fuel
    · exact absurd hfuel (Nat.not_lt_zero _)
    cases halone : Token.read? assembly.modes text with
    | error cause => exact enclosing_ne_nil_of_error hmore houter halone hrun
    | ok found =>
      rcases found with _ | ⟨token, rest⟩
      · have hopen : assembly.enclosing ≠ [] := h.2 assembly (run_of_none fuel halone)
        exact enclosing_ne_nil_of_none hmore houter halone hopen hrun
      · have hlength := length_lt_of_read? halone
        have hcases := run_cases hrun
        rw [modes_under] at hcases
        rcases read?_append_of_some halone with hkeep | ⟨-, hswallow⟩
        · rw [hkeep more] at hcases
          obtain ⟨hnone, -⟩ | ⟨token', rest', after, hsome, haccept, hlater⟩ := hcases
          · cases hnone
          · cases hsome
            obtain ⟨next, rfl, hnext⟩ := h.next halone haccept
            exact ih hnext (by omega) hlater
        -- A comment has taken in the bracket: what is left is the text alone.
        · rw [hswallow more hmore.line] at hcases
          obtain ⟨hnone, -⟩ | ⟨token', rest', after, hsome, haccept, hlater⟩ := hcases
          · cases hnone
          · cases hsome
            obtain ⟨next, rfl, hnext⟩ := h.next halone haccept
            exact hnext.under (by omega) houter hlater

end

end Assembly

/-! ## Whole patterns -/

/-- The checks that a pattern goes through after its run. -/
def Passes (tree : Regex) : Prop := tree.groupNames.Nodup ∧ tree.height ≤ nestLimit

/-- What stops a text from being a pattern: its run is unfinished or closes a group too many, or the
checks after the run do not go through. -/
theorem cases_of_parse_error {text : List Char} {cause : ParseError}
    (h : parse text = .error cause) (hcause : cause ≠ .groupUnopened) :
    Assembly.Unfinished (Assembly.run (text.length + 1) {} text) ∨
    ∃ last, Assembly.run (text.length + 1) {} text = .ok last ∧ last.enclosing = [] ∧
      ¬ Passes last.choice := by
  unfold parse at h
  cases hrun : Assembly.run (text.length + 1) {} text with
  | error other =>
    rw [hrun] at h
    cases h
    exact .inl ⟨fun heq => hcause (Except.error.inj heq), nofun⟩
  | ok last =>
    rw [hrun] at h
    simp only [Bind.bind, Except.bind] at h
    split at h
    · rename_i group enclosing henclosing
      refine .inl ⟨nofun, fun final hfinal hnil => ?_⟩
      cases hfinal
      rw [henclosing] at hnil
      cases hnil
    · rename_i henclosing
      refine .inr ⟨last, rfl, henclosing, fun hpasses => ?_⟩
      rw [if_neg (Classical.not_not.mpr hpasses.1), if_neg (Nat.not_lt.mpr hpasses.2)] at h
      cases h

/-- A text that is malformed for another reason than a closing bracket too many makes a source
malformed that holds it between brackets, where what follows is confined and can be read. -/
theorem parse_ne_ok_of_malformed {source text more : List Char} {cause : ParseError}
    {assembly : Assembly} {grouping : Grouping} (hparse : parse text = .error cause)
    (hcause : cause ≠ .groupUnopened) (hmore : Confined 0 more)
    (hreads : Assembly.Reads {} source (assembly.opened grouping {}) (text ++ ')' :: more))
    (hrest : ∀ tree, ¬ Passes tree → ∃ last,
      Assembly.Reads (assembly.push (.group grouping tree)) more last [] ∧ last.enclosing = [] ∧
        ¬ Passes last.choice) (whole : Regex) : parse source ≠ .ok whole := by
  rcases cases_of_parse_error hparse hcause with hunfinished | ⟨last, hrun, henclosing, hpasses⟩
  · refine Assembly.parse_ne_ok_of_reads hreads (fun fuel final _ hfinal => ?_) whole
    have houter : (assembly.opened grouping {}).enclosing ≠ [] := List.cons_ne_nil _ _
    exact Assembly.enclosing_ne_nil hmore houter hunfinished (Nat.lt_succ_self _) hfinal
  · rcases Assembly.reads_group_or_swallow hrun henclosing with hgroup | hswallow
    -- The group is read, and what is wrong with its tree is wrong with the whole.
    · obtain ⟨final, hfinal, hnil, hfails⟩ := hrest last.choice hpasses
      have hwhole := hreads.trans ((hgroup assembly grouping more).trans hfinal)
      intro hok
      obtain ⟨rfl, hchecks⟩ := (parse_eq_ok_iff hwhole hnil).mp hok
      exact hfails hchecks
    · exact Assembly.parse_ne_ok_of_swallow hmore.line hreads hswallow whole

end Switchyard.Regex
