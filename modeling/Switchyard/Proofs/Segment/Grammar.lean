import Switchyard.Proofs.Config.Rebuild
import Switchyard.Proofs.FirstFault
import Switchyard.Proofs.Route.Emission
import Switchyard.Proofs.Text.Split

/-!
# The grammar of path patterns

A token of a path pattern is a name behind `:` or `~:`, or a plain text: one without a colon among
its first two characters and without `#` and `?` (`Segment.IsToken`). Every such token writes one
segment and no other token writes any (`Segment.Writes`), and a pattern is read token by token, up
to the first that is none (`Segment.parsePath_by_grammar`). A router is built from patterns in the
same way.
-/

namespace Switchyard

namespace Segment

/-! ## Tokens -/

/-- Letters and digits of ASCII, at least one. -/
def IsWord (name : List Char) : Prop := name ≠ [] ∧ ∀ c ∈ name, c.isAlphanum = true

/-- No colon stands among the first two characters, and neither `#` nor `?` anywhere. -/
def IsPlain (token : List Char) : Prop := ':' ∉ token.take 2 ∧ '#' ∉ token ∧ '?' ∉ token

/-- The tokens of path patterns: names behind `:` or `~:`, and plain texts. -/
def IsToken (token : List Char) : Prop :=
  (∃ name, IsWord name ∧ (token = ':' :: name ∨ token = '~' :: ':' :: name)) ∨ IsPlain token

/-- The token writes the segment. A plain text with tildes in front is optional, and the tildes,
all of them, are no part of it. -/
inductive Writes : List Char → Segment → Prop where
  | placeholder {name : List Char} (hword : IsWord name) :
    Writes (':' :: name) (.placeholder (String.ofList name))
  | optionalPlaceholder {name : List Char} (hword : IsWord name) :
    Writes ('~' :: ':' :: name) (.optionalPlaceholder (String.ofList name))
  | literal {text : List Char} (hplain : IsPlain text) (hhead : text.head? ≠ some '~') :
    Writes text (.literal (String.ofList text))
  | optionalLiteral {tildes text : List Char} (hplain : IsPlain (tildes ++ text))
    (hne : tildes ≠ []) (htildes : ∀ c ∈ tildes, c = '~') (hhead : text.head? ≠ some '~') :
    Writes (tildes ++ text) (.optionalLiteral (String.ofList text))

variable {token : List Char} {segment : Segment}

theorem isName_iff {name : List Char} : isName name = true ↔ IsWord name := by
  rw [isName, IsWord, Bool.and_eq_true, List.all_eq_true, Bool.not_eq_true',
    List.isEmpty_eq_false_iff]

theorem any_reserved_iff :
    (token.any fun c => c = '#' || c = '?') = true ↔ '#' ∈ token ∨ '?' ∈ token := by
  simp only [List.any_eq_true, Bool.or_eq_true, decide_eq_true_eq]
  constructor
  · rintro ⟨c, hc, rfl | rfl⟩
    · exact .inl hc
    · exact .inr hc
  · rintro (h | h)
    · exact ⟨_, h, .inl rfl⟩
    · exact ⟨_, h, .inr rfl⟩

/-! ## One token -/

/-- The three ways of a token: a colon announces a name, a reserved character refuses the token, and
all else is plain. -/
theorem token_cases (token : List Char) :
    ':' ∈ token.take 2 ∨ (':' ∉ token.take 2 ∧ ('#' ∈ token ∨ '?' ∈ token)) ∨ IsPlain token := by
  rw [IsPlain]
  tauto

theorem ofToken_of_colon (hcolon : ':' ∈ token.take 2) : ofToken token = placeholderOf token := by
  unfold ofToken
  exact if_pos (by simpa using hcolon)

theorem ofToken_of_reserved (hcolon : ':' ∉ token.take 2) (hreserved : '#' ∈ token ∨ '?' ∈ token) :
    ofToken token = .error .reservedCharacter := by
  unfold ofToken
  rw [if_neg (by simpa using hcolon), if_pos (any_reserved_iff.mpr hreserved)]

theorem not_any_reserved (hplain : IsPlain token) :
    ¬(token.any fun c => c = '#' || c = '?') = true := by
  rw [any_reserved_iff, not_or]
  exact hplain.2

theorem ofToken_of_tilde {rest : List Char} (hplain : IsPlain ('~' :: rest)) :
    ofToken ('~' :: rest) = .ok (optionalLiteral (String.ofList (rest.dropWhile (· = '~')))) := by
  unfold ofToken
  rw [if_neg (by simpa using hplain.1), if_neg (not_any_reserved hplain)]
  rfl

theorem ofToken_of_text (hplain : IsPlain token) (hhead : token.head? ≠ some '~') :
    ofToken token = .ok (literal (String.ofList token)) := by
  unfold ofToken
  rw [if_neg (by simpa using hplain.1), if_neg (not_any_reserved hplain)]
  split
  · exact absurd rfl hhead
  · rfl

/-- Tildes are dropped as long as there are any. -/
theorem dropWhile_tildes {tildes text : List Char} (htildes : ∀ c ∈ tildes, c = '~')
    (hhead : text.head? ≠ some '~') : (tildes ++ text).dropWhile (· = '~') = text := by
  rw [List.dropWhile_append_of_pos (by simpa using htildes)]
  cases text with
  | nil => rfl
  | cons c text => exact List.dropWhile_cons_of_neg (by simpa using hhead)

/-- What stands behind the tildes does not start with one. -/
theorem exists_tildes (text : List Char) :
    ∃ tildes rest, text = tildes ++ rest ∧ (∀ c ∈ tildes, c = '~') ∧ rest.head? ≠ some '~' := by
  refine ⟨text.takeWhile (· = '~'), text.dropWhile (· = '~'), ?_, ?_, ?_⟩
  · exact List.takeWhile_append_dropWhile.symm
  · intro c hc
    exact of_decide_eq_true (List.all_eq_true.mp List.all_takeWhile c hc)
  · intro hhead
    have hnot := List.head?_dropWhile_not (· = '~') text
    rw [hhead] at hnot
    exact absurd hnot (by simp)

/-- The segment that the grammar gives to a token is the one that is read from it. -/
theorem ofToken_of_writes (h : Writes token segment) : ofToken token = .ok segment := by
  cases h with
  | placeholder hword =>
    rw [ofToken_of_colon List.mem_cons_self]
    exact if_pos (isName_iff.mpr hword)
  | optionalPlaceholder hword =>
    rw [ofToken_of_colon (List.mem_cons_of_mem _ List.mem_cons_self)]
    exact if_pos (isName_iff.mpr hword)
  | literal hplain hhead => exact ofToken_of_text hplain hhead
  | @optionalLiteral tildes text hplain hne htildes hhead =>
    obtain ⟨c, rest, rfl⟩ := List.exists_cons_of_ne_nil hne
    rw [List.forall_mem_cons] at htildes
    obtain ⟨rfl, hrest⟩ := htildes
    rw [List.cons_append] at hplain ⊢
    rw [ofToken_of_tilde hplain, dropWhile_tildes hrest hhead]

theorem writes_of_ofToken (h : ofToken token = .ok segment) : Writes token segment := by
  -- The cases of a token: a colon among its first two characters, a reserved character, neither.
  rcases token_cases token with hcolon | ⟨hcolon, hreserved⟩ | hplain
  · rw [ofToken_of_colon hcolon] at h
    unfold placeholderOf at h
    split at h
    · split at h
      · rename_i hname
        cases h
        exact .optionalPlaceholder (isName_iff.mp hname)
      · cases h
    · split at h
      · rename_i hname
        cases h
        exact .placeholder (isName_iff.mp hname)
      · cases h
    · cases h
  · rw [ofToken_of_reserved hcolon hreserved] at h
    cases h
  · by_cases hhead : token.head? = some '~'
    · obtain ⟨rest, rfl⟩ := List.head?_eq_some_iff.mp hhead
      obtain ⟨tildes, text, rfl, htildes, htext⟩ := exists_tildes rest
      rw [ofToken_of_tilde hplain, dropWhile_tildes htildes htext] at h
      cases h
      exact @Writes.optionalLiteral ('~' :: tildes) text hplain (List.cons_ne_nil _ _)
        (List.forall_mem_cons.mpr ⟨rfl, htildes⟩) htext
    · rw [ofToken_of_text hplain hhead] at h
      cases h
      exact .literal hplain hhead

theorem ofToken_eq_ok_iff : ofToken token = .ok segment ↔ Writes token segment :=
  ⟨writes_of_ofToken, ofToken_of_writes⟩

/-- The tokens of the grammar are those that write a segment. -/
theorem isToken_iff : IsToken token ↔ ∃ segment, Writes token segment := by
  constructor
  · rintro (⟨name, hword, rfl | rfl⟩ | hplain)
    · exact ⟨_, .placeholder hword⟩
    · exact ⟨_, .optionalPlaceholder hword⟩
    · obtain ⟨tildes, text, rfl, htildes, hhead⟩ := exists_tildes token
      rcases tildes with _ | ⟨c, tildes⟩
      · exact ⟨_, .literal hplain hhead⟩
      · exact ⟨_, .optionalLiteral hplain (List.cons_ne_nil _ _) htildes hhead⟩
  · rintro ⟨segment, hwrites⟩
    cases hwrites with
    | placeholder hword => exact .inl ⟨_, hword, .inl rfl⟩
    | optionalPlaceholder hword => exact .inl ⟨_, hword, .inr rfl⟩
    | literal hplain => exact .inr hplain
    | optionalLiteral hplain => exact .inr hplain

/-- A token is refused for its name just when a colon announces one. -/
theorem fault_of_ofToken {fault : SegmentFault} (h : ofToken token = .error fault) :
    fault = .placeholderName ↔ ':' ∈ token.take 2 := by
  rcases token_cases token with hcolon | ⟨hcolon, hreserved⟩ | hplain
  · refine iff_of_true ?_ hcolon
    rw [ofToken_of_colon hcolon] at h
    unfold placeholderOf at h
    split at h
    · split at h <;> cases h
      rfl
    · split at h <;> cases h
      rfl
    · cases h
      rfl
  · rw [ofToken_of_reserved hcolon hreserved] at h
    cases h
    exact iff_of_false (fun h => by cases h) hcolon
  · obtain ⟨segment, hwrites⟩ := isToken_iff.mp (.inr hplain)
    rw [ofToken_of_writes hwrites] at h
    cases h

/-- A token outside the grammar is refused, and the colon alone decides how. -/
theorem ofToken_eq_error_iff {fault : SegmentFault} :
    ofToken token = .error fault ↔
      ¬IsToken token ∧ (fault = .placeholderName ↔ ':' ∈ token.take 2) := by
  constructor
  · intro h
    refine ⟨fun htoken => ?_, fault_of_ofToken h⟩
    obtain ⟨segment, hwrites⟩ := isToken_iff.mp htoken
    cases h.symm.trans (ofToken_of_writes hwrites)
  · rintro ⟨hnone, hfault⟩
    cases h : ofToken token with
    | ok segment => exact absurd (isToken_iff.mpr ⟨segment, writes_of_ofToken h⟩) hnone
    | error other =>
      -- There are two faults only, and whether the first applies tells them apart.
      have hsame := hfault.trans (fault_of_ofToken h).symm
      cases fault with
      | placeholderName => rw [hsame.mp rfl]
      | reservedCharacter =>
        cases other with
        | placeholderName => cases hsame.mpr rfl
        | reservedCharacter => rfl

/-! ## All tokens -/

/-- The path is refused with the error for the token: the token is none of the grammar, and the error
names the whole path and the token, and tells a bad name from a reserved character. -/
def Refuses (path : String) (cause : RouteError) (token : List Char) : Prop :=
  ¬IsToken token ∧ ∃ fault, cause = .invalidPattern path (String.ofList token) fault ∧
    (fault = .placeholderName ↔ ':' ∈ token.take 2)

variable {path : String} {cause : RouteError}

theorem parse_eq_ok_iff : parse (String.ofList token) path = .ok segment ↔ Writes token segment := by
  rw [parse, String.toList_ofList, ← ofToken_eq_ok_iff]
  cases ofToken token with
  | error fault => exact iff_of_false (fun h => by cases h) (fun h => by cases h)
  | ok other =>
    show Except.ok other = Except.ok segment ↔ _
    rw [Except.ok.injEq, Except.ok.injEq]

theorem parse_eq_error_iff :
    parse (String.ofList token) path = .error cause ↔ Refuses path cause token := by
  have hmap : parse (String.ofList token) path = .error cause ↔
      ∃ fault, ofToken token = .error fault ∧
        cause = .invalidPattern path (String.ofList token) fault := by
    rw [parse, String.toList_ofList]
    cases ofToken token with
    | error fault =>
      show Except.error (RouteError.invalidPattern _ _ fault) = _ ↔ _
      simp [eq_comm (a := cause)]
    | ok other => exact iff_of_false (fun h => by cases h) (fun ⟨_, h, _⟩ => by cases h)
  rw [hmap, Refuses]
  simp only [ofToken_eq_error_iff]
  constructor
  · rintro ⟨fault, ⟨hnone, hfault⟩, hcause⟩
    exact ⟨hnone, fault, hcause, hfault⟩
  · rintro ⟨hnone, fault, hcause, hfault⟩
    exact ⟨fault, ⟨hnone, hfault⟩, hcause⟩

/-- The segments read are what the tokens write, one for each. -/
theorem parseTokens_eq_ok_iff {tokens : List (List Char)} {segments : List Segment} :
    parseTokens path tokens = .ok segments ↔ List.Forall₂ Writes tokens segments := by
  -- Token by token; each is read by itself, with the path for its error alone.
  induction tokens generalizing segments with
  | nil =>
    rw [parseTokens, Except.ok.injEq, List.forall₂_nil_left_iff]
    exact eq_comm
  | cons token rest ih =>
    rw [parseTokens, List.forall₂_cons_left_iff]
    cases hparse : parse (String.ofList token) path with
    | error fault =>
      refine iff_of_false (fun h => by cases h) ?_
      rintro ⟨first, more, hfirst, -, -⟩
      cases hparse.symm.trans (parse_eq_ok_iff.mpr hfirst)
    | ok first =>
      simp only [Route.map_eq_ok, ih]
      constructor
      · rintro ⟨more, hmore, rfl⟩
        exact ⟨first, more, parse_eq_ok_iff.mp hparse, hmore, rfl⟩
      · rintro ⟨other, more, hother, hmore, rfl⟩
        cases hparse.symm.trans (parse_eq_ok_iff.mpr hother)
        exact ⟨more, hmore, rfl⟩

/-- The error is that of the first token outside the grammar. -/
theorem parseTokens_eq_error_iff {tokens : List (List Char)} :
    parseTokens path tokens = .error cause ↔ FirstFault IsToken (Refuses path cause) tokens := by
  induction tokens with
  | nil => exact iff_of_false (fun h => by cases h) not_firstFault_nil
  | cons token rest ih =>
    rw [parseTokens, firstFault_cons, ← parse_eq_error_iff]
    cases hparse : parse (String.ofList token) path with
    | error other =>
      have hnone := (parse_eq_error_iff.mp hparse).1
      simp [hnone]
    | ok first =>
      have htoken := isToken_iff.mpr ⟨first, parse_eq_ok_iff.mp hparse⟩
      rw [Route.map_eq_error, ih]
      simp [htoken]

/-- Every token is one of the grammar, or the path is refused for it. -/
theorem isToken_or_refuses (path : String) (token : List Char) :
    IsToken token ∨ ∃ cause, Refuses path cause token := by
  cases hparse : parse (String.ofList token) path with
  | ok segment => exact .inl (isToken_iff.mpr ⟨segment, parse_eq_ok_iff.mp hparse⟩)
  | error cause => exact .inr ⟨cause, parse_eq_error_iff.mp hparse⟩

/-- A path is read when all its tokens are of the grammar. -/
theorem parsePath_isOk_iff :
    (∃ segments, parsePath path = .ok segments) ↔ ∀ token ∈ tokens path, IsToken token := by
  have hfault : (∃ cause, parsePath path = .error cause) ↔ ∃ token ∈ tokens path, ¬IsToken token := by
    simp only [parsePath, parseTokens_eq_error_iff]
    rw [exists_firstFault fun token _ => isToken_or_refuses path token]
    refine exists_congr fun token => and_congr_right fun _ => ?_
    exact ⟨fun ⟨_, hrefuses⟩ => hrefuses.1, (isToken_or_refuses path token).resolve_left⟩
  rw [← not_iff_not]
  refine Iff.trans ?_ (hfault.trans (by simp))
  cases parsePath path <;> simp

end Segment

/-! ## Routers -/

namespace RouterConfig

/-- The path pattern of the entry can be read. -/
def IsReadable (entry : String × RouteConfig) : Prop :=
  ∃ segments, Segment.parsePath entry.2.path = .ok segments

theorem addRoutes_eq_error_iff {router : Router} {list : List (String × RouteConfig)}
    {cause : RouteError} :
    addRoutes router list = .error cause ↔
      FirstFault IsReadable (fun entry => Segment.parsePath entry.2.path = .error cause) list := by
  induction list generalizing router with
  | nil => exact iff_of_false (fun h => by cases h) not_firstFault_nil
  | cons entry list ih =>
    obtain ⟨name, record⟩ := entry
    rw [addRoutes, firstFault_cons, ← Route.build_eq_error_iff]
    cases hbuild : record.build with
    | error other =>
      have hunreadable : ¬IsReadable (name, record) := by
        rintro ⟨segments, hparsed⟩
        cases (Route.build_eq_error_iff.mp hbuild).symm.trans hparsed
      simp [hunreadable]
    | ok route =>
      have hreadable : IsReadable (name, record) := by
        cases hparsed : Segment.parsePath record.path with
        | ok segments => exact ⟨segments, hparsed⟩
        | error fault => cases hbuild.symm.trans (Route.build_eq_error_iff.mpr hparsed)
      simp only [ih]
      simp [hreadable]

/-- A router is not built just when a path pattern cannot be read, and then for the first of them. -/
theorem build_eq_error_iff {config : RouterConfig} {cause : RouteError} :
    config.build = .error cause ↔
      FirstFault IsReadable (fun entry => Segment.parsePath entry.2.path = .error cause)
        config.routes.entries := by
  rw [build, Route.map_eq_error, addRoutes_eq_error_iff]

end RouterConfig

/-- The tokens of a path pattern are the parts between its slashes that are not empty. The pattern is
read when each of them is a token of the grammar, and then its segments are what the tokens write,
one for each. If not, the error names the whole path and the first token outside the grammar, and
blames a name just when a colon announces one. A router is not built just when the pattern of one of
its routes cannot be read, and then the error is that of the first such route. -/
theorem Segment.parsePath_by_grammar :
    (∀ path : String,
      (∃ parts, parts ≠ [] ∧ (∀ part ∈ parts, '/' ∉ part) ∧ path.toList = Text.join ['/'] parts ∧
        tokens path = parts.filter (· ≠ [])) ∧
      ((∃ segments, parsePath path = .ok segments) ↔ ∀ token ∈ tokens path, IsToken token) ∧
      (∀ segments, parsePath path = .ok segments ↔ List.Forall₂ Writes (tokens path) segments) ∧
      ∀ cause, parsePath path = .error cause ↔
        FirstFault IsToken (Refuses path cause) (tokens path)) ∧
    ∀ config : RouterConfig,
      ((∃ cause, config.build = .error cause) ↔ ∃ entry ∈ config.routes.entries,
        ∃ cause, parsePath entry.2.path = .error cause) ∧
      ∀ cause, config.build = .error cause ↔
        FirstFault (fun entry => ∃ segments, parsePath entry.2.path = .ok segments)
          (fun entry => parsePath entry.2.path = .error cause) config.routes.entries := by
  refine ⟨fun path => ⟨?_, parsePath_isOk_iff, fun _ => parseTokens_eq_ok_iff,
    fun _ => parseTokens_eq_error_iff⟩, fun config => ⟨?_, fun _ => RouterConfig.build_eq_error_iff⟩⟩
  · exact ⟨_, Text.pieces_ne_nil _ _, fun _ => Text.not_mem_of_mem_pieces,
      (Text.join_pieces '/' path.toList).symm, rfl⟩
  · simp only [RouterConfig.build_eq_error_iff]
    refine exists_firstFault fun entry _ => ?_
    rw [RouterConfig.IsReadable]
    cases parsePath entry.2.path <;> simp

end Switchyard
