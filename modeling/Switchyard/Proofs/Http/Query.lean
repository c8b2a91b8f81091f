import Mathlib.Data.List.TakeDrop
import Switchyard.Http.Target
import Switchyard.Proofs.Text.Split

/-!
# Queries and fragments of targets

What routing reads of a target is its scheme and its path. A fragment is cut off before anything
else is read. A query is not: an address is checked together with its query, and where the two are
no address, the target is a bare path with scheme and host in it. `SwayedBy` lists the ways in which
a query does this to a target that is an address without it, and `requestOf_query_iff_unswayed` says
that there are no others.
-/

namespace Switchyard.Http

open Uri

/-! ## Text before a query -/

theorem withoutFragment_append {text : List Char} (h : '#' ∉ text) (fragment : List Char) :
    withoutFragment (text ++ '#' :: fragment) = text := by
  rw [withoutFragment, Text.cut_of_not_mem h]

theorem withoutFragment_eq_self {text : List Char} (h : '#' ∉ text) :
    withoutFragment text = text := by
  rw [withoutFragment, Text.cut_eq_self h]

theorem withoutQuery_append {text : List Char} (h : '?' ∉ text) (query : List Char) :
    Target.withoutQuery (text ++ '?' :: query) = text := by
  rw [Target.withoutQuery, Text.cut_of_not_mem h]

theorem withoutQuery_eq_self {text : List Char} (h : '?' ∉ text) :
    Target.withoutQuery text = text := by
  rw [Target.withoutQuery, Text.cut_eq_self h]

theorem byteLength_le_append (text more : List Char) :
    byteLength text ≤ byteLength (text ++ more) := by
  induction text with
  | nil => exact Nat.zero_le _
  | cons c text ih => exact Nat.add_le_add_left ih c.utf8Size

/-- The run of characters that pass is over where one does not. -/
theorem span_append_cons {passes : Char → Bool} {c : Char} (hc : passes c = false)
    (text more : List Char) :
    (text ++ c :: more).span passes = ((text.span passes).1, (text.span passes).2 ++ c :: more) := by
  simp only [List.span_eq_takeWhile_dropWhile]
  induction text with
  | nil => simp [hc]
  | cons d text ih =>
    rw [Prod.mk.injEq] at ih
    cases hd : passes d with
    | true => simp [hd, ih.1, ih.2]
    | false => simp [hd]

/-! ## A scheme without a host -/

theorem not_isScheme_of_mem {name : List Char} (h : '?' ∈ name) : Target.isScheme name = false := by
  rcases name with _ | ⟨c, rest⟩
  · cases h
  · rw [Target.isScheme, Bool.and_eq_false_iff, List.all_eq_false]
    rcases List.mem_cons.mp h with rfl | h
    · exact .inl (by decide)
    · exact .inr ⟨'?', h, by decide⟩

theorem stripSlashes_query (text query : List Char) :
    (Text.stripStart? ['/', '/'] (text ++ '?' :: query)).isNone =
      (Text.stripStart? ['/', '/'] text).isNone := by
  rcases text with _ | ⟨c, _ | ⟨d, text⟩⟩
  · rfl
  · by_cases hc : '/' = c <;> simp [Text.stripStart?, hc]
  · simp only [List.cons_append, Text.stripStart?]
    split
    · split <;> rfl
    · rfl

/-- A target of the form `scheme:path` is read alike whatever its query is. -/
theorem schemeOnly?_query {text : List Char} (h : '?' ∉ text) (query : List Char) :
    Target.schemeOnly? (text ++ '?' :: query) = Target.schemeOnly? text := by
  rcases hcut : Text.cut ':' text with ⟨name, _ | rest⟩
  · have hmem := Text.mem_cut_append (show '?' ≠ ':' by decide) hcut query
    rw [Target.schemeOnly?, Target.schemeOnly?, hcut]
    rcases hlonger : Text.cut ':' (text ++ '?' :: query) with ⟨longer, _ | more⟩
    · rfl
    · rw [hlonger] at hmem
      simp [not_isScheme_of_mem hmem]
  · have hrest : '?' ∉ rest := fun hmem => h (by simp [(Text.eq_of_cut hcut).2, hmem])
    rw [Target.schemeOnly?, Target.schemeOnly?, hcut, Text.cut_append hcut]
    simp only [stripSlashes_query, withoutQuery_append hrest, withoutQuery_eq_self hrest]

/-! ## Marks behind addresses -/

/-- The characters that begin a query or a fragment. -/
def isMark (c : Char) : Bool := c = '?' || c = '#'

section

variable {mark : Char} (hmark : isMark mark = true)

include hmark

theorem eq_of_isMark : mark = '?' ∨ mark = '#' := by
  simpa [isMark] using hmark

theorem next?_mark (state : AuthorityState) : state.next? mark = none := by
  have hnone : isAuthorityChar '?' = false ∧ isAuthorityChar '#' = false := by decide
  rcases eq_of_isMark hmark with rfl | rfl
  · simp [AuthorityState.next?, hnone.1]
  · simp [AuthorityState.next?, hnone.2]

theorem isAuthority_marked (text more : List Char) : isAuthority (text ++ mark :: more) = false := by
  have hnone : (text ++ mark :: more).foldlM AuthorityState.next? {} = none := by
    rw [List.foldlM_append]
    cases text.foldlM AuthorityState.next? {} with
    | none => rfl
    | some state =>
      show (mark :: more).foldlM AuthorityState.next? state = none
      rw [List.foldlM_cons, next?_mark hmark]
      rfl
  rw [isAuthority, hnone]
  simp

/-- A query or a fragment does not bring about the slashes behind a scheme. -/
theorem exists_slashes {rest more behind : List Char}
    (h : rest ++ mark :: behind = ':' :: '/' :: '/' :: more) :
    ∃ text, rest = ':' :: '/' :: '/' :: text ∧ more = text ++ mark :: behind := by
  rcases rest with _ | ⟨c, _ | ⟨d, _ | ⟨e, rest⟩⟩⟩
  · cases h
    cases hmark
  · cases h
    cases hmark
  · cases h
    cases hmark
  · cases h
    exact ⟨rest, rfl, rfl⟩

/-- The scheme of an address is found alike whatever its query and its fragment are. -/
theorem splitScheme?_marked {text : List Char} (h : text ≠ [':', '/', '/']) (behind : List Char) :
    splitScheme? (text ++ mark :: behind) =
      (splitScheme? text).map (Option.map fun found => (found.1, found.2 ++ mark :: behind)) := by
  have hstop : isSchemeChar mark = false := by
    rcases eq_of_isMark hmark with rfl | rfl <;> decide
  have happend := span_append_cons hstop text behind
  have hparts : (text.span isSchemeChar).1 ++ (text.span isSchemeChar).2 = text := by
    rw [List.span_eq_takeWhile_dropWhile, List.takeWhile_append_dropWhile]
  rcases hspan : text.span isSchemeChar with ⟨name, rest⟩
  rw [hspan] at happend hparts
  simp only [splitScheme?, happend, hspan]
  -- The mark is no character of a scheme, so the span stops where it did before. Only if the
  -- slashes stand there is the rest looked at.
  by_cases hslashes : ∃ more, rest = ':' :: '/' :: '/' :: more
  · obtain ⟨more, rfl⟩ := hslashes
    -- The least text with a scheme's slashes is excluded, so the bound on the length is idle.
    have hlong : ¬ text.length ≤ 3 := by
      rintro hshort
      subst hparts
      simp only [List.length_append, List.length_cons] at hshort
      rw [List.length_eq_zero_iff.mp (show name.length = 0 by omega),
        List.length_eq_zero_iff.mp (show more.length = 0 by omega)] at h
      exact h rfl
    have hlonger : ¬ (text ++ mark :: behind).length ≤ 3 := by
      rw [List.length_append, List.length_cons]
      omega
    simp only [List.cons_append, if_neg hlong, if_neg hlonger]
    split
    · rfl
    · split <;> rfl
  · split
    · rename_i more hmore
      obtain ⟨text, hrest, -⟩ := exists_slashes hmark hmore
      exact absurd ⟨text, hrest⟩ hslashes
    · split
      · exact absurd ⟨_, rfl⟩ hslashes
      · rfl

theorem splitAuthority_marked (text behind : List Char) :
    splitAuthority (text ++ mark :: behind) =
      ((splitAuthority text).1, (splitAuthority text).2 ++ mark :: behind) := by
  refine span_append_cons ?_ text behind
  rcases eq_of_isMark hmark with rfl | rfl <;> decide

end

/-! ## Addresses -/

/-- An address with a scheme is its name, the first colon, two slashes and what stands behind. -/
theorem eq_of_splitScheme? {text scheme rest : List Char}
    (h : splitScheme? text = some (some (scheme, rest))) :
    ∃ name, ':' ∉ name ∧ text = name ++ ':' :: '/' :: '/' :: rest := by
  have hparts : (text.span isSchemeChar).1 ++ (text.span isSchemeChar).2 = text := by
    rw [List.span_eq_takeWhile_dropWhile, List.takeWhile_append_dropWhile]
  have hname : ∀ c ∈ (text.span isSchemeChar).1, isSchemeChar c = true := by
    rw [List.span_eq_takeWhile_dropWhile]
    exact List.all_eq_true.mp List.all_takeWhile
  rcases hspan : text.span isSchemeChar with ⟨name, behind⟩
  rw [hspan] at hparts hname
  simp only [splitScheme?, hspan] at h
  split at h
  · rename_i more
    -- Each form of a scheme leaves the text behind the slashes.
    have hmore : rest = more := by
      repeat' split at h
      all_goals cases h
      all_goals rfl
    rw [hmore, ← hparts]
    exact ⟨name, fun hcolon => absurd (hname ':' hcolon) (by decide), rfl⟩
  · cases h

/-- What stands behind the scheme is the end of the address. -/
theorem splitScheme?_suffix {text scheme rest : List Char}
    (h : splitScheme? text = some (some (scheme, rest))) : rest <:+ text := by
  obtain ⟨name, -, rfl⟩ := eq_of_splitScheme? h
  exact ⟨name ++ [':', '/', '/'], by simp⟩

theorem splitAuthority_suffix (text : List Char) : (splitAuthority text).2 <:+ text := by
  rw [splitAuthority, List.span_eq_takeWhile_dropWhile]
  exact List.dropWhile_suffix _

/-- The path of an address is read alike whatever its query is, as long as that is one. -/
theorem pathOf?_query {text query : List Char} (hquestion : '?' ∉ text) (hhash : '#' ∉ text)
    (hquery : '#' ∉ query) :
    pathOf? (text ++ '?' :: query) = if query.all isQueryChar then pathOf? text else none := by
  have hwhole : '#' ∉ text ++ '?' :: query := by simp [hhash, hquery]
  rw [pathOf?, pathOf?, withoutFragment_eq_self hwhole, withoutFragment_eq_self hhash,
    Text.cut_of_not_mem hquestion, Text.cut_eq_self hquestion]
  by_cases hall : query.all isQueryChar = true
  · rw [if_pos hall]
    simp only [Option.all_some, Option.all_none, hall]
  · rw [if_neg hall]
    simp only [Option.all_some, hall, Bool.and_false]
    rfl

/-- Behind an authority stands the path, the query or the fragment. -/
theorem head_behind_authority (text : List Char) :
    ∀ c ∈ (splitAuthority text).2.head?, c = '/' ∨ c = '?' ∨ c = '#' := by
  intro c hc
  rw [splitAuthority, List.span_eq_takeWhile_dropWhile] at hc
  have hstop := List.head?_dropWhile_not (fun c => c ≠ '/' && c ≠ '?' && c ≠ '#') text
  rw [hc] at hstop
  simp only [ne_eq, Bool.and_eq_false_iff, decide_eq_false_iff_not, not_not, or_assoc] at hstop
  exact hstop

/-- A path is read from the slash in front of it, or is the root. -/
theorem pathOf?_cases {text path : List Char} (hstart : ∀ c ∈ text.head?, c = '/' ∨ c = '?' ∨ c = '#')
    (h : pathOf? text = some path) : ∃ more, path = '/' :: more := by
  rw [pathOf?] at h
  dsimp only at h
  split at h
  · cases h
    split
    · exact ⟨[], rfl⟩
    · rename_i hne
      rcases text with _ | ⟨c, text⟩
      · exact absurd rfl hne
      · rcases hstart c rfl with rfl | rfl | rfl
        · exact ⟨_, rfl⟩
        · exact absurd rfl hne
        · exact absurd rfl hne
  · cases h

/-- What stands behind a mark makes no address out of a host alone. Behind an address with a scheme
it matters as much as it does to the path. -/
theorem parseAbsolute?_marked {mark : Char} (hmark : isMark mark = true) {text behind : List Char}
    {sound : Bool} (hpath : ∀ rest, rest <:+ text →
      pathOf? (rest ++ mark :: behind) = if sound then pathOf? rest else none) :
    parseAbsolute? (text ++ mark :: behind) =
      if sound then (parseAbsolute? text).filter (·.scheme.isSome) else none := by
  by_cases hbare : text = [':', '/', '/']
  · subst hbare
    rcases eq_of_isMark hmark with rfl | rfl <;> exact (ite_self none).symm
  rw [parseAbsolute?, parseAbsolute?, splitScheme?_marked hmark hbare]
  -- No scheme, a host alone, or a scheme: a mark behind a host alone is no address, and behind a
  -- scheme it is a matter of the path.
  rcases hscheme : splitScheme? text with _ | _ | ⟨scheme, rest⟩
  · exact (ite_self none).symm
  · dsimp only [Option.map_some, Option.map_none]
    rw [isAuthority_marked hmark]
    cases isAuthority text <;> exact (ite_self none).symm
  · have hsuffix := (splitAuthority_suffix rest).trans (splitScheme?_suffix hscheme)
    dsimp only [Option.map_some]
    rw [splitAuthority_marked hmark, hpath _ hsuffix]
    cases isAuthority (splitAuthority rest).1 with
    | false => exact (ite_self none).symm
    | true =>
      cases sound with
      | false => rfl
      | true => cases pathOf? (splitAuthority rest).2 <;> rfl

/-- An address that begins with no slash is one with a query behind it just when it has a scheme and
the query has no characters but those of queries. -/
theorem parseAbsolute?_query {text query : List Char} (hquestion : '?' ∉ text) (hhash : '#' ∉ text)
    (hquery : '#' ∉ query) :
    parseAbsolute? (text ++ '?' :: query) =
      if query.all isQueryChar then (parseAbsolute? text).filter (·.scheme.isSome) else none := by
  refine parseAbsolute?_marked rfl fun rest hsuffix => ?_
  exact pathOf?_query (fun hmem => hquestion (hsuffix.mem hmem))
    (fun hmem => hhash (hsuffix.mem hmem)) hquery

/-- An address that begins with no slash is a host alone, or has a scheme and a path from the root. -/
theorem parseAbsolute?_cases {text : List Char} {uri : Uri} (h : parseAbsolute? text = some uri) :
    uri = { path := [] } ∨ ∃ scheme more, uri = ⟨some scheme, '/' :: more⟩ := by
  rw [parseAbsolute?] at h
  rcases hscheme : splitScheme? text with _ | _ | ⟨scheme, rest⟩
  · rw [hscheme] at h
    cases h
  · rw [hscheme] at h
    dsimp only at h
    split at h
    · cases h
      exact .inl rfl
    · cases h
  · rw [hscheme] at h
    dsimp only at h
    split at h
    · obtain ⟨path, hpath, rfl⟩ := Option.map_eq_some_iff.mp h
      obtain ⟨more, rfl⟩ := pathOf?_cases (head_behind_authority rest) hpath
      exact .inr ⟨scheme, more, rfl⟩
    · cases h

theorem parse?_of_head {text : List Char} (hslash : text.head? ≠ some '/') (hstar : text ≠ ['*']) :
    parse? text = if maxLength < byteLength text then none else parseAbsolute? text := by
  unfold parse?
  split
  · rfl
  · split
    · rfl
    · exact absurd rfl hstar
    · exact absurd rfl hslash
    · rfl

theorem parse?_star : parse? ['*'] = some { path := ['*'] } := rfl

/-- What an address is that begins with no slash. -/
theorem parse?_cases {text : List Char} (hslash : text.head? ≠ some '/') {uri : Uri}
    (h : parse? text = some uri) :
    (text = ['*'] ∧ uri = { path := text }) ∨ uri = { path := [] } ∨
      ∃ scheme more, uri = ⟨some scheme, '/' :: more⟩ := by
  by_cases hstar : text = ['*']
  · subst hstar
    rw [parse?_star] at h
    cases h
    exact .inl ⟨rfl, rfl⟩
  · rw [parse?_of_head hslash hstar] at h
    split at h
    · cases h
    · exact .inr (parseAbsolute?_cases h)

/-- An address that begins with no slash stays one with a query when it has a scheme, and the query
neither has other characters than queries nor makes it too long. -/
theorem parse?_query {text query : List Char} (hslash : text.head? ≠ some '/')
    (hquestion : '?' ∉ text) (hhash : '#' ∉ text) (hquery : '#' ∉ query) :
    parse? (text ++ '?' :: query) =
      if maxLength < byteLength (text ++ '?' :: query) ∨ query.all isQueryChar = false then none
      else (parse? text).filter (·.scheme.isSome) := by
  have hhead : (text ++ '?' :: query).head? ≠ some '/' := by
    rcases text with _ | ⟨c, text⟩
    · exact fun h => by cases h
    · exact hslash
  have hstar : text ++ '?' :: query ≠ ['*'] := by
    rcases text with _ | ⟨c, _ | ⟨d, text⟩⟩ <;> exact fun h => by cases h
  rw [parse?_of_head hhead hstar, parseAbsolute?_query hquestion hhash hquery]
  by_cases hlong : maxLength < byteLength (text ++ '?' :: query)
  · rw [if_pos hlong, if_pos (.inl hlong)]
  rw [if_neg hlong]
  cases hall : query.all isQueryChar with
  | false => simp
  | true =>
    have hshort : ¬ maxLength < byteLength text := fun h =>
      hlong (Nat.lt_of_lt_of_le h (byteLength_le_append text _))
    -- The asterisk is an address by itself only, and has no scheme.
    have hfilter : (parseAbsolute? text).filter (·.scheme.isSome) =
        (parse? text).filter (·.scheme.isSome) := by
      by_cases htext : text = ['*']
      · rw [htext]
        rfl
      · rw [parse?_of_head hslash htext, if_neg hshort]
    rw [hfilter, if_pos rfl, if_neg (by simpa using hlong)]

/-! ## Targets -/

theorem schemeOnly?_slash (rest : List Char) : Target.schemeOnly? ('/' :: rest) = none := by
  rw [Target.schemeOnly?, Text.cut, if_neg (by decide)]
  rcases Text.cut ':' rest with ⟨name, _ | more⟩ <;> rfl

theorem parse?_slash {rest : List Char} (hhash : '#' ∉ rest) {uri : Uri}
    (h : parse? ('/' :: rest) = some uri) : uri = { path := Target.withoutQuery ('/' :: rest) } := by
  unfold parse? at h
  split at h
  · cases h
  · obtain ⟨path, hpath, rfl⟩ := Option.map_eq_some_iff.mp h
    rw [pathOf?, withoutFragment_eq_self (by simp [hhash])] at hpath
    dsimp only at hpath
    split at hpath
    · cases hpath
      rfl
    · cases hpath

theorem ofPlain_of_some {text : List Char} {uri : Uri} (hplain : Target.schemeOnly? text = none)
    (h : parse? text = some uri) : Target.ofPlain text = ⟨uri.scheme, uri.path⟩ := by
  rw [Target.ofPlain, hplain, h]

/-- A target that is no address is a path. -/
theorem ofPlain_of_none {text : List Char} (hplain : Target.schemeOnly? text = none)
    (h : parse? text = none) : Target.ofPlain text = ⟨none, Target.withoutQuery text⟩ := by
  rw [Target.ofPlain, hplain, h]

/-- A target from the root is a path, whether it is an address or not. -/
theorem ofPlain_slash {rest : List Char} (hhash : '#' ∉ rest) :
    Target.ofPlain ('/' :: rest) = ⟨none, Target.withoutQuery ('/' :: rest)⟩ := by
  cases hread : parse? ('/' :: rest) with
  | none => exact ofPlain_of_none (schemeOnly?_slash rest) hread
  | some uri => rw [ofPlain_of_some (schemeOnly?_slash rest) hread, parse?_slash hhash hread]

/-- The query tells how the target in front of it is read: the target is an address, and the two
are none together. Behind a host alone every query does this. Behind an address with a scheme and a
host one does that holds characters which queries do not have, or makes the whole too long. -/
structure SwayedBy (target query : List Char) : Prop where
  hosted : Target.schemeOnly? target = none
  refused : ∃ uri, parse? target = some uri ∧
    (uri = { path := [] } ∨ uri.scheme.isSome = true ∧
      (maxLength < byteLength (target ++ '?' :: query) ∨ query.all isQueryChar = false))

section

variable {target query : List Char} (hquestion : '?' ∉ target) (hhash : '#' ∉ target)
  (hquery : '#' ∉ query)

include hquestion

/-- A target that some query sways does not begin at the root. -/
theorem SwayedBy.head?_ne (hhash : '#' ∉ target) (h : SwayedBy target query) :
    target.head? ≠ some '/' := by
  obtain ⟨uri, hread, hrefused⟩ := h.refused
  rcases target with _ | ⟨c, rest⟩
  · exact fun hnil => by cases hnil
  · rintro hslash
    cases hslash
    rw [List.mem_cons, not_or] at hhash
    have huri := parse?_slash hhash.2 hread
    rw [withoutQuery_eq_self hquestion] at huri
    subst huri
    rcases hrefused with hhost | ⟨hscheme, -⟩
    · cases hhost
    · cases hscheme

include hhash hquery

/-- With the query that sways it a target is a path, host and all. -/
theorem ofPlain_of_swayed (h : SwayedBy target query) :
    Target.ofPlain (target ++ '?' :: query) = ⟨none, target⟩ := by
  have hslash := h.head?_ne hquestion hhash
  obtain ⟨hplain, uri, hread, hrefused⟩ := h
  have hnone : parse? (target ++ '?' :: query) = none := by
    rw [parse?_query hslash hquestion hhash hquery, hread]
    rcases hrefused with rfl | ⟨-, hrefused⟩
    · exact ite_self none
    · exact if_pos hrefused
  rw [ofPlain_of_none ((schemeOnly?_query hquestion query).trans hplain) hnone,
    withoutQuery_append hquestion]

/-- A query that does not sway the target changes nothing. -/
theorem ofPlain_of_unswayed (h : ¬ SwayedBy target query) :
    Target.ofPlain (target ++ '?' :: query) = Target.ofPlain target := by
  have hschemes := schemeOnly?_query hquestion query
  rcases hplain : Target.schemeOnly? target with _ | found
  · rw [hplain] at hschemes
    by_cases hslash : target.head? = some '/'
    · obtain ⟨rest, rfl⟩ := List.head?_eq_some_iff.mp hslash
      rw [List.mem_cons, not_or] at hhash
      rw [List.cons_append, ofPlain_slash (by simp [hhash.2, hquery]), ofPlain_slash hhash.2,
        ← List.cons_append, withoutQuery_append hquestion, withoutQuery_eq_self hquestion]
    · -- The two are read alike when both are addresses and when neither is; `SwayedBy` is the rest.
      have hboth := parse?_query hslash hquestion hhash hquery
      have hpath : parse? (target ++ '?' :: query) = none →
          Target.ofPlain (target ++ '?' :: query) = ⟨none, target⟩ := fun hnone => by
        rw [ofPlain_of_none hschemes hnone, withoutQuery_append hquestion]
      cases hread : parse? target with
      | none =>
        rw [hread] at hboth
        rw [hpath (hboth.trans (ite_self none)), ofPlain_of_none hplain hread,
          withoutQuery_eq_self hquestion]
      | some uri =>
        rw [hread] at hboth
        rw [ofPlain_of_some hplain hread]
        rcases parse?_cases hslash hread with ⟨-, rfl⟩ | rfl | ⟨scheme, more, rfl⟩
        · exact hpath (hboth.trans (ite_self none))
        · exact absurd ⟨hplain, _, hread, .inl rfl⟩ h
        · rw [if_neg fun hrefused => h ⟨hplain, _, hread, .inr ⟨rfl, hrefused⟩⟩] at hboth
          exact ofPlain_of_some hschemes hboth
  · rw [hplain] at hschemes
    rw [Target.ofPlain, Target.ofPlain, hschemes, hplain]

omit hquery in
/-- Without the query that sways it a target is read with a path from the root, or without one. -/
theorem path_of_swayed (h : SwayedBy target query) :
    (Target.ofPlain target).path = [] ∨ (Target.ofPlain target).path.head? = some '/' := by
  have hslash := h.head?_ne hquestion hhash
  obtain ⟨hplain, uri, hread, hrefused⟩ := h
  rw [ofPlain_of_some hplain hread]
  rcases parse?_cases hslash hread with ⟨-, rfl⟩ | rfl | ⟨scheme, more, rfl⟩
  · rcases hrefused with hhost | ⟨hscheme, -⟩
    · exact .inl (congrArg Uri.path hhost)
    · cases hscheme
  · exact .inl rfl
  · exact .inr rfl

end

/-! ## Requests -/

/-- The path of a request, over its characters. -/
theorem path_requestOf (method uri : String) :
    (requestOf method uri).path.toList =
      if (Target.split uri.toList).path = [] then ['/'] else (Target.split uri.toList).path := by
  rw [requestOf, String.toList_ofList]

theorem requestOf_congr {first second : String} (method : String)
    (h : Target.split first.toList = Target.split second.toList) :
    requestOf method first = requestOf method second := by
  rw [requestOf, requestOf, h]

theorem split_eq_self {text : List Char} (h : '#' ∉ text) :
    Target.split text = Target.ofPlain text := by
  rw [Target.split, withoutFragment_eq_self h]

/-- A fragment behind a target changes nothing in the request. -/
theorem requestOf_fragment (method : String) {target : String} (h : '#' ∉ target.toList)
    (fragment : String) : requestOf method (target ++ "#" ++ fragment) = requestOf method target := by
  refine requestOf_congr method ?_
  have htext : (target ++ "#" ++ fragment).toList = target.toList ++ '#' :: fragment.toList := by
    simp
  rw [htext, split_eq_self h, Target.split, withoutFragment_append h]

/-- A fragment behind a target changes nothing in the request, whatever it holds. A query changes
nothing just when it does not sway the target: no query that addresses have, of a length that they
have, does so behind an address with a scheme, and none at all behind a path from the root, behind a
target of the form `scheme:path` or behind one that is no address. -/
theorem requestOf_query_iff_unswayed (method : String) {target query : String} (fragment : String)
    (hquestion : '?' ∉ target.toList) (hhash : '#' ∉ target.toList) (hquery : '#' ∉ query.toList) :
    requestOf method (target ++ "#" ++ fragment) = requestOf method target ∧
      requestOf method (target ++ "?" ++ query ++ "#" ++ fragment) =
        requestOf method (target ++ "?" ++ query) ∧
      (requestOf method (target ++ "?" ++ query) = requestOf method target ↔
        ¬ SwayedBy target.toList query.toList) := by
  have htext : (target ++ "?" ++ query).toList = target.toList ++ '?' :: query.toList := by simp
  have hwhole : '#' ∉ (target ++ "?" ++ query).toList := by simp [hhash, hquery]
  have hsplit : Target.split (target ++ "?" ++ query).toList =
      Target.ofPlain (target.toList ++ '?' :: query.toList) := by
    rw [split_eq_self hwhole, htext]
  refine ⟨requestOf_fragment method hhash fragment, requestOf_fragment method hwhole fragment,
    fun hsame hswayed => ?_, fun hunswayed => requestOf_congr method ?_⟩
  · -- The one path is the target, which does not begin at the root, and the other does.
    have hslash := hswayed.head?_ne hquestion hhash
    have hpath := congrArg (fun request => request.path.toList.head?) hsame
    simp only [path_requestOf, hsplit, ofPlain_of_swayed hquestion hhash hquery hswayed,
      split_eq_self hhash] at hpath
    have hroot : (if (Target.ofPlain target.toList).path = [] then ['/']
        else (Target.ofPlain target.toList).path).head? = some '/' := by
      rcases path_of_swayed hquestion hhash hswayed with hnil | hhead
      · rw [if_pos hnil]
        rfl
      · split
        · rfl
        · exact hhead
    rw [hroot] at hpath
    split at hpath
    · rename_i hnil
      obtain ⟨uri, hread, -⟩ := hswayed.refused
      rw [hnil] at hread
      cases hread
    · exact hslash hpath
  · rw [hsplit, ofPlain_of_unswayed hquestion hhash hquery hunswayed, split_eq_self hhash]

/-- Colons, slashes and another question mark in the query are no reason to read the target in
another way. -/
theorem guarded_request :
    ('?' ∉ "http://[::1]:80/a".toList ∧ '#' ∉ "http://[::1]:80/a".toList ∧
      '#' ∉ "x=http://y?z".toList) ∧
    requestOf "GET" ("http://[::1]:80/a" ++ "#" ++ "?b c#") = ⟨"GET", "http", "/a"⟩ ∧
    requestOf "GET" ("http://[::1]:80/a" ++ "?" ++ "x=http://y?z") = ⟨"GET", "http", "/a"⟩ ∧
    requestOf "GET" ("http://[::1]:80/a" ++ "?" ++ "x=http://y?z" ++ "#" ++ "?b c#") =
      ⟨"GET", "http", "/a"⟩ := by
  have hquestion : '?' ∉ "http://[::1]:80/a".toList := by decide
  have hhash : '#' ∉ "http://[::1]:80/a".toList := by decide
  have hquery : '#' ∉ "x=http://y?z".toList := by decide
  have hread : parse? "http://[::1]:80/a".toList = some ⟨some "http".toList, "/a".toList⟩ := by decide
  have hunswayed : ¬ SwayedBy "http://[::1]:80/a".toList "x=http://y?z".toList := by
    rintro ⟨-, uri, huri, hrefused⟩
    cases hread.symm.trans huri
    rcases hrefused with hhost | ⟨-, hlong | hforeign⟩
    · cases hhost
    · exact absurd hlong (by decide)
    · exact absurd hforeign (by decide)
  have hrequest : requestOf "GET" "http://[::1]:80/a" = ⟨"GET", "http", "/a"⟩ := by decide
  obtain ⟨hfragment, hboth, hsame⟩ :=
    requestOf_query_iff_unswayed "GET" "?b c#" hquestion hhash hquery
  have hwith := (hsame.mpr hunswayed).trans hrequest
  exact ⟨⟨hquestion, hhash, hquery⟩, hfragment.trans hrequest, hwith, hboth.trans hwith⟩

/-- A blank in the query makes the whole no address, and the scheme and the host a part of the path.
A host alone becomes a path with every query. -/
theorem query_sways_request :
    ('?' ∉ "http://h/a".toList ∧ '#' ∉ "http://h/a".toList ∧ '#' ∉ "x y".toList) ∧
    requestOf "GET" "http://h/a" = ⟨"GET", "http", "/a"⟩ ∧
    requestOf "GET" ("http://h/a" ++ "?" ++ "x y") = ⟨"GET", "", "http://h/a"⟩ ∧
    ('?' ∉ "h".toList ∧ '#' ∉ "h".toList ∧ '#' ∉ "x".toList) ∧
    requestOf "GET" "h" = ⟨"GET", "", "/"⟩ ∧
    requestOf "GET" ("h" ++ "?" ++ "x") = ⟨"GET", "", "h"⟩ := by
  decide

end Switchyard.Http
