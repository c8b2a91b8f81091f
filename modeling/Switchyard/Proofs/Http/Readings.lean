import Switchyard.Http.Message
import Switchyard.Proofs.Http.Query
import Switchyard.Router

/-!
# Two readings of an address

An address reaches a router on two ways. A message carries it read as a whole. A target is split: its
fragment is cut off, a scheme without a host is looked for, and only then what is left is read as an
address. An address reads alike without its fragment (`parse?_withoutFragment`), and one that has a
path is never taken for a scheme without a host (`schemeOnly?_of_parse?`), whatever colons stand in
it. So both ways lead to the same path, and with a scheme to the same request; a host alone is the
one kind of address that they read differently (`readings_agree`).
-/

namespace Switchyard.Http

open Uri

/-! ## Fragments of addresses -/

theorem pathOf?_fragment {text : List Char} (hhash : '#' ∉ text) (fragment : List Char) :
    pathOf? (text ++ '#' :: fragment) = pathOf? text := by
  rw [pathOf?, pathOf?, withoutFragment_append hhash, withoutFragment_eq_self hhash]

/-- A fragment behind an address that begins with no slash leaves it as it is, but for a host alone,
which has none. -/
theorem parseAbsolute?_fragment {text : List Char} (hhash : '#' ∉ text) (fragment : List Char) :
    parseAbsolute? (text ++ '#' :: fragment) =
      (parseAbsolute? text).filter (·.scheme.isSome) := by
  have hmarked : parseAbsolute? (text ++ '#' :: fragment) =
      if true then (parseAbsolute? text).filter (·.scheme.isSome) else none := by
    refine parseAbsolute?_marked rfl fun rest hsuffix => ?_
    exact pathOf?_fragment (fun hmem => hhash (hsuffix.mem hmem)) fragment
  exact hmarked

theorem parse?_of_slash (rest : List Char) :
    parse? ('/' :: rest) =
      if maxLength < byteLength ('/' :: rest) then none
      else (pathOf? ('/' :: rest)).map fun path => { path } := rfl

theorem parse?_of_fragment {text fragment : List Char} (hhash : '#' ∉ text) {uri : Uri}
    (h : parse? (text ++ '#' :: fragment) = some uri) : parse? text = some uri := by
  have hlength := byteLength_le_append text ('#' :: fragment)
  by_cases hslash : text.head? = some '/'
  · obtain ⟨rest, rfl⟩ := List.head?_eq_some_iff.mp hslash
    have hpath := pathOf?_fragment hhash fragment
    rw [List.cons_append] at h hpath hlength
    rw [parse?_of_slash] at h ⊢
    split at h
    · cases h
    · rename_i hlong
      rw [if_neg fun hlonger => hlong (Nat.lt_of_lt_of_le hlonger hlength)]
      rwa [hpath] at h
  · have hhead : (text ++ '#' :: fragment).head? ≠ some '/' := by
      rcases text with _ | ⟨c, text⟩
      · exact fun h => by cases h
      · exact hslash
    have hstar : text ++ '#' :: fragment ≠ ['*'] := by
      rcases text with _ | ⟨c, _ | ⟨d, text⟩⟩ <;> exact fun h => by cases h
    rw [parse?_of_head hhead hstar, parseAbsolute?_fragment hhash] at h
    split at h
    · cases h
    · rename_i hlong
      obtain ⟨hread, hscheme⟩ := Option.filter_eq_some_iff.mp h
      -- The asterisk alone would be a host here, and with a fragment that is no address.
      have hname : text ≠ ['*'] := by
        rintro rfl
        cases hread
        cases hscheme
      rw [parse?_of_head hslash hname,
        if_neg fun hlonger => hlong (Nat.lt_of_lt_of_le hlonger hlength)]
      exact hread

/-- An address reads alike without its fragment. -/
theorem parse?_withoutFragment {text : List Char} {uri : Uri} (h : parse? text = some uri) :
    parse? (withoutFragment text) = some uri := by
  rcases hcut : Text.cut '#' text with ⟨front, _ | fragment⟩
  · rwa [withoutFragment_eq_self (Text.not_mem_of_cut hcut)]
  · obtain ⟨hhash, rfl⟩ := Text.eq_of_cut hcut
    rw [withoutFragment_append hhash]
    exact parse?_of_fragment hhash h

/-! ## Paths of addresses -/

theorem path_of_slash {rest : List Char} {uri : Uri} (h : parse? ('/' :: rest) = some uri) :
    ∃ more, uri = { path := '/' :: more } := by
  rw [parse?_of_slash] at h
  split at h
  · cases h
  · obtain ⟨path, hpath, rfl⟩ := Option.map_eq_some_iff.mp h
    obtain ⟨more, rfl⟩ := pathOf?_cases (by simp) hpath
    exact ⟨more, rfl⟩

/-- All addresses have a path but a host alone. -/
theorem path_ne_nil_iff {text : List Char} {uri : Uri} (h : parse? text = some uri) :
    uri.path ≠ [] ↔ uri.scheme.isSome = true ∨ text.head? = some '/' ∨ text = ['*'] := by
  by_cases hslash : text.head? = some '/'
  · obtain ⟨rest, rfl⟩ := List.head?_eq_some_iff.mp hslash
    obtain ⟨more, rfl⟩ := path_of_slash h
    exact iff_of_true (List.cons_ne_nil _ _) (.inr (.inl rfl))
  · rcases parse?_cases hslash h with ⟨rfl, rfl⟩ | rfl | ⟨scheme, more, rfl⟩
    · exact iff_of_true (List.cons_ne_nil _ _) (.inr (.inr rfl))
    · refine iff_of_false (fun hne => hne rfl) ?_
      rintro (hscheme | hhead | rfl)
      · cases hscheme
      · exact hslash hhead
      · cases h
    · exact iff_of_true (List.cons_ne_nil _ _) (.inl rfl)

theorem exists_splitScheme? {text : List Char} {uri : Uri} (h : parse? text = some uri)
    (hscheme : uri.scheme.isSome = true) : ∃ found, splitScheme? text = some (some found) := by
  -- Of the forms an address can have, only the absolute one has a scheme.
  have habsolute : parseAbsolute? text = some uri := by
    unfold parse? at h
    split at h
    · cases h
    · split at h
      · cases h
      · cases h
        cases hscheme
      · obtain ⟨path, -, rfl⟩ := Option.map_eq_some_iff.mp h
        cases hscheme
      · exact h
  rw [parseAbsolute?] at habsolute
  rcases hsplit : splitScheme? text with _ | _ | found
  · rw [hsplit] at habsolute
    cases habsolute
  · rw [hsplit] at habsolute
    dsimp only at habsolute
    split at habsolute
    · cases habsolute
      cases hscheme
    · cases habsolute
  · exact ⟨found, rfl⟩

/-- Behind the first colon of an address with a scheme stand two slashes. -/
theorem schemeOnly?_of_splitScheme? {text : List Char} {found : List Char × List Char}
    (h : splitScheme? text = some (some found)) : Target.schemeOnly? text = none := by
  obtain ⟨scheme, rest⟩ := found
  obtain ⟨name, hname, rfl⟩ := eq_of_splitScheme? h
  have hslashes : Text.stripStart? ['/', '/'] ('/' :: '/' :: rest) = some rest := rfl
  rw [Target.schemeOnly?, Text.cut_of_not_mem hname]
  simp only [hslashes, Option.isNone_some, Bool.and_false, Bool.false_eq_true, if_false]

/-- An address with a path is not taken for a scheme without a host. -/
theorem schemeOnly?_of_parse? {text : List Char} {uri : Uri} (h : parse? text = some uri)
    (hpath : uri.path ≠ []) : Target.schemeOnly? text = none := by
  rcases (path_ne_nil_iff h).mp hpath with hscheme | hslash | rfl
  · obtain ⟨found, hfound⟩ := exists_splitScheme? h hscheme
    exact schemeOnly?_of_splitScheme? hfound
  · obtain ⟨rest, rfl⟩ := List.head?_eq_some_iff.mp hslash
    exact schemeOnly?_slash rest
  · rfl

/-- A target that is an address with a path is split as the address is read. -/
theorem split_of_parse? {text : List Char} {uri : Uri} (h : parse? text = some uri)
    (hpath : uri.path ≠ []) : Target.split text = ⟨uri.scheme, uri.path⟩ := by
  have hread := parse?_withoutFragment h
  exact ofPlain_of_some (schemeOnly?_of_parse? hread hpath) hread

/-! ## Requests -/

theorem requestOf_of_parse? {text : String} {uri : Uri} (h : parse? text.toList = some uri)
    (hpath : uri.path ≠ []) (method : String) :
    requestOf method text =
      ⟨method, String.ofList (uri.scheme.getD []), String.ofList uri.path⟩ := by
  rw [requestOf, split_of_parse? h hpath]
  simp only [if_neg hpath]

/-- A request always has a path. -/
theorem path_requestOf_ne (method text : String) : (requestOf method text).path ≠ "" := by
  intro hempty
  have hpath := path_requestOf method text
  rw [hempty] at hpath
  split at hpath
  · cases hpath
  · rename_i hne
    exact hne hpath.symm

/-- The request read from an address and the request of a message with that address have one path
just when the address has a scheme, begins at the root or is the asterisk. Then the address has the
scheme that is split off it, and with a scheme the two requests are one, so that every router answers
them alike. -/
theorem readings_agree {message : Message} {text : String}
    (hread : parse? text.toList = some message.uri) (fallback : String) :
    ((requestOf message.method text).path = (message.request fallback).path ↔
      message.uri.scheme.isSome = true ∨ text.toList.head? = some '/' ∨ text = "*") ∧
    (message.uri.scheme.isSome = true ∨ text.toList.head? = some '/' ∨ text = "*" →
      ∀ scheme, (Target.split text.toList).scheme = some scheme ↔
        message.uri.scheme = some scheme) ∧
    (message.uri.scheme.isSome = true →
      requestOf message.method text = message.request fallback ∧
      ∀ router : Router,
        router.find (requestOf message.method text) = router.find (message.request fallback)) := by
  have hforms : message.uri.path ≠ [] ↔
      message.uri.scheme.isSome = true ∨ text.toList.head? = some '/' ∨ text = "*" := by
    rw [path_ne_nil_iff hread, ← String.toList_inj]
    rfl
  refine ⟨⟨fun hsame => ?_, fun hform => ?_⟩, fun hform scheme => ?_, fun hscheme => ?_⟩
  · -- The path of a host alone is empty in the message, and the root in the other request.
    rw [← hforms]
    intro hnil
    rw [Message.request, hnil] at hsame
    exact path_requestOf_ne message.method text hsame
  · rw [requestOf_of_parse? hread (hforms.mpr hform)]
    rfl
  · rw [split_of_parse? hread (hforms.mpr hform)]
  · have hsame : requestOf message.method text = message.request fallback := by
      obtain ⟨scheme, hsome⟩ := Option.isSome_iff_exists.mp hscheme
      rw [requestOf_of_parse? hread (hforms.mpr (.inl hscheme)), Message.request, hsome]
      rfl
    exact ⟨hsame, fun router => congrArg router.find hsame⟩

/-- A message to a host in brackets behind a user, with colons wherever they may stand. -/
def guarded : Message where
  method := "PURGE"
  uri := ⟨some "Git+ssh".toList, "/a:b//c".toList⟩

/-- Neither the colons of the user, the host, the path, the query and the fragment nor the question
mark in the fragment lead to another reading. -/
theorem guarded_readings_agree :
    parse? "Git+ssh://u:p@[::1]:80/a:b//c?d=http://e#f:/g?h".toList = some guarded.uri ∧
    requestOf "PURGE" "Git+ssh://u:p@[::1]:80/a:b//c?d=http://e#f:/g?h" =
      ⟨"PURGE", "Git+ssh", "/a:b//c"⟩ ∧
    guarded.request "https" = ⟨"PURGE", "Git+ssh", "/a:b//c"⟩ ∧
    (Target.split "Git+ssh://u:p@[::1]:80/a:b//c?d=http://e#f:/g?h".toList).scheme =
      some "Git+ssh".toList := by
  have hread : parse? "Git+ssh://u:p@[::1]:80/a:b//c?d=http://e#f:/g?h".toList =
      some guarded.uri := by decide
  obtain ⟨-, hscheme, hsame⟩ := readings_agree hread "https"
  have hrequest : guarded.request "https" = ⟨"PURGE", "Git+ssh", "/a:b//c"⟩ := by decide
  exact ⟨hread, (hsame rfl).1.trans hrequest, hrequest,
    (hscheme (.inl rfl) "Git+ssh".toList).mpr rfl⟩

end Switchyard.Http
