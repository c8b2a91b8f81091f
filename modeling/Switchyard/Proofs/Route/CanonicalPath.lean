import Mathlib.Data.List.Chain
import Switchyard.Proofs.Route.Assembly

/-!
# The form of an assembled path

A path in canonical form is the root, or segments with one slash before each and none at the end.
An assembled path has this form as long as no required placeholder is given the empty value, which
leaves the slash of its segment behind; an optional placeholder with the empty value leaves nothing
(`Route.canonical_iff_filled`).
-/

namespace Switchyard

/-! ## Slashes between texts -/

/-- No two slashes stand together. -/
def SingleSlashes (text : List Char) : Prop := text.IsChain fun c d => ¬ (c = '/' ∧ d = '/')

theorem singleSlashes_cons {text : List Char} (h : '/' ∉ text) (c : Char) :
    SingleSlashes (c :: text) := by
  induction text generalizing c with
  | nil => exact List.isChain_singleton c
  | cons d text ih =>
    rw [List.mem_cons, not_or] at h
    exact List.isChain_cons_cons.mpr ⟨fun hboth => h.1 hboth.2.symm, ih h.2 d⟩

/-- Slashes stand together where a text between them is empty. -/
theorem singleSlashes_slashed {front : List (List Char)} {last : List Char}
    (hfront : ∀ text ∈ front, '/' ∉ text) (hlast : '/' ∉ last) :
    SingleSlashes (slashed (front ++ [last])) ↔ ∀ text ∈ front, text ≠ [] := by
  induction front with
  | nil =>
    have hsingle : slashed ([] ++ [last]) = '/' :: last := by simp [slashed]
    rw [hsingle]
    exact iff_of_true (singleSlashes_cons hlast '/') fun text h => (by cases h)
  | cons first front ih =>
    rw [List.forall_mem_cons] at hfront ⊢
    have hcons : slashed (first :: front ++ [last]) =
        ('/' :: first) ++ slashed (front ++ [last]) := by simp [slashed]
    have hhead : (slashed (front ++ [last])).head? = some '/' := by
      cases front <;> simp [slashed]
    -- Only where the first text ends and the next slash stands can two slashes meet.
    rw [hcons, SingleSlashes, List.isChain_append, ← SingleSlashes, ← SingleSlashes, ih hfront.2,
      hhead]
    constructor
    · rintro ⟨-, hrest, hmeet⟩
      refine ⟨?_, hrest⟩
      rintro rfl
      exact hmeet '/' rfl '/' rfl ⟨rfl, rfl⟩
    · rintro ⟨hne, hrest⟩
      refine ⟨singleSlashes_cons hfront.1 '/', hrest, ?_⟩
      rintro c hc d - ⟨rfl, -⟩
      exact getLast?_append_ne hne hfront.1 ['/'] hc

theorem getLast?_slashed_iff (front : List (List Char)) {last : List Char} (hlast : '/' ∉ last) :
    (slashed (front ++ [last])).getLast? = some '/' ↔ last = [] := by
  refine ⟨fun h => ?_, ?_⟩
  · by_contra hne
    exact getLast?_slashed hne hlast front h
  · rintro rfl
    rw [slashed_append]
    exact List.getLast?_concat

/-! ## Assembled paths -/

namespace Route

variable {route : Route} {values : Params}

/-- The root, or segments with one slash before each and none at the end. -/
def CanonicalPath (path : String) : Prop :=
  path = "/" ∨ path.toList.head? = some '/' ∧ path.toList.getLast? ≠ some '/' ∧
    SingleSlashes path.toList

/-- Slashes at the end of a path, and no others, are taken off before it is matched. -/
theorem trimmed_eq_self_iff (path : String) :
    trimmed path = path.toList ↔ path.toList.getLast? ≠ some '/' := by
  constructor
  · intro h
    rw [← h]
    exact getLast?_trimmed path
  · intro h
    have hself := trimmed_ofList h
    rwa [String.ofList_toList] at hself

/-- What goes into a path is not empty, but for values of required placeholders. -/
theorem emitted_ne_empty_iff :
    (∀ text ∈ route.emitted values, text ≠ "") ↔
      ∀ name, Segment.placeholder name ∈ route.segments → values.get? name ≠ some "" := by
  constructor
  · intro h name hmem hempty
    exact h "" (List.mem_filterMap.mpr ⟨_, hmem, hempty⟩) rfl
  · intro h text htext
    obtain ⟨segment, hsegment, hemitted⟩ := List.mem_filterMap.mp htext
    -- An empty text comes from a required placeholder only: no literal is empty, and an optional
    -- placeholder leaves an empty value out.
    cases segment with
    | literal literal =>
      cases hemitted
      exact route.written _ hsegment
    | optionalLiteral literal => cases hemitted
    | placeholder name =>
      rintro rfl
      exact h name hsegment hemitted
    | optionalPlaceholder name =>
      rw [Segment.emitted?, Option.filter_eq_some_iff] at hemitted
      exact of_decide_eq_true hemitted.2

theorem codes_concat (front : List String) (last : String) :
    codes (front ++ [last]) = codes front ++ [Percent.encodeChars last.toList] := by
  rw [codes, List.map_append]
  rfl

theorem pathText_concat (front : List String) (last : String) :
    pathText (front ++ [last]) = slashed (codes front ++ [Percent.encodeChars last.toList]) := by
  rw [pathText, codes_concat]
  cases codes front <;> exact slash_join _ _

theorem encodeChars_toList_eq_nil {text : String} :
    Percent.encodeChars text.toList = [] ↔ text = "" := by
  rw [Percent.encodeChars_eq_nil, String.toList_eq_nil_iff]

/-- Only a path of no texts, or of one that is empty, is the root. -/
theorem pathText_eq_root_iff {texts : List String} :
    pathText texts = ['/'] ↔ texts = [] ∨ texts = [""] := by
  constructor
  · intro h
    rcases texts with _ | ⟨first, rest⟩
    · exact .inl rfl
    · have hslashed : slashed (codes (first :: rest)) = ['/'] := (slash_join _ _).symm.trans h
      obtain ⟨-, htexts⟩ := List.cons.inj hslashed
      obtain ⟨hfirst, hrest⟩ := List.append_eq_nil_iff.mp htexts
      rcases rest with _ | ⟨second, rest⟩
      · rw [encodeChars_toList_eq_nil.mp hfirst]
        exact .inr rfl
      · cases hrest
  · rintro (rfl | rfl) <;> rfl

/-- The path of texts is segments with one slash before each when none of the texts is empty. -/
theorem form_pathText_concat (front : List String) (last : String) :
    ((pathText (front ++ [last])).head? = some '/' ∧
      (pathText (front ++ [last])).getLast? ≠ some '/' ∧
        SingleSlashes (pathText (front ++ [last]))) ↔ ∀ text ∈ front ++ [last], text ≠ "" := by
  have hcode : '/' ∉ Percent.encodeChars last.toList := Percent.slash_not_mem_encodeChars last.toList
  have hfront : (∀ code ∈ codes front, code ≠ []) ↔ ∀ text ∈ front, text ≠ "" := by
    rw [codes, List.forall_mem_map]
    exact forall₂_congr fun text _ => not_congr encodeChars_toList_eq_nil
  rw [List.forall_mem_append, List.forall_mem_singleton, pathText_concat,
    singleSlashes_slashed slash_not_mem_codes hcode, Ne, getLast?_slashed_iff _ hcode,
    encodeChars_toList_eq_nil, hfront, ← pathText_concat]
  constructor
  · rintro ⟨-, hlast, hrest⟩
    exact ⟨hrest, hlast⟩
  · rintro ⟨hrest, hlast⟩
    exact ⟨rfl, hlast, hrest⟩

/-- The path of texts is in canonical form when none of them is empty, or there is no other. -/
theorem canonicalPath_pathText {texts : List String} :
    CanonicalPath (String.ofList (pathText texts)) ↔
      (∀ text ∈ texts, text ≠ "") ∨ texts = [""] := by
  have hroot : String.ofList (pathText texts) = "/" ↔ texts = [] ∨ texts = [""] := by
    rw [← pathText_eq_root_iff]
    show String.ofList _ = String.ofList ['/'] ↔ _
    exact String.ofList_inj
  rw [CanonicalPath, hroot, String.toList_ofList]
  rcases List.eq_nil_or_concat texts with rfl | ⟨front, last, rfl⟩
  · exact iff_of_true (.inl (.inl rfl)) (.inl fun text h => (by cases h))
  · have hne : front ++ [last] ≠ [] := by simp
    rw [List.concat_eq_append, form_pathText_concat, or_iff_right hne, or_comm]

/-- An assembled path begins with a slash. It is in canonical form just when no required placeholder
is given the empty value, or such a value is all that goes into the path. Slashes are taken off its
end before it is matched just when the last value in it is empty, but for the root. -/
theorem canonical_iff_filled {params : Params} {path : String}
    (hassemble : route.assemble params = .ok path) :
    path.toList.head? = some '/' ∧
    (CanonicalPath path ↔
      (∀ name, Segment.placeholder name ∈ route.segments →
        (route.merged params).get? name ≠ some "") ∨
      route.emitted (route.merged params) = [""]) ∧
    (path ≠ "/" → (trimmed path = path.toList ↔
      (route.emitted (route.merged params)).getLast? ≠ some "")) := by
  obtain ⟨-, rfl⟩ := assemble_eq_ok_iff.mp hassemble
  refine ⟨?_, ?_, fun hroot => ?_⟩
  · rw [String.toList_ofList]
    rfl
  · rw [canonicalPath_pathText, emitted_ne_empty_iff]
  · rw [trimmed_eq_self_iff, String.toList_ofList]
    -- A path with texts ends in a slash just if the last of them is empty.
    rcases List.eq_nil_or_concat (route.emitted (route.merged params)) with hnil | ⟨front, last, htexts⟩
    · rw [hnil] at hroot
      exact absurd rfl hroot
    · rw [htexts, List.concat_eq_append, pathText_concat, Ne, Ne,
        getLast?_slashed_iff _ (Percent.slash_not_mem_encodeChars last.toList),
        encodeChars_toList_eq_nil, List.getLast?_concat, Option.some.injEq]

/-- A required placeholder at the end. -/
def fooBar : Route where
  config := { path := "/foo/:bar" }
  segments := [.literal "foo", .placeholder "bar"]
  parsed := rfl
  canonical := rfl

/-- The empty value of a required placeholder leaves a slash at the end, and the path is matched
without it. -/
theorem fooBar_emptied :
    fooBar.assemble (.ofList [("bar", "")]) = .ok "/foo/" ∧ ¬ CanonicalPath "/foo/" ∧
      trimmed "/foo/" ≠ "/foo/".toList := by
  have hassemble : fooBar.assemble (.ofList [("bar", "")]) = .ok "/foo/" := by decide
  obtain ⟨-, hform, htrimmed⟩ := canonical_iff_filled hassemble
  refine ⟨hassemble, fun h => ?_, fun h => ?_⟩
  · rcases hform.mp h with hfilled | halone
    · exact hfilled "bar" (by decide) (by decide)
    · exact absurd halone (by decide)
  · exact (htrimmed (by decide)).mp h (by decide)

end Route

end Switchyard
