import Mathlib.Data.List.DropRight
import Switchyard.Proofs.Names.Keyed
import Switchyard.Proofs.Pattern.Split
import Switchyard.Route

/-!
# Evaluating a request

What a route does with a request that its filters let through, in terms of readings: the first
reading of the trimmed path decides (`Route.evaluate_eq`), and the match holds the decoded text of a
placeholder's piece, or the default where the piece is empty (`Route.get?_matchParams`).
-/

namespace Switchyard

open Regex

/-! ## Segments as patterns write them -/

namespace Segment

/-- What the text of a pattern can write: literals that are not empty, and names of letters and
digits. -/
def Written : Segment → Prop
  | literal text => text ≠ ""
  | optionalLiteral _ => True
  | placeholder name | optionalPlaceholder name => isName name.toList = true

theorem written_of_placeholderOf {token : List Char} {segment : Segment}
    (h : placeholderOf token = .ok segment) : segment.Written := by
  unfold placeholderOf at h
  split at h <;> try split at h
  · rename_i hname
    cases h
    rw [Written, String.toList_ofList]
    exact hname
  · cases h
  · rename_i hname
    cases h
    rw [Written, String.toList_ofList]
    exact hname
  · cases h
  · cases h

theorem written_of_ofToken {token : List Char} (hne : token ≠ []) {segment : Segment}
    (h : ofToken token = .ok segment) : segment.Written := by
  unfold ofToken at h
  split at h
  · exact written_of_placeholderOf h
  · split at h
    · cases h
    · split at h
      · cases h
        trivial
      · cases h
        intro hempty
        have hlist := congrArg String.toList hempty
        rw [String.toList_ofList] at hlist
        exact hne hlist

theorem written_of_parseTokens {path : String} {tokens : List (List Char)} {segments : List Segment}
    (hne : ∀ token ∈ tokens, token ≠ []) (h : parseTokens path tokens = .ok segments) :
    ∀ segment ∈ segments, segment.Written := by
  induction tokens generalizing segments with
  | nil =>
    cases h
    exact fun segment hmem => (by cases hmem)
  | cons token rest ih =>
    rw [List.forall_mem_cons] at hne
    rw [parseTokens, parse, String.toList_ofList] at h
    cases htoken : ofToken token with
    | error fault =>
      rw [htoken] at h
      cases h
    | ok first =>
      rw [htoken] at h
      cases hrest : parseTokens path rest with
      | error cause =>
        rw [hrest] at h
        cases h
      | ok more =>
        rw [hrest] at h
        cases h
        exact List.forall_mem_cons.mpr ⟨written_of_ofToken hne.1 htoken, ih hne.2 hrest⟩

end Segment

/-- The segments of a route are such as its path pattern can write. -/
theorem Route.written (route : Route) : ∀ segment ∈ route.segments, segment.Written :=
  Segment.written_of_parseTokens
    (fun token hmem => by simpa using (List.mem_filter.mp hmem).2) route.parsed

/-- A name of letters and digits is none of the parameters that a match adds. -/
theorem ne_of_isName {name : String} (h : Segment.isName name.toList = true) :
    name ≠ requestMethodParam ∧ name ≠ requestSchemeParam := by
  rw [Segment.isName, Bool.and_eq_true] at h
  have halphanum := List.all_eq_true.mp h.2
  constructor
  · rintro rfl
    exact absurd (halphanum '_' (by decide)) (by decide)
  · rintro rfl
    exact absurd (halphanum '_' (by decide)) (by decide)

/-! ## Names bound once -/

theorem nodup_of_firstRepeated? {names seen : List String}
    (h : Pattern.firstRepeated? seen names = none) :
    names.Nodup ∧ ∀ name ∈ names, name ∉ seen := by
  induction names generalizing seen with
  | nil => exact ⟨List.nodup_nil, fun name hmem => (by cases hmem)⟩
  | cons name names ih =>
    rw [Pattern.firstRepeated?] at h
    split at h
    · cases h
    · rename_i hname
      obtain ⟨hnodup, hdisjoint⟩ := ih h
      refine ⟨List.nodup_cons.mpr ⟨fun hmem => ?_, hnodup⟩, fun other hmem => ?_⟩
      · exact hdisjoint name hmem List.mem_cons_self
      · rcases List.mem_cons.mp hmem with rfl | hmem
        · exact hname
        · exact fun hseen => hdisjoint other hmem (List.mem_cons_of_mem _ hseen)

/-- A pattern with a program binds no name twice. -/
theorem Pattern.nodup_names {pattern : Pattern} (h : pattern.program?.isSome = true) :
    pattern.names.Nodup := by
  unfold program? at h
  split at h
  · cases h
  · rename_i hduplicate
    exact (nodup_of_firstRepeated? hduplicate).1

/-! ## What readings bind -/

theorem mem_boundBy {segments : List Segment} {pieces : List Piece} {name : String}
    {text : List Char} :
    (name, text) ∈ boundBy segments pieces ↔
      ∃ pair ∈ segments.zip pieces, pair.1.name? = some name ∧ pair.2.text = text ∧ text ≠ [] := by
  induction segments generalizing pieces with
  | nil => simp [boundBy]
  | cons segment segments ih =>
    rcases pieces with _ | ⟨piece, pieces⟩
    · simp [boundBy]
    · rw [List.zip_cons_cons, List.exists_mem_cons_iff, ← ih, boundBy]
      -- A segment without a name binds nothing, and a placeholder with an empty text neither.
      cases hname : segment.name? with
      | none => simp
      | some other =>
        by_cases htext : piece.text = []
        · simp only [htext, if_true]
          refine ⟨.inr, fun h => h.elim (fun h => absurd h.2.1.symm h.2.2) id⟩
        · simp only [htext, if_false, List.mem_cons, Prod.mk.injEq, Option.some.injEq]
          refine or_congr_left ⟨?_, ?_⟩
          · rintro ⟨rfl, rfl⟩
            exact ⟨rfl, rfl, htext⟩
          · rintro ⟨rfl, rfl, -⟩
            exact ⟨rfl, rfl⟩

theorem keys_boundBy (segments : List Segment) (pieces : List Piece) :
    ((boundBy segments pieces).map Prod.fst).Sublist (segments.filterMap Segment.name?) := by
  induction segments generalizing pieces with
  | nil => exact .slnil
  | cons segment segments ih =>
    rcases pieces with _ | ⟨piece, pieces⟩
    · exact List.nil_sublist _
    · rw [boundBy]
      cases hname : segment.name? with
      | none =>
        rw [List.filterMap_cons_none hname]
        exact ih pieces
      | some name =>
        rw [List.filterMap_cons_some hname]
        simp only
        split
        · exact (ih pieces).cons name
        · exact (ih pieces).cons_cons name

/-- Where names are bound once, a name has one piece. -/
theorem piece_unique {segments : List Segment} (hnodup : (segments.filterMap Segment.name?).Nodup)
    {pieces : List Piece} {first second : Segment × Piece} {name : String}
    (hfirst : first ∈ segments.zip pieces) (hsecond : second ∈ segments.zip pieces)
    (hname : first.1.name? = some name) (hname' : second.1.name? = some name) : first = second := by
  induction segments generalizing pieces with
  | nil => cases hfirst
  | cons segment segments ih =>
    rcases pieces with _ | ⟨piece, pieces⟩
    · cases hfirst
    · have hmem : ∀ pair ∈ segments.zip pieces, pair.1.name? = some name →
          name ∈ segments.filterMap Segment.name? := fun pair hpair h =>
        List.mem_filterMap.mpr ⟨pair.1, (List.of_mem_zip hpair).1, h⟩
      rw [List.zip_cons_cons, List.mem_cons] at hfirst hsecond
      -- If only one of the two is the first segment, its name stands again among the rest.
      rcases hfirst with rfl | hfirst <;> rcases hsecond with rfl | hsecond
      · rfl
      · rw [List.filterMap_cons_some hname, List.nodup_cons] at hnodup
        exact absurd (hmem _ hsecond hname') hnodup.1
      · rw [List.filterMap_cons_some hname', List.nodup_cons] at hnodup
        exact absurd (hmem _ hfirst hname) hnodup.1
      · exact ih (hnodup.sublist (List.Sublist.filterMap _ (List.sublist_cons_self _ _)))
          hfirst hsecond

/-! ## Requests -/

namespace Route

/-- The request's path as it is matched: without the slashes at its end. -/
def trimmed (path : String) : List Char := Text.trimEnd (· = '/') path.toList

theorem trimmed_ofList {text : List Char} (h : text.getLast? ≠ some '/') :
    trimmed (String.ofList text) = text := by
  rw [trimmed, String.toList_ofList]
  refine List.rdropWhile_eq_self_iff.mpr fun hne hslash => h ?_
  rw [List.getLast?_eq_some_getLast hne, of_decide_eq_true hslash]

theorem getLast?_trimmed (path : String) : (trimmed path).getLast? ≠ some '/' := by
  intro hlast
  have hne : trimmed path ≠ [] := by
    intro hnil
    rw [hnil] at hlast
    cases hlast
  rw [List.getLast?_eq_some_getLast hne, Option.some.injEq] at hlast
  exact List.rdropWhile_last_not (· = '/') path.toList hne (decide_eq_true hlast)

/-- The filters of the route let the request through. -/
def Admits (route : Route) (request : Request) : Prop :=
  passes route.config.methods (Text.upper request.method) = true ∧
    passes route.config.schemes (Text.lower request.scheme) = true

/-- Without filters every request comes through. -/
theorem admits_of_empty {route : Route} (hmethods : route.config.methods = .empty)
    (hschemes : route.config.schemes = .empty) (request : Request) : route.Admits request := by
  rw [Admits, hmethods, hschemes]
  exact ⟨rfl, rfl⟩

/-- A filter in canonical case lets some name through. -/
theorem exists_passes {filter : NameSet} {fold : String → String}
    (hcanonical : filter.image fold = filter) : ∃ name, passes filter (fold name) = true := by
  rcases hentries : filter.entries with _ | ⟨⟨key, value⟩, rest⟩
  · refine ⟨"", ?_⟩
    rw [passes, Keyed.isEmpty, hentries]
    rfl
  · have hkey : key ∈ (filter.image fold).names := by
      rw [hcanonical, Keyed.names, hentries]
      exact List.mem_cons_self
    obtain ⟨name, -, rfl⟩ := (NameSet.mem_names_image fold filter key).mp hkey
    rw [hcanonical, NameSet.mem_names_iff] at hkey
    refine ⟨name, ?_⟩
    rw [passes, Keyed.contains, hkey, Option.isSome_some, Bool.or_true]

/-- Every path stands in some request that the filters let through. -/
theorem exists_admitted (route : Route) (path : String) :
    ∃ request : Request, request.path = path ∧ route.Admits request := by
  have hmethods : route.config.methods.image Text.upper = route.config.methods :=
    congrArg RouteConfig.methods route.canonical
  have hschemes : route.config.schemes.image Text.lower = route.config.schemes :=
    congrArg RouteConfig.schemes route.canonical
  obtain ⟨method, hmethod⟩ := exists_passes hmethods
  obtain ⟨scheme, hscheme⟩ := exists_passes hschemes
  exact ⟨⟨method, scheme, path⟩, rfl, hmethod, hscheme⟩

/-- The readings of a path by the route. -/
def readings (route : Route) (path : List Char) : List (List Piece) :=
  Switchyard.readings route.config.constraints route.segments (Cursor.start path)

/-- Where no constraint holds an assertion, the readings are the splits into accepted pieces. -/
theorem mem_readings {route : Route} (hregular : route.pattern.Regular) {path : List Char}
    {pieces : List Piece} :
    pieces ∈ route.readings path ↔
      List.Forall₂ (Segment.Accepts route.config.constraints) route.segments pieces ∧
        path = pieces.flatMap Piece.chars :=
  mem_readings_iff fun _ hsegment => hregular.local_value hsegment

/-- What the pattern takes from a path is what the first reading gives. -/
theorem captures?_eq {route : Route} (hsound : route.pattern.Sound) {program : Regex}
    (hprogram : route.pattern.program? = some program) (path : List Char) :
    route.pattern.captures? program path =
      (route.readings path).head?.map (boundBy route.segments) :=
  captures?_eq_readings hsound hprogram path

/-- A request that the filters let through is matched by the first reading of its path. -/
theorem evaluate_eq {route : Route} {request : Request} (hadmits : route.Admits request)
    (hsound : route.pattern.Sound) (hprogram : route.pattern.program?.isSome = true) :
    route.evaluate request =
      match (route.readings (trimmed request.path)).head? with
      | none => .error .path
      | some pieces =>
        .ok ⟨route.matchParams (boundBy route.segments pieces) (Text.upper request.method)
          (Text.lower request.scheme), none⟩ := by
  obtain ⟨program, hprogram⟩ := Option.isSome_iff_exists.mp hprogram
  have hcaptures := captures?_eq hsound hprogram (trimmed request.path)
  unfold evaluate
  simp only [hadmits.1, hadmits.2, hprogram]
  rw [show Text.trimEnd (· = '/') request.path.toList = trimmed request.path from rfl, hcaptures]
  cases (route.readings (trimmed request.path)).head? with
  | none => rfl
  | some pieces => rfl

/-- What a route accepts its filters let through, and it has a program. -/
theorem admits_of_evaluate {route : Route} {request : Request} {found : RouteMatch}
    (h : route.evaluate request = .ok found) :
    route.Admits request ∧ route.pattern.program?.isSome = true := by
  unfold evaluate at h
  simp only at h
  split at h
  · cases h
  · rename_i hmethod
    split at h
    · cases h
    · rename_i hscheme
      split at h
      · cases h
      · rename_i program hprogram
        rw [Bool.not_eq_true, Bool.not_eq_false'] at hmethod hscheme
        exact ⟨⟨hmethod, hscheme⟩, by rw [hprogram]; rfl⟩

/-- A match holds what the first reading of the path gives. -/
theorem evaluate_eq_ok {route : Route} {request : Request} (hadmits : route.Admits request)
    (hsound : route.pattern.Sound) (hprogram : route.pattern.program?.isSome = true)
    {found : RouteMatch} :
    route.evaluate request = .ok found ↔
      ∃ pieces, (route.readings (trimmed request.path)).head? = some pieces ∧
        found = ⟨route.matchParams (boundBy route.segments pieces) (Text.upper request.method)
          (Text.lower request.scheme), none⟩ := by
  rw [evaluate_eq hadmits hsound hprogram]
  cases (route.readings (trimmed request.path)).head? with
  | none => exact ⟨fun h => (by cases h), fun ⟨_, h, _⟩ => (by cases h)⟩
  | some pieces =>
    rw [Except.ok.injEq]
    refine ⟨fun h => ⟨pieces, rfl, h.symm⟩, fun ⟨_, h, hfound⟩ => ?_⟩
    cases h
    exact hfound.symm

/-- The request is accepted where its path has a reading, and only there. -/
theorem accepts_iff {route : Route} {request : Request} (hadmits : route.Admits request)
    (hsound : route.pattern.Sound) (hprogram : route.pattern.program?.isSome = true) :
    (∃ found, route.evaluate request = .ok found) ↔
      ∃ pieces, pieces ∈ route.readings (trimmed request.path) := by
  simp only [evaluate_eq_ok hadmits hsound hprogram]
  rcases route.readings (trimmed request.path) with _ | ⟨pieces, more⟩
  · simp
  · simp

/-! ## Parameters of a match -/

theorem isName_of_mem {route : Route} {segment : Segment} (hmem : segment ∈ route.segments)
    {name : String} (hname : segment.name? = some name) : Segment.isName name.toList = true := by
  have hwritten := route.written segment hmem
  cases segment with
  | literal text | optionalLiteral text => cases hname
  | placeholder other | optionalPlaceholder other =>
    cases hname
    exact hwritten

/-- Under the name of a placeholder a match holds the decoded text of its piece, or the default where
the piece has no text. -/
theorem get?_matchParams {route : Route} (hnodup : route.pattern.names.Nodup) {pieces : List Piece}
    {segment : Segment} {piece : Piece} (hmem : (segment, piece) ∈ route.segments.zip pieces)
    {name : String} (hname : segment.name? = some name) (method scheme : String) :
    (route.matchParams (boundBy route.segments pieces) method scheme).get? name =
      if piece.text = [] then route.config.defaults.get? name
      else some (String.ofList (Percent.decodeChars piece.text)) := by
  obtain ⟨hmethod, hscheme⟩ := ne_of_isName (isName_of_mem (List.of_mem_zip hmem).1 hname)
  rw [matchParams, Keyed.get?_insert, if_neg (Ne.symm hscheme), Keyed.get?_insert,
    if_neg (Ne.symm hmethod)]
  have hkeys : ((boundBy route.segments pieces).map fun pair =>
      (pair.1, String.ofList (Percent.decodeChars pair.2))).map Prod.fst =
        (boundBy route.segments pieces).map Prod.fst := by
    rw [List.map_map]
    rfl
  -- The defaults are there first, and what the pieces bind is put over them.
  split
  · rename_i htext
    refine Keyed.get?_insertAll_of_not_mem fun hbound => ?_
    rw [hkeys, List.mem_map] at hbound
    obtain ⟨⟨other, text⟩, hbound, rfl⟩ := hbound
    obtain ⟨pair, hpair, hother, rfl, hne⟩ := mem_boundBy.mp hbound
    rw [piece_unique hnodup hpair hmem hother hname] at hne
    exact hne htext
  · rename_i htext
    refine Keyed.get?_insertAll_of_mem ?_ ?_
    · rw [hkeys]
      exact hnodup.sublist (keys_boundBy route.segments pieces)
    · exact List.mem_map.mpr ⟨(name, piece.text),
        mem_boundBy.mpr ⟨_, hmem, hname, rfl, htext⟩, rfl⟩

end Route

end Switchyard
