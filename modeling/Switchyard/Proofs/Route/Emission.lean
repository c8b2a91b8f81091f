import Switchyard.Proofs.FirstFault
import Switchyard.Proofs.Names.Keyed
import Switchyard.Proofs.Percent
import Switchyard.Proofs.Text.Split
import Switchyard.Route

/-!
# What goes into an assembled path

Each segment puts one text into a path or none (`Segment.emitted?`), and the path is the codes of
these texts behind slashes. It is assembled when the values suffice for every segment
(`Route.Supplies`), and otherwise the error is that of the first segment for which they do not
(`Route.Fails`). Since a code holds no slash, the texts are found again in the path, and a value
cannot add to them (`Route.assembles_exactly`).
-/

namespace Switchyard

/-- The text that a segment puts into a path: a literal its own, a placeholder its value. An
optional literal puts in none, and so does an optional placeholder whose value is empty. -/
def Segment.emitted? (values : Params) : Segment → Option String
  | literal text => some text
  | optionalLiteral _ => none
  | placeholder name => values.get? name
  | optionalPlaceholder name => (values.get? name).filter (· ≠ "")

/-- The texts as they stand in a path, one segment each. -/
def codes (texts : List String) : List (List Char) :=
  texts.map fun text => Percent.encodeChars text.toList

namespace Route

variable {route : Route} {values : Params} {segment : Segment}

/-- The values that a path is assembled from: the parameters, over the defaults. -/
def merged (route : Route) (params : Params) : Params := route.config.defaults.overlay params

/-- The texts that go into a path, in the order of the segments. -/
def emitted (route : Route) (values : Params) : List String :=
  route.segments.filterMap (Segment.emitted? values)

/-- The values suffice for the segment: a required placeholder has one, and what a placeholder puts
into the path satisfies its constraint in escaped form. -/
structure Supplies (route : Route) (values : Params) (segment : Segment) : Prop where
  present : ∀ name, segment = .placeholder name → values.get? name ≠ none
  allowed : ∀ name value, segment.name? = some name → segment.emitted? values = some value →
    Constraint.allows route.config.constraints name (Percent.encodeChars value.toList) = true

/-- What is wrong with the values at a segment. -/
inductive Fails (route : Route) (values : Params) : Segment → RouteError → Prop where
  | missing {name : String} (habsent : values.get? name = none) :
    Fails route values (.placeholder name) (.missingPlaceholder name)
  | violation {segment : Segment} {name value constraint : String}
    (hname : segment.name? = some name) (hemitted : segment.emitted? values = some value)
    (hget : route.config.constraints.get? name = some constraint)
    (hrefused : Constraint.admits constraint (Percent.encodeChars value.toList) = false) :
    Fails route values segment (.constraintViolation name value constraint)

/-! ## One value -/

theorem map_eq_ok {α β ε : Type} {result : Except ε α} {f : α → β} {given : β} :
    result.map f = .ok given ↔ ∃ value, result = .ok value ∧ f value = given := by
  cases result with
  | error cause => exact ⟨fun h => (by cases h), fun ⟨_, h, _⟩ => (by cases h)⟩
  | ok value =>
    show Except.ok (f value) = _ ↔ _
    rw [Except.ok.injEq]
    exact ⟨fun h => ⟨value, rfl, h⟩, fun ⟨_, h, hf⟩ => by cases h; exact hf⟩

theorem map_eq_error {α β ε : Type} {result : Except ε α} {f : α → β} {cause : ε} :
    result.map f = .error cause ↔ result = .error cause := by
  cases result with
  | error other =>
    show Except.error other = _ ↔ _
    rw [Except.error.injEq, Except.error.injEq]
  | ok value => exact ⟨fun h => (by cases h), fun h => (by cases h)⟩

theorem checked_eq_ok {name value : String} {code : List Char} :
    route.checked name value = .ok code ↔
      Constraint.allows route.config.constraints name (Percent.encodeChars value.toList) = true ∧
        code = Percent.encodeChars value.toList := by
  unfold checked
  simp only
  split
  · rename_i hallows
    rw [Except.ok.injEq]
    exact ⟨fun h => ⟨hallows, h.symm⟩, fun h => h.2.symm⟩
  · rename_i hallows
    exact ⟨fun h => (by cases h), fun h => absurd h.1 hallows⟩

theorem checked_eq_error {name value : String} {cause : RouteError} :
    route.checked name value = .error cause ↔
      ∃ constraint, route.config.constraints.get? name = some constraint ∧
        Constraint.admits constraint (Percent.encodeChars value.toList) = false ∧
          cause = .constraintViolation name value constraint := by
  unfold checked Constraint.allows
  cases hget : route.config.constraints.get? name with
  | none => exact ⟨fun h => (by cases h), fun ⟨_, h, _⟩ => (by cases h)⟩
  | some constraint =>
    simp only [Option.all_some, Option.getD_some, Option.some.injEq, exists_eq_left']
    cases Constraint.admits constraint (Percent.encodeChars value.toList) with
    | true => exact ⟨fun h => (by cases h), fun h => (by cases h.1)⟩
    | false =>
      rw [if_neg Bool.false_ne_true, Except.error.injEq]
      exact ⟨fun h => ⟨rfl, h.symm⟩, fun h => h.2.symm⟩

/-! ## One segment -/

/-- A segment's part is the code of its text, checked when the text is a value. -/
theorem part_eq (route : Route) (values : Params) (segment : Segment) :
    route.part values segment =
      match segment.name?, segment.emitted? values with
      | none, text => .ok (text.map fun text => Percent.encodeChars text.toList)
      | some name, some value => (route.checked name value).map some
      | some name, none => if segment.isOptional then .ok none else .error (.missingPlaceholder name) := by
  cases segment with
  | literal text | optionalLiteral text => rfl
  | placeholder name =>
    rw [part, Segment.emitted?]
    cases values.get? name <;> rfl
  | optionalPlaceholder name =>
    rw [part, Segment.emitted?]
    -- An empty value of an optional placeholder counts as none.
    cases values.get? name with
    | none => rfl
    | some value =>
      by_cases hempty : value = ""
      · subst hempty
        rfl
      · have hkept : (some value).filter (· ≠ "") = some value := by simp [hempty]
        rw [hkept]
        exact if_neg hempty

/-- Values always suffice for a segment that puts none of them into the path, but for a required
placeholder. -/
theorem supplies_of_none {name : String} (hname : segment.name? = some name)
    (hemitted : segment.emitted? values = none) :
    route.Supplies values segment ↔ segment.isOptional = true := by
  cases segment with
  | literal text | optionalLiteral text => cases hname
  | placeholder other => exact ⟨fun h => absurd hemitted (h.present other rfl), fun h => (by cases h)⟩
  | optionalPlaceholder other =>
    refine ⟨fun _ => rfl, fun _ => ⟨fun name h => (by cases h), fun name value _ hvalue => ?_⟩⟩
    rw [hemitted] at hvalue
    cases hvalue

theorem supplies_of_some {name value : String} (hname : segment.name? = some name)
    (hemitted : segment.emitted? values = some value) :
    route.Supplies values segment ↔
      Constraint.allows route.config.constraints name (Percent.encodeChars value.toList) = true := by
  refine ⟨fun h => h.allowed name value hname hemitted, fun hallows => ⟨?_, ?_⟩⟩
  · rintro other rfl habsent
    exact Option.some_ne_none value (hemitted.symm.trans habsent)
  · intro other given hother hgiven
    cases hname.symm.trans hother
    cases hemitted.symm.trans hgiven
    exact hallows

theorem supplies_of_unnamed (hname : segment.name? = none) : route.Supplies values segment := by
  refine ⟨?_, fun other value hother => ?_⟩
  · rintro other rfl
    cases hname
  · rw [hname] at hother
    cases hother

/-- A segment has its part in the path when the values suffice for it. -/
theorem part_eq_ok_iff {share : Option (List Char)} :
    route.part values segment = .ok share ↔
      route.Supplies values segment ∧
        share = (segment.emitted? values).map fun text => Percent.encodeChars text.toList := by
  rw [part_eq]
  -- The three lines of `part_eq`: a segment without a name, a placeholder with a value, one
  -- without.
  cases hname : segment.name? with
  | none =>
    rw [Except.ok.injEq]
    exact ⟨fun h => ⟨supplies_of_unnamed hname, h.symm⟩, fun h => h.2.symm⟩
  | some name =>
    cases hemitted : segment.emitted? values with
    | none =>
      rw [supplies_of_none hname hemitted]
      dsimp only
      split
      · rename_i hoptional
        rw [Except.ok.injEq]
        exact ⟨fun h => ⟨hoptional, h.symm⟩, fun h => h.2.symm⟩
      · rename_i hrequired
        exact ⟨fun h => (by cases h), fun h => absurd h.1 hrequired⟩
    | some value =>
      simp only [map_eq_ok, checked_eq_ok, supplies_of_some hname hemitted]
      constructor
      · rintro ⟨code, ⟨hallows, rfl⟩, rfl⟩
        exact ⟨hallows, rfl⟩
      · rintro ⟨hallows, rfl⟩
        exact ⟨_, ⟨hallows, rfl⟩, rfl⟩

theorem part_eq_error_iff {cause : RouteError} :
    route.part values segment = .error cause ↔ route.Fails values segment cause := by
  constructor
  · rw [part_eq]
    intro herror
    cases hname : segment.name? with
    | none =>
      rw [hname] at herror
      cases herror
    | some name =>
      cases hemitted : segment.emitted? values with
      | none =>
        rw [hname, hemitted] at herror
        cases segment with
        | literal text | optionalLiteral text => cases hname
        | placeholder other =>
          cases hname
          cases herror
          exact .missing hemitted
        | optionalPlaceholder other => cases herror
      | some value =>
        rw [hname, hemitted] at herror
        obtain ⟨constraint, hget, hrefused, rfl⟩ := checked_eq_error.mp (map_eq_error.mp herror)
        exact .violation hname hemitted hget hrefused
  · rintro (habsent | ⟨hname, hemitted, hget, hrefused⟩)
    · rw [part, habsent]
    · rw [part_eq, hname, hemitted]
      exact map_eq_error.mpr (checked_eq_error.mpr ⟨_, hget, hrefused, rfl⟩)

/-! ## All segments -/

/-- The parts of the segments are the codes of their texts, when the values suffice for all. -/
theorem parts_eq_ok_iff {segments : List Segment} {given : List (List Char)} :
    route.parts values segments = .ok given ↔
      (∀ segment ∈ segments, route.Supplies values segment) ∧
        given = codes (segments.filterMap (Segment.emitted? values)) := by
  induction segments generalizing given with
  | nil =>
    rw [parts, Except.ok.injEq]
    exact ⟨fun h => ⟨fun segment hmem => (by cases hmem), h.symm⟩, fun h => h.2.symm⟩
  | cons segment rest ih =>
    have hcodes : codes ((segment :: rest).filterMap (Segment.emitted? values)) =
        ((segment.emitted? values).map fun text => Percent.encodeChars text.toList).toList ++
          codes (rest.filterMap (Segment.emitted? values)) := by
      rw [List.filterMap_cons]
      cases segment.emitted? values <;> rfl
    rw [List.forall_mem_cons, parts, hcodes]
    -- The first share that fails ends the assembly; otherwise it stands in front of the others.
    cases hpart : route.part values segment with
    | error cause =>
      refine ⟨fun h => (by cases h), fun h => ?_⟩
      rw [part_eq_ok_iff.mpr ⟨h.1.1, rfl⟩] at hpart
      cases hpart
    | ok share =>
      obtain ⟨hsupplies, rfl⟩ := part_eq_ok_iff.mp hpart
      simp only [map_eq_ok, ih]
      constructor
      · rintro ⟨more, ⟨hrest, rfl⟩, rfl⟩
        exact ⟨⟨hsupplies, hrest⟩, rfl⟩
      · rintro ⟨⟨-, hrest⟩, rfl⟩
        exact ⟨_, ⟨hrest, rfl⟩, rfl⟩

/-- The error is that of the first segment for which the values do not suffice. -/
theorem parts_eq_error_iff {segments : List Segment} {cause : RouteError} :
    route.parts values segments = .error cause ↔
      ∃ before segment after, segments = before ++ segment :: after ∧
        (∀ other ∈ before, route.Supplies values other) ∧ route.Fails values segment cause := by
  show _ ↔ FirstFault (route.Supplies values) (fun segment => route.Fails values segment cause) segments
  -- An error is that of the first segment that fails, by the recursion of `parts`.
  induction segments with
  | nil => exact iff_of_false (fun h => by cases h) not_firstFault_nil
  | cons first rest ih =>
    rw [parts, firstFault_cons, ← part_eq_error_iff]
    cases hpart : route.part values first with
    | error other =>
      have hnone : ¬route.Supplies values first := by
        intro hsupplies
        cases hpart.symm.trans (part_eq_ok_iff.mpr ⟨hsupplies, rfl⟩)
      simp [hnone]
    | ok share =>
      have hsupplies := (part_eq_ok_iff.mp hpart).1
      rw [map_eq_error, ih]
      simp [hsupplies]

/-- The path of texts: their codes behind slashes, and the root where there are none. -/
def pathText (texts : List String) : List Char := '/' :: Text.join ['/'] (codes texts)

/-- A path is assembled when the values suffice for every segment, from the texts that the segments
put into it. -/
theorem assemble_eq_ok_iff {params : Params} {path : String} :
    route.assemble params = .ok path ↔
      (∀ segment ∈ route.segments, route.Supplies (route.merged params) segment) ∧
        path = String.ofList (pathText (route.emitted (route.merged params))) := by
  rw [assemble, map_eq_ok]
  constructor
  · rintro ⟨given, hparts, rfl⟩
    obtain ⟨hsupplies, rfl⟩ := parts_eq_ok_iff.mp hparts
    exact ⟨hsupplies, rfl⟩
  · rintro ⟨hsupplies, rfl⟩
    exact ⟨_, parts_eq_ok_iff.mpr ⟨hsupplies, rfl⟩, rfl⟩

theorem assemble_eq_error_iff {params : Params} {cause : RouteError} :
    route.assemble params = .error cause ↔
      ∃ before segment after, route.segments = before ++ segment :: after ∧
        (∀ other ∈ before, route.Supplies (route.merged params) other) ∧
          route.Fails (route.merged params) segment cause := by
  rw [assemble, map_eq_error]
  exact parts_eq_error_iff

/-! ## The path -/

theorem slash_not_mem_codes {texts : List String} : ∀ code ∈ codes texts, '/' ∉ code := by
  intro code hcode
  obtain ⟨text, -, rfl⟩ := List.mem_map.mp hcode
  exact Percent.slash_not_mem_encodeChars text.toList

/-- Between the slashes of a path stand the texts. -/
theorem pieces_pathText {texts : List String} (hne : texts ≠ []) :
    Text.pieces (· = '/') (Text.join ['/'] (codes texts)) = codes texts :=
  Text.pieces_join (fun h => hne (List.map_eq_nil_iff.mp h)) slash_not_mem_codes

/-- A path is made of slashes and codes. -/
theorem mem_pathText {texts : List String} {c : Char} (h : c ∈ pathText texts) :
    c = '/' ∨ ∃ text ∈ texts, c ∈ Percent.encodeChars text.toList := by
  rcases List.mem_cons.mp h with rfl | h
  · exact .inl rfl
  · rcases Text.mem_join h with hslash | ⟨code, hcode, hmem⟩
    · exact .inl (List.mem_singleton.mp hslash)
    · obtain ⟨text, htext, rfl⟩ := List.mem_map.mp hcode
      exact .inr ⟨text, htext, hmem⟩

/-- A path has neither a query nor a fragment. -/
theorem plain_of_mem_pathText {texts : List String} {c : Char} (h : c ∈ pathText texts) :
    c ≠ '?' ∧ c ≠ '#' := by
  rcases mem_pathText h with rfl | ⟨text, -, hmem⟩
  · decide
  · obtain ⟨-, -, -, hquestion, hhash⟩ := Percent.visible_of_mem_encodeChars hmem
    exact ⟨hquestion, hhash⟩

/-! ## Names that count -/

theorem part_congr {others : Params}
    (h : ∀ name, segment.name? = some name → values.get? name = others.get? name) :
    route.part values segment = route.part others segment := by
  cases segment with
  | literal text | optionalLiteral text => rfl
  | placeholder name => rw [part, part, h name rfl]
  | optionalPlaceholder name => rw [part, part, h name rfl]

theorem parts_congr {others : Params} {segments : List Segment}
    (h : ∀ name ∈ segments.filterMap Segment.name?, values.get? name = others.get? name) :
    route.parts values segments = route.parts others segments := by
  induction segments with
  | nil => rfl
  | cons segment rest ih =>
    have hfirst : route.part values segment = route.part others segment :=
      part_congr fun name hname =>
        h name (List.mem_filterMap.mpr ⟨segment, List.mem_cons_self, hname⟩)
    have hrest := ih fun name hname =>
      h name ((List.Sublist.filterMap _ (List.sublist_cons_self segment rest)).mem hname)
    rw [parts, parts, hfirst, hrest]

/-- Parameters that the pattern does not name are idle. -/
theorem assemble_congr {params others : Params}
    (h : ∀ name ∈ route.pattern.names, params.get? name = others.get? name) :
    route.assemble params = route.assemble others := by
  have hmerged : ∀ name ∈ route.segments.filterMap Segment.name?,
      (route.config.defaults.overlay params).get? name =
        (route.config.defaults.overlay others).get? name := by
    intro name hname
    rw [Keyed.get?_overlay, Keyed.get?_overlay, h name hname]
  rw [assemble, assemble, parts_congr hmerged]

/-! ## Exactness -/

/-- A path is assembled just when every required placeholder has a value and every value that goes
into it satisfies its constraint; otherwise the error is that of the first segment that lacks
either. Between the slashes of the path stand the codes of the required literals and of these
values, each of which is read back, and it has neither a query nor a fragment. Only the values of
the names in the pattern count. -/
theorem assembles_exactly (route : Route) (params : Params) :
    ((∃ path, route.assemble params = .ok path) ↔
      ∀ segment ∈ route.segments, route.Supplies (route.merged params) segment) ∧
    (∀ cause, route.assemble params = .error cause ↔
      ∃ before segment after, route.segments = before ++ segment :: after ∧
        (∀ other ∈ before, route.Supplies (route.merged params) other) ∧
          route.Fails (route.merged params) segment cause) ∧
    (∀ path, route.assemble params = .ok path →
      (∀ c ∈ path.toList, c ≠ '?' ∧ c ≠ '#') ∧
      ∃ text, path.toList = '/' :: text ∧
        (route.emitted (route.merged params) = [] → text = []) ∧
        (route.emitted (route.merged params) ≠ [] →
          (Text.pieces (· = '/') text).map String.ofList =
              (route.emitted (route.merged params)).map Percent.encode ∧
            (Text.pieces (· = '/') text).map (fun piece => Percent.decode (String.ofList piece)) =
              route.emitted (route.merged params))) ∧
    ∀ others : Params, (∀ name ∈ route.pattern.names, params.get? name = others.get? name) →
      route.assemble params = route.assemble others := by
  refine ⟨?_, fun cause => assemble_eq_error_iff, fun path hassemble => ?_,
    fun others => assemble_congr⟩
  · simp only [assemble_eq_ok_iff]
    exact ⟨fun ⟨_, hsupplies, _⟩ => hsupplies, fun hsupplies => ⟨_, hsupplies, rfl⟩⟩
  · obtain ⟨-, rfl⟩ := assemble_eq_ok_iff.mp hassemble
    rw [String.toList_ofList]
    refine ⟨fun c => plain_of_mem_pathText, _, rfl, fun hnone => ?_, fun hsome => ?_⟩
    · rw [hnone]
      rfl
    · have hencode : (codes (route.emitted (route.merged params))).map String.ofList =
          (route.emitted (route.merged params)).map Percent.encode := List.map_map
      have hdecode : ((route.emitted (route.merged params)).map Percent.encode).map Percent.decode =
          route.emitted (route.merged params) := by
        rw [List.map_map, show Percent.decode ∘ Percent.encode = id from
          funext Percent.decode_encode, List.map_id]
      rw [← hencode, List.map_map] at hdecode
      rw [pieces_pathText hsome]
      exact ⟨hencode, hdecode⟩

end Route

end Switchyard
