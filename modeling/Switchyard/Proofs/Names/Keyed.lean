import Switchyard.Names.Keyed

/-!
# Look-ups after several insertions

What a map holds under a name once the entries of a list were put in: the list's value where the list
has the name once, and what the map held where the list has it not. A map laid over another wins
where it has a value, so laying maps over each other is associative, and twice the same map is once.
-/

namespace Switchyard.Keyed

variable {α : Type}

theorem insertAll_cons (map : Keyed α) (entry : String × α) (list : List (String × α)) :
    map.insertAll (entry :: list) = (map.insert entry.1 entry.2).insertAll list := rfl

theorem get?_insertAll_of_not_mem {map : Keyed α} {list : List (String × α)} {name : String}
    (h : name ∉ list.map Prod.fst) : (map.insertAll list).get? name = map.get? name := by
  induction list generalizing map with
  | nil => rfl
  | cons entry list ih =>
    rw [List.map_cons, List.mem_cons, not_or] at h
    rw [insertAll_cons, ih h.2, get?_insert, if_neg (Ne.symm h.1)]

theorem get?_insertAll_of_mem {map : Keyed α} {list : List (String × α)} {name : String} {value : α}
    (hnodup : (list.map Prod.fst).Nodup) (h : (name, value) ∈ list) :
    (map.insertAll list).get? name = some value := by
  induction list generalizing map with
  | nil => cases h
  | cons entry list ih =>
    rw [List.map_cons, List.nodup_cons] at hnodup
    rcases List.mem_cons.mp h with rfl | h
    · rw [insertAll_cons, get?_insertAll_of_not_mem hnodup.1, get?_insert, if_pos rfl]
    · rw [insertAll_cons, ih hnodup.2 h]

theorem nodup_names (map : Keyed α) : (map.entries.map Prod.fst).Nodup := by
  have hsorted := map.sorted
  rw [List.Nodup, List.pairwise_map]
  refine hsorted.imp fun {first second} hlt heq => ?_
  rw [heq] at hlt
  exact String.lt_irrefl _ hlt

theorem lookup_eq_none_iff {name : String} {list : List (String × α)} :
    lookup name list = none ↔ name ∉ list.map Prod.fst := by
  induction list with
  | nil => simp [lookup]
  | cons entry list ih =>
    rw [lookup, List.map_cons, List.mem_cons, not_or]
    by_cases hname : entry.1 = name
    · simp [hname]
    · rw [if_neg hname, ih]
      exact ⟨fun h => ⟨Ne.symm hname, h⟩, And.right⟩

/-- Where a list has every name once, its values win over those of the map. -/
theorem get?_insertAll_of_nodup {list : List (String × α)} (hnodup : (list.map Prod.fst).Nodup)
    (map : Keyed α) (name : String) :
    (map.insertAll list).get? name = (lookup name list).or (map.get? name) := by
  cases hlookup : lookup name list with
  | some value =>
    rw [get?_insertAll_of_mem hnodup (mem_of_lookup hlookup)]
    rfl
  | none =>
    rw [get?_insertAll_of_not_mem (lookup_eq_none_iff.mp hlookup)]
    rfl

/-- A map is the map of its own entries. -/
theorem ofList_entries (map : Keyed α) : ofList map.entries = map := by
  refine ext_get? fun name => ?_
  rw [ofList, get?_insertAll_of_nodup map.nodup_names, get?_empty, Option.or_none]
  rfl

theorem mem_entries_iff {map : Keyed α} {name : String} {value : α} :
    (name, value) ∈ map.entries ↔ map.get? name = some value := by
  refine ⟨fun hmem => ?_, mem_of_lookup⟩
  rw [← map.ofList_entries]
  exact get?_insertAll_of_mem map.nodup_names hmem

theorem eq_empty_of_isEmpty {map : Keyed α} (h : map.isEmpty = true) : map = empty := by
  obtain ⟨entries, sorted⟩ := map
  obtain rfl : entries = [] := List.isEmpty_iff.mp h
  rfl

/-- The upper map wins where it has a value. -/
theorem get?_overlay (lower upper : Keyed α) (name : String) :
    (lower.overlay upper).get? name = (upper.get? name).or (lower.get? name) :=
  get?_insertAll_of_nodup upper.nodup_names lower name

/-- Defaults fill the names that the map does not hold. -/
theorem get?_withDefaults (map defaults : Keyed α) (name : String) :
    (map.withDefaults defaults).get? name = (map.get? name).or (defaults.get? name) := by
  -- Entry by entry, for any map: the first entry for a name that is not there yet is the one that
  -- fills it.
  have fill : ∀ (list : List (String × α)) (map : Keyed α),
      (list.foldl (fun map entry =>
        if map.contains entry.1 then map else map.insert entry.1 entry.2) map).get? name =
        (map.get? name).or (lookup name list) := by
    intro list
    induction list with
    | nil =>
      intro map
      simp [lookup]
    | cons entry list ih =>
      intro map
      rw [List.foldl_cons, ih, lookup]
      by_cases hname : entry.1 = name
      · subst hname
        cases hget : map.get? entry.1 with
        | some value => simp [contains, hget]
        | none => simp [contains, hget, get?_insert]
      · rw [if_neg hname]
        congr 1
        split
        · rfl
        · rw [get?_insert, if_neg hname]
  exact fill defaults.entries map

theorem lookup_map {β : Type} (f : α → β) (name : String) (list : List (String × α)) :
    lookup name (list.map fun entry => (entry.1, f entry.2)) = (lookup name list).map f := by
  induction list with
  | nil => rfl
  | cons entry list ih =>
    rw [List.map_cons, lookup, lookup, ih]
    split <;> rfl

/-! ## Maps laid over each other -/

/-- It does not matter which two of three maps are laid over each other first. -/
theorem overlay_assoc (lower middle upper : Keyed α) :
    (lower.overlay middle).overlay upper = lower.overlay (middle.overlay upper) := by
  refine ext_get? fun name => ?_
  rw [get?_overlay, get?_overlay, get?_overlay, get?_overlay, Option.or_assoc]

@[simp] theorem overlay_self (map : Keyed α) : map.overlay map = map := by
  refine ext_get? fun name => ?_
  rw [get?_overlay, Option.or_self]

@[simp] theorem empty_overlay (map : Keyed α) : empty.overlay map = map := map.ofList_entries

@[simp] theorem overlay_empty (map : Keyed α) : map.overlay empty = map := rfl

/-- Two maps can be laid over a third in either order when they agree on the names of both. -/
theorem overlay_comm_of_agree {first second : Keyed α}
    (h : ∀ name value other, first.get? name = some value → second.get? name = some other →
      value = other) (map : Keyed α) :
    (map.overlay first).overlay second = (map.overlay second).overlay first := by
  refine ext_get? fun name => ?_
  rw [get?_overlay, get?_overlay, get?_overlay, get?_overlay]
  cases hfirst : first.get? name with
  | none => rfl
  | some value =>
    cases hsecond : second.get? name with
    | none => rfl
    | some other => exact congrArg some (h name value other hfirst hsecond).symm

end Switchyard.Keyed

namespace Switchyard.NameSet

/-- A set is the set of its own names. -/
theorem ofNames_names (set : NameSet) : ofNames set.names = set := by
  rw [ofNames, Keyed.names, List.map_map]
  exact (congrArg Keyed.ofList (List.map_id set.entries)).trans set.ofList_entries

theorem overlay_ofNames (set : NameSet) (names : List String) :
    set.overlay (ofNames names) = set.insertAll (names.map fun name => (name, ())) := by
  refine Keyed.ext_get? fun name => ?_
  rw [Keyed.get?_overlay, get?_ofNames, get?_insertAll]
  split <;> rfl

theorem mem_names_insert {set : NameSet} {name other : String} :
    other ∈ (set.insert name ()).names ↔ other = name ∨ other ∈ set.names := by
  rw [mem_names_iff, mem_names_iff, Keyed.get?_insert]
  by_cases hname : name = other
  · simp [hname]
  · simp [hname, Ne.symm hname]

/-- A set whose names a function leaves as they are stays such a set when an image is put in. -/
theorem settled_insert {f : String → String} (hf : ∀ name, f (f name) = f name) {set : NameSet}
    (h : ∀ name ∈ set.names, f name = name) (name : String) :
    ∀ other ∈ (set.insert (f name) ()).names, f other = other := by
  intro other hmem
  rcases mem_names_insert.mp hmem with rfl | hmem
  · exact hf name
  · exact h other hmem

end Switchyard.NameSet
