/-!
# Maps kept in key order

A `Keyed α` maps names to values and keeps its entries in increasing order of their names, each
name once. The order is part of the type, so two maps that answer every look-up alike are equal
(`Keyed.ext_get?`), and what a map prints does not depend on how it was filled.
-/

namespace Switchyard

/-- A map from names to values, in increasing order of the names. -/
structure Keyed (α : Type) where
  entries : List (String × α)
  sorted : entries.Pairwise fun a b => a.1 < b.1 := by simp
  deriving Repr, DecidableEq

/-- Parameters: a map from names to text. -/
abbrev Params := Keyed String

/-- A set of names, as the map to the type of one element. -/
abbrev NameSet := Keyed Unit

namespace Keyed

variable {α : Type}

/-- The map without entries. -/
def empty : Keyed α := ⟨[], by simp⟩

instance : Inhabited (Keyed α) := ⟨empty⟩

/-- The value under a name in a list of entries. -/
def lookup (name : String) : List (String × α) → Option α
  | [] => none
  | (key, value) :: rest => if key = name then some value else lookup name rest

/-- The entries with `value` under `name`, in the place where the order wants it. -/
def place (name : String) (value : α) : List (String × α) → List (String × α)
  | [] => [(name, value)]
  | (key, old) :: rest =>
    if name < key then (name, value) :: (key, old) :: rest
    else if key = name then (name, value) :: rest
    else (key, old) :: place name value rest

theorem mem_place {name : String} {value : α} {entry : String × α}
    {list : List (String × α)} (h : entry ∈ place name value list) :
    entry = (name, value) ∨ entry ∈ list := by
  induction list with
  | nil => simpa [place] using h
  | cons head rest ih =>
    obtain ⟨key, old⟩ := head
    unfold place at h
    split at h
    · simpa using h
    · split at h
      · rcases List.mem_cons.mp h with h | h
        · exact .inl h
        · exact .inr (List.mem_cons_of_mem _ h)
      · rcases List.mem_cons.mp h with h | h
        · exact .inr (h ▸ List.mem_cons_self)
        · exact (ih h).imp id (List.mem_cons_of_mem _)

theorem sorted_place (name : String) (value : α) {list : List (String × α)}
    (h : list.Pairwise fun a b => a.1 < b.1) :
    (place name value list).Pairwise fun a b => a.1 < b.1 := by
  induction list with
  | nil => simp [place]
  | cons head rest ih =>
    obtain ⟨key, old⟩ := head
    obtain ⟨hkey, hrest⟩ := List.pairwise_cons.mp h
    unfold place
    split
    · rename_i hlt
      refine List.pairwise_cons.mpr ⟨fun entry hentry => ?_, h⟩
      rcases List.mem_cons.mp hentry with rfl | hentry
      · exact hlt
      · exact String.lt_trans hlt (hkey entry hentry)
    · rename_i hnot
      split
      · rename_i heq
        subst heq
        exact List.pairwise_cons.mpr ⟨hkey, hrest⟩
      · rename_i hne
        refine List.pairwise_cons.mpr ⟨fun entry hentry => ?_, ih hrest⟩
        rcases mem_place hentry with rfl | hentry
        · rcases String.le_total key name with hle | hle
          · rcases Classical.em (key < name) with hlt | hge
            · exact hlt
            · exact absurd (String.le_antisymm hle (String.not_lt.mp hge)) hne
          · rcases Classical.em (name < key) with hlt | hge
            · exact absurd hlt hnot
            · exact absurd (String.le_antisymm (String.not_lt.mp hge) hle) hne
        · exact hkey entry hentry

/-- The value under a name. -/
def get? (map : Keyed α) (name : String) : Option α := lookup name map.entries

/-- The map holds a value under the name. -/
def contains (map : Keyed α) (name : String) : Bool := (map.get? name).isSome

/-- The names in the map, in increasing order. -/
def names (map : Keyed α) : List String := map.entries.map Prod.fst

/-- The map has no entries. -/
def isEmpty (map : Keyed α) : Bool := map.entries.isEmpty

/-- The map with `value` under `name`, in place of any value there was. -/
def insert (map : Keyed α) (name : String) (value : α) : Keyed α :=
  ⟨place name value map.entries, sorted_place name value map.sorted⟩

/-- The map with the entries of a list put in one after the other, so that later ones win. -/
def insertAll (map : Keyed α) (list : List (String × α)) : Keyed α :=
  list.foldl (fun map entry => map.insert entry.1 entry.2) map

/-- The map of the entries of a list, later ones winning. -/
def ofList (list : List (String × α)) : Keyed α := empty.insertAll list

/-- The first map overlaid with the second, whose values win. -/
def overlay (lower upper : Keyed α) : Keyed α := lower.insertAll upper.entries

/-- The map with every entry of `defaults` whose name it does not hold. -/
def withDefaults (map defaults : Keyed α) : Keyed α :=
  defaults.entries.foldl
    (fun map entry => if map.contains entry.1 then map else map.insert entry.1 entry.2) map

/-! ## Look-ups -/

theorem lookup_place (name other : String) (value : α) (list : List (String × α)) :
    lookup other (place name value list) =
      if name = other then some value else lookup other list := by
  induction list with
  | nil => simp [place, lookup]
  | cons head rest ih =>
    obtain ⟨key, old⟩ := head
    unfold place
    split
    · simp [lookup]
    · split
      · rename_i heq
        subst heq
        by_cases h : key = other <;> simp [lookup, h]
      · rename_i hne
        by_cases h : key = other
        · subst h
          simp [lookup, Ne.symm hne]
        · simp [lookup, h, ih]

@[simp] theorem get?_empty (name : String) : (empty : Keyed α).get? name = none := rfl

/-- After an insertion a look-up gives the new value under its name, and else what it gave. -/
theorem get?_insert (map : Keyed α) (name other : String) (value : α) :
    (map.insert name value).get? other = if name = other then some value else map.get? other :=
  lookup_place name other value map.entries

theorem mem_of_lookup {name : String} {value : α} {list : List (String × α)}
    (h : lookup name list = some value) : (name, value) ∈ list := by
  induction list with
  | nil => simp [lookup] at h
  | cons head rest ih =>
    obtain ⟨key, old⟩ := head
    unfold lookup at h
    split at h
    · rename_i heq
      subst heq
      simp at h
      simp [h]
    · exact List.mem_cons_of_mem _ (ih h)

theorem lookup_eq_none {name : String} {list : List (String × α)}
    (h : ∀ entry ∈ list, name < entry.1) : lookup name list = none := by
  cases hl : lookup name list with
  | none => rfl
  | some value => exact absurd (h _ (mem_of_lookup hl)) (String.lt_irrefl name)

theorem eq_of_lookup {first second : List (String × α)}
    (hfirst : first.Pairwise fun a b => a.1 < b.1)
    (hsecond : second.Pairwise fun a b => a.1 < b.1)
    (h : ∀ name, lookup name first = lookup name second) : first = second := by
  induction first generalizing second with
  | nil =>
    cases second with
    | nil => rfl
    | cons head rest =>
      have := h head.1
      simp [lookup] at this
  | cons head rest ih =>
    obtain ⟨key, value⟩ := head
    cases second with
    | nil =>
      have := h key
      simp [lookup] at this
    | cons other more =>
      obtain ⟨key', value'⟩ := other
      obtain ⟨hkey, hrest⟩ := List.pairwise_cons.mp hfirst
      obtain ⟨hkey', hmore⟩ := List.pairwise_cons.mp hsecond
      have heq : key = key' := by
        have h1 := h key
        have h2 := h key'
        simp only [lookup, if_true] at h1 h2
        split at h1
        · rename_i heq
          exact heq.symm
        · split at h2
          · rename_i heq
            exact heq
          · exact absurd (hkey' _ (mem_of_lookup h1.symm))
              (String.lt_asymm (hkey _ (mem_of_lookup h2)))
      subst heq
      have hvalue : value = value' := by
        have := h key
        simpa [lookup] using this
      subst hvalue
      congr 1
      refine ih hrest hmore fun name => ?_
      by_cases hname : key = name
      · subst hname
        rw [lookup_eq_none hkey, lookup_eq_none hkey']
      · have := h name
        simpa [lookup, hname] using this

/-- Two maps that answer every look-up alike are equal. -/
theorem ext_get? {first second : Keyed α}
    (h : ∀ name, first.get? name = second.get? name) : first = second := by
  obtain ⟨entries, sorted⟩ := first
  obtain ⟨entries', sorted'⟩ := second
  have : entries = entries' := eq_of_lookup sorted sorted' h
  subst this
  rfl

end Keyed

namespace NameSet

/-- The set of the names in a list. -/
def ofNames (names : List String) : NameSet := Keyed.ofList (names.map fun name => (name, ()))

/-- The set with every name replaced by its image. -/
def image (f : String → String) (set : NameSet) : NameSet := ofNames (set.names.map f)

theorem get?_insertAll (names : List String) (set : NameSet) (name : String) :
    (set.insertAll (names.map fun name => (name, ()))).get? name =
      if name ∈ names then some () else set.get? name := by
  induction names generalizing set with
  | nil => simp [Keyed.insertAll]
  | cons first rest ih =>
    have := ih (set.insert first ())
    simp only [Keyed.insertAll, List.map_cons, List.foldl_cons] at this ⊢
    rw [this, Keyed.get?_insert]
    by_cases h : first = name
    · simp [h]
    · simp [h, Ne.symm h]

/-- The set of a list holds a name when the list does. -/
theorem get?_ofNames (names : List String) (name : String) :
    (ofNames names).get? name = if name ∈ names then some () else none :=
  get?_insertAll names .empty name

theorem mem_names_iff (set : NameSet) (name : String) :
    name ∈ set.names ↔ set.get? name = some () := by
  obtain ⟨entries, sorted⟩ := set
  simp only [Keyed.names, Keyed.get?]
  clear sorted
  induction entries with
  | nil => simp [Keyed.lookup]
  | cons head rest ih =>
    obtain ⟨key, value⟩ := head
    by_cases h : key = name
    · simp [Keyed.lookup, h]
    · simp [Keyed.lookup, h, Ne.symm h, ih]

theorem mem_names_image (f : String → String) (set : NameSet) (name : String) :
    name ∈ (set.image f).names ↔ ∃ old ∈ set.names, f old = name := by
  rw [mem_names_iff, image, get?_ofNames]
  simp

/-- Two sets of the same names are equal. -/
theorem ext_names {first second : NameSet}
    (h : ∀ name, name ∈ first.names ↔ name ∈ second.names) : first = second := by
  refine Keyed.ext_get? fun name => Option.ext fun value => ?_
  have hname := h name
  rw [mem_names_iff, mem_names_iff] at hname
  exact hname

/-- A function that settles at once leaves a set as it is when it leaves every name as it is. -/
theorem image_eq_self_iff {f : String → String} (hf : ∀ name, f (f name) = f name) {set : NameSet} :
    set.image f = set ↔ ∀ name ∈ set.names, f name = name := by
  constructor
  · intro h name hmem
    rw [← h] at hmem
    obtain ⟨old, -, rfl⟩ := (mem_names_image f set name).mp hmem
    exact hf old
  · intro h
    refine ext_names fun name => (mem_names_image f set name).trans ?_
    constructor
    · rintro ⟨old, hold, rfl⟩
      rwa [h old hold]
    · intro hmem
      exact ⟨name, hmem, h name hmem⟩

/-- Taking an image twice under a function that settles at once is taking it once. -/
theorem image_image {f : String → String} (hf : ∀ name, f (f name) = f name) (set : NameSet) :
    (set.image f).image f = set.image f := by
  rw [image_eq_self_iff hf]
  intro name hmem
  obtain ⟨old, -, rfl⟩ := (mem_names_image f set name).mp hmem
  exact hf old

end NameSet

end Switchyard
