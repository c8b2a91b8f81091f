/-!
# Named entries in order of arrival

A `Roster α` holds named entries in the order in which their names first came. Giving a name a new
value leaves it in its place; removing it and adding it again puts it last. No name stands twice,
which is part of the type.
-/

namespace Switchyard

/-- Named entries in order of arrival, each name once. -/
structure Roster (α : Type) where
  entries : List (String × α)
  nodup : (entries.map Prod.fst).Nodup := by simp
  deriving Repr, DecidableEq

namespace Roster

variable {α : Type}

/-- The roster without entries. -/
def empty : Roster α := ⟨[], by simp⟩

instance : Inhabited (Roster α) := ⟨empty⟩

/-- The names, in order of arrival. -/
def names (roster : Roster α) : List String := roster.entries.map Prod.fst

/-- The number of entries. -/
def size (roster : Roster α) : Nat := roster.entries.length

/-- The roster has no entries. -/
def isEmpty (roster : Roster α) : Bool := roster.entries.isEmpty

/-- The value under a name in a list of entries. -/
def lookup (name : String) : List (String × α) → Option α
  | [] => none
  | (key, value) :: rest => if key = name then some value else lookup name rest

/-- The value under a name. -/
def get? (roster : Roster α) (name : String) : Option α := lookup name roster.entries

/-- The roster holds the name. -/
def contains (roster : Roster α) (name : String) : Bool := (roster.get? name).isSome

/-- The entries with `value` under `name`: in the name's place, or last when it is new. -/
def place (name : String) (value : α) : List (String × α) → List (String × α)
  | [] => [(name, value)]
  | (key, old) :: rest =>
    if key = name then (key, value) :: rest else (key, old) :: place name value rest

/-- Placing a value keeps the names, and adds the name at the end when it is new. -/
theorem names_place (name : String) (value : α) (list : List (String × α)) :
    (place name value list).map Prod.fst =
      if name ∈ list.map Prod.fst then list.map Prod.fst else list.map Prod.fst ++ [name] := by
  induction list with
  | nil => simp [place]
  | cons head rest ih =>
    obtain ⟨key, old⟩ := head
    unfold place
    by_cases h : key = name
    · simp [h]
    · simp only [h, if_false, List.map_cons, ih, List.mem_cons]
      by_cases hmem : name ∈ rest.map Prod.fst
      · simp [hmem]
      · simp [hmem, Ne.symm h]

theorem nodup_place (name : String) (value : α) {list : List (String × α)}
    (h : (list.map Prod.fst).Nodup) : ((place name value list).map Prod.fst).Nodup := by
  rw [names_place]
  split
  · exact h
  · rename_i hmem
    refine List.nodup_append.mpr ⟨h, by simp, ?_⟩
    intro a ha b hb heq
    rw [List.mem_singleton.mp hb] at heq
    exact hmem (heq ▸ ha)

/-- The roster with `value` under `name`. -/
def insert (roster : Roster α) (name : String) (value : α) : Roster α :=
  ⟨place name value roster.entries, nodup_place name value roster.nodup⟩

theorem nodup_filter (keep : String × α → Bool) {list : List (String × α)}
    (h : (list.map Prod.fst).Nodup) : ((list.filter keep).map Prod.fst).Nodup :=
  h.sublist (List.Sublist.map _ List.filter_sublist)

/-- The roster without the name; the others keep their order. -/
def erase (roster : Roster α) (name : String) : Roster α :=
  ⟨roster.entries.filter (·.1 ≠ name), nodup_filter _ roster.nodup⟩

/-- The roster with the entries of a list put in one after the other. -/
def insertAll (roster : Roster α) (list : List (String × α)) : Roster α :=
  list.foldl (fun roster entry => roster.insert entry.1 entry.2) roster

/-- The roster of the entries of a list; a later value under one name wins, in the first place. -/
def ofList (list : List (String × α)) : Roster α := empty.insertAll list

/-- The roster with the values replaced by their images; the names keep their order. -/
def map {β : Type} (f : α → β) (roster : Roster α) : Roster β :=
  ⟨roster.entries.map fun entry => (entry.1, f entry.2), by
    simpa [List.map_map, Function.comp_def] using roster.nodup⟩

end Roster

end Switchyard
