import Mathlib.Data.List.Basic
import Mathlib.Data.List.Induction
import Switchyard.Names.Roster

/-!
# Registrations over time

A roster that starts empty and takes changes one after the other, told by the changes alone: it holds
the names that were put and not dropped since (`Change.Registered`), each with the value put last
(`Change.Latest`), in the order in which their registrations began (`Change.Began`). A later change
touches only its own name, so each of the three is followed through one more change
(`registered_concat`, `latest_concat`, `began_concat`) and then through all of them.

A roster is told by its names and its look-ups (`ext_get?`), and so are rosters put over each other
(`insertAll_assoc`): the upper one decides the values, the lower one the places.
-/

namespace Switchyard

/-- An item of a list with one more is that one, or stands in the list without it. -/
theorem concat_eq_append_cons {β : Type} {list before after : List β} {last item : β} :
    list ++ [last] = before ++ item :: after ↔
      (before = list ∧ item = last ∧ after = []) ∨
        ∃ rest, list = before ++ item :: rest ∧ after = rest ++ [last] := by
  -- The item is the last one if nothing comes after it, and else stands in the list already.
  rcases List.eq_nil_or_concat' after with rfl | ⟨rest, other, rfl⟩
  · rw [List.append_singleton_inj]
    refine ⟨fun ⟨hbefore, hitem⟩ => .inl ⟨hbefore.symm, hitem.symm, rfl⟩, ?_⟩
    rintro (⟨rfl, rfl, -⟩ | ⟨rest, -, hnil⟩)
    · exact ⟨rfl, rfl⟩
    · exact absurd hnil.symm (List.concat_ne_nil _ _)
  · rw [← List.cons_append, ← List.append_assoc, List.append_singleton_inj]
    constructor
    · rintro ⟨rfl, rfl⟩
      exact .inr ⟨rest, rfl, rfl⟩
    · rintro (⟨-, -, hnil⟩ | ⟨rest', rfl, hafter⟩)
      · exact absurd hnil (List.concat_ne_nil _ _)
      · obtain ⟨rfl, rfl⟩ := List.append_singleton_inj.mp hafter
        exact ⟨rfl, rfl⟩

namespace Roster

variable {α : Type}

/-! ## What one change does to a roster -/

theorem lookup_place (name other : String) (value : α) (list : List (String × α)) :
    lookup other (place name value list) =
      if name = other then some value else lookup other list := by
  induction list with
  | nil => simp [place, lookup]
  | cons head rest ih =>
    obtain ⟨key, old⟩ := head
    unfold place
    by_cases hkey : key = name
    · subst hkey
      by_cases hother : key = other <;> simp [lookup, hother]
    · simp only [hkey, if_false, lookup, ih]
      by_cases hother : key = other
      · subst hother
        simp [Ne.symm hkey]
      · simp [hother]

theorem lookup_filter (name other : String) (list : List (String × α)) :
    lookup other (list.filter (·.1 ≠ name)) =
      if name = other then none else lookup other list := by
  induction list with
  | nil => simp [lookup]
  | cons head rest ih =>
    obtain ⟨key, old⟩ := head
    by_cases hkey : key = name
    · subst hkey
      rw [List.filter_cons_of_neg (by simp), ih, lookup]
      by_cases hother : key = other <;> simp [hother]
    · rw [List.filter_cons_of_pos (by simpa using hkey), lookup, lookup, ih]
      by_cases hother : key = other
      · subst hother
        simp [Ne.symm hkey]
      · simp [hother]

theorem lookup_eq_none_iff {name : String} {list : List (String × α)} :
    lookup name list = none ↔ name ∉ list.map Prod.fst := by
  induction list with
  | nil => simp [lookup]
  | cons head rest ih =>
    rw [lookup, List.map_cons, List.mem_cons, not_or]
    by_cases hname : head.1 = name
    · simp [hname]
    · simp [hname, ih, Ne.symm hname]

/-- After an insertion a look-up gives the new value under its name, and else what it gave. -/
theorem get?_insert (roster : Roster α) (name other : String) (value : α) :
    (roster.insert name value).get? other = if name = other then some value else roster.get? other :=
  lookup_place name other value roster.entries

/-- After a removal a look-up gives nothing under the name, and else what it gave. -/
theorem get?_erase (roster : Roster α) (name other : String) :
    (roster.erase name).get? other = if name = other then none else roster.get? other :=
  lookup_filter name other roster.entries

/-- A name that is known keeps its place; a new name comes last. -/
theorem names_insert (roster : Roster α) (name : String) (value : α) :
    (roster.insert name value).names =
      if name ∈ roster.names then roster.names else roster.names ++ [name] :=
  names_place name value roster.entries

/-- The names that are left keep their order. -/
theorem names_erase (roster : Roster α) (name : String) :
    (roster.erase name).names = roster.names.filter (· ≠ name) := by
  rw [names, names, erase, List.filter_map]
  rfl

theorem mem_names_iff (roster : Roster α) (name : String) :
    name ∈ roster.names ↔ ∃ value, roster.get? name = some value := by
  rw [← Option.isSome_iff_exists, ← not_iff_not, Option.not_isSome_iff_eq_none, get?,
    lookup_eq_none_iff]
  rfl

/-- Where names stand once, a look-up finds every entry under its name. -/
theorem lookup_of_mem {name : String} {value : α} {list : List (String × α)}
    (hnodup : (list.map Prod.fst).Nodup) (hmem : (name, value) ∈ list) :
    lookup name list = some value := by
  induction list with
  | nil => cases hmem
  | cons head rest ih =>
    obtain ⟨hhead, hnodup⟩ := List.nodup_cons.mp hnodup
    rcases List.mem_cons.mp hmem with rfl | hrest
    · exact if_pos rfl
    · have hne : head.1 ≠ name := fun heq => hhead (heq ▸ List.mem_map_of_mem hrest)
      rw [lookup, if_neg hne]
      exact ih hnodup hrest

theorem get?_of_mem (roster : Roster α) {name : String} {value : α}
    (hmem : (name, value) ∈ roster.entries) : roster.get? name = some value :=
  lookup_of_mem roster.nodup hmem

/-- Entries put in one after the other leave the known names where they are; the new ones come
behind, in their own order. -/
theorem names_insertAll (roster : Roster α) {list : List (String × α)}
    (hnodup : (list.map Prod.fst).Nodup) :
    (roster.insertAll list).names =
      roster.names ++ (list.map Prod.fst).filter (· ∉ roster.names) := by
  induction list generalizing roster with
  | nil => simp [insertAll]
  | cons entry list ih =>
    obtain ⟨hentry, hnodup⟩ := List.nodup_cons.mp hnodup
    have hfirst : (roster.insertAll (entry :: list)).names =
        ((roster.insert entry.1 entry.2).insertAll list).names := rfl
    rw [hfirst, ih _ hnodup, names_insert, List.map_cons]
    by_cases hmem : entry.1 ∈ roster.names
    · rw [if_pos hmem, List.filter_cons_of_neg (by simpa using hmem)]
    · -- The new name stands nowhere in the rest of the list, so it changes nothing there.
      have hsame : (list.map Prod.fst).filter (· ∉ roster.names ++ [entry.1]) =
          (list.map Prod.fst).filter (· ∉ roster.names) := by
        refine List.filter_congr fun name hname => ?_
        have hne : name ≠ entry.1 := fun heq => hentry (heq ▸ hname)
        simp [hne]
      rw [if_neg hmem, hsame, List.filter_cons_of_pos (by simpa using hmem), List.append_assoc,
        List.singleton_append]

theorem place_of_not_mem {name : String} {list : List (String × α)}
    (h : name ∉ list.map Prod.fst) (value : α) : place name value list = list ++ [(name, value)] := by
  induction list with
  | nil => rfl
  | cons head rest ih =>
    rw [List.map_cons, List.mem_cons, not_or] at h
    rw [place, if_neg (Ne.symm h.1), ih h.2]
    rfl

/-- Entries under new names come behind the others as they are. -/
theorem entries_insertAll (roster : Roster α) {list : List (String × α)}
    (h : ((roster.entries ++ list).map Prod.fst).Nodup) :
    (roster.insertAll list).entries = roster.entries ++ list := by
  induction list generalizing roster with
  | nil => simp [insertAll]
  | cons entry list ih =>
    have hentry : entry.1 ∉ roster.entries.map Prod.fst := by
      rw [List.map_append, List.map_cons, List.nodup_append] at h
      exact fun hmem => h.2.2 _ hmem _ List.mem_cons_self rfl
    have hplaced : (roster.insert entry.1 entry.2).entries = roster.entries ++ [entry] :=
      place_of_not_mem hentry entry.2
    have hrest := ih (roster.insert entry.1 entry.2) (by
      rw [hplaced, List.append_assoc]
      exact h)
    rw [hplaced, List.append_assoc] at hrest
    exact hrest

theorem ext_entries {first second : Roster α} (h : first.entries = second.entries) :
    first = second := by
  obtain ⟨entries, nodup⟩ := first
  obtain ⟨entries', nodup'⟩ := second
  obtain rfl : entries = entries' := h
  rfl

/-- A roster is the roster of its own entries. -/
theorem ofList_entries (roster : Roster α) : ofList roster.entries = roster :=
  ext_entries (entries_insertAll empty roster.nodup)

/-! ## Rosters put over each other -/

/-- Entries that each have a name of their own win over those of the roster. -/
theorem get?_insertAll (roster : Roster α) {list : List (String × α)}
    (hnodup : (list.map Prod.fst).Nodup) (name : String) :
    (roster.insertAll list).get? name = (lookup name list).or (roster.get? name) := by
  induction list generalizing roster with
  | nil => rfl
  | cons entry list ih =>
    obtain ⟨hentry, hnodup⟩ := List.nodup_cons.mp hnodup
    have hfirst : (roster.insertAll (entry :: list)).get? name =
        ((roster.insert entry.1 entry.2).insertAll list).get? name := rfl
    rw [hfirst, ih _ hnodup, get?_insert, lookup]
    by_cases hname : entry.1 = name
    · subst hname
      rw [lookup_eq_none_iff.mpr hentry]
      simp
    · simp [hname]

theorem eq_of_lookup {first second : List (String × α)} (hnodup : (first.map Prod.fst).Nodup)
    (hnames : first.map Prod.fst = second.map Prod.fst)
    (hlookup : ∀ name, lookup name first = lookup name second) : first = second := by
  induction first generalizing second with
  | nil => exact (List.map_eq_nil_iff.mp hnames.symm).symm
  | cons entry first ih =>
    obtain ⟨hentry, hnodup⟩ := List.nodup_cons.mp hnodup
    obtain ⟨other, second, rfl, hname, hrest⟩ := List.map_eq_cons_iff.mp hnames.symm
    have hvalue : entry = other := by
      have h := hlookup entry.1
      rw [lookup, lookup, if_pos rfl, if_pos hname] at h
      exact Prod.ext hname.symm (Option.some.inj h)
    subst hvalue
    refine congrArg (entry :: ·) (ih hnodup hrest.symm fun name => ?_)
    -- The first name stands nowhere in the rest of either list, so it is looked up in vain there.
    by_cases hsame : entry.1 = name
    · subst hsame
      rw [lookup_eq_none_iff.mpr hentry, lookup_eq_none_iff.mpr (hrest ▸ hentry)]
    · have h := hlookup name
      rwa [lookup, lookup, if_neg hsame, if_neg hsame] at h

/-- Two rosters with the same names in the same order that answer every look-up alike are equal. -/
theorem ext_get? {first second : Roster α} (hnames : first.names = second.names)
    (hget : ∀ name, first.get? name = second.get? name) : first = second :=
  ext_entries (eq_of_lookup first.nodup hnames hget)

/-- Names of the lower roster keep their place, and the upper roster's others come behind. -/
theorem names_insertAll_entries (lower upper : Roster α) :
    (lower.insertAll upper.entries).names =
      lower.names ++ upper.names.filter (· ∉ lower.names) :=
  names_insertAll lower upper.nodup

/-- The upper roster wins where it has a value. -/
theorem get?_insertAll_entries (lower upper : Roster α) (name : String) :
    (lower.insertAll upper.entries).get? name = (upper.get? name).or (lower.get? name) :=
  get?_insertAll lower upper.nodup name

/-- It does not matter which two of three rosters are put over each other first. -/
theorem insertAll_assoc (lower middle upper : Roster α) :
    (lower.insertAll middle.entries).insertAll upper.entries =
      lower.insertAll (middle.insertAll upper.entries).entries := by
  refine ext_get? ?_ fun name => ?_
  · -- A name of the upper roster is new behind both others when it is new to each of them.
    have hnew : upper.names.filter (· ∉ lower.names ++ middle.names.filter (· ∉ lower.names)) =
        (upper.names.filter (· ∉ middle.names)).filter (· ∉ lower.names) := by
      rw [List.filter_filter]
      refine List.filter_congr fun name _ => ?_
      by_cases hlower : name ∈ lower.names <;> simp [hlower]
    simp only [names_insertAll_entries]
    rw [hnew, List.filter_append, List.append_assoc]
  · simp only [get?_insertAll_entries, Option.or_assoc]

theorem insertAll_self (roster : Roster α) : roster.insertAll roster.entries = roster := by
  refine ext_get? ?_ fun name => ?_
  · rw [names_insertAll_entries, List.filter_eq_nil_iff.mpr (by simp), List.append_nil]
  · rw [get?_insertAll_entries, Option.or_self]

/-! ## Changes -/

/-- One change to a roster. -/
inductive Change (α : Type) where
  | put (name : String) (value : α)
  | drop (name : String)

/-- The name that a change is about. -/
def Change.name : Change α → String
  | put name _ | drop name => name

/-- The roster after a change. -/
def change (roster : Roster α) : Change α → Roster α
  | .put name value => roster.insert name value
  | .drop name => roster.erase name

/-- The roster after changes one after the other, from the empty one. -/
def replay (changes : List (Change α)) : Roster α := changes.foldl change empty

/-- Putting the entries of a list in is a run of changes. -/
theorem foldl_change_put (roster : Roster α) (list : List (String × α)) :
    (list.map fun entry => Change.put entry.1 entry.2).foldl change roster =
      roster.insertAll list := by
  rw [List.foldl_map]
  rfl

theorem replay_concat (changes : List (Change α)) (last : Change α) :
    replay (changes ++ [last]) = (replay changes).change last := by
  rw [replay, List.foldl_append]
  rfl

namespace Change

/-- The name was put, and not dropped since. -/
def Registered (changes : List (Change α)) (name : String) : Prop :=
  ∃ before value after, changes = before ++ .put name value :: after ∧ .drop name ∉ after

/-- The value was put last under the name, and the name was not dropped since. -/
def Latest (changes : List (Change α)) (name : String) (value : α) : Prop :=
  ∃ before after, changes = before ++ .put name value :: after ∧
    ∀ later ∈ after, later.name ≠ name

/-- The registration of the name that lasts to the end began with the change at `start`: it put a name
that was not registered, and the name was not dropped since. -/
def Began (changes : List (Change α)) (name : String) (start : Nat) : Prop :=
  ∃ before value after, changes = before ++ .put name value :: after ∧ before.length = start ∧
    ¬Registered before name ∧ .drop name ∉ after

/-- One more change registers the name that it puts, and ends the registration of the name that it
drops. -/
theorem registered_concat {changes : List (Change α)} {last : Change α} {name : String} :
    Registered (changes ++ [last]) name ↔
      (∃ value, last = .put name value) ∨ (Registered changes name ∧ last ≠ .drop name) := by
  constructor
  · rintro ⟨before, value, after, hsplit, hkept⟩
    rcases concat_eq_append_cons.mp hsplit with ⟨-, hlast, -⟩ | ⟨rest, rfl, rfl⟩
    · exact .inl ⟨value, hlast.symm⟩
    · simp only [List.mem_append, List.mem_singleton, not_or] at hkept
      exact .inr ⟨⟨before, value, rest, rfl, hkept.1⟩, Ne.symm hkept.2⟩
  · rintro (⟨value, rfl⟩ | ⟨⟨before, value, after, rfl, hkept⟩, hlast⟩)
    · exact ⟨changes, value, [], rfl, List.not_mem_nil⟩
    · refine ⟨before, value, after ++ [last], by simp, ?_⟩
      simp only [List.mem_append, List.mem_singleton, not_or]
      exact ⟨hkept, Ne.symm hlast⟩

/-- One more change gives a value to the name that it puts, and takes nothing from other names. -/
theorem latest_concat {changes : List (Change α)} {last : Change α} {name : String} {value : α} :
    Latest (changes ++ [last]) name value ↔
      last = .put name value ∨ (Latest changes name value ∧ last.name ≠ name) := by
  constructor
  · rintro ⟨before, after, hsplit, hlater⟩
    rcases concat_eq_append_cons.mp hsplit with ⟨-, hlast, -⟩ | ⟨rest, rfl, rfl⟩
    · exact .inl hlast.symm
    · obtain ⟨hrest, hlast⟩ := List.forall_mem_append.mp hlater
      exact .inr ⟨⟨before, rest, rfl, hrest⟩, hlast last List.mem_cons_self⟩
  · rintro (rfl | ⟨⟨before, after, rfl, hlater⟩, hlast⟩)
    · exact ⟨changes, [], rfl, fun later hmem => (by cases hmem)⟩
    · refine ⟨before, after ++ [last], by simp, List.forall_mem_append.mpr ⟨hlater, ?_⟩⟩
      simpa using hlast

/-- One more change begins the registration of a name that it puts and that was not registered; all
others began where they began. -/
theorem began_concat {changes : List (Change α)} {last : Change α} {name : String} {start : Nat} :
    Began (changes ++ [last]) name start ↔
      (start = changes.length ∧ ¬Registered changes name ∧ ∃ value, last = .put name value) ∨
        (Began changes name start ∧ last ≠ .drop name) := by
  constructor
  · rintro ⟨before, value, after, hsplit, rfl, hnew, hkept⟩
    rcases concat_eq_append_cons.mp hsplit with ⟨rfl, hlast, -⟩ | ⟨rest, rfl, rfl⟩
    · exact .inl ⟨rfl, hnew, value, hlast.symm⟩
    · simp only [List.mem_append, List.mem_singleton, not_or] at hkept
      exact .inr ⟨⟨before, value, rest, rfl, rfl, hnew, hkept.1⟩, Ne.symm hkept.2⟩
  · rintro (⟨rfl, hnew, value, rfl⟩ | ⟨⟨before, value, after, rfl, rfl, hnew, hkept⟩, hlast⟩)
    · exact ⟨changes, value, [], rfl, rfl, hnew, List.not_mem_nil⟩
    · refine ⟨before, value, after ++ [last], by simp, rfl, hnew, ?_⟩
      simp only [List.mem_append, List.mem_singleton, not_or]
      exact ⟨hkept, Ne.symm hlast⟩

theorem began_put_of_registered {changes : List (Change α)} {name other : String} {value : α}
    {start : Nat} (h : Registered changes name) :
    Began (changes ++ [.put name value]) other start ↔ Began changes other start := by
  rw [began_concat]
  constructor
  · rintro (⟨-, hnew, new, hput⟩ | ⟨hbegan, -⟩)
    · cases hput
      exact absurd h hnew
    · exact hbegan
  · exact fun hbegan => .inr ⟨hbegan, fun hput => (by cases hput)⟩

theorem began_put_of_not_registered {changes : List (Change α)} {name other : String} {value : α}
    {start : Nat} (h : ¬Registered changes name) :
    Began (changes ++ [.put name value]) other start ↔
      Began changes other start ∨ (other = name ∧ start = changes.length) := by
  rw [began_concat]
  constructor
  · rintro (⟨hstart, -, new, hput⟩ | ⟨hbegan, -⟩)
    · cases hput
      exact .inr ⟨rfl, hstart⟩
    · exact .inl hbegan
  · rintro (hbegan | ⟨rfl, hstart⟩)
    · exact .inr ⟨hbegan, fun hput => (by cases hput)⟩
    · exact .inl ⟨hstart, h, value, rfl⟩

theorem began_drop {changes : List (Change α)} {name other : String} {start : Nat} :
    Began (changes ++ [.drop name]) other start ↔ Began changes other start ∧ other ≠ name := by
  rw [began_concat]
  simp [ne_comm (a := other)]

theorem not_registered_nil (name : String) : ¬Registered ([] : List (Change α)) name := by
  rintro ⟨before, value, after, hsplit, -⟩
  simp at hsplit

theorem Began.lt_length {changes : List (Change α)} {name : String} {start : Nat}
    (h : Began changes name start) : start < changes.length := by
  obtain ⟨before, value, after, rfl, rfl, -, -⟩ := h
  simp

theorem Began.registered {changes : List (Change α)} {name : String} {start : Nat}
    (h : Began changes name start) : Registered changes name := by
  obtain ⟨before, value, after, rfl, -, -, hkept⟩ := h
  exact ⟨before, value, after, rfl, hkept⟩

/-- A name is registered when its registration began somewhere, and that is one place. -/
theorem registered_iff_began {changes : List (Change α)} {name : String} :
    Registered changes name ↔ ∃! start, Began changes name start := by
  -- From the last change backwards, since it decides what is registered now.
  induction changes using List.reverseRecOn with
  | nil =>
    refine iff_of_false (not_registered_nil name) ?_
    rintro ⟨start, hbegan, -⟩
    exact absurd hbegan.lt_length (Nat.not_lt_zero start)
  | append_singleton changes last ih =>
    rw [registered_concat]
    simp only [began_concat]
    -- A registered name ends only by a drop; any other begins only by a put, and then now.
    by_cases hregistered : Registered changes name
    · have hput : ∀ value, last = .put name value → last ≠ .drop name := by
        rintro value rfl hdrop
        cases hdrop
      by_cases hdrop : last = .drop name
      · subst hdrop
        simp
      · simp [hregistered, hdrop, ← ih]
    · have hnone : ∀ start, ¬Began changes name start := fun _ hbegan =>
        hregistered hbegan.registered
      simp only [hregistered, hnone, false_and, or_false, not_false_eq_true, true_and]
      refine ⟨fun hput => ⟨changes.length, ⟨rfl, hput⟩, fun _ h => h.1⟩, ?_⟩
      rintro ⟨-, ⟨-, hput⟩, -⟩
      exact hput

end Change

/-! ## What a roster holds after changes -/

open Change

/-- The roster holds under a name what was put there last. -/
theorem get?_replay {changes : List (Change α)} {name : String} {value : α} :
    (replay changes).get? name = some value ↔ Latest changes name value := by
  -- The last change to the name counts, so the induction takes changes off the end.
  induction changes using List.reverseRecOn with
  | nil =>
    refine iff_of_false (by simp [replay, empty, get?, lookup]) ?_
    rintro ⟨before, after, hsplit, -⟩
    simp at hsplit
  | append_singleton changes last ih =>
    rw [replay_concat, latest_concat, ← ih]
    cases last with
    | put other new =>
      rw [change, get?_insert]
      by_cases hname : other = name
      · subst hname
        simp [Change.name]
      · simp [hname, Change.name]
    | drop other =>
      rw [change, get?_erase]
      by_cases hname : other = name <;> simp [hname, Change.name]

/-- The roster holds the names that are registered. -/
theorem mem_names_replay {changes : List (Change α)} {name : String} :
    name ∈ (replay changes).names ↔ Registered changes name := by
  induction changes using List.reverseRecOn with
  | nil => exact iff_of_false List.not_mem_nil (not_registered_nil name)
  | append_singleton changes last ih =>
    rw [replay_concat, registered_concat, ← ih]
    cases last with
    | put other new =>
      have hput : (∃ value, Change.put other new = .put name value) ↔ name = other := by
        simp [eq_comm (a := other)]
      rw [change, names_insert, hput]
      split
      · rename_i hmem
        simp only [ne_eq, reduceCtorEq, not_false_eq_true, and_true]
        exact ⟨.inr, Or.rec (fun heq => heq ▸ hmem) id⟩
      · simp [or_comm]
    | drop other =>
      rw [change, names_erase]
      simp [ne_comm (a := name)]

theorem pair_sublist_concat {first second last : String} {names : List String} :
    [first, second].Sublist (names ++ [last]) ↔
      [first, second].Sublist names ∨ (first ∈ names ∧ second = last) := by
  constructor
  · intro h
    obtain ⟨front, back, hsplit, hfront, hback⟩ := List.sublist_append_iff.mp h
    rcases List.sublist_singleton.mp hback with rfl | rfl
    · rw [List.append_nil] at hsplit
      exact .inl (hsplit ▸ hfront)
    · obtain ⟨rfl, rfl⟩ := List.append_singleton_inj.mp (show [first] ++ [second] = _ from hsplit)
      exact .inr ⟨List.singleton_sublist.mp hfront, rfl⟩
  · rintro (h | ⟨hmem, rfl⟩)
    · exact h.trans (List.sublist_append_left names [last])
    · exact (List.singleton_sublist.mpr hmem).append (.refl [second])

theorem pair_sublist_filter {first second name : String} {names : List String} :
    [first, second].Sublist (names.filter (· ≠ name)) ↔
      [first, second].Sublist names ∧ first ≠ name ∧ second ≠ name := by
  constructor
  · intro h
    have hkept : ∀ other ∈ [first, second], other ≠ name := fun other hmem => by
      simpa using (List.mem_filter.mp (h.subset hmem)).2
    exact ⟨h.trans List.filter_sublist, hkept first (by simp), hkept second (by simp)⟩
  · rintro ⟨h, hfirst, hsecond⟩
    have hfilter := h.filter (· ≠ name)
    rwa [List.filter_eq_self.mpr (by simp [hfirst, hsecond])] at hfilter

/-- Names stand in the order in which their registrations began. -/
theorem sublist_names_replay {changes : List (Change α)} {earlier later : String} :
    [earlier, later].Sublist (replay changes).names ↔
      ∃ first second, Began changes earlier first ∧ Began changes later second ∧ first < second := by
  induction changes using List.reverseRecOn with
  | nil =>
    refine iff_of_false (by simp [replay, empty, names]) ?_
    rintro ⟨first, -, hfirst, -⟩
    exact absurd hfirst.lt_length (Nat.not_lt_zero first)
  | append_singleton changes last ih =>
    rw [replay_concat]
    cases last with
    | put name value =>
      rw [change, names_insert]
      by_cases hmem : name ∈ (replay changes).names
      · -- A name that is put again stays in its place, and its registration goes on.
        simp only [if_pos hmem, ih, began_put_of_registered (mem_names_replay.mp hmem)]
      · have hnew : ¬Registered changes name := fun h => hmem (mem_names_replay.mpr h)
        simp only [if_neg hmem, pair_sublist_concat, ih, began_put_of_not_registered hnew,
          mem_names_replay, registered_iff_began]
        -- A new name comes last, and its registration begins later than any other.
        constructor
        · rintro (⟨first, second, hfirst, hsecond, hlt⟩ | ⟨⟨first, hfirst, -⟩, rfl⟩)
          · exact ⟨first, second, .inl hfirst, .inl hsecond, hlt⟩
          · exact ⟨first, changes.length, .inl hfirst, .inr ⟨rfl, rfl⟩, hfirst.lt_length⟩
        · rintro ⟨first, second, hfirst | ⟨-, rfl⟩, hsecond | ⟨rfl, rfl⟩, hlt⟩
          · exact .inl ⟨first, second, hfirst, hsecond, hlt⟩
          · exact .inr ⟨registered_iff_began.mp hfirst.registered, rfl⟩
          · exact absurd hsecond.lt_length (Nat.not_lt.mpr (Nat.le_of_lt hlt))
          · exact absurd hlt (Nat.lt_irrefl _)
    | drop name =>
      rw [change, names_erase, pair_sublist_filter, ih]
      simp only [began_drop]
      constructor
      · rintro ⟨⟨first, second, hfirst, hsecond, hlt⟩, hearlier, hlater⟩
        exact ⟨first, second, ⟨hfirst, hearlier⟩, ⟨hsecond, hlater⟩, hlt⟩
      · rintro ⟨first, second, ⟨hfirst, hearlier⟩, ⟨hsecond, hlater⟩, hlt⟩
        exact ⟨⟨first, second, hfirst, hsecond, hlt⟩, hearlier, hlater⟩

end Roster

end Switchyard
