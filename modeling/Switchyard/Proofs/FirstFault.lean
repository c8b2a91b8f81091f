/-!
# The first fault

What goes through a list and stops at the first item at fault has found all items before it sound.
`firstFault_cons` tells this from the front of the list, one item at a time.
-/

namespace Switchyard

variable {α : Type} {sound fault : α → Prop}

/-- An item of the list is at fault, and all items before it are sound. -/
def FirstFault (sound fault : α → Prop) (list : List α) : Prop :=
  ∃ before item after, list = before ++ item :: after ∧
    (∀ earlier ∈ before, sound earlier) ∧ fault item

theorem not_firstFault_nil : ¬FirstFault sound fault [] := by
  rintro ⟨before, item, after, h, -⟩
  cases before <;> cases h

/-- The first item is at fault, or it is sound and the fault is found behind it. -/
theorem firstFault_cons {item : α} {list : List α} :
    FirstFault sound fault (item :: list) ↔
      fault item ∨ (sound item ∧ FirstFault sound fault list) := by
  simp only [FirstFault, List.cons_eq_append_iff]
  constructor
  · rintro ⟨before, other, after, ⟨rfl, h⟩ | ⟨front, rfl, rfl⟩, hbefore, hfault⟩
    · cases h
      exact .inl hfault
    · rw [List.forall_mem_cons] at hbefore
      exact .inr ⟨hbefore.1, front, other, after, rfl, hbefore.2, hfault⟩
  · rintro (hfault | ⟨hsound, front, other, after, rfl, hfront, hfault⟩)
    · exact ⟨[], item, list, .inl ⟨rfl, rfl⟩, fun _ h => (by cases h), hfault⟩
    · exact ⟨item :: front, other, after, .inr ⟨front, rfl, rfl⟩,
        List.forall_mem_cons.mpr ⟨hsound, hfront⟩, hfault⟩

/-- What is true of the cause of the first fault is true of the first fault. -/
theorem exists_firstFault_and {ε : Type} {fault : ε → α → Prop} {property : ε → Prop}
    {list : List α} :
    (∃ cause, FirstFault sound (fault cause) list ∧ property cause) ↔
      FirstFault sound (fun item => ∃ cause, fault cause item ∧ property cause) list := by
  constructor
  · rintro ⟨cause, ⟨before, item, after, hlist, hbefore, hfault⟩, hproperty⟩
    exact ⟨before, item, after, hlist, hbefore, cause, hfault, hproperty⟩
  · rintro ⟨before, item, after, hlist, hbefore, cause, hfault, hproperty⟩
    exact ⟨cause, ⟨before, item, after, hlist, hbefore, hfault⟩, hproperty⟩

/-- Where every item is sound or at fault, a fault anywhere has a first one. -/
theorem exists_firstFault {ε : Type} {fault : ε → α → Prop} {list : List α}
    (h : ∀ item ∈ list, sound item ∨ ∃ cause, fault cause item) :
    (∃ cause, FirstFault sound (fault cause) list) ↔
      ∃ item ∈ list, ∃ cause, fault cause item := by
  constructor
  · rintro ⟨cause, before, item, after, rfl, -, hfault⟩
    exact ⟨item, List.mem_append_right _ List.mem_cons_self, cause, hfault⟩
  · -- Up to the first fault every item is sound, as each is one or the other.
    induction list with
    | nil =>
      rintro ⟨item, hmem, -⟩
      cases hmem
    | cons first list ih =>
      intro hsome
      rw [List.forall_mem_cons] at h
      rcases h.1 with hsound | ⟨cause, hfault⟩
      · obtain ⟨item, hmem, cause, hfault⟩ := hsome
        rcases List.mem_cons.mp hmem with rfl | hmem
        · exact ⟨cause, firstFault_cons.mpr (.inl hfault)⟩
        · obtain ⟨other, hfirst⟩ := ih h.2 ⟨item, hmem, cause, hfault⟩
          exact ⟨other, firstFault_cons.mpr (.inr ⟨hsound, hfirst⟩)⟩
      · exact ⟨cause, firstFault_cons.mpr (.inl hfault)⟩

end Switchyard
