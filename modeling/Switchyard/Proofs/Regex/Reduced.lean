import Switchyard.Regex.Machine.Lemmas

/-!
# Patterns and their reduced forms

A pattern is walked as its reduced form. Putting a form together from parts gives it no assertion and
no group that its parts do not have (`Form.all_ofRegex`), and a sequence goes from item to item,
however its literals are joined (`ends_sequence`). So a way of a pattern can be told by the pattern's
constructs again: `ends_cat`, `ends_group` and the like say of each what its form does.
-/

namespace Switchyard.Regex

/-- The assertions that stand in the pattern, from left to right. -/
def looks : Regex → List Look
  | empty | set _ => []
  | look assertion => [assertion]
  | cat first second | alt first second => first.looks ++ second.looks
  | group _ body | repeats _ _ _ body => body.looks

/-! ## What stands in a form -/

namespace Form

variable {ofLook : Look → Prop} {ofName : List Char → Prop}

/-- Everything in a list of forms is as asked. -/
abbrev Alls (ofLook : Look → Prop) (ofName : List Char → Prop) (forms : List Form) : Prop :=
  ∀ form ∈ forms, form.All ofLook ofName

theorem alls_items {form : Form} (h : form.All ofLook ofName) : Alls ofLook ofName form.items := by
  fun_induction items form with
  | case1 => exact fun _ hmem => by cases hmem
  | case2 first rest ih => exact List.forall_mem_cons.mpr ⟨h.1, ih h.2⟩
  | case3 form => exact List.forall_mem_singleton.mpr h

theorem alls_branches {form : Form} (h : form.All ofLook ofName) :
    Alls ofLook ofName form.branches := by
  fun_induction branches form with
  | case1 first rest ih => exact List.forall_mem_cons.mpr ⟨h.1, ih h.2⟩
  | case2 form => exact List.forall_mem_singleton.mpr h

theorem alls_joinLiterals {forms : List Form} (h : Alls ofLook ofName forms) :
    Alls ofLook ofName (joinLiterals forms) := by
  fun_induction joinLiterals forms with
  | case1 => exact h
  | case2 text rest more later heq ih =>
    rw [Alls, List.forall_mem_cons] at h
    have hrest := ih h.2
    rw [heq, Alls, List.forall_mem_cons] at hrest
    exact List.forall_mem_cons.mpr ⟨trivial, hrest.2⟩
  | case3 text rest hother ih =>
    rw [Alls, List.forall_mem_cons] at h
    exact List.forall_mem_cons.mpr ⟨trivial, ih h.2⟩
  | case4 form rest hother ih =>
    rw [Alls, List.forall_mem_cons] at h
    exact List.forall_mem_cons.mpr ⟨h.1, ih h.2⟩

theorem all_chain {link : Form → Form → Form} {none : Form} (hnone : none.All ofLook ofName)
    (hlink : ∀ first rest : Form, first.All ofLook ofName → rest.All ofLook ofName →
      (link first rest).All ofLook ofName)
    {forms : List Form} (h : Alls ofLook ofName forms) : (chain link none forms).All ofLook ofName := by
  fun_induction chain link none forms with
  | case1 => exact hnone
  | case2 only => exact h only List.mem_cons_self
  | case3 first rest hrest ih =>
    rw [Alls, List.forall_mem_cons] at h
    exact hlink first _ h.1 (ih h.2)

theorem alls_flatMap {parts : Form → List Form}
    (hparts : ∀ form : Form, form.All ofLook ofName → Alls ofLook ofName (parts form))
    {forms : List Form} (h : Alls ofLook ofName forms) :
    Alls ofLook ofName (forms.flatMap parts) := by
  intro part hmem
  obtain ⟨form, hform, hpart⟩ := List.mem_flatMap.mp hmem
  exact hparts form (h form hform) part hpart

theorem all_sequence {forms : List Form} (h : Alls ofLook ofName forms) :
    (sequence forms).All ofLook ofName :=
  all_chain (show empty.All ofLook ofName from trivial) (fun _ _ => And.intro)
    (alls_joinLiterals (alls_flatMap (fun _ => alls_items) h))

theorem all_ofRanges (ranges : Unicode.Ranges) : (ofRanges ranges).All ofLook ofName := by
  unfold ofRanges
  split
  · split <;> trivial
  · trivial

theorem all_ofClass (kind : CharClass) : (ofClass kind).All ofLook ofName := by
  unfold ofClass
  split
  · split
    · trivial
    · exact all_ofRanges _
  · exact all_ofRanges _

theorem mem_of_mem_commonStart {form : Form} {first other : List Form}
    (h : form ∈ commonStart first other) : form ∈ first := by
  fun_induction commonStart first other with
  | case1 head rest head' rest' hagrees ih =>
    rcases List.mem_cons.mp h with rfl | h
    · exact List.mem_cons_self
    · exact List.mem_cons_of_mem _ (ih h)
  | case2 | case3 => cases h

/-- What all branches start with are items of the first. -/
theorem exists_of_mem_sharedStart {form : Form} {forms : List Form} (h : form ∈ sharedStart forms) :
    ∃ branch ∈ forms, form ∈ branch.items := by
  unfold sharedStart at h
  split at h
  · rename_i first rest hmany
    -- What all have in common is found by shortening the first branch.
    have hfold : form ∈ first := by
      clear hmany
      induction rest generalizing first with
      | nil => exact h
      | cons other rest ih => exact mem_of_mem_commonStart (ih _ h)
    rcases forms with _ | ⟨branch, forms⟩
    · cases hmany
    · simp only [List.mapM_cons, Option.bind_eq_bind, Option.bind_eq_some_iff] at hmany
      obtain ⟨items, hitems, others, -, heq⟩ := hmany
      cases heq
      refine ⟨branch, List.mem_cons_self, ?_⟩
      cases branch with
      | both head tail =>
        cases hitems
        exact hfold
      | _ => cases hitems
  · cases h

theorem all_choiceWithin (fuel : Nat) {forms : List Form} (h : Alls ofLook ofName forms) :
    (choiceWithin fuel forms).All ofLook ofName := by
  have hbranches := alls_flatMap (fun _ => alls_branches) h
  fun_induction choiceWithin fuel forms with
  | case1 => trivial
  | case2 fuel forms only hforms =>
    rw [hforms] at hbranches
    exact hbranches only List.mem_cons_self
  | case3 | case4 => exact all_ofRanges _
  | case5 forms fuel first more _ _ _ _ hshared rests ih =>
    -- The shared start comes from the first branch, and each of the rests from its own.
    have hstart : Alls ofLook ofName (first :: more) := by
      rw [← hshared]
      intro form hmem
      obtain ⟨branch, hbranch, hitem⟩ := exists_of_mem_sharedStart hmem
      exact alls_items (hbranches branch hbranch) form hitem
    have hrests : Alls ofLook ofName rests := by
      intro form hmem
      obtain ⟨branch, hbranch, rfl⟩ := List.mem_map.mp hmem
      exact all_sequence fun item hitem =>
        alls_items (hbranches branch hbranch) item (List.mem_of_mem_drop hitem)
    refine all_sequence fun form hmem => ?_
    rcases List.mem_append.mp hmem with hmem | hmem
    · exact hstart form hmem
    · rw [List.mem_singleton.mp hmem]
      exact ih hrests (alls_flatMap (fun _ => alls_branches) hrests)
  | case6 =>
    exact all_chain (show (chars []).All ofLook ofName from trivial) (fun _ _ => And.intro) hbranches

/-- Everything in a draft is as asked. -/
def Draft.All (ofLook : Look → Prop) (ofName : List Char → Prop) : Draft → Prop
  | .whole form => form.All ofLook ofName
  | .items newest | .branches newest => Alls ofLook ofName newest

theorem Draft.all_finish {draft : Draft} (h : draft.All ofLook ofName) :
    draft.finish.All ofLook ofName := by
  cases draft with
  | whole form => exact h
  | items newest => exact all_sequence fun form hmem => h form (List.mem_reverse.mp hmem)
  | branches newest => exact all_choiceWithin _ fun form hmem => h form (List.mem_reverse.mp hmem)

theorem Draft.alls_asItems {draft : Draft} (h : draft.All ofLook ofName) :
    Alls ofLook ofName draft.asItems := by
  cases draft with
  | items newest => exact h
  | whole | branches => exact List.forall_mem_singleton.mpr (all_finish h)

theorem Draft.alls_asBranches {draft : Draft} (h : draft.All ofLook ofName) :
    Alls ofLook ofName draft.asBranches := by
  cases draft with
  | branches newest => exact h
  | whole | items => exact List.forall_mem_singleton.mpr (all_finish h)

theorem all_repetition (min : Nat) (max : Option Nat) (greedy : Bool) {body : Form}
    (h : body.All ofLook ofName) : (repetition min max greedy body).All ofLook ofName := by
  unfold repetition
  split
  · trivial
  · exact h
  · exact h

theorem Draft.all_ofRegex {pattern : Regex} (hlook : ∀ assertion ∈ pattern.looks, ofLook assertion)
    (hname : ∀ name ∈ pattern.groupNames, ofName name) :
    (Draft.ofRegex pattern).All ofLook ofName := by
  -- What stands in a form stood in the pattern; the assertions and names of both parts are told
  -- apart as the tree is.
  induction pattern with
  | empty => trivial
  | set kind => exact all_ofClass kind
  | look assertion => exact hlook assertion List.mem_cons_self
  | cat first second hfirst hsecond =>
    rw [looks, List.forall_mem_append] at hlook
    rw [groupNames, List.forall_mem_append] at hname
    exact List.forall_mem_cons.mpr
      ⟨all_finish (hsecond hlook.2 hname.2), alls_asItems (hfirst hlook.1 hname.1)⟩
  | alt first second hfirst hsecond =>
    rw [looks, List.forall_mem_append] at hlook
    rw [groupNames, List.forall_mem_append] at hname
    exact List.forall_mem_cons.mpr
      ⟨all_finish (hsecond hlook.2 hname.2), alls_asBranches (hfirst hlook.1 hname.1)⟩
  | group grouping body hbody =>
    rw [groupNames, List.forall_mem_append] at hname
    cases grouping with
    | plain | numbered => exact all_finish (hbody hlook hname.2)
    | named name => exact ⟨hname.1 name List.mem_cons_self, all_finish (hbody hlook hname.2)⟩
  | repeats min max greedy body hbody =>
    exact all_repetition _ _ greedy (all_finish (hbody hlook hname))

/-- What is true of all assertions and of all names of groups in a pattern is true of all in its
reduced form. -/
theorem all_ofRegex {pattern : Regex} (hlook : ∀ assertion ∈ pattern.looks, ofLook assertion)
    (hname : ∀ name ∈ pattern.groupNames, ofName name) :
    (ofRegex pattern).All ofLook ofName := Draft.all_finish (Draft.all_ofRegex hlook hname)

end Form

/-! ## Walks one after the other -/

namespace Walk

theorem stay_andThen (walk : Walk) : stay.andThen walk = walk := by
  funext cursor
  simp only [andThen, stay, List.flatMap_cons, List.flatMap_nil, List.append_nil]
  exact List.map_id (walk cursor)

theorem andThen_stay (walk : Walk) : walk.andThen stay = walk := by
  funext cursor
  have hextend : ∀ reach : Reach, (stay reach.cursor).map reach.extend = [reach] := by
    intro reach
    simp [stay, Reach.extend]
  simp [andThen, hextend]

theorem andThen_assoc (first second third : Walk) :
    (first.andThen second).andThen third = first.andThen (second.andThen third) := by
  funext cursor
  simp only [andThen, List.flatMap_assoc, List.flatMap_map, List.map_flatMap, List.map_map]
  congr 1
  funext reach
  congr 1
  funext later
  simp [Reach.extend, Function.comp_def]

/-- The walks of a list, one after the other. -/
def inOrder (walks : List Walk) : Walk := walks.foldr andThen stay

theorem inOrder_cons (walk : Walk) (walks : List Walk) :
    inOrder (walk :: walks) = walk.andThen (inOrder walks) := rfl

theorem inOrder_singleton (walk : Walk) : inOrder [walk] = walk := andThen_stay walk

theorem inOrder_append (walks more : List Walk) :
    inOrder (walks ++ more) = (inOrder walks).andThen (inOrder more) := by
  induction walks with
  | nil => exact (stay_andThen _).symm
  | cons walk walks ih => rw [List.cons_append, inOrder_cons, ih, inOrder_cons, andThen_assoc]

/-! ## Walks whatever the spots -/

variable (walk first second : Walk)

theorem plain_stay : stay.plain = stay := rfl

theorem plain_check (assertion : Look) : (check assertion).plain = check assertion := by
  funext cursor
  unfold plain check
  split <;> rfl

theorem plain_within (step : Descent) : (walk.within step).plain = walk.plain := by
  funext cursor
  simp [plain, within, Reach.plain, Reach.within, Function.comp_def]

theorem plain_andThen : (first.andThen second).plain = first.plain.andThen second.plain := by
  funext cursor
  simp [plain, andThen, Reach.plain, Reach.extend, List.map_flatMap, List.flatMap_map,
    Function.comp_def]

theorem plain_orElse : (first.orElse second).plain = first.plain.orElse second.plain := by
  funext cursor
  simp [plain, orElse]

theorem plain_both : (first.both second).plain = first.plain.andThen second.plain := by
  rw [both, plain_andThen, plain_within, plain_within]

theorem plain_optional (greedy : Bool) : (walk.optional greedy).plain = walk.plain.optional greedy := by
  unfold optional
  split
  · rw [plain_orElse, plain_stay]
  · rw [plain_orElse, plain_stay]

theorem plain_named (name : List Char) : (walk.named name).plain = walk.plain.named name := by
  funext cursor
  simp [plain, named, Reach.plain, Reach.marked, Function.comp_def]

theorem plain_letters (text : List Char) :
    (letters text).plain = inOrder (text.map fun c => (take (· == c)).plain) := by
  induction text with
  | nil => rfl
  | cons c text ih => rw [letters, plain_both, ih, List.map_cons, inOrder_cons]

end Walk

/-! ## Sequences -/

namespace Form

/-- Every way for the form to go on from a place, whatever the spots. -/
def ends (form : Form) : Walk := form.walk.plain

theorem ends_both (first rest : Form) : (both first rest).ends = first.ends.andThen rest.ends :=
  Walk.plain_both _ _

theorem ends_literal_append (text more : List Char) :
    (literal (text ++ more)).ends = (literal text).ends.andThen (literal more).ends := by
  simp only [ends, walk, Walk.plain_letters, List.map_append, Walk.inOrder_append]

theorem ends_items (form : Form) : Walk.inOrder (form.items.map ends) = form.ends := by
  fun_induction items form with
  | case1 => rfl
  | case2 first rest ih => rw [List.map_cons, Walk.inOrder_cons, ih, ends_both]
  | case3 form => exact Walk.inOrder_singleton form.ends

theorem ends_joinLiterals (forms : List Form) :
    Walk.inOrder ((joinLiterals forms).map ends) = Walk.inOrder (forms.map ends) := by
  fun_induction joinLiterals forms with
  | case1 => rfl
  | case2 text rest more later heq ih =>
    rw [heq] at ih
    rw [List.map_cons, List.map_cons, Walk.inOrder_cons, Walk.inOrder_cons, ends_literal_append,
      Walk.andThen_assoc, ← ih, List.map_cons, Walk.inOrder_cons]
  | case3 text rest hother ih | case4 form rest hother ih =>
    rw [List.map_cons, List.map_cons, Walk.inOrder_cons, Walk.inOrder_cons, ih]

theorem ends_chain (forms : List Form) :
    (chain both empty forms).ends = Walk.inOrder (forms.map ends) := by
  fun_induction chain both empty forms with
  | case1 => rfl
  | case2 only => exact (Walk.inOrder_singleton only.ends).symm
  | case3 first rest hrest ih => rw [ends_both, ih, List.map_cons, Walk.inOrder_cons]

/-- Putting forms together as a sequence changes nothing in the order of what they do. -/
theorem ends_sequence (forms : List Form) :
    (sequence forms).ends = Walk.inOrder (forms.map ends) := by
  rw [sequence, ends_chain, ends_joinLiterals]
  induction forms with
  | nil => rfl
  | cons form forms ih =>
    rw [List.flatMap_cons, List.map_append, Walk.inOrder_append, ends_items, ih, List.map_cons,
      Walk.inOrder_cons]

theorem Draft.ends_asItems (draft : Draft) :
    Walk.inOrder (draft.asItems.reverse.map ends) = draft.finish.ends := by
  cases draft with
  | items newest => exact (ends_sequence newest.reverse).symm
  | whole form => exact Walk.inOrder_singleton _
  | branches newest => exact Walk.inOrder_singleton _

end Form

/-! ## Constructs of a pattern -/

theorem ends_cat (first second : Regex) :
    (cat first second).ends = first.ends.andThen second.ends := by
  show (Form.sequence (List.reverse (_ :: _))).ends = _
  rw [Form.ends_sequence, List.reverse_cons, List.map_append, Walk.inOrder_append,
    Form.Draft.ends_asItems]
  exact congrArg _ (Walk.inOrder_singleton _)

/-- A sequence goes from item to item. -/
theorem ends_sequence (items : List Regex) :
    (sequence items).ends = Walk.inOrder (items.map ends) := by
  rcases items with _ | ⟨first, rest⟩
  · rfl
  · have hfold : ∀ first : Regex, (rest.foldl cat first).ends =
        first.ends.andThen (Walk.inOrder (rest.map ends)) := by
      induction rest with
      | nil => exact fun first => (Walk.andThen_stay first.ends).symm
      | cons next rest ih =>
        intro first
        rw [List.foldl_cons, ih, ends_cat, List.map_cons, Walk.inOrder_cons, Walk.andThen_assoc]
    exact hfold first

theorem ends_look (assertion : Look) : (look assertion).ends = Walk.check assertion :=
  Walk.plain_check assertion

theorem ends_group (grouping : Grouping) (body : Regex) :
    (group grouping body).ends =
      match grouping.name? with
      | none => body.ends
      | some name => body.ends.named name := by
  cases grouping with
  | plain | numbered => rfl
  | named name => exact Walk.plain_named _ name

/-- A character that stands for itself is taken as it is. -/
theorem ends_single (c : Char) :
    (set (.single c)).ends = (Walk.take (· == c)).plain := by
  have hform : Form.ofRegex (set (.single c)) = .literal [c] := by
    simp [Form.ofRegex, Form.Draft.ofRegex, Form.Draft.finish, Form.ofClass, CharClass.single]
  rw [ends, hform]
  show (Walk.letters [c]).plain = _
  rw [Walk.plain_letters]
  exact Walk.inOrder_singleton _

end Switchyard.Regex
