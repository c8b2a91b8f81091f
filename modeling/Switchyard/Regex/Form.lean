import Switchyard.Regex.Basic

/-!
# Reduced forms

The same pattern can be written in many ways; its reduced form is what is carried out. Characters
side by side are one literal, a sequence or a choice stands in no other one directly, a choice of
characters is a class, and what all branches of a choice start with stands in front of it. A sequence
is a chain of `both`, a choice a chain of `either`. The form takes the same texts as the pattern; which
of them it prefers is for the form to say.
-/

namespace Switchyard.Regex

open Unicode

/-- A pattern in reduced form. -/
inductive Form where
  | empty
  | literal (text : List Char)
  | chars (members : Ranges)
  | look (assertion : Look)
  | capture (name? : Option (List Char)) (body : Form)
  | repeats (min : Nat) (max : Option Nat) (greedy : Bool) (body : Form)
  | both (first rest : Form)
  | either (first rest : Form)
  deriving Repr, DecidableEq

namespace Form

/-- How many parts the form is made of. -/
def weight : Form → Nat
  | empty | literal _ | chars _ | look _ => 1
  | capture _ body | repeats _ _ _ body => body.weight + 1
  | both first rest | either first rest => first.weight + rest.weight + 1

/-- The two forms are the same. Two captures never are, since they have different numbers. -/
def agrees : Form → Form → Bool
  | empty, empty => true
  | literal text, literal other => text == other
  | chars members, chars others => members == others
  | look assertion, look other => assertion == other
  | repeats min max greedy body, repeats min' max' greedy' body' =>
    min == min' && max == max' && greedy == greedy' && body.agrees body'
  | both first rest, both first' rest' | either first rest, either first' rest' =>
    first.agrees first' && rest.agrees rest'
  | _, _ => false

/-! ## Sequences and choices -/

/-- The class of a table; a class of one character is a literal. -/
def ofRanges (ranges : Ranges) : Form :=
  match ranges with
  | [(low, high)] => if low = high then literal [Char.ofNat low] else chars ranges
  | _ => chars ranges

/-- The form of a class. A character that stands for itself is a literal already. -/
def ofClass (kind : CharClass) : Form :=
  match kind with
  | .range low high => if low = high then literal [low] else ofRanges kind.scalars
  | _ => ofRanges kind.scalars

/-- The forms that follow one another in a sequence. -/
def items : Form → List Form
  | empty => []
  | both first rest => first :: rest.items
  | form => [form]

/-- The branches of a choice. -/
def branches : Form → List Form
  | either first rest => first :: rest.branches
  | form => [form]

/-- Literals side by side become one. -/
def joinLiterals : List Form → List Form
  | [] => []
  | literal text :: rest =>
    match joinLiterals rest with
    | literal more :: rest => literal (text ++ more) :: rest
    | rest => literal text :: rest
  | form :: rest => form :: joinLiterals rest

/-- The chain that `link` makes of the forms in a list. -/
def chain (link : Form → Form → Form) (none : Form) : List Form → Form
  | [] => none
  | [only] => only
  | first :: rest => link first (chain link none rest)

/-- One form after the other. -/
def sequence (forms : List Form) : Form :=
  chain both empty (joinLiterals (forms.flatMap items))

/-- The character of a literal of one. -/
def single? : Form → Option Char
  | literal [c] => some c
  | _ => none

/-- The members of a class. -/
def members? : Form → Option Ranges
  | chars members => some members
  | _ => none

/-- The forms that two sequences start with in common. -/
def commonStart : List Form → List Form → List Form
  | first :: rest, first' :: rest' =>
    if first.agrees first' then first :: commonStart rest rest' else []
  | _, _ => []

/-- The items of a sequence of two or more. -/
def manyItems? : Form → Option (List Form)
  | both first rest => some (first :: rest.items)
  | _ => none

/-- What all branches start with, when each of them is a sequence. -/
def sharedStart (branches : List Form) : List Form :=
  match branches.mapM manyItems? with
  | some (first :: rest) => rest.foldl commonStart first
  | _ => []

/-- One form or another. Taking a shared start out in front makes the branches lighter, so their
weight bounds how often that can be done. -/
def choiceWithin : Nat → List Form → Form
  | fuel, forms =>
    match forms.flatMap branches with
    | [] => chars []
    | [only] => only
    | branches =>
      match branches.mapM single?, branches.mapM members? with
      | some singles, _ => ofRanges (Ranges.normal (singles.map fun c => (c.toNat, c.toNat)))
      | none, some classes => ofRanges (Ranges.unionAll classes)
      | none, none =>
        match fuel, sharedStart branches with
        | fuel + 1, first :: more =>
          let rests := branches.map fun branch => sequence (branch.items.drop (more.length + 1))
          sequence (first :: more ++ [choiceWithin fuel rests])
        | _, _ => chain either (chars []) branches

/-- One form or another. -/
def choice (forms : List Form) : Form :=
  choiceWithin (forms.foldl (fun total form => total + form.weight) 0) forms

/-- A repetition; of exactly none it is empty, and of exactly one its body. -/
def repetition (min : Nat) (max : Option Nat) (greedy : Bool) (body : Form) : Form :=
  match min, max with
  | 0, some 0 => empty
  | 1, some 1 => body
  | _, _ => repeats min max greedy body

/-! ## From patterns -/

/-- A pattern on the way to its form. The items of a sequence and the branches of a choice, newest
first, are put together when the last one has come. -/
inductive Draft where
  | whole (form : Form)
  | items (newest : List Form)
  | branches (newest : List Form)

/-- The form that a draft comes to. -/
def Draft.finish : Draft → Form
  | whole form => form
  | items newest => sequence newest.reverse
  | branches newest => choice newest.reverse

/-- The items of a draft when one more follows. -/
def Draft.asItems : Draft → List Form
  | items newest => newest
  | draft => [draft.finish]

/-- The branches of a draft when there is one more. -/
def Draft.asBranches : Draft → List Form
  | branches newest => newest
  | draft => [draft.finish]

/-- The draft of a pattern. -/
def Draft.ofRegex : Regex → Draft
  | .empty => whole empty
  | .set kind => whole (ofClass kind)
  | .look assertion => whole (look assertion)
  | .cat first second => items ((ofRegex second).finish :: (ofRegex first).asItems)
  | .alt first second => branches ((ofRegex second).finish :: (ofRegex first).asBranches)
  | .group .plain body => whole (ofRegex body).finish
  | .group .numbered body => whole (capture none (ofRegex body).finish)
  | .group (.named name) body => whole (capture (some name) (ofRegex body).finish)
  | .repeats min max greedy body =>
    let limits := bounds min max body
    whole (repetition limits.1 limits.2 greedy (ofRegex body).finish)

/-- The reduced form of a pattern. -/
def ofRegex (pattern : Regex) : Form := (Draft.ofRegex pattern).finish

/-! ## What a form says about its matches -/

/-- Whether every match takes up text; nothing is said of a form that cannot match. -/
def takesText? : Form → Option Bool
  | empty | look _ => some false
  | literal _ => some true
  | chars members => if members = [] then none else some true
  | capture _ body => body.takesText?
  | repeats min _ _ body => body.takesText?.map (· && min != 0)
  | both first rest =>
    match first.takesText?, rest.takesText? with
    | some here, some later => some (here || later)
    | _, _ => none
  | either first rest =>
    match first.takesText?, rest.takesText? with
    | some here, some later => some (here && later)
    | _, _ => none

/-- No match takes up text. -/
def staysPut : Form → Bool
  | empty | look _ => true
  | literal _ | chars _ => false
  | capture _ body | repeats _ _ _ body => body.staysPut
  | both first rest | either first rest => first.staysPut && rest.staysPut

/-- Every match starts at the start of the text. -/
def opensText : Form → Bool
  | look .textStart => true
  | empty | literal _ | chars _ | look _ => false
  | capture _ body => body.opensText
  | repeats min _ _ body => min != 0 && body.opensText
  | both first rest => first.opensText || (first.staysPut && rest.opensText)
  | either first rest => first.opensText && rest.opensText

/-- Every match ends at the end of the text. -/
def closesText : Form → Bool
  | look .textEnd => true
  | empty | literal _ | chars _ | look _ => false
  | capture _ body => body.closesText
  | repeats min _ _ body => min != 0 && body.closesText
  | both first rest => rest.closesText || (rest.staysPut && first.closesText)
  | either first rest => first.closesText && rest.closesText

end Form

end Switchyard.Regex
