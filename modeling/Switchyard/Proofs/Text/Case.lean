import Mathlib
import Switchyard.Text.Case

/-!
# Texts that differ in case

Two texts differ in nothing but the case of ASCII letters when they are one in lower case. That is to
say that they are one in upper case (`sameButCase_iff_upper`), so it does not matter in which of the
two cases names are kept and compared.
-/

namespace Switchyard.Text

/-- The texts differ in nothing but the case of ASCII letters. -/
def SameButCase (first second : String) : Prop := lower first = lower second

instance (first second : String) : Decidable (SameButCase first second) :=
  inferInstanceAs (Decidable (lower first = lower second))

@[simp] theorem upper_lower (text : String) : upper (lower text) = upper text := by
  simp only [lower, upper, String.toList_ofList, List.map_map, Function.comp_def,
    Char.toUpper_toLower_eq_toUpper]

@[simp] theorem lower_upper (text : String) : lower (upper text) = lower text := by
  simp only [lower, upper, String.toList_ofList, List.map_map, Function.comp_def,
    Char.toLower_toUpper_eq_toLower]

/-- It does not matter in which case two texts are compared. -/
theorem sameButCase_iff_upper {first second : String} :
    SameButCase first second ↔ upper first = upper second := by
  constructor
  · intro h
    rw [← upper_lower first, h, upper_lower]
  · intro h
    rw [SameButCase, ← lower_upper first, h, lower_upper]

end Switchyard.Text
