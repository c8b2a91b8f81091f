/-!
# The case of ASCII letters

Schemes and methods are compared in one case of the letters of ASCII; all other characters stay as
they are. Changing case twice is changing it once.
-/

namespace Switchyard.Text

/-- The text with the letters of ASCII in lower case. -/
def lower (text : String) : String := String.ofList (text.toList.map Char.toLower)

/-- The text with the letters of ASCII in upper case. -/
def upper (text : String) : String := String.ofList (text.toList.map Char.toUpper)

theorem toLower_toLower (c : Char) : c.toLower.toLower = c.toLower := by
  unfold Char.toLower
  split
  · rename_i h
    have hlow : 65 ≤ c.val.toNat := h.1
    have hhigh : c.val.toNat ≤ 90 := h.2
    rw [dif_neg]
    rintro ⟨-, hle⟩
    have hle : (c.val + ('a'.val - 'A'.val)).toNat ≤ 90 := hle
    rw [UInt32.toNat_add] at hle
    have : ('a'.val - 'A'.val).toNat = 32 := rfl
    omega
  · rfl

theorem toUpper_toUpper (c : Char) : c.toUpper.toUpper = c.toUpper := by
  unfold Char.toUpper
  split
  · rename_i h
    have hlow : 97 ≤ c.val.toNat := h.1
    have hhigh : c.val.toNat ≤ 122 := h.2
    rw [dif_neg]
    rintro ⟨hle, -⟩
    have hle : 97 ≤ (c.val + ('A'.val - 'a'.val)).toNat := hle
    rw [UInt32.toNat_add] at hle
    have : ('A'.val - 'a'.val).toNat = 4294967264 := rfl
    omega
  · rfl

@[simp] theorem lower_lower (text : String) : lower (lower text) = lower text := by
  simp only [lower, String.toList_ofList, List.map_map, Function.comp_def, toLower_toLower]

@[simp] theorem upper_upper (text : String) : upper (upper text) = upper text := by
  simp only [upper, String.toList_ofList, List.map_map, Function.comp_def, toUpper_toUpper]

end Switchyard.Text
