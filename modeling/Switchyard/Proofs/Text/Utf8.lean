import Switchyard.Text.Utf8

/-!
# Reading back UTF-8

The bytes of a text are read back as the text (`decodeLossy_encode`): the first byte of a character
announces the ranges that its other bytes lie in, and their bits put the character's number together
again.
-/

namespace Switchyard.Text.Utf8

theorem toNat_ofNat_of_lt {value : Nat} (h : value < 256) : (UInt8.ofNat value).toNat = value := by
  rw [UInt8.toNat_ofNat', Nat.mod_eq_of_lt h]

/-- A byte that goes on a character adds its six bits. -/
theorem readTails_tail (count value bits : Nat) (rest : List UInt8) :
    readTails (count + 1) value (UInt8.ofNat (bits % 0x40 + 0x80) :: rest) =
      readTails count (value * 64 + bits % 0x40) rest := by
  have hvalue : (UInt8.ofNat (bits % 0x40 + 0x80)).toNat = bits % 0x40 + 0x80 :=
    toNat_ofNat_of_lt (by omega)
  have htail : isTail (UInt8.ofNat (bits % 0x40 + 0x80)) = true := by
    simp only [isTail, Bool.and_eq_true, decide_eq_true_eq, UInt8.le_iff_toNat_le, hvalue]
    constructor
    · show 0x80 ≤ bits % 0x40 + 0x80
      omega
    · show bits % 0x40 + 0x80 ≤ 0xBF
      omega
  rw [readTails, if_pos htail, hvalue, Nat.add_sub_cancel]

/-- What a first byte announces, by its number. -/
theorem lead?_ofNat {value : Nat} (h : value < 256) :
    lead? (UInt8.ofNat value) =
      if 0xC2 ≤ value ∧ value ≤ 0xDF then some ⟨value - 0xC0, 0x80, 0xBF, 1⟩
      else if value = 0xE0 then some ⟨0, 0xA0, 0xBF, 2⟩
      else if value = 0xED then some ⟨0xD, 0x80, 0x9F, 2⟩
      else if 0xE1 ≤ value ∧ value ≤ 0xEF then some ⟨value - 0xE0, 0x80, 0xBF, 2⟩
      else if value = 0xF0 then some ⟨0, 0x90, 0xBF, 3⟩
      else if 0xF1 ≤ value ∧ value ≤ 0xF3 then some ⟨value - 0xF0, 0x80, 0xBF, 3⟩
      else if value = 0xF4 then some ⟨4, 0x80, 0x8F, 3⟩
      else none := by
  simp [lead?, UInt8.le_iff_toNat_le, ← UInt8.toNat_inj, toNat_ofNat_of_lt h]

theorem low_le (bits : Nat) : (0x80 : UInt8).toNat ≤ bits % 0x40 + 0x80 := by
  show 0x80 ≤ bits % 0x40 + 0x80
  omega

theorem le_high (bits : Nat) : bits % 0x40 + 0x80 ≤ (0xBF : UInt8).toNat := by
  show bits % 0x40 + 0x80 ≤ 0xBF
  omega

/-- The first of three bytes keeps out numbers that two bytes write, and surrogates. -/
theorem lead?_three {value : Nat} (hlow : 0x800 ≤ value) (hhigh : value ≤ 0xFFFF)
    (hvalid : value < 0xD800 ∨ 0xDFFF < value) :
    ∃ low high, lead? (UInt8.ofNat (value / 4096 % 0x10 + 0xE0)) =
      some ⟨value / 4096, low, high, 2⟩ ∧ low.toNat ≤ value / 64 % 0x40 + 0x80 ∧
        value / 64 % 0x40 + 0x80 ≤ high.toNat := by
  rw [lead?_ofNat (by omega), if_neg (by omega)]
  -- Two leading bytes narrow the second one: the first, against forms that are too long, and the
  -- one of the surrogates.
  by_cases hfirst : value / 4096 = 0
  · rw [if_pos (by omega), hfirst]
    refine ⟨0xA0, 0xBF, rfl, ?_, le_high _⟩
    show 0xA0 ≤ value / 64 % 0x40 + 0x80
    omega
  by_cases hsurrogate : value / 4096 = 0xD
  · rw [if_neg (by omega), if_pos (by omega), hsurrogate]
    refine ⟨0x80, 0x9F, rfl, low_le _, ?_⟩
    show value / 64 % 0x40 + 0x80 ≤ 0x9F
    omega
  · rw [if_neg (by omega), if_neg (by omega), if_pos (by omega), Nat.add_sub_cancel,
      Nat.mod_eq_of_lt (by omega)]
    exact ⟨0x80, 0xBF, rfl, low_le _, le_high _⟩

/-- The first of four bytes keeps out numbers that three bytes write, and what is past the last. -/
theorem lead?_four {value : Nat} (hlow : 0x10000 ≤ value) (hhigh : value < 0x110000) :
    ∃ low high, lead? (UInt8.ofNat (value / 262144 % 0x08 + 0xF0)) =
      some ⟨value / 262144, low, high, 3⟩ ∧ low.toNat ≤ value / 4096 % 0x40 + 0x80 ∧
        value / 4096 % 0x40 + 0x80 ≤ high.toNat := by
  rw [lead?_ofNat (by omega), if_neg (by omega), if_neg (by omega), if_neg (by omega),
    if_neg (by omega)]
  -- The first leading byte excludes forms that are too long, the last one what lies past the
  -- greatest character.
  by_cases hfirst : value / 262144 = 0
  · rw [if_pos (by omega), hfirst]
    refine ⟨0x90, 0xBF, rfl, ?_, le_high _⟩
    show 0x90 ≤ value / 4096 % 0x40 + 0x80
    omega
  by_cases hlast : value / 262144 = 4
  · rw [if_neg (by omega), if_neg (by omega), if_pos (by omega), hlast]
    refine ⟨0x80, 0x8F, rfl, low_le _, ?_⟩
    show value / 4096 % 0x40 + 0x80 ≤ 0x8F
    omega
  · rw [if_neg (by omega), if_pos (by omega), Nat.add_sub_cancel, Nat.mod_eq_of_lt (by omega)]
    exact ⟨0x80, 0xBF, rfl, low_le _, le_high _⟩

/-- A character of more than one byte, when its first byte announces the second. -/
theorem readScalar_of_lead {value bits : Nat} {lead : Lead} (hvalue : value < 256)
    (hwide : 0x80 ≤ value) (hlead : lead? (UInt8.ofNat value) = some lead)
    (hlow : lead.low.toNat ≤ bits % 0x40 + 0x80) (hhigh : bits % 0x40 + 0x80 ≤ lead.high.toNat)
    (more : List UInt8) :
    readScalar (UInt8.ofNat value) (UInt8.ofNat (bits % 0x40 + 0x80) :: more) =
      ((readTails (lead.tails - 1) (lead.bits * 64 + bits % 0x40) more).1.map Char.ofNat,
        (readTails (lead.tails - 1) (lead.bits * 64 + bits % 0x40) more).2) := by
  have hnarrow : ¬ UInt8.ofNat value < 0x80 := by
    rw [UInt8.lt_iff_toNat_lt, toNat_ofNat_of_lt hvalue]
    show ¬ value < 0x80
    omega
  have hsecond : (UInt8.ofNat (bits % 0x40 + 0x80)).toNat = bits % 0x40 + 0x80 :=
    toNat_ofNat_of_lt (by omega)
  have hrange : (lead.low ≤ UInt8.ofNat (bits % 0x40 + 0x80) &&
      UInt8.ofNat (bits % 0x40 + 0x80) ≤ lead.high) = true := by
    simp only [Bool.and_eq_true, decide_eq_true_eq, UInt8.le_iff_toNat_le, hsecond]
    exact ⟨hlow, hhigh⟩
  unfold readScalar
  rw [if_neg hnarrow]
  simp only [hlead, hrange, if_true, hsecond, Nat.add_sub_cancel]

/-- The bytes of a character are read as the character, whatever follows. -/
theorem readScalar_encodeChar (c : Char) (rest : List UInt8) :
    ∃ byte more, encodeChar c = byte :: more ∧ readScalar byte (more ++ rest) = (some c, rest) := by
  have hvalid : c.toNat < 0xD800 ∨ (0xDFFF < c.toNat ∧ c.toNat < 0x110000) := c.valid
  have hback : Char.ofNat c.toNat = c := Char.ofNat_toNat c
  -- One to four bytes, by the range of the character.
  by_cases hone : c.toNat ≤ 0x7F
  · have hbyte : encodeChar c = [UInt8.ofNat c.toNat] := by
      show String.utf8EncodeChar c = _
      unfold String.utf8EncodeChar
      exact if_pos hone
    refine ⟨_, [], hbyte, ?_⟩
    have hnarrow : UInt8.ofNat c.toNat < 0x80 := by
      rw [UInt8.lt_iff_toNat_lt, toNat_ofNat_of_lt (by omega)]
      show c.toNat < 0x80
      omega
    unfold readScalar
    rw [if_pos hnarrow, toNat_ofNat_of_lt (by omega), hback]
    rfl
  by_cases htwo : c.toNat ≤ 0x7FF
  · have hbytes : encodeChar c = [UInt8.ofNat (c.toNat / 64 % 0x20 + 0xC0),
        UInt8.ofNat (c.toNat % 0x40 + 0x80)] := by
      show String.utf8EncodeChar c = _
      unfold String.utf8EncodeChar
      exact (if_neg hone).trans (if_pos htwo)
    have hlead : lead? (UInt8.ofNat (c.toNat / 64 % 0x20 + 0xC0)) =
        some ⟨c.toNat / 64, 0x80, 0xBF, 1⟩ := by
      rw [lead?_ofNat (by omega), if_pos (by omega), Nat.add_sub_cancel,
        Nat.mod_eq_of_lt (by omega)]
    refine ⟨_, _, hbytes, ?_⟩
    rw [List.cons_append, readScalar_of_lead (by omega) (by omega) hlead (low_le _) (le_high _)]
    show ((readTails 0 _ _).1.map Char.ofNat, (readTails 0 _ _).2) = _
    rw [readTails, List.nil_append, Option.map_some]
    rw [show c.toNat / 64 * 64 + c.toNat % 0x40 = c.toNat by omega, hback]
  by_cases hthree : c.toNat ≤ 0xFFFF
  · have hbytes : encodeChar c = [UInt8.ofNat (c.toNat / 4096 % 0x10 + 0xE0),
        UInt8.ofNat (c.toNat / 64 % 0x40 + 0x80), UInt8.ofNat (c.toNat % 0x40 + 0x80)] := by
      show String.utf8EncodeChar c = _
      unfold String.utf8EncodeChar
      exact (if_neg hone).trans ((if_neg htwo).trans (if_pos hthree))
    obtain ⟨low, high, hlead, hlow, hhigh⟩ := lead?_three (by omega) hthree (by omega)
    refine ⟨_, _, hbytes, ?_⟩
    rw [List.cons_append, List.cons_append,
      readScalar_of_lead (by omega) (by omega) hlead hlow hhigh]
    show ((readTails 1 _ _).1.map Char.ofNat, (readTails 1 _ _).2) = _
    rw [readTails_tail, List.nil_append, readTails, Option.map_some]
    rw [show (c.toNat / 4096 * 64 + c.toNat / 64 % 0x40) * 64 + c.toNat % 0x40 = c.toNat by omega,
      hback]
  · have hbytes : encodeChar c = [UInt8.ofNat (c.toNat / 262144 % 0x08 + 0xF0),
        UInt8.ofNat (c.toNat / 4096 % 0x40 + 0x80), UInt8.ofNat (c.toNat / 64 % 0x40 + 0x80),
        UInt8.ofNat (c.toNat % 0x40 + 0x80)] := by
      show String.utf8EncodeChar c = _
      unfold String.utf8EncodeChar
      exact (if_neg hone).trans ((if_neg htwo).trans (if_neg hthree))
    obtain ⟨low, high, hlead, hlow, hhigh⟩ :=
      lead?_four (show 0x10000 ≤ c.toNat by omega) (by omega)
    refine ⟨_, _, hbytes, ?_⟩
    rw [List.cons_append, List.cons_append, List.cons_append,
      readScalar_of_lead (by omega) (by omega) hlead hlow hhigh]
    show ((readTails 2 _ _).1.map Char.ofNat, (readTails 2 _ _).2) = _
    rw [readTails_tail, readTails_tail, List.nil_append, readTails, Option.map_some]
    rw [show ((c.toNat / 262144 * 64 + c.toNat / 4096 % 0x40) * 64 + c.toNat / 64 % 0x40) * 64 +
      c.toNat % 0x40 = c.toNat by omega, hback]

/-- The bytes of a text are read back as the text. -/
theorem decodeLossy_encode (text : List Char) : decodeLossy (encode text) = text := by
  induction text with
  | nil =>
    rw [encode, List.flatMap_nil, decodeLossy]
  | cons c text ih =>
    obtain ⟨byte, more, hbytes, hread⟩ := readScalar_encodeChar c (encode text)
    have hencode : encode (c :: text) = byte :: (more ++ encode text) := by
      rw [encode, List.flatMap_cons, hbytes]
      rfl
    rw [hencode, decodeLossy, hread, ih]
    rfl

end Switchyard.Text.Utf8
