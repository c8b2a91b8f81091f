import Switchyard.Percent
import Switchyard.Proofs.Text.Utf8

/-!
# Percent coding

Writing a text as a path segment loses nothing (`decodeChars_encodeChars`) and gives a code that
stays within its segment: no slash stands in it, and only the empty text has an empty code. A code
is made of characters that stand for themselves and of whole escapes (`Escaped`), so a percent sign
in it always begins an escape. `lossless_encode` puts together what holds of every code.
-/

namespace Switchyard.Percent

open Unicode

/-! ## One byte, one character -/

theorem hexValue?_hexDigit : ∀ value < 16, hexValue? (hexDigit value) = some value := by decide

theorem hexDigit_kept : ∀ value < 16,
    (hexDigit value).toNat < 0x80 ∧ isReserved (hexDigit value) = false := by decide

theorem bytes_escapeByte (byte : UInt8) (rest : List Char) :
    bytes (escapeByte byte ++ rest) = byte :: bytes rest := by
  have hbyte := byte.toNat_lt
  show bytes ('%' :: hexDigit (byte.toNat / 16) :: hexDigit (byte.toNat % 16) :: rest) = _
  rw [bytes, hexValue?_hexDigit _ (by omega), hexValue?_hexDigit _ (by omega)]
  simp only []
  rw [show byte.toNat / 16 * 16 + byte.toNat % 16 = byte.toNat by omega, UInt8.ofNat_toNat]

theorem bytes_flatMap_escapeByte (list : List UInt8) (rest : List Char) :
    bytes (list.flatMap escapeByte ++ rest) = list ++ bytes rest := by
  induction list with
  | nil => rfl
  | cons byte list ih =>
    rw [List.flatMap_cons, List.append_assoc, bytes_escapeByte, ih, List.cons_append]

/-- A character that stands for itself is one byte of its own text. -/
theorem bytes_cons {c : Char} (h : c ≠ '%') (rest : List Char) :
    bytes (c :: rest) = Text.Utf8.encodeChar c ++ bytes rest := by
  rw [bytes.eq_3]
  rintro high low rest' hc
  exact absurd hc h

theorem bytes_encodeChar (c : Char) (rest : List Char) :
    bytes (encodeChar c ++ rest) = Text.Utf8.encodeChar c ++ bytes rest := by
  rw [encodeChar]
  split
  · rename_i hkept
    refine bytes_cons (fun hc => ?_) rest
    rw [hc] at hkept
    exact absurd hkept.2 (by decide)
  · exact bytes_flatMap_escapeByte _ rest

theorem encodeChar_ne_nil (c : Char) : encodeChar c ≠ [] := by
  rw [encodeChar]
  split
  · exact List.cons_ne_nil c []
  · obtain ⟨byte, more, hbytes, -⟩ := Text.Utf8.readScalar_encodeChar c []
    rw [hbytes]
    exact List.cons_ne_nil _ _

/-! ## Whole texts -/

/-- Writing a text as a segment and reading it back gives the text. -/
theorem decodeChars_encodeChars (text : List Char) : decodeChars (encodeChars text) = text := by
  have hbytes : bytes (encodeChars text) = Text.Utf8.encode text := by
    induction text with
    | nil => rfl
    | cons c text ih =>
      rw [encodeChars, List.flatMap_cons, bytes_encodeChar]
      exact congrArg _ ih
  rw [decodeChars, hbytes, Text.Utf8.decodeLossy_encode]

/-- A code holds percent signs and characters that stand for themselves, among them all digits. -/
theorem kept_of_mem_encodeChars {text : List Char} {c : Char} (h : c ∈ encodeChars text) :
    (c.toNat < 0x80 ∧ isReserved c = false) ∨ c = '%' := by
  obtain ⟨source, -, hmem⟩ := List.mem_flatMap.mp h
  rw [encodeChar] at hmem
  split at hmem
  · rename_i hkept
    rw [List.mem_singleton.mp hmem]
    exact .inl hkept
  · obtain ⟨byte, -, hmem⟩ := List.mem_flatMap.mp hmem
    have hbyte := byte.toNat_lt
    rcases List.mem_cons.mp hmem with rfl | hmem
    · exact .inr rfl
    · rcases List.mem_cons.mp hmem with rfl | hmem
      · exact .inl (hexDigit_kept _ (by omega))
      · rw [List.mem_singleton.mp hmem]
        exact .inl (hexDigit_kept _ (by omega))

/-- A character of ASCII that is not reserved can be seen, and separates nothing. -/
theorem visible_of_kept {c : Char} (h : c.toNat < 0x80 ∧ isReserved c = false) :
    0x20 < c.toNat ∧ c.toNat < 0x7F ∧ c ≠ '/' ∧ c ≠ '?' ∧ c ≠ '#' := by
  obtain ⟨hsmall, hfree⟩ := h
  simp only [isReserved, Bool.or_eq_false_iff, decide_eq_false_iff_not, List.contains_eq_mem,
    List.mem_cons, not_or] at hfree
  obtain ⟨⟨hcontrol, hdelete⟩, hspace, -, hhash, -, hslash, -, -, hquestion, -⟩ := hfree
  have hspace : c.toNat ≠ 0x20 := fun h => hspace (Char.toNat_inj.mp h)
  exact ⟨by omega, by omega, hslash, hquestion, hhash⟩

theorem visible_of_mem_encodeChars {text : List Char} {c : Char} (h : c ∈ encodeChars text) :
    0x20 < c.toNat ∧ c.toNat < 0x7F ∧ c ≠ '/' ∧ c ≠ '?' ∧ c ≠ '#' := by
  rcases kept_of_mem_encodeChars h with hkept | rfl
  · exact visible_of_kept hkept
  · decide

/-- The code of a text stays within its segment. -/
theorem slash_not_mem_encodeChars (text : List Char) : '/' ∉ encodeChars text := by
  intro hmem
  exact (visible_of_mem_encodeChars hmem).2.2.1 rfl

theorem encodeChars_eq_nil {text : List Char} : encodeChars text = [] ↔ text = [] := by
  constructor
  · rcases text with _ | ⟨c, text⟩
    · exact fun _ => rfl
    · intro h
      rw [encodeChars, List.flatMap_cons, List.append_eq_nil_iff] at h
      exact absurd h.1 (encodeChar_ne_nil c)
  · rintro rfl
    rfl

/-! ## The form of a code -/

/-- A digit of a hexadecimal number as codes write it. -/
def isCapitalHex (c : Char) : Bool := c.isDigit || ('A' ≤ c && c ≤ 'F')

/-- A text in the form of a code: characters that stand for themselves, and escapes of a percent
sign and two capital digits. -/
inductive Escaped : List Char → Prop
  | nil : Escaped []
  | kept {c : Char} {rest : List Char} (hkept : c.toNat < 0x80 ∧ isReserved c = false)
      (hrest : Escaped rest) : Escaped (c :: rest)
  | escape {high low : Char} {rest : List Char} (hhigh : isCapitalHex high = true)
      (hlow : isCapitalHex low = true) (hrest : Escaped rest) : Escaped ('%' :: high :: low :: rest)

theorem isCapitalHex_hexDigit : ∀ value < 16, isCapitalHex (hexDigit value) = true := by decide

theorem Escaped.append {first second : List Char} (hfirst : Escaped first)
    (hsecond : Escaped second) : Escaped (first ++ second) := by
  induction hfirst with
  | nil => exact hsecond
  | kept hkept _ ih => exact .kept hkept ih
  | escape hhigh hlow _ ih => exact .escape hhigh hlow ih

theorem Escaped.flatMap {β : Type} {list : List β} {code : β → List Char}
    (h : ∀ item, Escaped (code item)) : Escaped (list.flatMap code) := by
  induction list with
  | nil => exact .nil
  | cons item list ih =>
    rw [List.flatMap_cons]
    exact (h item).append ih

theorem escaped_escapeByte (byte : UInt8) : Escaped (escapeByte byte) := by
  have hbyte := byte.toNat_lt
  exact .escape (isCapitalHex_hexDigit _ (by omega)) (isCapitalHex_hexDigit _ (by omega)) .nil

theorem escaped_encodeChar (c : Char) : Escaped (encodeChar c) := by
  rw [encodeChar]
  split
  · rename_i hkept
    exact .kept hkept .nil
  · exact .flatMap escaped_escapeByte

/-- What is written has the form of a code. -/
theorem escaped_encodeChars (text : List Char) : Escaped (encodeChars text) :=
  .flatMap escaped_encodeChar

/-- A percent sign begins an escape: it is none of the characters that stand for themselves, and no
digit of another escape. -/
theorem Escaped.digits_of_sign {code before after : List Char} (h : Escaped code)
    (hsplit : code = before ++ '%' :: after) :
    ∃ high low rest, after = high :: low :: rest ∧ isCapitalHex high = true ∧
      isCapitalHex low = true := by
  have hsign : isCapitalHex '%' = false := by decide
  -- In each case the sign is the first character, or a digit, or stands in the rest of the code.
  induction h generalizing before with
  | nil => simp at hsplit
  | @kept c rest hkept _ ih =>
    rcases List.cons_eq_append_iff.mp hsplit with ⟨-, hcons⟩ | ⟨before, -, hrest⟩
    · obtain ⟨rfl, -⟩ := List.cons.inj hcons
      exact absurd hkept.2 (by decide)
    · exact ih hrest
  | @escape high low rest hhigh hlow _ ih =>
    rcases List.cons_eq_append_iff.mp hsplit with ⟨-, hcons⟩ | ⟨before, -, hdigits⟩
    · obtain ⟨-, rfl⟩ := List.cons.inj hcons
      exact ⟨high, low, rest, rfl, hhigh, hlow⟩
    rcases List.cons_eq_append_iff.mp hdigits with ⟨-, hcons⟩ | ⟨before, -, hlast⟩
    · obtain ⟨rfl, -⟩ := List.cons.inj hcons
      exact absurd hhigh (by simp [hsign])
    rcases List.cons_eq_append_iff.mp hlast with ⟨-, hcons⟩ | ⟨before, -, hrest⟩
    · obtain ⟨rfl, -⟩ := List.cons.inj hcons
      exact absurd hlow (by simp [hsign])
    · exact ih hrest

/-! ## Texts as strings -/

theorem decode_encode (text : String) : decode (encode text) = text := by
  rw [decode, encode, String.toList_ofList, decodeChars_encodeChars, String.ofList_toList]

theorem encode_append (first second : String) :
    encode (first ++ second) = encode first ++ encode second := by
  rw [encode, encode, encode, String.toList_append, ← String.ofList_append, encodeChars,
    List.flatMap_append]
  rfl

/-- A text is read back from its code, whatever the text holds. A code is visible ASCII without a
slash, a question mark or a hash, every percent sign in it begins an escape of two capital digits,
and a text is a code when writing what it is read as gives it again. Codes are put together as the
texts are. -/
theorem lossless_encode :
    (∀ text, decode (encode text) = text) ∧
    (∀ text, ∀ c ∈ (encode text).toList,
      0x20 < c.toNat ∧ c.toNat < 0x7F ∧ c ≠ '/' ∧ c ≠ '?' ∧ c ≠ '#') ∧
    (∀ text before after, (encode text).toList = before ++ '%' :: after →
      ∃ high low rest, after = high :: low :: rest ∧ isCapitalHex high = true ∧
        isCapitalHex low = true) ∧
    (∀ code, encode (decode code) = code ↔ ∃ text, code = encode text) ∧
    ∀ first second, encode (first ++ second) = encode first ++ encode second := by
  have hcode : ∀ text, (encode text).toList = encodeChars text.toList := fun text =>
    String.toList_ofList
  refine ⟨decode_encode, fun text c hmem => ?_, fun text before after hsplit => ?_, fun code => ?_,
    encode_append⟩
  · exact visible_of_mem_encodeChars (hcode text ▸ hmem)
  · exact (escaped_encodeChars text.toList).digits_of_sign ((hcode text).symm.trans hsplit)
  · constructor
    · intro hback
      exact ⟨decode code, hback.symm⟩
    · rintro ⟨text, rfl⟩
      rw [decode_encode]

/-- A text that looks like a code is no exception. -/
example : encode "50% №/%2F" = "50%25%20%E2%84%96%2F%252F" := by cbv

end Switchyard.Percent
