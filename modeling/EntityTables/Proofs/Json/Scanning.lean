import EntityTables.Json.Value
import EntityTables.Proofs.Json.Grammar

/-!
# Strings and numbers as they are written

The strings and numbers of JSON values are written as the grammar of tokens has it, and they have
the text and the digits that were written.

* `Literal.written_stringText`: the string as which a text is written;
* `Literal.text_ofText`: this string has the text that was written;
* `Numeral.written_numberText`: the number as which a whole number is written.
-/

namespace EntityTables.Json

/-! ## Strings -/

/-- The piece of a string as which a character is written. -/
def Piece.ofChar (c : Char) : Piece :=
  if c.toNat < 0x20 ∧ c ∉ ['\x08', '\x0c', '\n', '\r', '\t'] then .unit c.toNat else .char c

/-- The string as which a text is written. -/
def Literal.ofText (text : String) : Literal :=
  ⟨text.toList.map Piece.ofChar, none⟩

/-- A control character is written as its code in hexadecimal digits. -/
theorem hexUnit?_control {code : Nat} (hcode : code < 0x20) :
    hexUnit? '0' '0' (Nat.digitChar (code / 16)) (Nat.digitChar (code % 16)) = some code := by
  have hall : ∀ code < 0x20,
      hexUnit? '0' '0' (Nat.digitChar (code / 16)) (Nat.digitChar (code % 16)) = some code := by
    decide
  exact hall code hcode

theorem Piece.written_escapedChar (c : Char) : (ofChar c).Written (escapedChar c) := by
  unfold escapedChar
  split
  -- the seven characters that have a short escape
  iterate 7 exact .short rfl
  rename_i hquote hbackslash hbackspace hformFeed hnewline hreturn htab
  -- of the others the control characters are written as units, and the rest as themselves
  by_cases hcontrol : c.toNat < 0x20
  · have hlong : c ∉ ['\x08', '\x0c', '\n', '\r', '\t'] := by
      simp only [List.mem_cons, List.not_mem_nil, or_false, not_or]
      exact ⟨hbackspace, hformFeed, hnewline, hreturn, htab⟩
    rw [if_pos hcontrol, ofChar, if_pos ⟨hcontrol, hlong⟩]
    exact .unit (hexUnit?_control hcontrol)
  · rw [if_neg hcontrol, ofChar, if_neg (fun hunit => hcontrol hunit.1)]
    exact .plain hquote hbackslash hcontrol

/-- A text is written as a string, character by character. -/
theorem Literal.written_stringText (text : String) : (ofText text).Written (stringText text) where
  fault_eq := rfl
  pieces := by
    refine ⟨text.toList.map escapedChar, ?_, ?_⟩
    · rw [ofText, List.forall₂_map_left_iff, List.forall₂_map_right_iff, List.forall₂_same]
      intro c _
      exact Piece.written_escapedChar c
    · rw [stringText, List.flatMap_def]

/-- The pieces of written characters are these characters again. -/
theorem Literal.charsOf_ofChar (text : List Char) :
    charsOf none (text.map Piece.ofChar) = .ok text := by
  induction text with
  | nil => rfl
  | cons c text ih =>
      rw [List.map_cons, Piece.ofChar]
      split
      · rename_i hcontrol
        have hlow : c.toNat < 0xD800 ∨ 0xDFFF < c.toNat := by omega
        unfold charsOf
        simp only [if_pos hlow, ih, Char.ofNat_toNat]
        rfl
      · rw [charsOf, ih]
        rfl

/-- A written string has the text that was written. -/
@[simp] theorem Literal.text_ofText (text : String) : (Literal.ofText text).text = .ok text := by
  rw [Literal.text, ofText, charsOf_ofChar]
  exact congrArg Except.ok String.ofList_toList

/-! ## Numbers -/

/-- The number as which a whole number is written. -/
def Numeral.ofInt (value : Int) : Numeral where
  negative := value < 0
  whole := Nat.toDigits 10 value.natAbs

/-- Only zero is written with a zero in front. -/
theorem toDigits_head_ne_zero {n : Nat} (hpos : 0 < n) :
    (Nat.toDigits 10 n).head? ≠ some '0' := by
  induction n using Nat.strongRecOn with
  | ind n ih =>
      rw [Nat.toDigits_eq_if (by decide)]
      split
      · rename_i hlt
        have hdigits : ∀ digit < 10, 0 < digit → Nat.digitChar digit ≠ '0' := by decide
        simpa using hdigits n hlt hpos
      · rename_i hge
        have hhead := ih (n / 10) (by omega) (by omega)
        obtain ⟨digit, digits, hdigits⟩ := List.exists_cons_of_ne_nil
          (Nat.toDigits_ne_nil : Nat.toDigits 10 (n / 10) ≠ [])
        rw [hdigits] at hhead ⊢
        exact hhead

theorem Numeral.writtenUnsigned_ofInt (value : Int) :
    (ofInt value).WrittenUnsigned (Nat.toDigits 10 value.natAbs) where
  whole := by
    refine ⟨Nat.toDigits_ne_nil, ?_⟩
    intro c hc
    exact Nat.isDigit_of_mem_toDigits (by decide) (by decide) hc
  whole_eq hhead := by
    rcases Nat.eq_zero_or_pos value.natAbs with hzero | hpos
    · rw [ofInt, hzero]
      rfl
    · exact absurd hhead (toDigits_head_ne_zero hpos)
  fraction _ hc := absurd hc List.not_mem_nil
  text_eq := ⟨[], .none, by simp [ofInt, fractionText]⟩

/-- A whole number is written by its digits, behind its sign. -/
theorem Numeral.written_numberText (value : Int) : (ofInt value).Written (numberText value) := by
  refine ⟨_, writtenUnsigned_ofInt value, ?_⟩
  cases value with
  | ofNat n => simp [ofInt, numberText]
  | negSucc n => simp [ofInt, numberText]

end EntityTables.Json
