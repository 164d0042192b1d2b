import ChatReply.Code.Literal
import ChatReply.Text.Blank

/-!
# Classes of characters

How the classes of characters lie to each other: a blank stands in no word, what stands in an
identifier stands in a word, and an identifier starts with no digit.
-/

namespace ChatReply

/-- A second class that treats all points of the first one alike treats each of its characters
so. -/
theorem covers_eq_of_covers {ranges others : List (Nat × Nat)} {value : Bool}
    (alike : ∀ range ∈ ranges, ∀ point ∈ List.range' range.1 (range.2 + 1 - range.1),
      covers others point = value)
    {point : Nat} (covered : covers ranges point = true) : covers others point = value := by
  obtain ⟨range, found⟩ := Option.isSome_iff_exists.mp covered
  obtain ⟨range_mem, first_le, le_last⟩ := mem_of_rangeOf? found
  exact alike range range_mem point (List.mem_range'_1.mpr ⟨first_le, by omega⟩)

theorem isWord_eq_false_of_isBlank {c : Char} (blank : isBlank c = true) : isWord c = false := by
  have letter : isLetter c = false := covers_eq_of_covers (by decide +kernel) blank
  have digit : isDigit c = false := covers_eq_of_covers (by decide +kernel) blank
  have numeric : isNumeric c = false := covers_eq_of_covers (by decide +kernel) blank
  have mark_ne : c ≠ '_' := by
    rintro rfl
    revert blank
    decide
  simp [isWord, letter, digit, numeric, mark_ne]

theorem isBlank_eq_false_of_isWord {c : Char} (word : isWord c = true) : isBlank c = false := by
  rw [Bool.eq_false_iff]
  intro blank
  rw [isWord_eq_false_of_isBlank blank] at word
  exact absurd word (by decide)

/-! ## Identifiers -/

namespace Code

/-- The letters of ASCII. -/
def asciiLetterRanges : List (Nat × Nat) :=
  [(0x41, 0x5A), (0x61, 0x7A)]

theorem covers_asciiLetterRanges {c : Char} (letter : c.isAlpha = true) :
    covers asciiLetterRanges c.toNat = true := by
  have bounds : (65 ≤ c.toNat ∧ c.toNat ≤ 90) ∨ (97 ≤ c.toNat ∧ c.toNat ≤ 122) := by
    rcases Bool.or_eq_true_iff.mp letter with upper | lower
    · exact .inl (of_decide_eq_true upper)
    · obtain ⟨first_le, le_last⟩ := Bool.and_eq_true_iff.mp lower
      exact .inr ⟨of_decide_eq_true first_le, of_decide_eq_true le_last⟩
  simp only [covers, asciiLetterRanges, rangeOf?]
  grind

theorem isLetter_of_isAlpha {c : Char} (letter : c.isAlpha = true) : isLetter c = true :=
  covers_eq_of_covers (by decide +kernel) (covers_asciiLetterRanges letter)

theorem isDigit_of_isDigit {c : Char} (digit : c.isDigit = true) : isDigit c = true := by
  obtain ⟨first_le, le_last⟩ := Bool.and_eq_true_iff.mp digit
  have bounds : 48 ≤ c.toNat ∧ c.toNat ≤ 57 :=
    ⟨of_decide_eq_true first_le, of_decide_eq_true le_last⟩
  simp only [isDigit, covers, digitRanges, rangeOf?]
  grind

/-- What stands in an identifier stands in a word. -/
theorem isWord_of_isNameChar {c : Char} (inside : isNameChar c = true) : isWord c = true := by
  simp only [isNameChar, Char.isAlphanum, Bool.or_eq_true, beq_iff_eq] at inside
  rcases inside with (letter | digit) | rfl
  · simp [isWord, isLetter_of_isAlpha letter]
  · exact isWord_of_isDigit (isDigit_of_isDigit digit)
  · decide

theorem isNameChar_of_isNameStart {c : Char} (first : isNameStart c = true) :
    isNameChar c = true := by
  simp only [isNameStart, isNameChar, Char.isAlphanum, Bool.or_eq_true] at first ⊢
  rcases first with letter | mark
  · exact .inl (.inl letter)
  · exact .inr mark

/-- No identifier starts with a digit of any script. -/
theorem isDigit_eq_false_of_isNameStart {c : Char} (first : isNameStart c = true) :
    isDigit c = false := by
  simp only [isNameStart, Bool.or_eq_true, beq_iff_eq] at first
  rcases first with letter | rfl
  · exact covers_eq_of_covers (by decide +kernel) (covers_asciiLetterRanges letter)
  · decide

end Code
end ChatReply
