import ChatReply.Text.Utf8
import ChatReply.Toml.Read
import Mathlib.Data.List.Basic

/-!
# Long integers in configuration files

A row of digits is read as one integer, whatever its length, so one with too many digits makes the
reader refuse its whole file.
-/

namespace ChatReply

namespace Utf8

/-- The bytes of a text of ASCII characters. -/
def asciiBytes (text : Text) : List UInt8 :=
  text.map fun c => c.toNat.toUInt8

theorem decodeFrom_asciiBytes (position : Nat) {text : Text} (ascii : ∀ c ∈ text, c.toNat ≤ 0x7F) :
    decodeFrom position (asciiBytes text) = .ok text := by
  induction text generalizing position with
  | nil => simp [asciiBytes, decodeFrom]
  | cons c rest ih =>
      obtain ⟨first, later⟩ := List.forall_mem_cons.mp ascii
      have byte_toNat : c.toNat.toUInt8.toNat = c.toNat := by
        rw [Nat.toUInt8_eq, UInt8.toNat_ofNat']
        omega
      have single : sequenceOf? c.toNat.toUInt8 = some (c.toNat, []) := by
        rw [sequenceOf?, if_pos (UInt8.le_iff_toNat_le.mpr (byte_toNat.symm ▸ first)), byte_toNat]
      have rest_decoded := ih (position + 1) later
      rw [asciiBytes] at rest_decoded ⊢
      rw [List.map_cons, decodeFrom, single]
      simp only [follow, List.length_nil, Nat.add_zero, List.drop_zero, rest_decoded, Except.map,
        Char.ofNat_toNat]

theorem decode_asciiBytes {text : Text} (ascii : text.all (·.toNat ≤ 0x7F) = true) :
    decode (asciiBytes text) = .ok text :=
  decodeFrom_asciiBytes 0 (by simpa using ascii)

end Utf8

namespace Toml

theorem ne_of_isDigit {c other : Char} (digit : c.isDigit = true)
    (no_digit : other.isDigit = false) : c ≠ other := by
  rintro rfl
  rw [digit] at no_digit
  cases no_digit

section

variable {text : Text} (digits : ∀ c ∈ text, c.isDigit = true)

include digits

theorem head?_ne_of_digits {c : Char} (no_digit : c.isDigit = false) : text.head? ≠ some c :=
  fun head => ne_of_isDigit (digits c (List.mem_of_head? head)) no_digit rfl

theorem ungrouped_of_digits : ungrouped text = text :=
  List.filter_eq_self.mpr fun c c_mem => by
    simpa using ne_of_isDigit (digits c c_mem) (by decide)

theorem groupedLength_of_digits : groupedLength Char.isDigit text = text.length := by
  induction text with
  | nil => rfl
  | cons c rest ih =>
      obtain ⟨digit, later⟩ := List.forall_mem_cons.mp digits
      cases rest with
      | nil => simp [groupedLength, digit]
      | cons next rest =>
          have next_ne : next ≠ '_' :=
            ne_of_isDigit (List.forall_mem_cons.mp later).1 (by decide)
          rw [groupedLength, if_pos digit, ih later]
          · rfl
          · exact List.cons_ne_nil next rest
          · rintro _ ⟨⟩
            exact next_ne rfl

theorem splitSign_of_digits : splitSign text = (false, text) := by
  unfold splitSign
  split
  · exact absurd rfl (head?_ne_of_digits digits (c := '-') (by decide))
  · exact absurd rfl (head?_ne_of_digits digits (c := '+') (by decide))
  · rfl

theorem afterChar?_of_digits {c : Char} (no_digit : c.isDigit = false) :
    afterChar? c text = none := by
  cases text with
  | nil => rfl
  | cons head rest => exact if_neg (ne_of_isDigit (digits head List.mem_cons_self) no_digit)

/-- What follows a number of some digits is digits, so no mark stands there. -/
theorem afterChar?_of_fixedDigits? {c : Char} (no_digit : c.isDigit = false)
    {width low high : Nat} {found : Nat × Text}
    (read : fixedDigits? width low high text = some found) : afterChar? c found.2 = none := by
  simp only [fixedDigits?, Option.ite_none_right_eq_some, Option.some.injEq] at read
  obtain ⟨-, rfl⟩ := read
  exact afterChar?_of_digits (fun c c_mem => digits c (List.mem_of_mem_drop c_mem)) no_digit

theorem take_ne_of_digits (count : Nat) (word : Text) (letter : word.any (!·.isDigit) = true) :
    text.take count ≠ word := by
  rintro rfl
  obtain ⟨c, c_mem, no_digit⟩ := List.any_eq_true.mp letter
  exact ne_of_isDigit (digits c (List.mem_of_mem_take c_mem)) (by simpa using no_digit) rfl

/-- Digits alone are no moment, which has other characters between its parts. -/
theorem moment?_of_digits : moment? text = none := by
  have no_date : date? text = none := by
    rw [date?]
    cases read : fixedDigits? 4 0 9999 text with
    | none => rfl
    | some found =>
        have no_mark := afterChar?_of_fixedDigits? digits (c := '-') (by decide) read
        simp [no_mark]
  have no_time : dayTime? text = none := by
    rw [dayTime?]
    cases read : fixedDigits? 2 0 23 text with
    | none => rfl
    | some found =>
        have no_mark := afterChar?_of_fixedDigits? digits (c := ':') (by decide) read
        simp [no_mark]
  simp only [moment?, no_date, no_time, Option.map_none]

theorem decimalNumber?_of_digits (nonzero : text.head? ≠ some '0') (text_ne : text ≠ []) :
    decimalNumber? text =
      some ((Numeral.read text).map fun value : Nat => Value.integer value, []) := by
  have whole_eq : wholeLength text = text.length := by
    unfold wholeLength
    split
    · exact absurd rfl nonzero
    · exact groupedLength_of_digits digits
  simp only [decimalNumber?, splitSign_of_digits digits, whole_eq, List.take_length, if_neg text_ne,
    List.drop_length, decimalsLength, List.take_nil, List.length_nil, List.drop_nil, exponent?,
    if_true, ungrouped_of_digits digits, Bool.false_eq_true, if_false]
  cases Numeral.read text <;> rfl

omit digits in
theorem basedInteger?_of_nonzero (nonzero : text.head? ≠ some '0') : basedInteger? text = none := by
  unfold basedInteger?
  split
  · exact absurd rfl nonzero
  · rfl

theorem skipSpaces_of_digits : skipSpaces text = text := by
  cases text with
  | nil => rfl
  | cons head rest =>
      have digit := digits head List.mem_cons_self
      have no_space : isSpace head = false := by
        simp [isSpace, ne_of_isDigit digit (by decide : ' '.isDigit = false),
          ne_of_isDigit digit (by decide : '\t'.isDigit = false)]
      exact List.dropWhile_cons_of_neg (by simp [no_space])

/-- A row of digits is read as a decimal integer. -/
theorem readScalar_of_digits (nonzero : text.head? ≠ some '0') (text_ne : text ≠ []) :
    readScalar text =
      ((Numeral.read text).map fun value : Nat => (Value.integer value, ([] : Text))).mapError
        .numeral := by
  have no_true := take_ne_of_digits digits 4 ['t', 'r', 'u', 'e'] (by decide)
  have no_false := take_ne_of_digits digits 5 ['f', 'a', 'l', 's', 'e'] (by decide)
  simp only [readScalar, if_neg (head?_ne_of_digits digits (c := doubleQuote) (by decide)),
    if_neg (head?_ne_of_digits digits (c := quote) (by decide)), if_neg no_true, if_neg no_false,
    moment?_of_digits digits, basedInteger?_of_nonzero nonzero,
    decimalNumber?_of_digits digits nonzero text_ne]
  cases Numeral.read text <;> rfl

/-- A row of too many digits is refused as a value. -/
theorem readValue_of_digits (nonzero : text.head? ≠ some '0')
    (long : Numeral.digitLimit < text.length) (room fuel : Nat) :
    readValue room (fuel + 1) text = .error (.numeral ⟨text.length⟩) := by
  have text_ne : text ≠ [] := by
    rintro rfl
    cases long
  have refused : readScalar text = .error (.numeral ⟨text.length⟩) := by
    rw [readScalar_of_digits digits nonzero text_ne, Numeral.read, if_neg (Nat.not_le.mpr long)]
    rfl
  rw [readValue, refused]
  · rintro rest rfl
    exact head?_ne_of_digits digits (c := '[') (by decide) rfl
  · rintro rest rfl
    exact head?_ne_of_digits digits (c := '\x7b') (by decide) rfl

end

theorem unifyPairs_of_no_return {text : Text} (no_return : '\r' ∉ text) :
    unifyPairs text = text := by
  induction text using unifyPairs.induct with
  | case1 => rfl
  | case2 rest ih => simp at no_return
  | case3 c rest other ih =>
      rw [unifyPairs, ih fun later => no_return (List.mem_cons_of_mem c later)]
      exact other

/-- An integer with too many digits makes the reader refuse its file. -/
theorem read_of_longNumeral {digits : Text} (all : ∀ c ∈ digits, c.isDigit = true)
    (nonzero : digits.head? ≠ some '0') (long : Numeral.digitLimit < digits.length) :
    read ('n' :: '=' :: digits) = .error (.numeral ⟨digits.length⟩) := by
  have no_return : '\r' ∉ 'n' :: '=' :: digits := by
    simpa using fun return_mem => ne_of_isDigit (all _ return_mem) (by decide) rfl
  have pair : ∀ fuel, readPair nestingRoom (fuel + 2) ('n' :: '=' :: digits) =
      .error (.numeral ⟨digits.length⟩) := by
    intro fuel
    have key : readKey (('n' :: '=' :: digits).length + 1) ('n' :: '=' :: digits) =
        .ok (["n"], '=' :: digits) := rfl
    rw [readPair, key]
    simp only [bind, Except.bind, skipSpaces_of_digits all, readValue_of_digits all nonzero long]
  have statement : readStatement {} ('n' :: '=' :: digits) =
      .error (.numeral ⟨digits.length⟩) := by
    have assignment : readStatement {} ('n' :: '=' :: digits) =
        readAssignment {} ('n' :: '=' :: digits) := rfl
    rw [assignment, readAssignment, pair]
    rfl
  have unspaced : skipSpaces ('n' :: '=' :: digits) = 'n' :: '=' :: digits := rfl
  rw [read, unifyPairs_of_no_return no_return, readStatements, unspaced, statement]
  rfl

end Toml
end ChatReply
