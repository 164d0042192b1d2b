import ChatReply.Proofs.Stream
import ChatReply.Text.Utf8
import Mathlib.Data.List.Basic

/-!
# Encoded texts

Decoding is the inverse of encoding: bytes are decoded to a text if and only if they are the bytes
of that text. So no bytes are dropped or changed on the way, line breaks and a byte order mark
included, and whatever is refused encodes no text at all. Both sides are compared with one table of
the sequences of bytes that stand for a code point.
-/

namespace ChatReply
namespace Utf8

/-- The bytes of a text. -/
def encode (text : Text) : List UInt8 :=
  text.flatMap String.utf8EncodeChar

/-! ## Characters -/

/-- The continuation byte of six bits. -/
def continuation (bits : Nat) : UInt8 :=
  UInt8.ofNat (bits + 0x80)

theorem toNat_continuation {bits : Nat} (bits_lt : bits < 0x40) :
    (continuation bits).toNat = bits + 0x80 := by
  rw [continuation, UInt8.toNat_ofNat_of_lt']
  simp only [UInt8.size]
  omega

theorem ofNat_sub_add {base : Nat} {byte : UInt8} (base_le : base ≤ byte.toNat) :
    UInt8.ofNat (byte.toNat - base + base) = byte := by
  rw [Nat.sub_add_cancel base_le, UInt8.ofNat_toNat]

theorem val_ofNat {point : Nat} (valid : point.isValidChar) :
    (Char.ofNat point).val.toNat = point := by
  rw [Char.ofNat, dif_pos valid]
  rfl

/-- Surrogates are no characters. -/
theorem isValidChar_of_lt {point : Nat} (no_surrogate : point < 0xD800 ∨ 0xDFFF < point)
    (point_lt : point < 0x110000) : point.isValidChar := by
  simp only [Nat.isValidChar]
  omega

/-- A code point and the bytes whose bits it is put together from. The bounds leave out what fewer
bytes would do for, surrogates, and what lies behind the last code point. -/
inductive Sequence : Nat → List UInt8 → Prop where
  | one {point : Nat} (point_lt : point < 0x80) : Sequence point [UInt8.ofNat point]
  | two {value low : Nat} (value_ge : 2 ≤ value) (value_lt : value < 0x20) (low_lt : low < 0x40) :
      Sequence (value * 0x40 + low) [UInt8.ofNat (value + 0xC0), continuation low]
  | three {value middle low : Nat} (value_lt : value < 0x10) (middle_lt : middle < 0x40)
      (low_lt : low < 0x40) (no_shorter : value = 0 → 0x20 ≤ middle)
      (no_surrogate : value = 0xD → middle < 0x20) :
      Sequence ((value * 0x40 + middle) * 0x40 + low)
        [UInt8.ofNat (value + 0xE0), continuation middle, continuation low]
  | four {value high middle low : Nat} (value_lt : value < 5) (high_lt : high < 0x40)
      (middle_lt : middle < 0x40) (low_lt : low < 0x40) (no_shorter : value = 0 → 0x10 ≤ high)
      (within : value = 4 → high < 0x10) :
      Sequence (((value * 0x40 + high) * 0x40 + middle) * 0x40 + low)
        [UInt8.ofNat (value + 0xF0), continuation high, continuation middle, continuation low]

/-- Every code point of a character is put together from the bits of some bytes. -/
theorem exists_sequence {point : Nat} (valid : point.isValidChar) :
    ∃ bytes, Sequence point bytes := by
  simp only [Nat.isValidChar] at valid
  have low_eq : point / 0x40 * 0x40 + point % 0x40 = point := by omega
  have middle_eq : point / 0x1000 * 0x40 + point / 0x40 % 0x40 = point / 0x40 := by omega
  have high_eq : point / 0x40000 * 0x40 + point / 0x1000 % 0x40 = point / 0x1000 := by omega
  by_cases one : point < 0x80
  · exact ⟨_, .one one⟩
  by_cases two : point < 0x800
  · rw [← low_eq]
    refine ⟨_, .two ?_ ?_ ?_⟩ <;> omega
  by_cases three : point < 0x10000
  · rw [← low_eq, ← middle_eq]
    refine ⟨_, .three ?_ ?_ ?_ ?_ ?_⟩ <;> omega
  · rw [← low_eq, ← middle_eq, ← high_eq]
    refine ⟨_, .four ?_ ?_ ?_ ?_ ?_ ?_⟩ <;> omega

/-- A character is encoded in the bytes that its code point is put together from. -/
theorem utf8EncodeChar_of_sequence {point : Nat} {bytes : List UInt8}
    (sequence : Sequence point bytes) : String.utf8EncodeChar (Char.ofNat point) = bytes := by
  have valid : point.isValidChar := by
    cases sequence <;> exact isValidChar_of_lt (by omega) (by omega)
  simp only [String.utf8EncodeChar, val_ofNat valid]
  cases sequence with
  | one point_lt => rw [if_pos (by omega)]
  | @two value low value_ge value_lt low_lt =>
      have value_eq : (value * 0x40 + low) / 0x40 % 0x20 = value := by omega
      have low_eq : (value * 0x40 + low) % 0x40 = low := by omega
      rw [if_neg (by omega), if_pos (by omega), value_eq, low_eq, continuation]
  | @three value middle low value_lt middle_lt low_lt no_shorter no_surrogate =>
      generalize point_eq : (value * 0x40 + middle) * 0x40 + low = point
      have value_eq : point / 0x1000 % 0x10 = value := by omega
      have middle_eq : point / 0x40 % 0x40 = middle := by omega
      have low_eq : point % 0x40 = low := by omega
      rw [if_neg (by omega), if_neg (by omega), if_pos (by omega), value_eq, middle_eq, low_eq,
        continuation, continuation]
  | @four value high middle low value_lt high_lt middle_lt low_lt no_shorter within =>
      generalize point_eq : ((value * 0x40 + high) * 0x40 + middle) * 0x40 + low = point
      have value_eq : point / 0x40000 % 0x08 = value := by omega
      have high_eq : point / 0x1000 % 0x40 = high := by omega
      have middle_eq : point / 0x40 % 0x40 = middle := by omega
      have low_eq : point % 0x40 = low := by omega
      rw [if_neg (by omega), if_neg (by omega), if_neg (by omega), value_eq, high_eq, middle_eq,
        low_eq, continuation, continuation, continuation]

/-! ## Lead bytes -/

/-- The lead byte of a sequence, the part of the code point that it holds, and the ranges of the
bytes behind it. The range of the first of them is cut where a shorter sequence would do, where
surrogates stand and where code points end. -/
inductive Leads : UInt8 → Nat → List (UInt8 × UInt8) → Prop where
  | one {value : Nat} (value_lt : value < 0x80) : Leads (UInt8.ofNat value) value []
  | two {value : Nat} (value_ge : 2 ≤ value) (value_lt : value < 0x20) :
      Leads (UInt8.ofNat (value + 0xC0)) value [(0x80, 0xBF)]
  | three {value : Nat} (value_lt : value < 0x10) :
      Leads (UInt8.ofNat (value + 0xE0)) value
        [(if value = 0 then 0xA0 else 0x80, if value = 0xD then 0x9F else 0xBF), (0x80, 0xBF)]
  | four {value : Nat} (value_lt : value < 5) :
      Leads (UInt8.ofNat (value + 0xF0)) value
        [(if value = 0 then 0x90 else 0x80, if value = 4 then 0x8F else 0xBF), (0x80, 0xBF),
          (0x80, 0xBF)]

theorem sequenceOf?_of_leads {lead : UInt8} {value : Nat} {ranges : List (UInt8 × UInt8)}
    (leads : Leads lead value ranges) : sequenceOf? lead = some (value, ranges) := by
  cases leads with
  | one value_lt =>
      revert value
      decide
  | two value_ge value_lt =>
      revert value
      decide
  | three value_lt =>
      revert value
      decide
  | four value_lt =>
      revert value
      decide

theorem leads_of_sequenceOf? {lead : UInt8} {value : Nat} {ranges : List (UInt8 × UInt8)}
    (sequence : sequenceOf? lead = some (value, ranges)) : Leads lead value ranges := by
  revert sequence
  -- The rows with a cut range are those of a single lead byte each.
  fun_cases sequenceOf? lead <;> intro sequence
  case case9 => cases sequence
  all_goals
    obtain ⟨rfl, rfl⟩ := Prod.mk.inj (Option.some.inj sequence)
    simp only [UInt8.le_iff_toNat_le, ← UInt8.toNat_inj, UInt8.reduceToNat] at *
  case case1 small =>
    have leads := @Leads.one lead.toNat (by omega)
    rwa [UInt8.ofNat_toNat] at leads
  case case2 within =>
    have leads := @Leads.two (lead.toNat - 0xC0) (by omega) (by omega)
    rwa [ofNat_sub_add (by omega)] at leads
  case case3 is_lead =>
    obtain rfl : lead = 0xE0 := UInt8.toNat_inj.mp is_lead
    exact @Leads.three 0 (by omega)
  case case4 is_lead =>
    obtain rfl : lead = 0xED := UInt8.toNat_inj.mp is_lead
    exact @Leads.three 0xD (by omega)
  case case5 within =>
    have leads := @Leads.three (lead.toNat - 0xE0) (by omega)
    rwa [ofNat_sub_add (by omega), if_neg (by omega), if_neg (by omega)] at leads
  case case6 is_lead =>
    obtain rfl : lead = 0xF0 := UInt8.toNat_inj.mp is_lead
    exact @Leads.four 0 (by omega)
  case case7 within =>
    have leads := @Leads.four (lead.toNat - 0xF0) (by omega)
    rwa [ofNat_sub_add (by omega), if_neg (by omega), if_neg (by omega)] at leads
  case case8 is_lead =>
    obtain rfl : lead = 0xF4 := UInt8.toNat_inj.mp is_lead
    exact @Leads.four 4 (by omega)

/-- A byte in a range within the continuation bytes is followed with its bits. -/
theorem follow_cons_iff {value point : Nat} {first last : UInt8} {ranges : List (UInt8 × UInt8)}
    {bytes : List UInt8} (first_ge : 0x80 ≤ first.toNat) (last_lt : last.toNat < 0xC0) :
    follow value ((first, last) :: ranges) bytes = .ok point ↔
      ∃ bits rest, bytes = continuation bits :: rest ∧ first.toNat ≤ bits + 0x80 ∧
        bits + 0x80 ≤ last.toNat ∧ follow (value * 0x40 + bits) ranges rest = .ok point := by
  constructor
  · intro followed
    cases bytes with
    | nil => simp [follow] at followed
    | cons byte rest =>
        rw [follow] at followed
        split at followed
        · rename_i within
          simp only [UInt8.le_iff_toNat_le] at within
          refine ⟨byte.toNat - 0x80, rest, ?_, by omega, by omega, ?_⟩
          · rw [continuation, ofNat_sub_add (by omega)]
          · cases later : follow (value * 0x40 + (byte.toNat - 0x80)) ranges rest with
            | error error => simp [later, Except.mapError] at followed
            | ok reached => simpa [later, Except.mapError] using followed
        · simp at followed
  · rintro ⟨bits, rest, rfl, first_le, le_last, followed⟩
    have byte_eq := @toNat_continuation bits (by omega)
    rw [follow, if_pos (by simp only [UInt8.le_iff_toNat_le]; omega), byte_eq,
      Nat.add_sub_cancel, followed]
    rfl

/-- The bytes that lead to a code point are those that it is put together from. -/
theorem sequence_of_follow {lead : UInt8} {value point : Nat} {ranges : List (UInt8 × UInt8)}
    {rest : List UInt8} (leads : Leads lead value ranges)
    (followed : follow value ranges rest = .ok point) :
    ∃ followers, rest = followers ++ rest.drop ranges.length ∧
      Sequence point (lead :: followers) := by
  cases leads with
  | one value_lt =>
      obtain rfl := Except.ok.inj followed
      exact ⟨[], rfl, .one value_lt⟩
  | two value_ge value_lt =>
      obtain ⟨low, rest, rfl, first_le, le_last, ended⟩ :=
        (follow_cons_iff (by decide) (by decide)).mp followed
      obtain rfl := Except.ok.inj ended
      simp only [UInt8.reduceToNat] at le_last
      exact ⟨[_], rfl, .two value_ge value_lt (by omega)⟩
  | three value_lt =>
      obtain ⟨middle, rest, rfl, first_le, le_last, later⟩ :=
        (follow_cons_iff (by split <;> decide) (by split <;> decide)).mp followed
      obtain ⟨low, rest, rfl, low_ge, low_le, ended⟩ :=
        (follow_cons_iff (by decide) (by decide)).mp later
      obtain rfl := Except.ok.inj ended
      simp only [apply_ite UInt8.toNat, UInt8.reduceToNat] at first_le le_last low_le
      have middle_lt : middle < 0x40 := by split_ifs at le_last <;> omega
      have no_shorter : value = 0 → 0x20 ≤ middle := by split_ifs at first_le <;> omega
      have no_surrogate : value = 0xD → middle < 0x20 := by split_ifs at le_last <;> omega
      exact ⟨[_, _], rfl, .three value_lt middle_lt (by omega) no_shorter no_surrogate⟩
  | four value_lt =>
      obtain ⟨high, rest, rfl, first_le, le_last, followed⟩ :=
        (follow_cons_iff (by split <;> decide) (by split <;> decide)).mp followed
      obtain ⟨middle, rest, rfl, middle_ge, middle_le, later⟩ :=
        (follow_cons_iff (by decide) (by decide)).mp followed
      obtain ⟨low, rest, rfl, low_ge, low_le, ended⟩ :=
        (follow_cons_iff (by decide) (by decide)).mp later
      obtain rfl := Except.ok.inj ended
      simp only [apply_ite UInt8.toNat, UInt8.reduceToNat] at first_le le_last middle_le low_le
      have high_lt : high < 0x40 := by split_ifs at le_last <;> omega
      have no_shorter : value = 0 → 0x10 ≤ high := by split_ifs at first_le <;> omega
      have within : value = 4 → high < 0x10 := by split_ifs at le_last <;> omega
      exact ⟨[_, _, _], rfl,
        .four value_lt high_lt (by omega) (by omega) no_shorter within⟩

/-- A continuation byte in a range is followed with its bits. -/
theorem follow_continuation {value point bits : Nat} {first last : UInt8}
    {ranges : List (UInt8 × UInt8)} {rest : List UInt8} (bits_lt : bits < 0x40)
    (first_le : first.toNat ≤ bits + 0x80) (le_last : bits + 0x80 ≤ last.toNat)
    (followed : follow (value * 0x40 + bits) ranges rest = .ok point) :
    follow value ((first, last) :: ranges) (continuation bits :: rest) = .ok point := by
  have byte_eq := toNat_continuation bits_lt
  rw [follow, if_pos (by simp only [UInt8.le_iff_toNat_le]; omega), byte_eq,
    Nat.add_sub_cancel, followed]
  rfl

theorem follow_anyContinuation {value point bits : Nat} {ranges : List (UInt8 × UInt8)}
    {rest : List UInt8} (bits_lt : bits < 0x40)
    (followed : follow (value * 0x40 + bits) ranges rest = .ok point) :
    follow value ((0x80, 0xBF) :: ranges) (continuation bits :: rest) = .ok point := by
  refine follow_continuation bits_lt ?_ ?_ followed
  · simp only [UInt8.reduceToNat]
    omega
  · simp only [UInt8.reduceToNat]
    omega

/-- The bytes that a code point is put together from lead to it, whatever follows them. -/
theorem follow_of_sequence {point : Nat} {bytes : List UInt8} (sequence : Sequence point bytes) :
    ∃ lead value ranges followers, bytes = lead :: followers ∧
      followers.length = ranges.length ∧ Leads lead value ranges ∧
      ∀ rest, follow value ranges (followers ++ rest) = .ok point := by
  cases sequence with
  | one point_lt => exact ⟨_, _, _, _, rfl, rfl, .one point_lt, fun rest => rfl⟩
  | two value_ge value_lt low_lt =>
      refine ⟨_, _, _, _, rfl, rfl, .two value_ge value_lt, fun rest => ?_⟩
      exact follow_anyContinuation low_lt rfl
  | three value_lt middle_lt low_lt no_shorter no_surrogate =>
      refine ⟨_, _, _, _, rfl, rfl, .three value_lt, fun rest => ?_⟩
      refine follow_continuation middle_lt ?_ ?_ (follow_anyContinuation low_lt rfl)
      · simp only [apply_ite UInt8.toNat, UInt8.reduceToNat]
        split_ifs <;> omega
      · simp only [apply_ite UInt8.toNat, UInt8.reduceToNat]
        split_ifs <;> omega
  | four value_lt high_lt middle_lt low_lt no_shorter within =>
      refine ⟨_, _, _, _, rfl, rfl, .four value_lt, fun rest => ?_⟩
      refine follow_continuation high_lt ?_ ?_
        (follow_anyContinuation middle_lt (follow_anyContinuation low_lt rfl))
      · simp only [apply_ite UInt8.toNat, UInt8.reduceToNat]
        split_ifs <;> omega
      · simp only [apply_ite UInt8.toNat, UInt8.reduceToNat]
        split_ifs <;> omega

/-! ## Texts -/

/-- Bytes are decoded to the text that they encode, and to nothing if they encode none. -/
theorem decodeFrom_eq_ok_iff {position : Nat} {bytes : List UInt8} {text : Text} :
    decodeFrom position bytes = .ok text ↔ encode text = bytes := by
  constructor
  · -- Each step of the decoder takes off the bytes of one character.
    intro decoded
    fun_induction decodeFrom position bytes generalizing text with
    | case1 =>
        obtain rfl := Except.ok.inj decoded
        rfl
    | case2 => simp at decoded
    | case3 => simp at decoded
    | case4 position lead rest value ranges sequence point followed ih =>
        obtain ⟨later, later_eq, rfl⟩ := map_eq_ok_iff.mp decoded
        obtain ⟨followers, split, put⟩ :=
          sequence_of_follow (leads_of_sequenceOf? sequence) followed
        rw [encode, List.flatMap_cons, utf8EncodeChar_of_sequence put, ← encode,
          ih later_eq, List.cons_append, ← split]
  · -- The bytes of the first character lead to it, whatever the text behind it is.
    rintro rfl
    induction text generalizing position with
    | nil => rw [encode, List.flatMap_nil, decodeFrom]
    | cons c text ih =>
        obtain ⟨bytes, put⟩ := exists_sequence c.valid
        obtain ⟨lead, value, ranges, followers, rfl, length_eq, leads, followed⟩ :=
          follow_of_sequence put
        have point_eq : Char.ofNat c.val.toNat = c := Char.ofNat_toNat c
        have encoded := utf8EncodeChar_of_sequence put
        rw [point_eq] at encoded
        rw [encode, List.flatMap_cons, encoded, ← encode, List.cons_append, decodeFrom,
          sequenceOf?_of_leads leads]
        simp only [followed, List.drop_left' length_eq, ih, Except.map, point_eq]

theorem decode_eq_ok_iff {bytes : List UInt8} {text : Text} :
    decode bytes = .ok text ↔ encode text = bytes :=
  decodeFrom_eq_ok_iff

/-- Bytes that encode no text are refused. -/
theorem exists_decode_eq_error_iff {bytes : List UInt8} :
    (∃ error, decode bytes = .error error) ↔ ∀ text, encode text ≠ bytes := by
  simp only [Ne, ← decode_eq_ok_iff]
  cases decode bytes <;> simp

theorem encodedSize_eq_length_encode (text : Text) : encodedSize text = (encode text).length := by
  induction text with
  | nil => rfl
  | cons c rest ih =>
      rw [encodedSize, ih, encode, encode, List.flatMap_cons, List.length_append,
        String.length_utf8EncodeChar]

/-- A text has the size of the bytes that it was decoded from. -/
theorem encodedSize_of_decode {bytes : List UInt8} {text : Text}
    (decoded : decode bytes = .ok text) : encodedSize text = bytes.length := by
  rw [encodedSize_eq_length_encode, decode_eq_ok_iff.mp decoded]

end Utf8
end ChatReply
