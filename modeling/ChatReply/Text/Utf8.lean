import ChatReply.Text.Hex

/-!
# UTF-8

Strict decoding of bytes. The lead byte of a sequence fixes the range of every byte that has to
follow it, so overlong forms, surrogates and code points beyond U+10FFFF are refused where they
start. A byte order mark is kept as a character.
-/

namespace ChatReply
namespace Utf8

/-- What is wrong with a sequence of bytes. -/
inductive Fault where
  /-- The first byte starts no sequence. -/
  | invalidStart
  /-- A byte is not one that may follow. -/
  | invalidContinuation
  /-- The bytes end inside a sequence. -/
  | truncated
deriving DecidableEq, Repr

/-- The wording of a fault. -/
def Fault.reason : Fault → String
  | invalidStart => "invalid start byte"
  | invalidContinuation => "invalid continuation byte"
  | truncated => "unexpected end of data"

/-- A place where bytes are not UTF-8. -/
structure Error where
  /-- The position of the lead byte. -/
  position : Nat
  /-- The lead byte. -/
  lead : UInt8
  /-- The number of well-formed continuation bytes after the lead byte. -/
  followers : Nat
  /-- What is wrong. -/
  fault : Fault
deriving DecidableEq, Repr

/-- The wording of a decoding error. -/
def Error.message (error : Error) : String :=
  let place :=
    if error.followers = 0 then
      s!"byte 0x{String.ofList (hexDigits 2 error.lead.toNat)} in position {error.position}"
    else
      s!"bytes in position {error.position}-{error.position + error.followers}"
  s!"'utf-8' codec can't decode {place}: {error.fault.reason}"

/-- The payload of a lead byte and the closed ranges of the bytes that must follow it. -/
def sequenceOf? (lead : UInt8) : Option (Nat × List (UInt8 × UInt8)) :=
  if lead ≤ 0x7F then some (lead.toNat, [])
  else if 0xC2 ≤ lead ∧ lead ≤ 0xDF then some (lead.toNat - 0xC0, [(0x80, 0xBF)])
  else if lead = 0xE0 then some (0, [(0xA0, 0xBF), (0x80, 0xBF)])
  else if lead = 0xED then some (0xD, [(0x80, 0x9F), (0x80, 0xBF)])
  else if 0xE1 ≤ lead ∧ lead ≤ 0xEF then some (lead.toNat - 0xE0, [(0x80, 0xBF), (0x80, 0xBF)])
  else if lead = 0xF0 then some (0, [(0x90, 0xBF), (0x80, 0xBF), (0x80, 0xBF)])
  else if 0xF1 ≤ lead ∧ lead ≤ 0xF3 then
    some (lead.toNat - 0xF0, [(0x80, 0xBF), (0x80, 0xBF), (0x80, 0xBF)])
  else if lead = 0xF4 then some (4, [(0x80, 0x8F), (0x80, 0xBF), (0x80, 0xBF)])
  else none

/-- Reads continuation bytes: the code point, or how many bytes were in range and the fault. -/
def follow (value : Nat) : List (UInt8 × UInt8) → List UInt8 → Except (Nat × Fault) Nat
  | [], _ => .ok value
  | _ :: _, [] => .error (0, .truncated)
  | (first, last) :: ranges, byte :: bytes =>
    if first ≤ byte ∧ byte ≤ last then
      (follow (value * 0x40 + (byte.toNat - 0x80)) ranges bytes).mapError
        fun (followers, fault) => (followers + 1, fault)
    else .error (0, .invalidContinuation)

/-- Decodes bytes that start at a position of the input. -/
def decodeFrom (position : Nat) (bytes : List UInt8) : Except Error Text :=
  match bytes with
  | [] => .ok []
  | lead :: rest =>
    match sequenceOf? lead with
    | none => .error ⟨position, lead, 0, .invalidStart⟩
    | some (payload, ranges) =>
      match follow payload ranges rest with
      | .error (followers, fault) => .error ⟨position, lead, followers, fault⟩
      | .ok point =>
        (decodeFrom (position + 1 + ranges.length) (rest.drop ranges.length)).map
          (Char.ofNat point :: ·)
termination_by bytes.length
decreasing_by
  simp only [List.length_drop, List.length_cons]
  omega

/-- Decodes bytes. -/
def decode (bytes : List UInt8) : Except Error Text :=
  decodeFrom 0 bytes

/-- The number of bytes of an encoded text. -/
def encodedSize : Text → Nat
  | [] => 0
  | c :: rest => c.utf8Size + encodedSize rest

end Utf8
end ChatReply
