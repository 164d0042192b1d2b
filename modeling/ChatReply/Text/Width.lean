import ChatReply.Text.Combining
import ChatReply.Text.Wide

/-!
# Display width

The number of terminal columns that a text fills.
-/

namespace ChatReply

/-- The columns of one character: none for a combining mark, two for a wide character, else one. -/
def charWidth (c : Char) : Nat :=
  if isCombining c then 0 else if isWide c then 2 else 1

/-- The columns of a text. -/
def displayWidth : Text → Nat
  | [] => 0
  | c :: rest => charWidth c + displayWidth rest

/-- Texts put side by side fill the columns of both. -/
theorem displayWidth_append (left right : Text) :
    displayWidth (left ++ right) = displayWidth left + displayWidth right := by
  induction left with
  | nil => simp [displayWidth]
  | cons c left induction =>
    rw [List.cons_append, displayWidth, displayWidth, induction, Nat.add_assoc]

end ChatReply
