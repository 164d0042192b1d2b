import ChatReply.Render.Code

/-!
# The extent of frames

The sides and margins of a frame repeat a character as often as the padding says. A count has to be
a signed number of 64 bits, and the text that it asks for has to fit into memory.
-/

namespace ChatReply
namespace Render

/-- Why a character cannot be repeated. -/
inductive ExtentError where
  /-- The count is no signed number of 64 bits. -/
  | unrepresentable
  /-- The text does not fit into memory. -/
  | outOfMemory
deriving DecidableEq, Repr

/-- The wording of the refusal of a count. -/
def ExtentError.message : ExtentError → String
  | unrepresentable => "cannot fit 'int' into an index-sized integer"
  | outOfMemory => ""

/-- One more than the greatest count. -/
def countBound : Nat := Nat.pow 2 63

/-- The number of characters that do not fit into memory. It depends on the machine: a character
takes one byte or more, and the machine is taken to have less than four gibibytes for one text. -/
def memoryBound : Nat := Nat.pow 2 32

/-- Refuses to repeat a character as often as a count says. A negative count asks for no text. -/
def checkCount (count : Int) : Except ExtentError Unit :=
  if count < -(countBound : Int) ∨ (countBound : Int) ≤ count then .error .unrepresentable
  else if (memoryBound : Int) ≤ count then .error .outOfMemory
  else .ok ()

/-- Refuses a frame whose margins or sides cannot be drawn. -/
def checkFrame (padding : Int) (block : CodeBlock) : Except ExtentError Unit :=
  match checkCount padding with
  | .error error => .error error
  | .ok () => checkCount (widest ((codeLines block.tokens).map expandTabs) + 2 * padding)

/-- Refuses a document that has a frame whose margins or sides cannot be drawn. -/
def checkFrames (padding : Int) : Document → Except ExtentError Unit
  | [] => .ok ()
  | .code block :: rest =>
    if block.framed then
      match checkFrame padding block with
      | .error error => .error error
      | .ok () => checkFrames padding rest
    else checkFrames padding rest
  | _ :: rest => checkFrames padding rest

end Render
end ChatReply
