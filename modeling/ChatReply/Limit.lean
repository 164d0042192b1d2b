import ChatReply.Text.Numeral
import ChatReply.Text.Utf8

/-!
# Size limits

A reply may have only so many bytes. The limit comes from the settings unless an environment
variable gives another one.
-/

namespace ChatReply
namespace Limit

/-- The environment variable that gives a limit. -/
def variableName : String := "REPLY_MARKDOWN_MAX_FILE_SIZE"

/-- The value of the environment variable is no positive integer. -/
structure InvalidVariable where
  /-- The value as it is written. -/
  text : Text
deriving DecidableEq, Repr

/-- The wording of the refusal of a value. -/
def InvalidVariable.message (error : InvalidVariable) : String :=
  "Invalid value for " ++ variableName ++ ": " ++ String.ofList error.text ++
    " (expected positive integer)"

/-- The limit that the environment variable gives, or the default if it is not set. -/
def resolve (given : Option Text) (default : Int) : Except InvalidVariable Int :=
  match given with
  | none => .ok default
  | some text =>
    match Numeral.integer? text with
    | some limit => if 0 < limit then .ok limit else .error ⟨text⟩
    | none => .error ⟨text⟩

/-- A reply is larger than the limit. -/
structure TooLarge where
  /-- The size of the reply in bytes. -/
  size : Nat
  /-- The limit in bytes. -/
  limit : Int
deriving DecidableEq, Repr

/-- The wording of the refusal of a reply. -/
def TooLarge.message (error : TooLarge) : String :=
  s!"Reply of {error.size} bytes exceeds maximum allowed size of {error.limit} bytes"

/-- Refuses a text that is larger than the limit once it is encoded. -/
def checkContent (content : Text) (limit : Int) : Except TooLarge Unit :=
  if limit < Utf8.encodedSize content then .error ⟨Utf8.encodedSize content, limit⟩ else .ok ()

end Limit
end ChatReply
