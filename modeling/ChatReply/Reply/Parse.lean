import ChatReply.Reply.Scan

/-!
# Parsing a reply

The document of a reply. Parsing fails only on an item whose number is too long.
-/

namespace ChatReply
namespace Reply

/-- Scans the lines of a reply. Of a blank reply no line is scanned. -/
def scan (framed : Bool) (text : Text) : Except Numeral.TooLong Scan :=
  if isBlankText text then .ok {} else Scan.run framed {} (lines text)

/-- The document of a reply, with its code blocks framed or not. -/
def parse (framed : Bool) (text : Text) : Except Numeral.TooLong Document :=
  (scan framed text).map fun scan => (scan.finish framed).blocks

end Reply
end ChatReply
