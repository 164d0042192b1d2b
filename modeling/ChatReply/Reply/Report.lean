import ChatReply.Log
import ChatReply.Reply.Parse

/-!
# What parsing reports

A parsed reply leaves the number of its blocks and of its lines in the log, and before that whether
its last fence was left open. A blank reply leaves nothing, and neither does one that is refused.
-/

namespace ChatReply
namespace Reply

/-- The part of the program that parses. -/
def sourceName : String := Log.sourceName "parser"

/-- The records of parsing a reply. -/
def records (framed : Bool) (text : Text) : List Log.Record :=
  match scan framed text with
  | .error _ => []
  | .ok scan =>
    let unclosed : List Log.Record :=
      if scan.fenced then
        [⟨.debug, sourceName, "Closing unterminated code fence at end of reply"⟩]
      else []
    let blocks := (scan.finish framed).blocks.length
    if isBlankText text then []
    else
      unclosed ++
        [⟨.debug, sourceName, s!"Parsed {blocks} blocks from {(lines text).length} lines"⟩]

end Reply
end ChatReply
