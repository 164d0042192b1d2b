import ChatReply.Reply.Parse

/-!
# Parsing a reply as it arrives

A reply can be parsed one line at a time, with each line read once. Between two lines nothing is
known but the blocks that are complete and the one that is still open.
-/

namespace ChatReply
namespace Reply

/-- The block that is still open. -/
inductive Stream.Pending where
  /-- No block is open. -/
  | idle
  /-- A paragraph and its runs so far. -/
  | text (runs : List Run)
  /-- A list item and its lines so far. -/
  | item (lines : ItemLines)
  /-- A code fence and its lines so far. -/
  | fence (code : List Text)
deriving DecidableEq, Repr

/-- What is known between two lines. -/
structure Stream where
  /-- The blocks that are complete. -/
  blocks : List Block := []
  /-- The block that is still open. -/
  pending : Stream.Pending := .idle
deriving DecidableEq, Repr

namespace Stream

/-- The block that the open part makes if it ends here, if it makes one at all. -/
def Pending.close (framed : Bool) : Pending → Except Numeral.TooLong (List Block)
  | idle => .ok []
  | text runs => .ok (if runs = [] then [] else [.paragraph runs])
  | item lines => lines.item.map fun item => [.item item]
  | fence code =>
    .ok (if code = [] then [] else [.code (.ofCode (Scan.body code) framed)])

/-- Ends the open part, adds blocks, and goes on with another open part. -/
def turn (framed : Bool) (stream : Stream) (blocks : List Block) (next : Pending) :
    Except Numeral.TooLong Stream :=
  (stream.pending.close framed).map fun closed => ⟨stream.blocks ++ closed ++ blocks, next⟩

/-- Goes on with another open part. -/
def continueWith (stream : Stream) (next : Pending) : Except Numeral.TooLong Stream :=
  .ok { stream with pending := next }

/-- The open paragraph before a line: a line that is not blank is joined to it by a space. -/
def joined (runs : List Run) (line : Text) : List Run :=
  if isBlankText line then runs else runs ++ [⟨[' '], .plain⟩]

/-- Reads a line outside fences and items. `runs` are those of the open paragraph. -/
def feedText (framed : Bool) (stream : Stream) (runs : List Run) (line : Text) :
    Except Numeral.TooLong Stream :=
  let paragraph : Stream := { stream with pending := .text runs }
  if isFence (trim line) then paragraph.turn framed [] (.fence [])
  else
    match ItemLines.start? line with
    | some lines => paragraph.turn framed [] (.item lines)
    | none =>
      match header? line with
      | some text => paragraph.turn framed [.header text] .idle
      | none =>
        if isSeparator line then paragraph.turn framed [.separator] .idle
        else if isBlankText line then paragraph.turn framed [] .idle
        else stream.continueWith (.text (runs ++ Run.ofLine line))

/-- Reads a line. -/
def feed (framed : Bool) (stream : Stream) (line : Text) : Except Numeral.TooLong Stream :=
  match stream.pending with
  | .fence code =>
    if isFence (trim line) then stream.turn framed [] .idle
    else stream.continueWith (.fence (code ++ [line]))
  | .item lines =>
    if isBlankText line then stream.turn framed [] .idle
    else
      match ItemLines.start? line with
      | some next => stream.turn framed [] (.item next)
      | none =>
        stream.continueWith
          (.item { lines with continuation := lines.continuation ++ [line] })
  | .text runs => stream.feedText framed (joined runs line) line
  | .idle => stream.feedText framed [] line

/-- Reads lines one after the other. -/
def feedAll (framed : Bool) (stream : Stream) : List Text → Except Numeral.TooLong Stream
  | [] => .ok stream
  | line :: lines =>
    match stream.feed framed line with
    | .error error => .error error
    | .ok next => next.feedAll framed lines

/-- The document of a stream that ends here. -/
def finish (framed : Bool) (stream : Stream) : Except Numeral.TooLong Document :=
  (stream.pending.close framed).map fun closed => stream.blocks ++ closed

/-- The document of a reply that arrives line by line. -/
def parse (framed : Bool) (text : Text) : Except Numeral.TooLong Document :=
  match feedAll framed {} (lines text) with
  | .error error => .error error
  | .ok stream => stream.finish framed

end Stream
end Reply
end ChatReply
