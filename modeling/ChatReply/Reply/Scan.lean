import ChatReply.Reply.ItemLines
import ChatReply.Text.Line

/-!
# Scanning a reply

A scan holds the blocks found so far, the runs of the paragraph that is still open, and the lines of
the code fence that is still open. Each step either leaves the blocks alone or adds one at the end.
-/

namespace ChatReply
namespace Reply

/-- The state of a scan. -/
structure Scan where
  /-- The blocks found so far. -/
  blocks : List Block := []
  /-- Whether a code fence is open. -/
  fenced : Bool := false
  /-- The runs of the open paragraph. -/
  paragraph : List Run := []
  /-- The lines of the open fence. -/
  code : List Text := []
deriving DecidableEq, Repr

namespace Scan

/-- Adds blocks at the end. -/
def push (scan : Scan) (blocks : List Block) : Scan :=
  { scan with blocks := scan.blocks ++ blocks }

/-- Ends the open paragraph, which is a block unless it has no runs. -/
def flush (scan : Scan) : Scan :=
  if scan.paragraph = [] then scan
  else { scan.push [.paragraph scan.paragraph] with paragraph := [] }

/-- Adds runs to the open paragraph. -/
def addRuns (scan : Scan) (runs : List Run) : Scan :=
  { scan with paragraph := scan.paragraph ++ runs }

/-- Adds a line to the open fence. -/
def addCode (scan : Scan) (line : Text) : Scan :=
  { scan with code := scan.code ++ [line] }

/-- The body of a fence: its lines joined by line feeds, without the blanks at either end. -/
def body (code : List Text) : Text :=
  trim (joinLines code)

/-- Makes a block of the lines of the open fence. A fence that never got a line is no block. -/
def emitCode (framed : Bool) (scan : Scan) : Scan :=
  if scan.code = [] then scan
  else { scan.push [.code (.ofCode (body scan.code) framed)] with code := [] }

/-- Tries to open a fence at a line, which ends the open paragraph. Tells whether the line does
so. -/
def openFence (scan : Scan) (line : Text) : Bool × Scan :=
  if scan.fenced then (false, scan)
  else if !isFence line then (false, scan)
  else (true, { scan.flush with fenced := true, code := [] })

/-- Tries to close the open fence at a line. Tells whether the line does so. -/
def closeFence (framed : Bool) (scan : Scan) (line : Text) : Bool × Scan :=
  if !scan.fenced then (false, scan)
  else if !isFence line then (false, scan)
  else (true, { scan.emitCode framed with fenced := false })

/-- Scans a line inside a fence, which closes the fence or is a line of code. -/
def fencedLine (framed : Bool) (scan : Scan) (line : Text) : Scan :=
  match scan.closeFence framed (trim line) with
  | (true, closed) => closed
  | (false, scan) => scan.addCode line

/-- The run that joins a line of text to the next one, if the next one is not blank. -/
def joint (rest : List Text) : List Run :=
  if rest.head?.any fun next => !isBlankText next then [⟨[' '], .plain⟩] else []

/-- Scans a line that starts neither an item nor, outside a fence, a code fence. `rest` holds the
lines after it. -/
def plainLine (scan : Scan) (line : Text) (rest : List Text) : Scan :=
  match header? line with
  | some text => scan.flush.push [.header text]
  | none =>
    if isSeparator line then scan.flush.push [.separator]
    else if isBlankText line then scan.flush
    else scan.addRuns (Run.ofLine line ++ joint rest)

/-- Scans lines one after the other. -/
def run (framed : Bool) (scan : Scan) (lines : List Text) : Except Numeral.TooLong Scan :=
  match lines with
  | [] => .ok scan
  | line :: rest =>
    if scan.fenced then
      run framed (scan.fencedLine framed line) rest
    else
      match scan.openFence (trim line), _ : itemKind? line with
      | (true, opened), _ => run framed opened rest
      | (false, scan), some kind =>
        match ItemLines.blocks (takeItems kind (line :: rest)).1 with
        | .error error => .error error
        | .ok blocks => run framed (scan.flush.push blocks) (takeItems kind (line :: rest)).2
      | (false, scan), none => run framed (scan.plainLine line rest) rest
termination_by lines.length
decreasing_by
  · simp
  · simp
  · exact length_remaining_lt rest (starts_of_itemKind? ‹_›)
  · simp

/-- Ends a scan: an open fence is closed, an open paragraph ended. -/
def finish (framed : Bool) (scan : Scan) : Scan :=
  if scan.fenced then { scan.emitCode framed with fenced := false }.flush else scan.flush

end Scan
end Reply
end ChatReply
