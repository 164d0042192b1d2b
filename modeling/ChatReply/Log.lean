import ChatReply.Text.Range

/-!
# Log records

What the program reports about its work. A record is written as one line, and only if its level
reaches the threshold in force.
-/

namespace ChatReply
namespace Log

/-- The levels of records, in ascending order. -/
inductive Level where
  | debug | info | warning | error | critical
deriving DecidableEq, Repr

namespace Level

/-- The name of a level as it is written. -/
def name : Level → String
  | debug => "DEBUG"
  | info => "INFO"
  | warning => "WARNING"
  | error => "ERROR"
  | critical => "CRITICAL"

/-- The place of a level in their order. -/
def rank : Level → Nat
  | debug => 0
  | info => 1
  | warning => 2
  | error => 3
  | critical => 4

end Level

/-- A record of the log. -/
structure Record where
  /-- Its level. -/
  level : Level
  /-- The part of the program that reports. -/
  source : String
  /-- What it reports. -/
  message : String
deriving DecidableEq, Repr

/-- The name under which all parts of the program report. -/
def rootName : String := "reply_markdown"

/-- The full name of a part of the program: the root name itself, a name below it, or a name that is
put below it. -/
def sourceName (name : String) : String :=
  if name = rootName ∨ (rootName ++ ".").toList.isPrefixOf name.toList then name
  else rootName ++ "." ++ name

/-- The least level that is written. -/
def threshold (verbose : Bool) : Level :=
  if verbose then .debug else .warning

/-- The line of a record. -/
def Record.line (record : Record) : String :=
  record.level.name ++ " " ++ record.source ++ ": " ++ record.message ++ "\n"

/-- What records leave in the log. -/
def write (verbose : Bool) (records : List Record) : String :=
  let shown := records.filter fun record => (threshold verbose).rank ≤ record.level.rank
  String.join (shown.map Record.line)

end Log
end ChatReply
