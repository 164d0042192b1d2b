import ChatReply.Text.Line
import ChatReply.Toml.Lexeme

/-!
# Reading configuration files

A file is a row of statements: the header of a table, the header of an element of an array of
tables, or a key with its value. Each statement stands on a line of its own.
-/

namespace ChatReply
namespace Toml

/-! ## Keys -/

/-- The character may stand in a key without quotes. -/
def isBareKeyChar (c : Char) : Bool :=
  c.isAlphanum || c == '-' || c == '_'

/-- Reads one part of a key. -/
def readKeyPart (text : Text) : Except Error (String × Text) :=
  match text with
  | [] => .error (.fault .invalidKey [])
  | c :: _ =>
    if isBareKeyChar c then
      .ok (String.ofList (text.takeWhile isBareKeyChar), text.dropWhile isBareKeyChar)
    else if c = quote then
      (readLiteralLine text).map fun (name, rest) => (String.ofList name, rest)
    else if c = doubleQuote then
      (readBasicLine text).map fun (name, rest) => (String.ofList name, rest)
    else .error (.fault .invalidKey text)

/-- Reads a key of one or several parts and the spaces after it. -/
def readKey : Nat → Text → Except Error (List String × Text)
  | 0, text => .error (.fault .invalidKey text)
  | fuel + 1, text => do
    let (part, rest) ← readKeyPart text
    match skipSpaces rest with
    | '.' :: rest =>
      let (parts, rest) ← readKey fuel (skipSpaces rest)
      .ok (part :: parts, rest)
    | rest => .ok ([part], rest)

/-! ## Values -/

/-- The error of a change at a place. -/
def atPlace {α : Type} (rest : Text) (result : Except Cause α) : Except Error α :=
  result.mapError fun cause => .fault cause rest

/-- Reads a value that holds no other values. -/
def readScalar (text : Text) : Except Error (Value × Text) :=
  let three (mark : Char) : Bool := text.take 3 == [mark, mark, mark]
  let string (found : Except Error (Text × Text)) : Except Error (Value × Text) :=
    found.map fun (content, rest) => (.string content, rest)
  if text.head? = some doubleQuote then
    string (if three doubleQuote then readBasicLines text else readBasicLine text)
  else if text.head? = some quote then
    string (if three quote then readLiteralLines text else readLiteralLine text)
  else if text.take 4 = ['t', 'r', 'u', 'e'] then .ok (.boolean true, text.drop 4)
  else if text.take 5 = ['f', 'a', 'l', 's', 'e'] then .ok (.boolean false, text.drop 5)
  else
    match moment? text with
    | some found => found.map fun (moment, rest) => (.moment moment, rest)
    | none =>
      match basedInteger? text with
      | some found => .ok found
      | none =>
        match decimalNumber? text with
        | some (.ok value, rest) => .ok (value, rest)
        | some (.error error, _) => .error (.numeral error)
        | none =>
          match specialFloat? text with
          | some found => .ok found
          | none => .error (.fault .invalidValue text)

/-- The room for nested values. An array takes two parts of it and an inline table three, one part
for each call that reading it needs. Calls may be a thousand deep, and the thirty that are missing
here are those in which the reading of a value stands itself. -/
def nestingRoom : Nat := 970

mutual

/-- Reads a value, within some room for what it holds. -/
def readValue (room : Nat) : Nat → Text → Except Error (Value × Text)
  | 0, text => .error (.fault .invalidValue text)
  | fuel + 1, text =>
    match text with
    | '[' :: rest =>
      if room < 2 then .error .nesting
      else do
        match ← skipBlankLines false rest with
        | ']' :: rest => .ok (.array [], rest)
        | rest =>
          let (items, rest) ← readItems (room - 2) fuel rest
          .ok (.array items, rest)
    | '\x7b' :: rest =>
      if room < 3 then .error .nesting
      else
        match skipSpaces rest with
        | '\x7d' :: rest => .ok (.table [], rest)
        | rest => do
          let (fields, rest) ← readFields (room - 3) fuel [] rest
          .ok (.table (fieldsToValues fields), rest)
    | text => readScalar text
termination_by structural fuel => fuel

/-- Reads the items of an array up to its closing bracket. -/
def readItems (room : Nat) : Nat → Text → Except Error (List Value × Text)
  | 0, text => .error (.fault .unclosedArray text)
  | fuel + 1, text => do
    let (item, rest) ← readValue room fuel text
    match ← skipBlankLines false rest with
    | ']' :: rest => .ok ([item], rest)
    | ',' :: rest =>
      match ← skipBlankLines false rest with
      | ']' :: rest => .ok ([item], rest)
      | rest =>
        let (items, rest) ← readItems room fuel rest
        .ok (item :: items, rest)
    | rest => .error (.fault .unclosedArray rest)
termination_by structural fuel => fuel

/-- Reads the rest of an inline table up to its closing bracket, given the fields before. -/
def readFields (room : Nat) : Nat → Fields → Text → Except Error (Fields × Text)
  | 0, _, text => .error (.fault .unclosedInlineTable text)
  | fuel + 1, fields, text => do
    let ((key, value), rest) ← readPair room fuel text
    let fields ← atPlace rest (assignInline key (.leaf value) key fields)
    match skipSpaces rest with
    | '\x7d' :: rest => .ok (fields, rest)
    | ',' :: rest => readFields room fuel fields (skipSpaces rest)
    | rest => .error (.fault .unclosedInlineTable rest)
termination_by structural fuel => fuel

/-- Reads a key and its value. -/
def readPair (room : Nat) : Nat → Text → Except Error ((List String × Value) × Text)
  | 0, text => .error (.fault .expectedEquals text)
  | fuel + 1, text => do
    let (key, rest) ← readKey (text.length + 1) text
    match rest with
    | '=' :: rest =>
      let (value, rest) ← readValue room fuel (skipSpaces rest)
      .ok ((key, value), rest)
    | rest => .error (.fault .expectedEquals rest)
termination_by structural fuel => fuel

end

/-! ## Statements -/

/-- What has been read of a file. -/
structure Builder where
  /-- The entries of the file. -/
  fields : Fields := []
  /-- The key of the section that is being read. -/
  header : List String := []
  /-- The number of headers so far. -/
  sectionIndex : Nat := 0

/-- Reads the header of a table, the bracket of which has been read. -/
def readTableHeader (builder : Builder) (text : Text) : Except Error (Builder × Text) := do
  let (key, rest) ← readKey (text.length + 1) (skipSpaces text)
  let fields ← atPlace rest (declareTable key builder.fields)
  match rest with
  | ']' :: rest => .ok (⟨fields, key, builder.sectionIndex + 1⟩, rest)
  | rest => .error (.fault .unclosedTable rest)

/-- Reads the header of an element of an array of tables, the brackets of which have been read. -/
def readElementHeader (builder : Builder) (text : Text) : Except Error (Builder × Text) := do
  let (key, rest) ← readKey (text.length + 1) (skipSpaces text)
  let fields ← atPlace rest (declareElement key builder.fields)
  match rest with
  | ']' :: ']' :: rest => .ok (⟨fields, key, builder.sectionIndex + 1⟩, rest)
  | rest => .error (.fault .unclosedTableArray rest)

/-- Reads a key with its value. -/
def readAssignment (builder : Builder) (text : Text) : Except Error (Builder × Text) := do
  -- Each nested value takes at most three steps for every character it has.
  let ((key, value), rest) ← readPair nestingRoom (3 * text.length + 3) text
  let fields ← atPlace rest (assign builder.sectionIndex builder.header key value builder.fields)
  .ok ({ builder with fields }, rest)

/-- Reads a statement, unless a comment or the end of the line takes its place. -/
def readStatement (builder : Builder) (text : Text) : Except Error (Builder × Text) :=
  match text with
  | [] => .ok (builder, [])
  | '\n' :: _ => .ok (builder, text)
  | '#' :: _ => .ok (builder, text)
  | '[' :: '[' :: rest => readElementHeader builder rest
  | '[' :: rest => readTableHeader builder rest
  | c :: _ =>
    if isBareKeyChar c || c == quote || c == doubleQuote then readAssignment builder text
    else .error (.fault .invalidStatement text)

/-- Reads statements up to the end of the text. -/
def readStatements : Nat → Builder → Text → Except Error Fields
  | 0, builder, _ => .ok builder.fields
  | fuel + 1, builder, text => do
    let (builder, rest) ← readStatement builder (skipSpaces text)
    match ← skipComment (skipSpaces rest) with
    | [] => .ok builder.fields
    | '\n' :: rest => readStatements fuel builder rest
    | rest => .error (.fault .expectedNewline rest)

/-- The text with a line feed for every pair of carriage return and line feed. -/
def unifyPairs : Text → Text
  | [] => []
  | '\r' :: '\n' :: rest => '\n' :: unifyPairs rest
  | c :: rest => c :: unifyPairs rest

/-- The table of a file, or what is wrong with it. -/
def read (source : Text) : Except Error Value :=
  (readStatements (source.length + 1) {} (unifyPairs source)).map fun fields =>
    .table (fieldsToValues fields)

/-- The wording of a fault that reading a file has found. -/
def faultMessage (source : Text) (cause : Cause) (rest : Text) : String :=
  faultText (unifyPairs source) cause rest

end Toml
end ChatReply
