import ChatReply.Settings.Value
import ChatReply.Toml.Error

/-!
# Tables under construction

While a file is read, each table remembers how it came about, because that decides which statements
may still add to it. A table that was only passed through by a header may be declared later; one
that a dotted key made may grow only within the same section; an inline table or array is closed.
-/

namespace ChatReply
namespace Toml

/-- How a table came about. -/
inductive Origin where
  /-- The header of a table inside it. -/
  | implicit
  /-- A dotted key in the section of the given number. -/
  | dotted (sectionIndex : Nat)
  /-- A header of its own. -/
  | header
deriving DecidableEq, Repr

/-- An entry of a table under construction. -/
inductive Node where
  /-- A value, which cannot be added to. -/
  | leaf (value : Value)
  /-- A table. -/
  | table (origin : Origin) (fields : List (String × Node))
  /-- An array of tables, of which only the last one can be added to. -/
  | tables (earlier : List (List (String × Node))) (last : List (String × Node))
deriving Repr

/-- The entries of a table under construction, in the order in which they were made. -/
abbrev Fields := List (String × Node)

namespace Fields

/-- Replaces the entry of a key, or adds one at the end. -/
def put (key : String) (node : Node) : Fields → Fields
  | [] => [(key, node)]
  | (name, old) :: fields =>
    if name = key then (name, node) :: fields else (name, old) :: put key node fields

end Fields

/-- The value is an inline table or an array. -/
def isClosed : Value → Bool
  | .array _ => true
  | .table _ => true
  | _ => false

/-- What is wrong with a key that goes through a value. -/
def blocked (closed : Cause) (value : Value) : Cause :=
  if isClosed value then closed else .overwrite

/-- Changes the table that a header names, making the tables on the way to it as needed. `closed`
is what is wrong if an inline table or an array is in the way. -/
def within (closed : Cause) (change : Fields → Except Cause Fields) :
    List String → Fields → Except Cause Fields
  | [], fields => change fields
  | key :: path, fields =>
    match fields.lookup key with
    | none => (within closed change path []).map fun inner =>
        fields.put key (.table .implicit inner)
    | some (.table origin inner) => (within closed change path inner).map fun inner =>
        fields.put key (.table origin inner)
    | some (.tables earlier last) => (within closed change path last).map fun last =>
        fields.put key (.tables earlier last)
    | some (.leaf value) => .error (blocked closed value)

/-- Declares a table by a header. -/
def declareTable (key : List String) (fields : Fields) : Except Cause Fields :=
  let twice := Cause.declaredTwice key
  match key.getLast? with
  | none => .ok fields
  | some stem =>
    within twice (fun fields =>
      match fields.lookup stem with
      | none => .ok (fields.put stem (.table .header []))
      | some (.table .implicit inner) => .ok (fields.put stem (.table .header inner))
      | some (.table _ _) => .error twice
      | some (.tables _ _) => .error twice
      | some (.leaf value) => .error (blocked twice value)) key.dropLast fields

/-- Adds an empty element to the array of tables that a header names. -/
def declareElement (key : List String) (fields : Fields) : Except Cause Fields :=
  let closed := Cause.immutable key
  match key.getLast? with
  | none => .ok fields
  | some stem =>
    within closed (fun fields =>
      match fields.lookup stem with
      | none => .ok (fields.put stem (.tables [] []))
      | some (.tables earlier last) => .ok (fields.put stem (.tables (earlier ++ [last]) []))
      | some (.table _ _) => .error .overwrite
      | some (.leaf value) => .error (blocked closed value)) key.dropLast fields

/-- Gives a dotted key a value in a table. `passed` is the key of that table, and `parent` the key
of the table that holds the value. -/
def assignDotted (sectionIndex : Nat) (parent : List String) (value : Node) :
    List String → List String → Fields → Except Cause Fields
  | _, [], fields => .ok fields
  | _, [stem], fields =>
    match fields.lookup stem with
    | none => .ok (fields.put stem value)
    | some _ => .error .overwrite
  | passed, key :: path, fields =>
    let here := passed ++ [key]
    let extend (inner : Fields) : Except Cause Fields :=
      (assignDotted sectionIndex parent value here path inner).map fun inner =>
        fields.put key (.table (.dotted sectionIndex) inner)
    match fields.lookup key with
    | none => extend []
    | some (.table .implicit inner) => extend inner
    | some (.table (.dotted made) inner) =>
      if made = sectionIndex then extend inner else .error (.redefined here)
    | some (.table .header _) => .error (.redefined here)
    | some (.tables _ _) => .error (.redefined here)
    | some (.leaf value) => .error (blocked (.immutable parent) value)

/-- Gives a key a value in the section of a header. -/
def assign (sectionIndex : Nat) (header key : List String) (value : Value) (fields : Fields) :
    Except Cause Fields :=
  let parent := header ++ key.dropLast
  within (.immutable parent) (assignDotted sectionIndex parent (.leaf value) header key)
    header fields

/-- Gives a dotted key a value in an inline table. -/
def assignInline (whole : List String) (value : Node) :
    List String → Fields → Except Cause Fields
  | [], fields => .ok fields
  | [stem], fields =>
    match fields.lookup stem with
    | none => .ok (fields.put stem value)
    | some (.leaf old) =>
      .error (if isClosed old then .immutable whole else .duplicateKey stem)
    | some _ => .error (.duplicateKey stem)
  | key :: path, fields =>
    let extend (inner : Fields) : Except Cause Fields :=
      (assignInline whole value path inner).map fun inner =>
        fields.put key (.table .implicit inner)
    match fields.lookup key with
    | none => extend []
    | some (.table _ inner) => extend inner
    | some (.tables _ _) => .error .overwrite
    | some (.leaf old) => .error (blocked (.immutable whole) old)

mutual

/-- The value of an entry. -/
def Node.toValue : Node → Value
  | .leaf value => value
  | .table _ fields => .table (fieldsToValues fields)
  | .tables earlier last =>
    .array (tablesToValues earlier ++ [.table (fieldsToValues last)])

/-- The values of entries. -/
def fieldsToValues : List (String × Node) → List (String × Value)
  | [] => []
  | (name, node) :: fields => (name, node.toValue) :: fieldsToValues fields

/-- The values of tables. -/
def tablesToValues : List (List (String × Node)) → List Value
  | [] => []
  | fields :: rest => .table (fieldsToValues fields) :: tablesToValues rest

end

end Toml
end ChatReply
