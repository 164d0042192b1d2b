import ChatReply.Json.Document
import ChatReply.Render.Extent
import ChatReply.Settings.Basic
import ChatReply.Text.Numeral

/-!
# Drafts

A draft is a document put together by hand. A loose run may stand where a block belongs, and its
settings need not have been checked. Writing a draft as JSON takes everything as it is; rendering it
fails on what cannot be rendered.
-/

namespace ChatReply

/-- An entry of a draft. -/
inductive Draft.Entry where
  /-- A block. -/
  | block (block : Block)
  /-- A run outside any block. -/
  | loose (run : Run)
deriving DecidableEq, Repr

/-- A draft is the list of its entries. -/
abbrev Draft := List Draft.Entry

/-- Why a draft cannot be rendered. -/
inductive RenderError where
  /-- A loose run is no block. -/
  | looseRun
  /-- The padding of a frame is no integer, but a value of the given type. -/
  | paddingType (typeName : String)
  /-- A character would have to be repeated too often. -/
  | extent (error : Render.ExtentError)
  /-- A number in front of an item has more digits than a numeral may have. -/
  | numberTooLong
deriving DecidableEq, Repr

/-- The wording of an error in rendering. -/
def RenderError.message : RenderError → String
  | looseRun => "Unsupported block type: StyledRun"
  | paddingType typeName => "can't multiply sequence by non-int of type '" ++ typeName ++ "'"
  | extent error => error.message
  | numberTooLong =>
    s!"Exceeds the limit ({Numeral.digitLimit} digits) for integer string conversion; " ++
      "use sys.set_int_max_str_digits() to increase the limit"

/-- The padding that a value stands for. -/
def Value.padding? : Value → Option Int
  | integer value => some value
  | boolean true => some 1
  | boolean false => some 0
  | _ => none

/-- The layout of settings that have not been checked. Padding that is no integer counts as none. -/
def Settings.layout (settings : Settings) : Layout :=
  ⟨settings.bulletMarker.display, settings.codePadding.padding?.getD 0⟩

namespace Draft

/-- The draft that is a document. -/
def ofDocument (document : Document) : Draft :=
  document.map .block

/-- The number of an item can be written. -/
def isWritable (value : Int) : Bool :=
  decide (value.natAbs < Nat.pow 10 Numeral.digitLimit)

mutual

/-- The numbers in a value can be written. -/
def isWritableValue : Value → Bool
  | .integer value => isWritable value
  | .array items => areWritableItems items
  | .table fields => areWritableFields fields
  | _ => true

/-- The numbers in the items of an array can be written. -/
def areWritableItems : List Value → Bool
  | [] => true
  | item :: items => isWritableValue item && areWritableItems items

/-- The numbers in the fields of a table can be written. -/
def areWritableFields : List (String × Value) → Bool
  | [] => true
  | (_, value) :: fields => isWritableValue value && areWritableFields fields

end

/-- The block of an entry, if it can be rendered. -/
def checkEntry (framed : Bool) (settings : Settings) : Entry → Except RenderError Block
  | .loose _ => .error .looseRun
  | .block (.code block) =>
    if framed && block.framed then
      match settings.codePadding.padding? with
      | none => .error (.paddingType settings.codePadding.typeName)
      | some columns =>
        match Render.checkFrame columns block with
        | .error error => .error (.extent error)
        | .ok () => .ok (.code block)
    else .ok (.code block)
  | .block (.item ⟨.number value, runs, continuation⟩) =>
    if isWritable value then .ok (.item ⟨.number value, runs, continuation⟩)
    else .error .numberTooLong
  | .block (.item ⟨.bullet, runs, continuation⟩) =>
    if isWritableValue settings.bulletMarker then .ok (.item ⟨.bullet, runs, continuation⟩)
    else .error .numberTooLong
  | .block block => .ok block

/-- The document of a draft, or the reason why its first faulty entry cannot be rendered. -/
def check (framed : Bool) (settings : Settings) : Draft → Except RenderError Document
  | [] => .ok []
  | entry :: rest =>
    match checkEntry framed settings entry with
    | .error error => .error error
    | .ok block => (check framed settings rest).map (block :: ·)

/-- A draft for a terminal. -/
def styled (settings : Settings) (draft : Draft) : Except RenderError Text :=
  (check true settings draft).map (Document.styled settings.layout)

/-- The text of a draft. -/
def plain (settings : Settings) (draft : Draft) : Except RenderError Text :=
  (check false settings draft).map (Document.plain settings.layout)

/-- An entry as JSON. -/
def entryToJson : Entry → Json
  | .block block => block.toJson
  | .loose run =>
    .object [("_type", .ofString "StyledRun"), ("style", .ofString run.style.name),
      ("text", .string run.text)]

/-- The entry of a JSON value. -/
def entryOfJson? (json : Json) : Option Entry := do
  if String.ofList (← (← json.field? "_type").text?) = "StyledRun" then
    some (.loose (← Run.ofJson? json))
  else some (.block (← Block.ofJson? json))

/-- The number of every item of an entry can be written. -/
def isPrintable : Entry → Bool
  | .block (.item ⟨.number value, _, _⟩) => isWritable value
  | _ => true

/-- A draft as JSON. -/
def toJson (draft : Draft) : Json :=
  .object [("_type", .ofString "Document"), ("blocks", .array (draft.map entryToJson))]

/-- A draft printed as JSON. A negative indentation is none, but each item has its own line. -/
def json (indent : Option Int) (draft : Draft) : Except RenderError Text :=
  match Render.checkCount (indent.getD 0) with
  | .error error => .error (.extent error)
  | .ok () =>
    if draft.all isPrintable then .ok (draft.toJson.print (indent.map Int.toNat))
    else .error .numberTooLong

end Draft
end ChatReply
