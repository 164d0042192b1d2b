import ChatReply.Draft
import ChatReply.Proofs.PrintedJson

/-!
# Documents printed as JSON

A document is recovered from its JSON value, and that value from its printed form. So no two
documents are printed alike, whatever they hold and however the print is indented.
-/

namespace ChatReply

theorem mapM_map_eq_some {Part Written : Type} {write : Part → Written}
    {read : Written → Option Part} {parts : List Part}
    (back : ∀ part ∈ parts, read (write part) = some part) :
    (parts.map write).mapM read = some parts := by
  induction parts with
  | nil => rfl
  | cons part parts ih =>
      obtain ⟨first, later⟩ := List.forall_mem_cons.mp back
      simp [List.mapM_cons, first, ih later]

@[simp]
theorem Json.text?_string (text : Text) : (Json.string text).text? = some text :=
  rfl

@[simp]
theorem Json.text?_ofString (text : String) : (Json.ofString text).text? = some text.toList :=
  rfl

@[simp]
theorem Json.field?_object_cons (name key : String) (value : Json)
    (fields : List (String × Json)) :
    (Json.object ((key, value) :: fields)).field? name =
      if name = key then some value else (Json.object fields).field? name := by
  by_cases found : name = key
  · simp [Json.field?, found]
  · simp [Json.field?, List.lookup_cons, beq_false_of_ne found, found]

theorem Run.ofJson?_toJson (run : Run) : Run.ofJson? run.toJson = some run := by
  simp [Run.ofJson?, Run.toJson, Style.ofName?_name]

theorem Run.listOfJson?_listToJson (runs : List Run) :
    Run.listOfJson? (Run.listToJson runs) = some runs := by
  simp [Run.listOfJson?, Run.listToJson, Json.items?,
    mapM_map_eq_some fun run _ => Run.ofJson?_toJson run]

theorem Token.ofJson?_toJson (token : Token) : Token.ofJson? token.toJson = some token := by
  simp [Token.ofJson?, Token.toJson, TokenKind.ofName?_name]

theorem Block.ofJson?_toJson (block : Block) : Block.ofJson? block.toJson = some block := by
  cases block with
  | paragraph runs => simp [Block.ofJson?, Block.toJson, Run.listOfJson?_listToJson]
  | header text => simp [Block.ofJson?, Block.toJson]
  | separator => simp [Block.ofJson?, Block.toJson]
  | code block =>
      have tokens := mapM_map_eq_some fun token (_ : token ∈ block.tokens) =>
        Token.ofJson?_toJson token
      simp [Block.ofJson?, Block.toJson, Json.items?, Json.bool?, tokens]
  | item item =>
      obtain ⟨marker, runs, continuation⟩ := item
      have lines := mapM_map_eq_some fun line (_ : line ∈ continuation) =>
        Run.listOfJson?_listToJson line
      cases marker with
      | number value =>
          simp [Block.ofJson?, Block.toJson, Json.items?, Json.integer?, lines,
            Run.listOfJson?_listToJson]
      | bullet =>
          simp [Block.ofJson?, Block.toJson, Json.items?, lines, Run.listOfJson?_listToJson]

namespace Document

theorem ofJson?_toJson (document : Document) : ofJson? (toJson document) = some document := by
  have blocks := mapM_map_eq_some fun block (_ : block ∈ document) => Block.ofJson?_toJson block
  simp [ofJson?, toJson, Json.items?, blocks]

theorem toJson_injective : Function.Injective toJson := by
  intro left right same
  have read := ofJson?_toJson left
  rw [same, ofJson?_toJson right] at read
  exact (Option.some.inj read).symm

theorem toJson_ofDocument (document : Document) :
    Draft.toJson (Draft.ofDocument document) = toJson document := by
  simp [Draft.toJson, Draft.ofDocument, toJson, Draft.entryToJson]

theorem checkCount_natCast_eq_ok (count : Nat) :
    Render.checkCount count = .ok () ↔ count < Render.memoryBound := by
  have bounds : Render.memoryBound < Render.countBound := by decide
  rw [Render.checkCount]
  by_cases fits : count < Render.memoryBound
  · rw [if_neg (by omega), if_neg (by omega)]
    exact iff_of_true rfl fits
  · refine iff_of_false ?_ fits
    split_ifs
    · simp
    · simp
    · omega

/-- A draft that is a document is printed as that document, unless its numbers or its indentation
are too long to be written. -/
theorem json_ofDocument_eq_ok (indent : Option Nat) (document : Document) (text : Text) :
    Draft.json (indent.map Int.ofNat) (Draft.ofDocument document) = .ok text ↔
      indent.getD 0 < Render.memoryBound ∧ (Draft.ofDocument document).all Draft.isPrintable ∧
        text = print indent document := by
  have count : (indent.map Int.ofNat).getD 0 = (indent.getD 0 : Nat) := by cases indent <;> rfl
  have width : (indent.map Int.ofNat).map Int.toNat = indent := by cases indent <;> rfl
  rw [Draft.json, count, width, toJson_ofDocument, ← checkCount_natCast_eq_ok]
  cases Render.checkCount (indent.getD 0 : Nat) with
  | error error => simp
  | ok _ =>
      by_cases printable : (Draft.ofDocument document).all Draft.isPrintable
      · simp [printable, print, eq_comm]
      · simp [printable]

/-- The printed form of a document is read as its JSON value, and different documents have different
printed forms. It is what a draft of the document is printed as, and printing fails on no document
whose numbers and indentation can be written. -/
theorem print_lossless (indent : Option Nat) :
    Function.Injective (print indent) ∧
      ∀ document, Json.read? (print indent document) = some (toJson document) ∧
        ∀ text, Draft.json (indent.map Int.ofNat) (Draft.ofDocument document) = .ok text ↔
          indent.getD 0 < Render.memoryBound ∧ (Draft.ofDocument document).all Draft.isPrintable ∧
            text = print indent document := by
  have read (document : Document) : Json.read? (print indent document) = some (toJson document) :=
    Json.read?_print indent (toJson document)
  refine ⟨?_, fun document => ⟨read document, json_ofDocument_eq_ok indent document⟩⟩
  intro left right same
  have values : some (toJson left) = some (toJson right) := by rw [← read, ← read, same]
  exact toJson_injective (Option.some.inj values)

/-- A header of a quote and a control character, and an item of the given runs. -/
def quotedItem (runs : List Run) : Document :=
  [.header ['\x22', '\x01'], .item ⟨.number (-3), runs, [runs]⟩]

theorem print_lossless_quotedItem :
    (∃ text, Draft.json (some 1) (Draft.ofDocument (quotedItem [⟨['\\'], .bold⟩])) = .ok text ∧
      Json.read? text = some (toJson (quotedItem [⟨['\\'], .bold⟩]))) ∧
    print none (quotedItem [⟨['a'], .plain⟩, ⟨['b'], .plain⟩]) ≠
      print none (quotedItem [⟨['a', 'b'], .plain⟩]) := by
  refine ⟨?_, fun same => ?_⟩
  · obtain ⟨read, printed⟩ := (print_lossless (some 1)).2 (quotedItem [⟨['\\'], .bold⟩])
    exact ⟨_, (printed _).mpr ⟨by decide, by decide +kernel, rfl⟩, read⟩
  · exact absurd ((print_lossless none).1 same) (by decide)

end Document
end ChatReply
