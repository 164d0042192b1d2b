import ChatReply.Proofs.CodeFrame
import ChatReply.Proofs.TerminalCode

/-!
# The gaps between blocks

Every block is rendered to at least one line, whatever it holds, and the lines of a document are
those of its blocks with a gap between neighbours that only depends on whether both are list items.
So a document is rendered by rendering its parts, and it can be rendered if each of its blocks can.
-/

namespace ChatReply

/-- What stands between the texts of two neighbouring blocks: list items follow each other line by
line, and all other blocks are set apart by an empty line. -/
def Block.gap (previous next : Block) : Text :=
  if previous.isItem && next.isItem then ['\n'] else ['\n', '\n']

/-- What a block needs to be rendered: what stands in front of an item can be written, and the frame
of code that gets one can be drawn. -/
def Block.IsRenderable (framed : Bool) (settings : Settings) : Block → Prop
  | .item ⟨.number value, _, _⟩ => value.natAbs < Nat.pow 10 Numeral.digitLimit
  | .item ⟨.bullet, _, _⟩ => Draft.isWritableValue settings.bulletMarker = true
  | .code block => framed = true → block.framed = true →
      ∃ padding, settings.codePadding.padding? = some padding ∧
        Render.checkFrame padding block = .ok ()
  | _ => True

/-! ## The lines of a document -/

namespace Render

variable (paint : Painter) (framed : Bool) (layout : Layout)

/-- No block vanishes from a rendered document. -/
theorem block_ne_nil (entry : Block) : block paint framed layout entry ≠ [] := by
  cases entry with
  | paragraph | header | separator | item => exact List.cons_ne_nil _ _
  | code codeBlock =>
      rw [block, code]
      split
      · exact List.cons_ne_nil _ _
      · simp [codeLines_ne_nil]

theorem documentLines_ne_nil {document : Document} (filled : document ≠ []) :
    documentLines paint framed layout document ≠ [] := by
  fun_cases documentLines paint framed layout document with
  | case1 => exact (filled rfl).elim
  | case2 last => exact block_ne_nil paint framed layout last
  | case3 previous next rest => simp [block_ne_nil]

theorem documentLines_append {first second : Document} (first_ne : first ≠ [])
    (second_ne : second ≠ []) :
    documentLines paint framed layout (first ++ second) =
      documentLines paint framed layout first ++
        spacing (first.getLast first_ne) (second.head second_ne) ++
          documentLines paint framed layout second := by
  induction first with
  | nil => exact (first_ne rfl).elim
  | cons previous first ih =>
      cases first with
      | nil =>
          obtain ⟨next, second, rfl⟩ := List.exists_cons_of_ne_nil second_ne
          rfl
      | cons next first =>
          rw [List.cons_append, List.cons_append, documentLines, ← List.cons_append,
            ih (List.cons_ne_nil next first), documentLines]
          simp only [List.getLast_cons_cons, List.append_assoc]

theorem joinLines_spacing (previous next : Block) {above below : List Text} (above_ne : above ≠ [])
    (below_ne : below ≠ []) :
    joinLines (above ++ spacing previous next ++ below) =
      joinLines above ++ previous.gap next ++ joinLines below := by
  rw [spacing, Block.gap]
  split
  · rw [List.append_nil, joinLines_append above_ne below_ne]
    simp
  · rw [joinLines_append (by simp) below_ne, joinLines_append_nil above_ne]
    simp

/-- The text of a document is that of its two parts with a gap between them. -/
theorem document_append {first second : Document} (first_ne : first ≠ [])
    (second_ne : second ≠ []) :
    document paint framed layout (first ++ second) =
      document paint framed layout first ++ (first.getLast first_ne).gap (second.head second_ne) ++
        document paint framed layout second := by
  rw [document, documentLines_append paint framed layout first_ne second_ne,
    joinLines_spacing _ _ (documentLines_ne_nil paint framed layout first_ne)
      (documentLines_ne_nil paint framed layout second_ne)]
  rfl

end Render

/-! ## The parts of a document -/

namespace Draft

variable {framed : Bool} {settings : Settings}

theorem check_append (first second : Draft) :
    check framed settings (first ++ second) =
      (check framed settings first).bind fun upper =>
        (check framed settings second).map (upper ++ ·) := by
  induction first with
  | nil =>
      rw [List.nil_append, check]
      cases check framed settings second <;> rfl
  | cons entry first ih =>
      rw [List.cons_append, check, check, ih]
      cases checkEntry framed settings entry with
      | error error => rfl
      | ok block =>
          cases check framed settings first with
          | error error => rfl
          | ok upper => cases check framed settings second <;> rfl

/-- A way to render drafts renders two parts of a document one after the other, with the gap between
their blocks. -/
def RendersByParts (render : Draft → Except RenderError Text) : Prop :=
  ∀ (first second : Document) (first_ne : first ≠ []) (second_ne : second ≠ []),
    render (ofDocument (first ++ second)) = do
      let upper ← render (ofDocument first)
      let lower ← render (ofDocument second)
      return upper ++ (first.getLast first_ne).gap (second.head second_ne) ++ lower

theorem rendersByParts_map_document (paint : Painter) (framed : Bool) (settings : Settings) :
    RendersByParts fun draft =>
      (check framed settings draft).map (Render.document paint framed settings.layout) := by
  intro first second first_ne second_ne
  have parts_eq : ofDocument (first ++ second) = ofDocument first ++ ofDocument second :=
    List.map_append
  simp only [parts_eq, check_append]
  -- The upper part is looked at first on both sides, so an error in it hides one in the lower part.
  cases upper_eq : check framed settings (ofDocument first) with
  | error error => rfl
  | ok upper =>
      cases lower_eq : check framed settings (ofDocument second) with
      | error error => rfl
      | ok lower =>
          obtain rfl := eq_of_check_ofDocument upper_eq
          obtain rfl := eq_of_check_ofDocument lower_eq
          exact congrArg Except.ok
            (Render.document_append paint framed settings.layout first_ne second_ne)

/-- Between other blocks a block is rendered as it is alone. -/
theorem RendersByParts.between {render : Draft → Except RenderError Text}
    (parts : RendersByParts render) {before after : Document} (before_ne : before ≠ [])
    (block : Block) (after_ne : after ≠ []) :
    render (ofDocument (before ++ block :: after)) = do
      let above ← render (ofDocument before)
      let own ← render (ofDocument [block])
      let below ← render (ofDocument after)
      return above ++ (before.getLast before_ne).gap block ++ own ++
        block.gap (after.head after_ne) ++ below := by
  have lower := parts [block] after (List.cons_ne_nil block []) after_ne
  rw [List.singleton_append] at lower
  rw [parts before (block :: after) before_ne (List.cons_ne_nil block after), lower]
  simp

/-! ## What can be rendered -/

theorem checkEntry_eq_ok_iff {block : Block} :
    checkEntry framed settings (.block block) = .ok block ↔ block.IsRenderable framed settings := by
  cases block with
  | paragraph | header | separator => simp [checkEntry, Block.IsRenderable]
  | item entry =>
      obtain ⟨marker, runs, continuation⟩ := entry
      cases marker with
      | number value => simp [checkEntry, Block.IsRenderable, isWritable]
      | bullet => simp [checkEntry, Block.IsRenderable]
  | code codeBlock =>
      by_cases drawn : framed = true ∧ codeBlock.framed = true
      · obtain ⟨rfl, block_framed⟩ := drawn
        simp only [checkEntry, Block.IsRenderable, block_framed]
        cases settings.codePadding.padding? with
        | none => simp
        | some padding => cases fits : Render.checkFrame padding codeBlock <;> simp [fits]
      · have unframed : (framed && codeBlock.framed) = false := by simpa using drawn
        refine iff_of_true ?_ fun outside inside => (drawn ⟨outside, inside⟩).elim
        simp [checkEntry, unframed]

/-- A draft that is a document can be rendered if each of its blocks can. -/
theorem check_ofDocument_eq_ok_iff {document : Document} :
    check framed settings (ofDocument document) = .ok document ↔
      ∀ block ∈ document, block.IsRenderable framed settings := by
  induction document with
  | nil => simp [ofDocument, check]
  | cons block document ih =>
      have each_iff : (∀ entry ∈ block :: document, entry.IsRenderable framed settings) ↔
          checkEntry framed settings (.block block) = .ok block ∧
            check framed settings (ofDocument document) = .ok document := by
        rw [List.forall_mem_cons, checkEntry_eq_ok_iff, ih]
      rw [each_iff, ofDocument, List.map_cons, check, ← ofDocument]
      cases checkEntry framed settings (.block block) with
      | error error => simp
      | ok other =>
          rw [map_eq_ok_iff]
          simp [and_comm]

theorem map_check_eq_ok_iff {draw : Document → Text} {document : Document} {text : Text} :
    (check framed settings (ofDocument document)).map draw = .ok text ↔
      (∀ block ∈ document, block.IsRenderable framed settings) ∧ draw document = text := by
  rw [← check_ofDocument_eq_ok_iff, map_eq_ok_iff]
  constructor
  · rintro ⟨checked, checks, drawn⟩
    obtain rfl := eq_of_check_ofDocument checks
    exact ⟨checks, drawn⟩
  · rintro ⟨checks, drawn⟩
    exact ⟨document, checks, drawn⟩

/-- A document is rendered by rendering its two parts one after the other, with one line feed
between two list items and two between other blocks. So a block between others is rendered as it is
alone, and one without any text still has a line of its own. A document is rendered if each of its
blocks can be. -/
theorem rendersByParts (settings : Settings) :
    (∀ render ∈ [styled settings, plain settings], RendersByParts render ∧
      ∀ before block after, ∀ (before_ne : before ≠ []) (after_ne : after ≠ []),
        render (ofDocument (before ++ block :: after)) = do
          let above ← render (ofDocument before)
          let own ← render (ofDocument [block])
          let below ← render (ofDocument after)
          return above ++ (before.getLast before_ne).gap block ++ own ++
            block.gap (after.head after_ne) ++ below) ∧
    (∀ document text,
      (styled settings (ofDocument document) = .ok text ↔
        (∀ block ∈ document, block.IsRenderable true settings) ∧
          document.styled settings.layout = text) ∧
      (plain settings (ofDocument document) = .ok text ↔
        (∀ block ∈ document, block.IsRenderable false settings) ∧
          document.plain settings.layout = text)) ∧
    plain settings (ofDocument [.separator]) = .ok [] ∧
    (∀ framed, plain settings (ofDocument [.code ⟨[], framed⟩]) = .ok []) ∧
    styled settings (ofDocument [.code ⟨[], false⟩]) = .ok [] ∧
    (isWritableValue settings.bulletMarker = true →
      plain settings (ofDocument [.item ⟨.bullet, [], []⟩]) =
        .ok (settings.bulletMarker.display ++ [' '])) := by
  have styled_parts : RendersByParts (styled settings) :=
    rendersByParts_map_document Painter.styled true settings
  have plain_parts : RendersByParts (plain settings) :=
    rendersByParts_map_document Painter.plain false settings
  refine ⟨?_, fun document text => ⟨map_check_eq_ok_iff, map_check_eq_ok_iff⟩, ?_, fun framed => ?_,
    ?_, fun writable => ?_⟩
  · rw [List.forall_mem_cons, List.forall_mem_singleton]
    exact ⟨⟨styled_parts, fun _ block _ before_ne => styled_parts.between before_ne block⟩,
      ⟨plain_parts, fun _ block _ before_ne => plain_parts.between before_ne block⟩⟩
  · exact map_check_eq_ok_iff.mpr ⟨by simp [Block.IsRenderable], rfl⟩
  · exact map_check_eq_ok_iff.mpr ⟨by simp [Block.IsRenderable], rfl⟩
  · exact map_check_eq_ok_iff.mpr ⟨by simp [Block.IsRenderable], rfl⟩
  · exact map_check_eq_ok_iff.mpr
      ⟨by simpa [Block.IsRenderable] using writable, List.append_nil _⟩

/-- An item with a number. -/
def leadingItem : Document :=
  [.item ⟨.number 7, [⟨['a'], .bold⟩], []⟩]

/-- A rule and code without any text, and a header. -/
def blankBlocks : Document :=
  [.separator, .code ⟨[], true⟩, .header ['b']]

theorem rendersByParts_blankBlocks :
    leadingItem ≠ [] ∧ blankBlocks ≠ [] ∧
      isWritableValue ({} : Settings).bulletMarker = true ∧
      plain {} (ofDocument (leadingItem ++ blankBlocks)) = .ok "7. a\n\n\n\n\n\nb".toList ∧
      plain {} (ofDocument (leadingItem ++ .item ⟨.bullet, [], []⟩ :: blankBlocks)) =
        .ok "7. a\n• \n\n\n\n\n\nb".toList := by
  have leading_ne : leadingItem ≠ [] := List.cons_ne_nil _ _
  have blank_ne : blankBlocks ≠ [] := List.cons_ne_nil _ _
  have writable : isWritableValue ({} : Settings).bulletMarker = true := rfl
  have upper : plain {} (ofDocument leadingItem) = .ok "7. a".toList := by decide +kernel
  have lower : plain {} (ofDocument blankBlocks) = .ok "\n\n\n\nb".toList := by decide +kernel
  obtain ⟨parts, -, -, -, -, bullet⟩ := rendersByParts {}
  obtain ⟨joined, between⟩ := parts (plain {}) (by simp)
  have whole := joined leadingItem blankBlocks leading_ne blank_ne
  have parted := between leadingItem (.item ⟨.bullet, [], []⟩) blankBlocks leading_ne blank_ne
  rw [upper, lower] at whole
  rw [upper, bullet writable, lower] at parted
  exact ⟨leading_ne, blank_ne, writable, whole, parted⟩

end Draft
end ChatReply
