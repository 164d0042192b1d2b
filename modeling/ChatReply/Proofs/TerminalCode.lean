import ChatReply.Draft
import ChatReply.Proofs.CodeLine

/-!
# Documents without their terminal codes

Styling puts terminal codes around pieces of text and leaves everything else alone. Where no text
holds an escape character, taking the codes out again leaves what is drawn without any, whatever
stands next to them. This needs nothing of a painter but that it puts a row of codes in front of a
text and one that resets them behind it, whichever codes these are.
-/

namespace ChatReply
namespace Paint

/-! ## Texts and codes -/

theorem strip_nil : strip [] = [] := by
  rw [strip]

theorem strip_cons {c : Char} (ordinary : c ≠ escapeChar) (text : Text) :
    strip (c :: text) = c :: strip text := by
  have no_code : codeLength (c :: text) = 0 := by
    unfold codeLength
    split
    · rename_i same
      obtain ⟨rfl, -⟩ := List.cons.inj same
      exact if_neg ordinary
    · rfl
  rw [strip, if_pos no_code]

theorem isParameter_of_mem_repr {code : Nat} {c : Char} (member : c ∈ (Nat.repr code).toList) :
    isParameter c = true := by
  rw [Nat.toList_repr] at member
  have digit := Nat.isDigit_of_mem_toDigits (by decide) (by decide) member
  simp only [Char.isDigit, Bool.and_eq_true, decide_eq_true_eq] at digit
  simp only [isParameter, Bool.or_eq_true, Bool.and_eq_true, decide_eq_true_eq]
  exact .inr digit

/-- A code that selects graphic renditions is taken out whatever stands behind it. -/
theorem strip_selection {parameters : Text} (parameters_ok : ∀ c ∈ parameters, isParameter c = true)
    (rest : Text) :
    strip (escapeChar :: '[' :: (parameters ++ 'm' :: rest)) = strip rest := by
  have span : (parameters ++ 'm' :: rest).takeWhile isParameter = parameters := by
    rw [List.takeWhile_append_of_pos parameters_ok, List.takeWhile_cons_of_neg (by decide),
      List.append_nil]
  have final : (parameters ++ 'm' :: rest).drop parameters.length = 'm' :: rest := List.drop_left
  have letter : 'm'.isAlpha = true := by decide
  have length_eq : codeLength (escapeChar :: '[' :: (parameters ++ 'm' :: rest)) =
      parameters.length + 3 := by
    simp only [codeLength, if_pos, span, final]
    simp [letter]
  have behind : (escapeChar :: '[' :: (parameters ++ 'm' :: rest)).drop (parameters.length + 3) =
      rest := by
    rw [List.drop_succ_cons, List.drop_succ_cons, ← List.drop_drop, final]
    rfl
  rw [strip, length_eq, if_neg (Nat.succ_ne_zero _), behind]

/-- A row of terminal codes that select graphic renditions. -/
inductive IsCodeRow : Text → Prop
  | nil : IsCodeRow []
  | cons {parameters row : Text} (parameters_ok : ∀ c ∈ parameters, isParameter c = true)
      (later : IsCodeRow row) : IsCodeRow (escapeChar :: '[' :: (parameters ++ 'm' :: row))

theorem IsCodeRow.append {row other : Text} (first : IsCodeRow row) (second : IsCodeRow other) :
    IsCodeRow (row ++ other) := by
  induction first with
  | nil => exact second
  | cons parameters_ok _ ih =>
      simpa [List.append_assoc] using IsCodeRow.cons parameters_ok ih

theorem isCodeRow_select (code : Nat) : IsCodeRow (select code) :=
  .cons (fun _ => isParameter_of_mem_repr) .nil

theorem isCodeRow_codes (look : Look) : IsCodeRow (codes look) := by
  have color (chosen : Option Color) (number : Color → Nat) :
      IsCodeRow ((chosen.map fun color => select (number color)).getD []) := by
    cases chosen with
    | none => exact .nil
    | some chosen => exact isCodeRow_select (number chosen)
  refine ((color look.foreground _).append (color look.background _)).append ?_
  split
  · exact isCodeRow_select 1
  · exact .nil

/-! ## Styled and plain texts -/

/-- Without its terminal codes the styled text is the plain one, whatever stands behind it. -/
def Strips (styled plain : Text) : Prop :=
  ∀ rest, strip (styled ++ rest) = plain ++ strip rest

theorem strips_nil : Strips [] [] :=
  fun _ => rfl

theorem Strips.strip_eq {styled plain : Text} (strips : Strips styled plain) :
    strip styled = plain := by
  have alone := strips []
  rwa [List.append_nil, strip_nil, List.append_nil] at alone

theorem Strips.append {styled plain styled' plain' : Text} (first : Strips styled plain)
    (second : Strips styled' plain') : Strips (styled ++ styled') (plain ++ plain') := by
  intro rest
  rw [List.append_assoc, first, second, List.append_assoc]

/-- A text without an escape character has no codes to take out. -/
theorem strips_of_not_mem {text : Text} (free : escapeChar ∉ text) : Strips text text := by
  intro rest
  induction text with
  | nil => rfl
  | cons c text ih =>
      obtain ⟨ordinary, later⟩ := List.ne_and_not_mem_of_not_mem_cons free
      rw [List.cons_append, strip_cons ordinary.symm, ih later, List.cons_append]

theorem Strips.flatMap {Part : Type} {parts : List Part} {styled plain : Part → Text}
    (each : ∀ part ∈ parts, Strips (styled part) (plain part)) :
    Strips (parts.flatMap styled) (parts.flatMap plain) := by
  induction parts with
  | nil => exact strips_nil
  | cons part parts ih =>
      obtain ⟨first, later⟩ := List.forall_mem_cons.mp each
      exact first.append (ih later)

theorem strips_joinLines {styled plain : List Text} (each : List.Forall₂ Strips styled plain) :
    Strips (joinLines styled) (joinLines plain) := by
  have newline : Strips ['\n'] ['\n'] := strips_of_not_mem (by decide)
  induction each with
  | nil => exact strips_nil
  | cons first later ih =>
      cases later with
      | nil => exact first
      | cons second later =>
          rw [joinLines_cons _ (List.cons_ne_nil _ _), joinLines_cons _ (List.cons_ne_nil _ _)]
          exact first.append (newline.append ih)

theorem IsCodeRow.strips {row : Text} (codes : IsCodeRow row) : Strips row [] := by
  intro rest
  induction codes with
  | nil => rfl
  | cons parameters_ok _ ih =>
      rw [List.cons_append, List.cons_append, List.append_assoc, List.cons_append,
        strip_selection parameters_ok, ih]

end Paint

/-! ## Painters that style -/

open Paint (Strips IsCodeRow escapeChar strips_nil strips_of_not_mem strips_joinLines)

namespace Painter

/-- The painter leaves a text as it is, or puts it between a row of codes that select renditions and
the code that resets them. -/
def IsStyling (paint : Painter) : Prop :=
  ∀ role text, paint role text = text ∨
    ∃ row, IsCodeRow row ∧ paint role text = row ++ text ++ Paint.select 0

theorem isStyling_styled : styled.IsStyling := by
  intro role text
  unfold styled Paint.draw
  split
  · exact .inl rfl
  · exact .inr ⟨_, Paint.isCodeRow_codes role.look, rfl⟩

variable {paint : Painter} (styling : paint.IsStyling)
include styling

theorem strips_paint (role : Role) {text : Text} (free : escapeChar ∉ text) :
    Strips (paint role text) (plain role text) := by
  obtain drawn_eq | ⟨row, codes, drawn_eq⟩ := styling role text
  · rw [drawn_eq]
    exact strips_of_not_mem free
  · have drawn := (codes.strips.append (strips_of_not_mem free)).append
      (Paint.isCodeRow_select 0).strips
    rw [List.nil_append, List.append_nil] at drawn
    rwa [drawn_eq]

theorem strips_runs {runs : List Run} (free : ∀ run ∈ runs, escapeChar ∉ run.text) :
    Strips (paint.runs runs) (plain.runs runs) :=
  Strips.flatMap fun run member => strips_paint styling (.run run.style) (free run member)

theorem strips_tokens {tokens : List Token} (free : ∀ token ∈ tokens, escapeChar ∉ token.text) :
    Strips (paint.tokens tokens) (plain.tokens tokens) :=
  Strips.flatMap fun token member => strips_paint styling (.token token.kind) (free token member)

end Painter

namespace Render

/-! ## Code -/

theorem not_mem_expandText {c : Char} (visible : c ≠ ' ') {text : Text} (absent : c ∉ text)
    (column : Nat) : c ∉ expandText column text := by
  induction text generalizing column with
  | nil => exact absent
  | cons head text ih =>
      obtain ⟨head_ne, absent⟩ := List.ne_and_not_mem_of_not_mem_cons absent
      have first : c ∉ expandChar column head := by
        unfold expandChar
        split
        · simp [visible]
        · simpa using head_ne
      exact List.not_mem_append first (ih absent _)

theorem not_mem_text_of_mem_expandFrom {c : Char} (visible : c ≠ ' ') {tokens : List Token}
    (absent : ∀ token ∈ tokens, c ∉ token.text) (column : Nat) :
    ∀ token ∈ expandFrom column tokens, c ∉ token.text := by
  induction tokens generalizing column with
  | nil => exact absent
  | cons token tokens ih =>
      obtain ⟨first, later⟩ := List.forall_mem_cons.mp absent
      exact List.forall_mem_cons.mpr ⟨not_mem_expandText visible first column, ih later _⟩

theorem not_mem_repeated {c other : Char} (apart : c ≠ other) (count : Int) :
    c ∉ repeated count other := by
  simp [repeated, apart]

theorem forall₂_strips_map {Part : Type} {styled plain : Part → Text} {parts : List Part}
    (each : ∀ part ∈ parts, Strips (styled part) (plain part)) :
    List.Forall₂ Strips (parts.map styled) (parts.map plain) := by
  rwa [List.forall₂_map_left_iff, List.forall₂_map_right_iff, List.forall₂_same]

section

variable {paint : Painter} (styling : paint.IsStyling)
include styling

theorem strips_boxSide (inner : Int) {left right : Char} (left_ne : escapeChar ≠ left)
    (right_ne : escapeChar ≠ right) :
    Strips (boxSide paint inner left right) (boxSide Painter.plain inner left right) := by
  apply Painter.strips_paint styling
  have side : escapeChar ∉ repeated inner '─' := not_mem_repeated (by decide) inner
  simp [left_ne, right_ne, side]

theorem strips_boxLine (padding inner : Int) {row : List Token}
    (free : ∀ token ∈ row, escapeChar ∉ token.text) :
    Strips (boxLine paint padding inner row)
      (boxLine Painter.plain padding inner row) := by
  have edge : Strips (paint (.element .codeFrame) ['│'])
      (Painter.plain (.element .codeFrame) ['│']) := Painter.strips_paint styling _ (by decide)
  have spaces (count : Int) : Strips (repeated count ' ') (repeated count ' ') :=
    strips_of_not_mem (not_mem_repeated (by decide) count)
  exact ((((edge.append (spaces padding)).append (Painter.strips_tokens styling free)).append
    (spaces _)).append (spaces padding)).append edge

theorem forall₂_strips_code (framed : Bool) (padding : Int) {block : CodeBlock}
    (free : ∀ token ∈ block.tokens, escapeChar ∉ token.text) :
    List.Forall₂ Strips (code paint framed padding block)
      (code Painter.plain framed padding block) := by
  have rows_free : ∀ row ∈ codeLines block.tokens, ∀ token ∈ row, escapeChar ∉ token.text := by
    intro row row_mem token member
    obtain ⟨-, source, source_mem, piece⟩ := exists_source_of_mem_codeLines row_mem member
    exact fun inside => free source source_mem (subset_of_mem_lines piece inside)
  unfold code
  split
  · have middle : ∀ row ∈ (codeLines block.tokens).map expandTabs,
        ∀ token ∈ row, escapeChar ∉ token.text := by
      intro row row_mem
      obtain ⟨source, source_mem, rfl⟩ := List.mem_map.mp row_mem
      exact not_mem_text_of_mem_expandFrom (by decide) (rows_free source source_mem) 0
    refine List.rel_append (.cons ?_ ?_) (.cons ?_ .nil)
    · exact strips_boxSide styling _ (by decide) (by decide)
    · exact forall₂_strips_map fun row row_mem => strips_boxLine styling _ _ (middle row row_mem)
    · exact strips_boxSide styling _ (by decide) (by decide)
  · exact forall₂_strips_map fun row row_mem =>
      Painter.strips_tokens styling (rows_free row row_mem)

end

end Render

/-! ## Documents -/

/-- The texts of a block, its marker aside. -/
def Block.texts : Block → List Text
  | paragraph runs => runs.map Run.text
  | header text => [text]
  | separator => []
  | code block => block.tokens.map Token.text
  | item entry => (entry.runs :: entry.continuation).flatMap fun runs => runs.map Run.text

/-- Nothing is drawn for the block that its text lacks: it is no rule and no framed code. -/
def Block.isBare : Block → Bool
  | separator => false
  | code block => !block.framed
  | _ => true

namespace Render

theorem escapeChar_not_mem_markerText {layout : Layout}
    (marker_free : escapeChar ∉ layout.bulletMarker) (marker : Marker) :
    escapeChar ∉ markerText layout marker := by
  have digits (value : Nat) : escapeChar ∉ (Nat.repr value).toList :=
    fun member => absurd (Paint.isParameter_of_mem_repr member) (by decide)
  have sign : escapeChar ≠ '-' := by decide
  cases marker with
  | bullet => exact List.not_mem_append marker_free (by decide)
  | number value =>
      refine List.not_mem_append ?_ (by decide)
      cases value with
      | ofNat value => exact digits value
      | negSucc value => exact List.not_mem_cons_of_ne_of_not_mem sign (digits (value + 1))

section

variable {paint : Painter} (styling : paint.IsStyling)
include styling

theorem forall₂_strips_item {layout : Layout} (marker_free : escapeChar ∉ layout.bulletMarker)
    {entry : Item} (free : ∀ runs ∈ entry.runs :: entry.continuation,
      ∀ run ∈ runs, escapeChar ∉ run.text) :
    List.Forall₂ Strips (item paint layout entry) (item Painter.plain layout entry) := by
  obtain ⟨first, further⟩ := List.forall_mem_cons.mp free
  have marker := Painter.strips_paint styling (.element .listMarker)
    (escapeChar_not_mem_markerText marker_free entry.marker)
  refine .cons (marker.append (Painter.strips_runs styling first)) (forall₂_strips_map ?_)
  intro runs member
  have indent : escapeChar ∉ List.replicate (markerText layout entry.marker).length ' ' := by
    simp [show escapeChar ≠ ' ' by decide]
  exact (strips_of_not_mem indent).append (Painter.strips_runs styling (further runs member))

/-- Line by line, a block drawn by the one painter is the block drawn by the other. -/
theorem forall₂_strips_block (framed : Bool) {layout : Layout}
    (marker_free : escapeChar ∉ layout.bulletMarker) {entry : Block}
    (free : ∀ text ∈ entry.texts, escapeChar ∉ text) :
    List.Forall₂ Strips (block paint framed layout entry)
      (block Painter.plain framed layout entry) := by
  cases entry with
  | paragraph runs =>
      refine .cons (Painter.strips_runs styling fun run member => ?_) .nil
      exact free _ (List.mem_map_of_mem member)
  | header text => exact .cons (Painter.strips_paint styling _ (free text List.mem_cons_self)) .nil
  | separator =>
      refine .cons ?_ .nil
      split
      · exact Painter.strips_paint styling _ (by decide)
      · exact strips_nil
  | code codeBlock =>
      exact forall₂_strips_code styling framed _ fun token member =>
        free _ (List.mem_map_of_mem member)
  | item entry =>
      refine forall₂_strips_item styling marker_free fun runs runs_mem run run_mem => free _ ?_
      exact List.mem_flatMap.mpr ⟨runs, runs_mem, List.mem_map_of_mem run_mem⟩

theorem forall₂_strips_documentLines (framed : Bool) {layout : Layout}
    (marker_free : escapeChar ∉ layout.bulletMarker) {document : Document}
    (free : ∀ block ∈ document, ∀ text ∈ block.texts, escapeChar ∉ text) :
    List.Forall₂ Strips (documentLines paint framed layout document)
      (documentLines Painter.plain framed layout document) := by
  induction document with
  | nil => exact .nil
  | cons previous rest ih =>
      obtain ⟨first, later⟩ := List.forall_mem_cons.mp free
      have drawn := forall₂_strips_block styling framed marker_free first
      cases rest with
      | nil => exact drawn
      | cons next rest =>
          have space : List.Forall₂ Strips (spacing previous next) (spacing previous next) := by
            unfold spacing
            split
            · exact .nil
            · exact .cons strips_nil .nil
          exact List.rel_append (List.rel_append drawn space) (ih later)

end

theorem documentLines_of_isBare (paint : Painter) (layout : Layout) {document : Document}
    (bare : ∀ block ∈ document, block.isBare) :
    documentLines paint true layout document = documentLines paint false layout document := by
  have block_eq (entry : Block) (entry_bare : entry.isBare) :
      block paint true layout entry = block paint false layout entry := by
    cases entry with
    | separator => simp [Block.isBare] at entry_bare
    | code codeBlock =>
        have unframed : codeBlock.framed = false := by simpa [Block.isBare] using entry_bare
        simp [block, code, unframed]
    | paragraph | header | item => rfl
  induction document with
  | nil => rfl
  | cons previous rest ih =>
      obtain ⟨first, later⟩ := List.forall_mem_cons.mp bare
      cases rest with
      | nil => exact block_eq previous first
      | cons next rest => rw [documentLines, documentLines, block_eq previous first, ih later]

end Render

/-! ## Drafts -/

namespace Draft

/-- A draft that is a document and can be rendered is rendered as that document. -/
theorem eq_of_check_ofDocument {framed : Bool} {settings : Settings} {document checked : Document}
    (checks : check framed settings (ofDocument document) = .ok checked) : checked = document := by
  have entry_eq {block other : Block}
      (entry_checks : checkEntry framed settings (.block block) = .ok other) : other = block := by
    unfold checkEntry at entry_checks
    grind
  induction document generalizing checked with
  | nil => exact (Except.ok.inj checks).symm
  | cons block document ih =>
      rw [ofDocument, List.map_cons, check] at checks
      split at checks
      · simp at checks
      · rename_i other entry_checks
        obtain ⟨others, rest_checks, rfl⟩ := map_eq_ok_iff.mp checks
        rw [entry_eq entry_checks, ih rest_checks]

theorem check_of_isBare {document : Document} (bare : ∀ block ∈ document, block.isBare)
    (settings : Settings) :
    check true settings (ofDocument document) = check false settings (ofDocument document) := by
  have entry_eq (block : Block) (block_bare : block.isBare) :
      checkEntry true settings (.block block) = checkEntry false settings (.block block) := by
    cases block with
    | code codeBlock =>
        have unframed : codeBlock.framed = false := by simpa [Block.isBare] using block_bare
        simp [checkEntry, unframed]
    | item entry =>
        obtain ⟨marker, runs, continuation⟩ := entry
        cases marker <;> rfl
    | paragraph | header | separator => rfl
  induction document with
  | nil => rfl
  | cons block document ih =>
      obtain ⟨first, later⟩ := List.forall_mem_cons.mp bare
      rw [ofDocument] at ih ⊢
      rw [List.map_cons, check, check, entry_eq block first, ih later]

end Draft

namespace Document

/-- Taking the terminal codes out of a styled document leaves the document drawn without any, with
frames and without, whichever codes the painter uses. A document with no rules and no framed code is
left as its text, and it can be rendered styled if its text can be rendered. -/
theorem strip_document (layout : Layout) (document : Document)
    (marker_free : escapeChar ∉ layout.bulletMarker)
    (free : ∀ block ∈ document, ∀ text ∈ block.texts, escapeChar ∉ text) :
    (∀ paint : Painter, paint.IsStyling → ∀ framed,
      Paint.strip (Render.document paint framed layout document) =
        Render.document Painter.plain framed layout document) ∧
    (∀ framed, Paint.strip (Render.document Painter.styled framed layout document) =
      Render.document Painter.plain framed layout document) ∧
    ((∀ block ∈ document, block.isBare) →
      Paint.strip (document.styled layout) = document.plain layout ∧
        ∀ settings : Settings, settings.layout = layout →
          (Draft.styled settings (Draft.ofDocument document)).map Paint.strip =
            Draft.plain settings (Draft.ofDocument document)) := by
  have painted (paint : Painter) (styling : paint.IsStyling) (framed : Bool) :
      Paint.strip (Render.document paint framed layout document) =
        Render.document Painter.plain framed layout document :=
    (strips_joinLines
      (Render.forall₂_strips_documentLines styling framed marker_free free)).strip_eq
  have stripped := painted Painter.styled Painter.isStyling_styled
  refine ⟨painted, stripped, fun bare => ?_⟩
  have left_eq : Paint.strip (document.styled layout) = document.plain layout := by
    rw [styled, stripped true, Render.document, Render.documentLines_of_isBare _ _ bare]
    rfl
  refine ⟨left_eq, ?_⟩
  rintro settings rfl
  rw [Draft.styled, Draft.plain, Draft.check_of_isBare bare]
  cases checks : Draft.check false settings (Draft.ofDocument document) with
  | error error => rfl
  | ok checked =>
      obtain rfl := Draft.eq_of_check_ofDocument checks
      exact congrArg Except.ok left_eq

/-- A header, a keyword and an item that hold what a code holds behind its escape character. -/
def bracketed : Document :=
  [.header "[1m".toList, .code ⟨[⟨"if".toList, .keyword⟩, ⟨"[0m".toList, .operator⟩], false⟩,
    .item ⟨.bullet, [⟨"0m".toList, .bold⟩], []⟩]

theorem strip_document_bracketed :
    bracketed.styled {} ≠ bracketed.plain {} ∧
      Paint.strip (bracketed.styled {}) = bracketed.plain {} ∧
      (Draft.styled {} (Draft.ofDocument bracketed)).map Paint.strip =
        Draft.plain {} (Draft.ofDocument bracketed) ∧
      Paint.strip (Render.document Painter.styled true {} (.separator :: bracketed)) =
        Render.document Painter.plain true {} (.separator :: bracketed) := by
  obtain ⟨-, -, bare⟩ := strip_document {} bracketed (by decide) (by decide)
  obtain ⟨left_eq, drafts⟩ := bare (by decide)
  have framed := (strip_document {} (.separator :: bracketed) (by decide) (by decide)).2.1 true
  exact ⟨by decide +kernel, left_eq, drafts {} (by decide), framed⟩

end Document
end ChatReply
