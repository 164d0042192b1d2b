import ChatReply.Proofs.Concatenation
import ChatReply.Proofs.DelimitedRun
import ChatReply.Proofs.OpeningMark
import ChatReply.Render.Page

/-!
# Prose that is read again

A reply of paragraphs is a row of plain lines, which blank lines divide into paragraphs. Its plain
text has one line for each paragraph, with the lines of the paragraph joined by spaces. Read again,
that line is a paragraph unless it opens with the mark of an item or of a header, and without marks
of code or bold text it does so only where the first of several joined lines was such a mark alone.
-/

namespace ChatReply

/-- The block is a paragraph. -/
def Block.IsParagraph (block : Block) : Prop :=
  ∃ runs, block = .paragraph runs

namespace Reply

/-! ## Plain lines -/

/-- The line is text of a paragraph wherever a paragraph may stand. -/
structure IsPlain (line : Text) : Prop where
  filled : isBlankText line = false
  no_fence : isFence (trim line) = false
  no_block : ¬StartsBlock line
  no_separator : isSeparator line = false

theorem not_startsBlock_iff {line : Text} :
    ¬StartsBlock line ↔ itemKind? line = none ∧ header? line = none := by
  simp [StartsBlock, startsItem_eq_isSome]

/-- Without backticks there is no fence. -/
theorem isFence_trim_eq_false {line : Text} (no_code : Delimiter.code.mark ∉ line) :
    isFence (trim line) = false := by
  by_contra fence
  have first := head?_of_isFence (by simpa using fence)
  exact no_code ((trim_isInfix line).subset (List.mem_of_head? first))

namespace Stream

variable {framed : Bool}

/-- No block is open but perhaps a paragraph. -/
inductive Pending.IsText : Pending → Prop
  | idle : IsText idle
  | text (runs : List Run) : IsText (text runs)

theorem exists_feed_eq_feedText (framed : Bool) (blocks : List Block) {pending : Pending}
    (is_text : pending.IsText) (line : Text) :
    ∃ runs, (Stream.mk blocks pending).feed framed line =
      (Stream.mk blocks pending).feedText framed runs line := by
  cases is_text with
  | idle => exact ⟨[], feed_idle blocks line⟩
  | text runs => exact ⟨joined runs line, feed_text blocks runs line⟩

/-- A reply without fences has nothing but paragraphs only if its lines are plain or blank. -/
theorem isPlain_of_endingAfter {blocks : List Block} {pending : Pending} (is_text : pending.IsText)
    {lines : List Text} (no_code : ∀ line ∈ lines, Delimiter.code.mark ∉ line) {ending : Ending}
    (ends : (Stream.mk blocks pending).endingAfter framed lines = .ok ending)
    (prose : ∀ block ∈ ending.document, block.IsParagraph) :
    ∀ line ∈ lines, isBlankText line = true ∨ IsPlain line := by
  induction lines generalizing blocks pending with
  | nil => simp
  | cons line lines ih =>
      obtain ⟨line_no_code, later_no_code⟩ := List.forall_mem_cons.mp no_code
      obtain ⟨runs, fed⟩ := exists_feed_eq_feedText framed blocks is_text line
      obtain ⟨effect, step, stepped⟩ := exists_textStep line runs
      rw [endingAfter_cons, fed, stepped] at ends
      -- A block of another kind would stay in the document.
      have only_prose {next : Stream} {later : List Text}
          (ends : next.endingAfter framed later = .ok ending) :
          ∀ block ∈ next.blocks, block.IsParagraph :=
        fun block found => prose block ((blocks_isPrefix_of_endingAfter ends).subset found)
      rw [List.forall_mem_cons]
      cases step with
      | fence marks => simp [isFence_trim_eq_false line_no_code] at marks
      | item found =>
          simp only [Effect.apply, turn_text, Except.bind] at ends
          rw [endingAfter_item] at ends
          obtain ⟨item, -, ends⟩ := bind_eq_ok_iff.mp ends
          obtain ⟨runs, other⟩ := only_prose ends (.item item) (by simp)
          cases other
      | @header text found =>
          obtain ⟨runs, other⟩ := only_prose ends (.header text) (by simp)
          cases other
      | separator found =>
          obtain ⟨runs, other⟩ := only_prose ends .separator (by simp)
          cases other
      | blank blank => exact ⟨.inl blank, ih .idle later_no_code ends⟩
      | text no_fence no_item no_header no_separator filled =>
          have no_block := not_startsBlock_iff.mpr ⟨no_item, no_header⟩
          exact ⟨.inr ⟨filled, no_fence, no_block, no_separator⟩, ih (.text _) later_no_code ends⟩

end Stream

/-! ## Rows of lines -/

/-- The rows of neighbouring lines that are not blank. -/
def rowsOf (lines : List Text) : List (List Text) :=
  (lines.splitOnP isBlankText).filter (· ≠ [])

/-- The runs of the paragraph that a row of lines makes. -/
def rowRuns : List Text → List Run
  | [] => []
  | first :: later =>
    Run.ofLine first ++ later.flatMap fun line => ⟨[' '], .plain⟩ :: Run.ofLine line

/-- The paragraphs that rows of lines make. -/
def paragraphs (rows : List (List Text)) : Document :=
  rows.map fun row => .paragraph (rowRuns row)

theorem rowRuns_append {row : List Text} (row_ne : row ≠ []) (line : Text) :
    rowRuns (row ++ [line]) = rowRuns row ++ ⟨[' '], .plain⟩ :: Run.ofLine line := by
  obtain ⟨first, later, rfl⟩ := List.exists_cons_of_ne_nil row_ne
  simp [rowRuns]

namespace Stream

variable {framed : Bool}

/-- What is open behind a row of plain lines. -/
def Pending.ofRow (row : List Text) : Pending :=
  if row = [] then idle else text (rowRuns row)

theorem close_ofRow (row : List Text) :
    (Pending.ofRow row).close framed = .ok (Scan.paragraphBlocks (rowRuns row)) := by
  rw [Pending.ofRow]
  split
  · rename_i nothing
    rw [nothing]
    rfl
  · rfl

theorem isFence_ofRow (row : List Text) : (Pending.ofRow row).isFence = false := by
  rw [Pending.ofRow]
  split <;> rfl

theorem feed_ofRow_of_isPlain (blocks : List Block) (row : List Text) {line : Text}
    (plain : IsPlain line) :
    (Stream.mk blocks (.ofRow row)).feed framed line = .ok ⟨blocks, .ofRow (row ++ [line])⟩ := by
  obtain ⟨filled, no_fence, no_block, no_separator⟩ := plain
  obtain ⟨no_item, no_header⟩ := not_startsBlock_iff.mp no_block
  have read (stream : Stream) (runs : List Run) :
      stream.feedText framed runs line =
        .ok { stream with pending := .text (runs ++ Run.ofLine line) } := by
    simp [feedText, no_fence, ItemLines.start?_eq_none no_item, no_header, no_separator, filled,
      continueWith]
  by_cases row_eq : row = []
  · rw [row_eq]
    simp [Pending.ofRow, feed_idle, read, rowRuns]
  · simp [Pending.ofRow, row_eq, feed_text, read, joined, filled, rowRuns_append]

theorem modifyHead_nil_append (rows : List (List Text)) : rows.modifyHead ([] ++ ·) = rows := by
  cases rows <;> rfl

/-- Plain lines make one paragraph for each row, with the first row going on with what is open. -/
theorem endingAfter_ofRow (framed : Bool) (blocks : List Block) (row : List Text)
    {lines : List Text} (plain : ∀ line ∈ lines, isBlankText line = true ∨ IsPlain line) :
    (Stream.mk blocks (.ofRow row)).endingAfter framed lines =
      .ok ⟨false, blocks ++ ((lines.splitOnP isBlankText).modifyHead (row ++ ·)).flatMap
        fun row => Scan.paragraphBlocks (rowRuns row)⟩ := by
  induction lines generalizing blocks row with
  | nil =>
      rw [endingAfter_nil, ending, finish, close_ofRow, isFence_ofRow]
      simp [Except.map]
  | cons line lines ih =>
      obtain ⟨line_plain, later_plain⟩ := List.forall_mem_cons.mp plain
      rw [endingAfter_cons, List.splitOnP_cons_eq_if_modifyHead]
      rcases line_plain with blank | line_plain
      · have ended : (Stream.mk blocks (.ofRow row)).feed framed line =
            .ok ⟨blocks ++ Scan.paragraphBlocks (rowRuns row), .ofRow []⟩ := by
          rw [feed_of_isBlankText (isFence_ofRow row) blank, finish, close_ofRow]
          rfl
        rw [ended, if_pos blank]
        refine (ih _ [] later_plain).trans ?_
        rw [modifyHead_nil_append, List.modifyHead_cons, List.append_nil, List.flatMap_cons,
          List.append_assoc]
      · rw [feed_ofRow_of_isPlain blocks row line_plain, if_neg (by simp [line_plain.filled])]
        simp [Except.bind, ih _ _ later_plain, Function.comp_def]

end Stream

/-! ## Unmarked text -/

/-- The text has neither marks of code nor marks of bold text. -/
structure IsUnmarked (text : Text) : Prop where
  no_code : Delimiter.code.mark ∉ text
  no_bold : Delimiter.bold.mark ∉ text

theorem IsUnmarked.subset {text part : Text} (unmarked : IsUnmarked text) (inside : part ⊆ text) :
    IsUnmarked part :=
  ⟨fun mark => unmarked.no_code (inside mark), fun mark => unmarked.no_bold (inside mark)⟩

/-- A text is unmarked if each character is a blank or comes from an unmarked text. -/
theorem isUnmarked_of_forall_mem {text : Text}
    (known : ∀ c ∈ text, isBlank c = true ∨ ∃ part, IsUnmarked part ∧ c ∈ part) :
    IsUnmarked text := by
  constructor
  · intro mark_mem
    rcases known _ mark_mem with blank | ⟨part, unmarked, inside⟩
    · exact absurd blank (by decide)
    · exact unmarked.no_code inside
  · intro mark_mem
    rcases known _ mark_mem with blank | ⟨part, unmarked, inside⟩
    · exact absurd blank (by decide)
    · exact unmarked.no_bold inside

theorem IsUnmarked.ofLine_eq {line : Text} (unmarked : IsUnmarked line) :
    Run.ofLine line = Run.ofPlain line := by
  rw [Run.ofLine_of_not_mem unmarked.no_code, Run.ofProse_of_not_mem unmarked.no_bold]

theorem plainText_ofPlain (text : Text) : Run.plainText (Run.ofPlain text) = text := by
  rw [Run.ofPlain]
  split
  · rename_i nothing
    rw [nothing]
    rfl
  · simp [Run.plainText]

/-- The paragraph of unmarked lines has the lines joined by spaces as its text. -/
theorem plainText_rowRuns {row : List Text} (unmarked : ∀ line ∈ row, IsUnmarked line) :
    Run.plainText (rowRuns row) = joinWith [' '] row := by
  cases row with
  | nil => rfl
  | cons first later =>
      obtain ⟨first_unmarked, later_unmarked⟩ := List.forall_mem_cons.mp unmarked
      have kept {line : Text} (unmarked : IsUnmarked line) :
          (Run.ofLine line).flatMap Run.text = line := by
        rw [unmarked.ofLine_eq]
        exact plainText_ofPlain line
      rw [rowRuns, Run.plainText, List.flatMap_append, kept first_unmarked, List.flatMap_assoc,
        joinWith_eq_append_flatMap]
      congr 1
      refine List.flatMap_congr fun line line_mem => ?_
      rw [List.flatMap_cons, kept (later_unmarked line line_mem)]

theorem rowRuns_ne_nil {row : List Text} (row_ne : row ≠ [])
    (unmarked : ∀ line ∈ row, IsUnmarked line) (filled : ∀ line ∈ row, isBlankText line = false) :
    rowRuns row ≠ [] := by
  intro nothing
  have text_eq := plainText_rowRuns unmarked
  obtain ⟨first, later, rfl⟩ := List.exists_cons_of_ne_nil row_ne
  rw [nothing, joinWith_eq_append_flatMap] at text_eq
  have first_eq : first = [] := (List.append_eq_nil_iff.mp text_eq.symm).1
  simpa [first_eq, isBlankText] using filled first List.mem_cons_self

theorem of_mem_splitOnP {p : Text → Bool} {lines row : List Text}
    (row_mem : row ∈ lines.splitOnP p) :
    ∀ line ∈ row, line ∈ lines ∧ p line = false := by
  induction lines generalizing row with
  | nil =>
      obtain rfl : row = [] := by simpa using row_mem
      simp
  | cons first lines ih =>
      have later {row : List Text} (row_mem : row ∈ lines.splitOnP p) :
          ∀ line ∈ row, line ∈ first :: lines ∧ p line = false := fun line line_mem =>
        (ih row_mem line line_mem).imp_left (List.mem_cons_of_mem first)
      obtain ⟨head, rows, cut⟩ := List.exists_cons_of_ne_nil (List.splitOnP_ne_nil p lines)
      rw [List.splitOnP_cons_eq_if_modifyHead] at row_mem
      split at row_mem
      · rcases List.mem_cons.mp row_mem with rfl | row_mem
        · simp
        · exact later row_mem
      · rename_i kept
        rw [cut] at row_mem
        rcases List.mem_cons.mp row_mem with rfl | row_mem
        · rw [List.forall_mem_cons]
          exact ⟨⟨List.mem_cons_self, by simpa using kept⟩,
            later (cut ▸ List.mem_cons_self)⟩
        · exact later (cut ▸ List.mem_cons_of_mem head row_mem)

theorem of_mem_rowsOf {lines row : List Text} (row_mem : row ∈ rowsOf lines) :
    row ≠ [] ∧ ∀ line ∈ row, line ∈ lines ∧ isBlankText line = false := by
  obtain ⟨row_mem, row_ne⟩ := List.mem_filter.mp row_mem
  exact ⟨by simpa using row_ne, of_mem_splitOnP row_mem⟩

theorem flatMap_paragraphBlocks {rows : List (List Text)}
    (unmarked : ∀ row ∈ rows, ∀ line ∈ row, IsUnmarked line)
    (filled : ∀ row ∈ rows, ∀ line ∈ row, isBlankText line = false) :
    (rows.flatMap fun row => Scan.paragraphBlocks (rowRuns row)) =
      paragraphs (rows.filter (· ≠ [])) := by
  induction rows with
  | nil => rfl
  | cons row rows ih =>
      obtain ⟨row_unmarked, later_unmarked⟩ := List.forall_mem_cons.mp unmarked
      obtain ⟨row_filled, later_filled⟩ := List.forall_mem_cons.mp filled
      rw [List.flatMap_cons, ih later_unmarked later_filled]
      by_cases row_eq : row = []
      · simp [row_eq, rowRuns, Scan.paragraphBlocks]
      · have runs_ne := rowRuns_ne_nil row_eq row_unmarked row_filled
        simp [row_eq, Scan.paragraphBlocks, runs_ne, paragraphs]

section

variable {text : Text} (unmarked : IsUnmarked text)
include unmarked

theorem isUnmarked_of_mem_lines {line : Text} (line_mem : line ∈ lines text) : IsUnmarked line :=
  unmarked.subset (subset_of_mem_lines line_mem)

/-- Plain lines make one paragraph for each row. -/
theorem parse_of_isPlain (framed : Bool)
    (plain : ∀ line ∈ lines text, isBlankText line = true ∨ IsPlain line) :
    parse framed text = .ok (paragraphs (rowsOf (lines text))) := by
  have rows_unmarked : ∀ row ∈ (lines text).splitOnP isBlankText, ∀ line ∈ row, IsUnmarked line :=
    fun row row_mem line line_mem =>
      isUnmarked_of_mem_lines unmarked (of_mem_splitOnP row_mem line line_mem).1
  have rows_filled : ∀ row ∈ (lines text).splitOnP isBlankText,
      ∀ line ∈ row, isBlankText line = false :=
    fun row row_mem line line_mem => (of_mem_splitOnP row_mem line line_mem).2
  have ends := Stream.endingAfter_ofRow framed [] [] plain
  rw [Stream.modifyHead_nil_append, flatMap_paragraphBlocks rows_unmarked rows_filled] at ends
  rw [parse_eq_map_endingAfter]
  exact congrArg (Except.map Ending.document) ends

/-- A reply without marks of code has nothing but paragraphs just if all its lines are plain. -/
theorem isPlain_of_parse {framed : Bool} {document : Document}
    (parsed : parse framed text = .ok document) (prose : ∀ block ∈ document, block.IsParagraph) :
    ∀ line ∈ lines text, isBlankText line = true ∨ IsPlain line := by
  rw [parse_eq_map_endingAfter] at parsed
  obtain ⟨ending, ends, rfl⟩ := map_eq_ok_iff.mp parsed
  have no_code : ∀ line ∈ lines text, Delimiter.code.mark ∉ line :=
    fun line line_mem => (isUnmarked_of_mem_lines unmarked line_mem).no_code
  exact Stream.isPlain_of_endingAfter .idle no_code ends prose

end

/-! ## The plain text of paragraphs -/

/-- The text with one line for each paragraph and an empty line between two of them. -/
def page (texts : List Text) : Text :=
  joinLines (texts.intersperse [])

theorem documentLines_paragraphs (layout : Layout) (rows : List (List Text)) :
    Render.documentLines Painter.plain false layout (paragraphs rows) =
      (rows.map fun row => Run.plainText (rowRuns row)).intersperse [] := by
  induction rows with
  | nil => rfl
  | cons row rows ih =>
      cases rows with
      | nil => rfl
      | cons next rows =>
          simp only [paragraphs, List.map_cons, List.intersperse_cons_cons] at ih ⊢
          rw [Render.documentLines, ih]
          rfl

theorem plain_paragraphs (layout : Layout) {rows : List (List Text)}
    (unmarked : ∀ row ∈ rows, ∀ line ∈ row, IsUnmarked line) :
    Document.plain layout (paragraphs rows) = page (rows.map (joinWith [' '])) := by
  have texts_eq : rows.map (fun row => Run.plainText (rowRuns row)) = rows.map (joinWith [' ']) :=
    List.map_congr_left fun row row_mem => plainText_rowRuns (unmarked row row_mem)
  rw [Document.plain, Render.document, documentLines_paragraphs, texts_eq, page]

theorem mem_or_eq_of_mem_intersperse {separator text : Text} {texts : List Text}
    (text_mem : text ∈ texts.intersperse separator) : text ∈ texts ∨ text = separator := by
  induction texts with
  | nil => exact .inl text_mem
  | cons first texts ih =>
      cases texts with
      | nil => exact .inl text_mem
      | cons next texts =>
          rw [List.intersperse_cons_cons] at text_mem
          rcases List.mem_cons.mp text_mem with rfl | text_mem
          · exact .inl List.mem_cons_self
          rcases List.mem_cons.mp text_mem with text_eq | text_mem
          · exact .inr text_eq
          · exact (ih text_mem).imp_left (List.mem_cons_of_mem first)

theorem mem_intersperse_of_mem {text : Text} {texts : List Text} (text_mem : text ∈ texts)
    (separator : Text) : text ∈ texts.intersperse separator := by
  induction texts with
  | nil => exact text_mem
  | cons first texts ih =>
      cases texts with
      | nil => exact text_mem
      | cons next texts =>
          rw [List.intersperse_cons_cons]
          rcases List.mem_cons.mp text_mem with rfl | text_mem
          · exact List.mem_cons_self
          · exact List.mem_cons_of_mem _ (List.mem_cons_of_mem _ (ih text_mem))

/-- Between empty lines each filled line is a row of its own. -/
theorem rowsOf_intersperse {texts : List Text} (filled : ∀ text ∈ texts, isBlankText text = false) :
    rowsOf (texts.intersperse []) = texts.map ([·]) := by
  induction texts with
  | nil => rfl
  | cons text texts ih =>
      obtain ⟨text_filled, later_filled⟩ := List.forall_mem_cons.mp filled
      have alone : ∀ line ∈ [text], isBlankText line = false := by simpa using text_filled
      cases texts with
      | nil => simp [rowsOf, List.splitOnP_eq_singleton alone]
      | cons next texts =>
          have cut := List.splitOnP_append_cons_of_forall_mem alone [] rfl
            ((next :: texts).intersperse [])
          rw [List.intersperse_cons_cons, rowsOf, ← List.singleton_append, cut,
            List.filter_cons_of_pos (by simp), List.map_cons, ← ih later_filled]
          rfl

section

variable {texts : List Text} (single : ∀ text ∈ texts, IsOneLine text)
variable (filled : ∀ text ∈ texts, isBlankText text = false)
include single

theorem lines_page (texts_ne : texts ≠ []) : lines (page texts) = texts.intersperse [] := by
  apply lines_joinLines
  · obtain ⟨first, later, rfl⟩ := List.exists_cons_of_ne_nil texts_ne
    cases later <;> simp
  · intro line line_mem
    rcases mem_or_eq_of_mem_intersperse line_mem with line_mem | rfl
    · exact single line line_mem
    · exact List.forall_mem_nil _

include filled

theorem rowsOf_lines_page : rowsOf (lines (page texts)) = texts.map ([·]) := by
  by_cases texts_eq : texts = []
  · rw [texts_eq]
    simp [page, joinLines, joinWith, rowsOf, List.splitOnP_cons_eq_if_modifyHead, isBlankText]
  · rw [lines_page single texts_eq, rowsOf_intersperse filled]

theorem isPlain_lines_page_iff :
    (∀ line ∈ lines (page texts), isBlankText line = true ∨ IsPlain line) ↔
      ∀ text ∈ texts, IsPlain text := by
  by_cases texts_eq : texts = []
  · rw [texts_eq]
    simp [page, joinLines, joinWith, isBlankText]
  · rw [lines_page single texts_eq]
    constructor
    · intro plain text text_mem
      exact (plain text (mem_intersperse_of_mem text_mem [])).resolve_left
        (by simp [filled text text_mem])
    · intro plain line line_mem
      rcases mem_or_eq_of_mem_intersperse line_mem with line_mem | rfl
      · exact .inr (plain line line_mem)
      · exact .inl rfl

end

/-! ## Lines joined to one -/

/-- No line is joined to a lone mark. -/
def Joinable (row : List Text) : Prop :=
  ∀ mark next later, row = mark :: next :: later → ¬IsLoneMark mark

/-- A line with a space between two filled parts is no separator. -/
theorem isSeparator_append_space {first more : Text} (filled : isBlankText first = false)
    (more_filled : isBlankText more = false) : isSeparator (first ++ ' ' :: more) = false := by
  have space_mem : ' ' ∈ trim (first ++ ' ' :: more) := by
    change ' ' ∈ stripEnd isBlank (trimStart (first ++ ' ' :: more))
    rw [trimStart_append filled, ← List.singleton_append, ← List.append_assoc,
      stripEnd_append_of_ne_nil _ (stripEnd_ne_nil more_filled)]
    simp
  by_contra separator
  have whole : trim (first ++ ' ' :: more) = ['-', '-', '-'] := by
    simpa [isSeparator] using separator
  simp [whole] at space_mem

section

variable {row : List Text} (row_ne : row ≠ []) (unmarked : ∀ line ∈ row, IsUnmarked line)
variable (single : ∀ line ∈ row, IsOneLine line)
variable (filled : ∀ line ∈ row, isBlankText line = false)

include unmarked in
theorem isUnmarked_joinWith : IsUnmarked (joinWith [' '] row) := by
  apply isUnmarked_of_forall_mem
  intro c c_mem
  rcases mem_joinWith c_mem with space | ⟨line, line_mem, inside⟩
  · rw [List.mem_singleton.mp space]
    exact .inl (by decide)
  · exact .inr ⟨line, unmarked line line_mem, inside⟩

include single in
theorem isOneLine_joinWith : IsOneLine (joinWith [' '] row) := by
  intro c c_mem
  rcases mem_joinWith c_mem with space | ⟨line, line_mem, inside⟩
  · rw [List.mem_singleton.mp space]
    decide
  · exact single line line_mem c inside

include row_ne filled in
theorem isBlankText_joinWith : isBlankText (joinWith [' '] row) = false := by
  obtain ⟨first, later, rfl⟩ := List.exists_cons_of_ne_nil row_ne
  have first_filled : first.all isBlank = false := filled first List.mem_cons_self
  rw [joinWith_eq_append_flatMap, isBlankText, List.all_append, first_filled, Bool.false_and]

include row_ne unmarked single in
/-- Plain lines that are joined are a plain line just if the first is no lone mark. -/
theorem isPlain_joinWith_iff (plain : ∀ line ∈ row, IsPlain line) :
    IsPlain (joinWith [' '] row) ↔ Joinable row := by
  have joined_unmarked := isUnmarked_joinWith unmarked
  have joined_single := newline_not_mem (isOneLine_joinWith single)
  obtain ⟨first, later, rfl⟩ := List.exists_cons_of_ne_nil row_ne
  obtain ⟨first_plain, later_plain⟩ := List.forall_mem_cons.mp plain
  cases later with
  | nil => exact iff_of_true first_plain (by simp [Joinable])
  | cons next later =>
      have more_filled : isBlankText (joinWith [' '] (next :: later)) = false :=
        isBlankText_joinWith (List.cons_ne_nil next later) fun line line_mem =>
          (later_plain line line_mem).filled
      have split : joinWith [' '] (first :: next :: later) =
          first ++ ' ' :: joinWith [' '] (next :: later) := by
        simp [joinWith]
      rw [split] at joined_unmarked joined_single ⊢
      have starts := startsBlock_append_iff first_plain.filled more_filled joined_single
        joined_unmarked.no_bold
      constructor
      · rintro joined_plain mark other others row_eq lone
        obtain rfl : first = mark := (List.cons.inj row_eq).1
        exact joined_plain.no_block (starts.mpr (.inl lone))
      · intro joinable
        refine ⟨?_, isFence_trim_eq_false joined_unmarked.no_code, ?_,
          isSeparator_append_space first_plain.filled more_filled⟩
        · rw [← split]
          exact isBlankText_joinWith row_ne fun line line_mem => (plain line line_mem).filled
        · intro starts_block
          rcases starts.mp starts_block with lone | starts_block
          · exact joinable first next later rfl lone
          · exact first_plain.no_block starts_block

end

/-! ## Prose read again -/

section

variable {texts : List Text} (single : ∀ text ∈ texts, IsOneLine text)
variable (filled : ∀ text ∈ texts, isBlankText text = false)
variable (unmarked : ∀ text ∈ texts, IsUnmarked text)

include unmarked in
theorem isUnmarked_page : IsUnmarked (page texts) := by
  apply isUnmarked_of_forall_mem
  intro c c_mem
  rcases mem_joinLines c_mem with rfl | ⟨line, line_mem, inside⟩
  · exact .inl (by decide)
  · rcases mem_or_eq_of_mem_intersperse line_mem with line_mem | rfl
    · exact .inr ⟨line, unmarked line line_mem, inside⟩
    · exact (List.not_mem_nil inside).elim

include single filled unmarked

/-- A page is read as one paragraph for each text just if the texts are plain lines. -/
theorem exists_parse_page_iff (framed : Bool) (layout : Layout) :
    (∃ again, parse framed (page texts) = .ok again ∧ (∀ block ∈ again, block.IsParagraph) ∧
        again.length = texts.length ∧ Document.plain layout again = page texts) ↔
      ∀ text ∈ texts, IsPlain text := by
  have page_unmarked := isUnmarked_page unmarked
  rw [← isPlain_lines_page_iff single filled]
  constructor
  · rintro ⟨again, parsed, prose, -, -⟩
    exact isPlain_of_parse page_unmarked parsed prose
  · intro plain
    have parsed := parse_of_isPlain page_unmarked framed plain
    rw [rowsOf_lines_page single filled] at parsed
    have rows_unmarked : ∀ row ∈ texts.map ([·]), ∀ line ∈ row, IsUnmarked line := by
      simpa using unmarked
    refine ⟨_, parsed, ?_, by simp [paragraphs], ?_⟩
    · simp [paragraphs, Block.IsParagraph]
    · rw [plain_paragraphs layout rows_unmarked, List.map_map]
      exact congrArg page (List.map_id texts)

end

/-- Unmarked prose is found again in its plain text just if no line of it is joined to a lone
mark. -/
theorem exists_parse_plain_iff {framed : Bool} {text : Text} (no_code : '\x60' ∉ text)
    (no_bold : '*' ∉ text) {document : Document} (parsed : parse framed text = .ok document)
    (prose : ∀ block ∈ document, block.IsParagraph) (layout : Layout) :
    (∃ again, parse framed (document.plain layout) = .ok again ∧
        (∀ block ∈ again, block.IsParagraph) ∧ again.length = document.length ∧
          again.plain layout = document.plain layout) ↔
      ∀ row ∈ rowsOf (lines text), Joinable row := by
  have unmarked : IsUnmarked text := ⟨no_code, no_bold⟩
  have plain := isPlain_of_parse unmarked parsed prose
  obtain rfl : paragraphs (rowsOf (lines text)) = document :=
    Except.ok.inj ((parse_of_isPlain unmarked framed plain).symm.trans parsed)
  have row_ne {row : List Text} (row_mem : row ∈ rowsOf (lines text)) : row ≠ [] :=
    (of_mem_rowsOf row_mem).1
  have row_lines {row : List Text} (row_mem : row ∈ rowsOf (lines text)) :
      ∀ line ∈ row, line ∈ lines text ∧ isBlankText line = false := (of_mem_rowsOf row_mem).2
  have row_unmarked : ∀ row ∈ rowsOf (lines text), ∀ line ∈ row, IsUnmarked line :=
    fun row row_mem line line_mem =>
      isUnmarked_of_mem_lines unmarked (row_lines row_mem line line_mem).1
  have row_single : ∀ row ∈ rowsOf (lines text), ∀ line ∈ row, IsOneLine line :=
    fun row row_mem line line_mem => isOneLine_of_mem_lines (row_lines row_mem line line_mem).1
  have row_filled : ∀ row ∈ rowsOf (lines text), ∀ line ∈ row, isBlankText line = false :=
    fun row row_mem line line_mem => (row_lines row_mem line line_mem).2
  have row_plain : ∀ row ∈ rowsOf (lines text), ∀ line ∈ row, IsPlain line :=
    fun row row_mem line line_mem =>
      (plain line (row_lines row_mem line line_mem).1).resolve_left
        (by simp [row_filled row row_mem line line_mem])
  have texts_page := exists_parse_page_iff
    (List.forall_mem_map.mpr fun row row_mem => isOneLine_joinWith (row_single row row_mem))
    (List.forall_mem_map.mpr fun row row_mem =>
      isBlankText_joinWith (row_ne row_mem) (row_filled row row_mem))
    (List.forall_mem_map.mpr fun row row_mem => isUnmarked_joinWith (row_unmarked row row_mem))
    framed layout
  rw [List.length_map, List.forall_mem_map] at texts_page
  rw [plain_paragraphs layout row_unmarked, paragraphs, List.length_map, texts_page]
  exact forall₂_congr fun row row_mem => isPlain_joinWith_iff (row_ne row_mem)
    (row_unmarked row row_mem) (row_single row row_mem) (row_plain row row_mem)

/-- A lone mark is prose where no line is joined to it. -/
theorem exists_parse_plain_lone_mark :
    '\x60' ∉ "1.\n\na\nb".toList ∧ '*' ∉ "1.\n\na\nb".toList ∧
      parse true "1.\n\na\nb".toList =
        .ok (paragraphs [[['1', '.']], [['a'], ['b']]]) ∧
      (∀ block ∈ paragraphs [[['1', '.']], [['a'], ['b']]], block.IsParagraph) ∧
      ∃ again,
        parse true "1.\n\na b".toList = .ok again ∧
          (∀ block ∈ again, block.IsParagraph) ∧ again.length = 2 ∧
            Document.plain {} again = "1.\n\na b".toList := by
  have parsed : parse true "1.\n\na\nb".toList =
      .ok (paragraphs [[['1', '.']], [['a'], ['b']]]) := by
    decide +kernel
  have prose : ∀ block ∈ paragraphs [[['1', '.']], [['a'], ['b']]], block.IsParagraph := by
    simp [paragraphs, Block.IsParagraph]
  have rows_eq : rowsOf (lines "1.\n\na\nb".toList) = [[['1', '.']], [['a'], ['b']]] := by
    decide +kernel
  have joinable : ∀ row ∈ rowsOf (lines "1.\n\na\nb".toList), Joinable row := by
    have filled_trim : trim ['a'] = ['a'] := by decide
    have no_mark : ¬IsLoneMark ['a'] := by
      rintro (minus | plus | header | ⟨digits, -, -, numbered⟩)
      · exact absurd minus (by decide)
      · exact absurd plus (by decide)
      · exact absurd header (by decide)
      · have last := congrArg List.getLast? (filled_trim.symm.trans numbered)
        simp at last
    rw [rows_eq]
    intro row row_mem mark next later row_eq
    rw [row_eq] at row_mem
    have mark_eq : mark = ['a'] := by grind
    rw [mark_eq]
    exact no_mark
  have found := (exists_parse_plain_iff (by decide) (by decide) parsed prose {}).mpr joinable
  have page_eq : Document.plain {} (paragraphs [[['1', '.']], [['a'], ['b']]]) =
      "1.\n\na b".toList := by
    decide +kernel
  rw [page_eq] at found
  exact ⟨by decide, by decide, parsed, prose, found⟩

/-- A lone mark with a line below it is prose, but its plain text is a list. -/
theorem parse_plain_lone_mark_joined :
    '\x60' ∉ "1.\na".toList ∧ '*' ∉ "1.\na".toList ∧
      parse true "1.\na".toList =
        .ok [.paragraph [⟨['1', '.'], .plain⟩, ⟨[' '], .plain⟩, ⟨['a'], .plain⟩]] ∧
      Document.plain {}
        [.paragraph [⟨['1', '.'], .plain⟩, ⟨[' '], .plain⟩, ⟨['a'], .plain⟩]] = "1. a".toList ∧
      ¬∃ again, parse true "1. a".toList = .ok again ∧ ∀ block ∈ again, block.IsParagraph := by
  have parsed : parse true "1. a".toList = .ok [.item ⟨.number 1, [⟨['a'], .plain⟩], []⟩] := by
    decide +kernel
  refine ⟨by decide, by decide, by decide +kernel, by decide +kernel, ?_⟩
  rintro ⟨again, parsed_again, prose⟩
  obtain rfl := Except.ok.inj (parsed.symm.trans parsed_again)
  obtain ⟨runs, other⟩ := prose _ List.mem_cons_self
  cases other

end Reply
end ChatReply
