import ChatReply.Render.Code
import Mathlib.Data.List.Basic
import Mathlib.Data.List.Forall2

/-!
# The frame around code

A frame fits its widest line exactly, so that what fills up the other lines is never negative and
all the lines of the frame end in the same column, whatever the tokens of the code are.
-/

namespace ChatReply

/-! ## Narrow characters -/

theorem displayWidth_replicate (count : Nat) {c : Char} (narrow : charWidth c = 1) :
    displayWidth (List.replicate count c) = count := by
  induction count with
  | zero => rfl
  | succ count ih =>
      rw [List.replicate_succ, displayWidth, narrow, ih, Nat.add_comm]

namespace Render

/-- The characters that a frame is drawn with, spaces included. -/
def frameChars : List Char := [' ', '─', '│', '┌', '┐', '└', '┘']

theorem charWidth_of_mem_frameChars : ∀ c ∈ frameChars, charWidth c = 1 := by
  have narrow : frameChars.all (charWidth · == 1) = true := by decide +kernel
  simpa using narrow

/-! ## Lines of code -/

theorem continueRows_ne_nil (rows : List (List Token)) {later : List (List Token)}
    (later_ne : later ≠ []) : continueRows rows later ≠ [] := by
  fun_cases continueRows rows later <;> simp_all

theorem codeLines_ne_nil (tokens : List Token) : codeLines tokens ≠ [] := by
  induction tokens with
  | nil => exact List.cons_ne_nil [] []
  | cons token tokens ih => exact continueRows_ne_nil (tokenRows token) ih

theorem expandText_append (column : Nat) (left right : Text) :
    expandText column (left ++ right) =
      expandText column left ++
        expandText (column + displayWidth (expandText column left)) right := by
  induction left generalizing column with
  | nil => rfl
  | cons c left ih =>
      rw [List.cons_append, expandText, ih, expandText, displayWidth_append, Nat.add_assoc,
        List.append_assoc]

/-- Tabs reach as far in the tokens of a line as in the line as one text. -/
theorem plainText_expandFrom (column : Nat) (tokens : List Token) :
    Token.plainText (expandFrom column tokens) = expandText column (Token.plainText tokens) := by
  induction tokens generalizing column with
  | nil => rfl
  | cons token tokens ih =>
      have split : Token.plainText (token :: tokens) = token.text ++ Token.plainText tokens := rfl
      rw [split, expandText_append, ← ih]
      rfl

theorem max?_lineWidth {rows : List (List Token)} (rows_ne : rows ≠ []) :
    (rows.map lineWidth).max? = some (widest rows) := by
  induction rows with
  | nil => exact (rows_ne rfl).elim
  | cons row rows ih =>
      cases rows with
      | nil => simp [widest]
      | cons next rows =>
          rw [List.map_cons, List.max?_cons, ih (List.cons_ne_nil next rows)]
          rfl

theorem lineWidth_le_widest {rows : List (List Token)} {row : List Token} (member : row ∈ rows) :
    lineWidth row ≤ widest rows := by
  have greatest := List.max?_eq_some_iff.mp (max?_lineWidth (List.ne_nil_of_mem member))
  exact greatest.2 _ (List.mem_map_of_mem member)

/-! ## Frames -/

/-- The line is the text between two edges, kept off them by the padding and by what the text lacks
of the width. -/
def FramedLine (padding width : Nat) (text line : Text) : Prop :=
  ∃ fill, displayWidth text + fill = width ∧
    line = ['│'] ++ List.replicate padding ' ' ++ text ++ List.replicate fill ' ' ++
      List.replicate padding ' ' ++ ['│']

theorem framedLine_boxLine {padding width : Nat} {row : List Token}
    (fits : lineWidth row ≤ width) :
    FramedLine padding width (Token.plainText row)
      (boxLine Painter.plain padding (width + 2 * padding) row) := by
  refine ⟨width - lineWidth row, Nat.add_sub_of_le fits, ?_⟩
  -- Cutting a negative count off at zero makes no difference to a row that fits.
  have fill : ((width : Int) + 2 * padding - 2 * padding - lineWidth row).toNat =
      width - lineWidth row := by omega
  rw [boxLine, repeated, repeated, fill, Int.toNat_natCast]
  rfl

theorem FramedLine.displayWidth_eq {padding width : Nat} {text line : Text}
    (drawn : FramedLine padding width text line) :
    displayWidth line = width + 2 * padding + 2 := by
  obtain ⟨fill, fits, rfl⟩ := drawn
  have edge : charWidth '│' = 1 := charWidth_of_mem_frameChars '│' (by decide)
  have space : charWidth ' ' = 1 := charWidth_of_mem_frameChars ' ' (by decide)
  simp only [displayWidth_append, displayWidth_replicate _ space, displayWidth, edge]
  omega

theorem displayWidth_boxSide (padding width : Nat) {left right : Char}
    (left_mem : left ∈ frameChars) (right_mem : right ∈ frameChars) :
    displayWidth (boxSide Painter.plain (width + 2 * padding) left right) =
      width + 2 * padding + 2 := by
  have rule : charWidth '─' = 1 := charWidth_of_mem_frameChars '─' (by decide)
  have count : ((width : Int) + 2 * padding).toNat = width + 2 * padding := by omega
  simp only [boxSide, Painter.plain, repeated, count, List.cons_append, displayWidth,
    displayWidth_append, displayWidth_replicate _ rule,
    charWidth_of_mem_frameChars left left_mem, charWidth_of_mem_frameChars right right_mem]
  omega

theorem forall₂_boxLine (padding : Nat) (rows : List (List Token)) :
    List.Forall₂ (FramedLine padding (widest rows)) (rows.map Token.plainText)
      (rows.map (boxLine Painter.plain padding (widest rows + 2 * padding))) := by
  rw [List.forall₂_map_left_iff, List.forall₂_map_right_iff, List.forall₂_same]
  exact fun row member => framedLine_boxLine (lineWidth_le_widest member)

theorem displayWidth_of_mem_box {padding : Nat} {rows : List (List Token)} {line : Text}
    (member : line ∈ box Painter.plain padding rows) :
    displayWidth line = widest rows + 2 * padding + 2 := by
  rcases List.mem_append.mp member with upper | bottom
  · rcases List.mem_cons.mp upper with rfl | inside
    · exact displayWidth_boxSide padding (widest rows) (by decide) (by decide)
    · obtain ⟨row, row_mem, rfl⟩ := List.mem_map.mp inside
      exact (framedLine_boxLine (lineWidth_le_widest row_mem)).displayWidth_eq
  · obtain rfl := List.mem_singleton.mp bottom
    exact displayWidth_boxSide padding (widest rows) (by decide) (by decide)

/-- However the tokens divide a line of code, its tabs are expanded as in one text. The frame has an
upper and a lower side and a line for each line of code, all of them as wide as the widest line of
code with its padding and edges. -/
theorem code_aligned (padding : Nat) (tokens : List Token) :
    let texts := (codeLines tokens).map fun row => expandText 0 (Token.plainText row)
    let drawn := code Painter.plain true padding ⟨tokens, true⟩
    ∃ width, (texts.map displayWidth).max? = some width ∧
      (∀ line ∈ drawn, displayWidth line = width + 2 * padding + 2) ∧
      drawn.length = (codeLines tokens).length + 2 ∧
      ∃ top middle bottom, drawn = top :: (middle ++ [bottom]) ∧
        List.Forall₂ (FramedLine padding width) texts middle := by
  intro texts drawn
  let rows := (codeLines tokens).map expandTabs
  have rows_ne : rows ≠ [] := by simp [rows, codeLines_ne_nil]
  have texts_eq : texts = rows.map Token.plainText := by
    simp [texts, rows, expandTabs, plainText_expandFrom]
  have widths_eq : texts.map displayWidth = rows.map lineWidth := by
    rw [texts_eq, List.map_map]
    rfl
  refine ⟨widest rows, ?_, fun line => displayWidth_of_mem_box, ?_, ?_⟩
  · rw [widths_eq]
    exact max?_lineWidth rows_ne
  · simp [drawn, code, box]
  · rw [texts_eq]
    exact ⟨_, _, _, rfl, forall₂_boxLine padding rows⟩

example : code Painter.plain true 1 ⟨[⟨"if\t字\r".toList, .plainText⟩], true⟩ =
    ["┌────────┐".toList, "│ if  字 │".toList, "│        │".toList, "└────────┘".toList] := by
  decide +kernel

end Render
end ChatReply
