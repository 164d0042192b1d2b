import ChatReply.Proofs.CharacterClass
import ChatReply.Proofs.Lossless
import ChatReply.Proofs.Simulation

/-!
# Code between fences

What stands between two fences is one block of code: its lines joined by line feeds, without the
blanks at either end. Whether the second fence is there makes no difference.
-/

namespace ChatReply
namespace Reply

/-- The line, without the blanks around it, is three backticks and a tag of word characters. -/
def FencesCode (line : Text) : Prop :=
  ∃ tag, (∀ c ∈ tag, isWord c = true) ∧ trim line = fenceMarks ++ tag

theorem isFence_fenceMarks_append {tag : Text} (word : ∀ c ∈ tag, isWord c = true) :
    isFence (fenceMarks ++ tag) = true := by
  have rest : (fenceMarks ++ tag).drop 3 = tag := rfl
  have nothing : tag.dropWhile isWord = [] := List.dropWhile_eq_nil_iff.mpr word
  have start : fenceMarks.isPrefixOf (fenceMarks ++ tag) = true :=
    List.isPrefixOf_iff_prefix.mpr (List.prefix_append fenceMarks tag)
  simp [isFence, rest, nothing, start]

/-- The blanks that go at the end of a line take a line feed with them. -/
theorem isFence_trim_iff {line : Text} : isFence (trim line) = true ↔ FencesCode line := by
  constructor
  · intro fence
    simp only [isFence, Bool.and_eq_true, Bool.or_eq_true, beq_iff_eq] at fence
    obtain ⟨start, rest⟩ := fence
    obtain ⟨tag, line_eq⟩ := List.isPrefixOf_iff_prefix.mp start
    have tag_eq : (trim line).drop 3 = tag := by rw [← line_eq]; rfl
    rw [tag_eq] at rest
    refine ⟨tag, ?_, line_eq.symm⟩
    rcases rest with nothing | feed
    · exact List.dropWhile_eq_nil_iff.mp nothing
    · have last : (trim line).getLast? = some '\n' := by
        rw [← line_eq, ← List.takeWhile_append_dropWhile (p := isWord) (l := tag), feed]
        simp
      exact absurd (isBlank_of_getLast?_trim last) (by decide)
  · rintro ⟨tag, word, line_eq⟩
    rw [line_eq]
    exact isFence_fenceMarks_append word

theorem isFence_trim_eq_false_iff {line : Text} :
    isFence (trim line) = false ↔ ¬FencesCode line := by
  rw [← isFence_trim_iff, Bool.not_eq_true]

namespace Stream

variable {framed : Bool}

/-- An open fence keeps the lines that do not close it. -/
theorem feedAll_fence (blocks : List Block) (code : List Text) {lines : List Text}
    (inside : ∀ line ∈ lines, ¬FencesCode line) :
    (Stream.mk blocks (.fence code)).feedAll framed lines =
      .ok ⟨blocks, .fence (code ++ lines)⟩ := by
  induction lines generalizing code with
  | nil => simp [feedAll]
  | cons line lines ih =>
      have kept : Reply.isFence (trim line) = false :=
        isFence_trim_eq_false_iff.mpr (inside line List.mem_cons_self)
      have ih := ih (code ++ [line]) fun later member =>
        inside later (List.mem_cons_of_mem _ member)
      simp only [feedAll, feed_fence, kept, Bool.false_eq_true, if_false]
      rw [ih, List.append_assoc]
      rfl

end Stream

section

variable {tag : Text} (solid : ∀ c ∈ tag, isBlank c = false)
include solid

theorem isBlank_of_mem_fenceMarks_append {c : Char} (c_mem : c ∈ fenceMarks ++ tag) :
    isBlank c = false := by
  rcases List.mem_append.mp c_mem with mark | c_mem
  · rw [List.eq_of_mem_replicate mark]
    decide
  · exact solid c c_mem

theorem trim_fenceMarks_append : trim (fenceMarks ++ tag) = fenceMarks ++ tag :=
  trim_eq_self fun _ => isBlank_of_mem_fenceMarks_append solid

theorem isOneLine_fenceMarks_append : IsOneLine (fenceMarks ++ tag) := by
  intro c c_mem
  have solid := isBlank_of_mem_fenceMarks_append solid c_mem
  apply isBreak_eq_false
  · rintro rfl
    exact absurd solid (by decide)
  · rintro rfl
    exact absurd solid (by decide)

/-- The line of a tag comes first, and the lines of what stands behind it follow. -/
theorem lines_fenceMarks_append (rest : Text) :
    lines (fenceMarks ++ tag ++ '\n' :: rest) = (fenceMarks ++ tag) :: lines rest := by
  have single := isOneLine_fenceMarks_append solid
  have complete : (fenceMarks ++ tag).getLast? ≠ some '\r' := by
    intro last
    exact absurd (single _ (List.mem_of_getLast? last)) (by decide)
  rw [lines_append_newline complete, lines_eq_singleton single, List.singleton_append]

end

section

variable {framed : Bool} {tag : Text} (word : ∀ c ∈ tag, isWord c = true)
include word

theorem isBlank_of_mem_tag {c : Char} (c_mem : c ∈ tag) : isBlank c = false :=
  isBlank_eq_false_of_isWord (word c c_mem)

theorem fencesCode_fenceMarks_append : FencesCode (fenceMarks ++ tag) :=
  ⟨tag, word, trim_fenceMarks_append fun _ => isBlank_of_mem_tag word⟩

/-- A fence line at the start opens a fence for all that follows. -/
theorem parse_fenceMarks_append (framed : Bool) (rest : Text) :
    parse framed (fenceMarks ++ tag ++ '\n' :: rest) =
      ((Stream.mk [] (.fence [])).endingAfter framed (lines rest)).map Ending.document := by
  have fence : isFence (trim (fenceMarks ++ tag)) = true :=
    isFence_trim_iff.mpr (fencesCode_fenceMarks_append word)
  have opened : (Stream.mk [] .idle).feed framed (fenceMarks ++ tag) = .ok ⟨[], .fence []⟩ := by
    rw [Stream.feed_idle, Stream.feedText, if_pos fence, Stream.turn_text]
    rfl
  rw [parse_eq_map_endingAfter, lines_fenceMarks_append fun _ => isBlank_of_mem_tag word,
    Stream.endingAfter_cons, opened]
  rfl

end

theorem body_lines (code : Text) : Scan.body (lines code) = trim (unifyBreaks code) := by
  rw [Scan.body, joinLines_lines]

/-- The lines before a closing fence are those of the code. A carriage return at the end of the code
becomes part of the break before the fence, and then the last of them, which is empty, is gone. -/
theorem lines_append_fenceMarks (code : Text) :
    ∃ body, lines (code ++ '\n' :: fenceMarks) = body ++ [fenceMarks] ∧ body ≠ [] ∧
      body ⊆ lines code ∧ Scan.body body = trim (unifyBreaks code) := by
  have single : IsOneLine fenceMarks := by simp [IsOneLine, fenceMarks, isBreak]
  have marks : lines fenceMarks = [fenceMarks] := lines_eq_singleton single
  by_cases complete : code.getLast? = some '\r'
  · obtain ⟨init, rfl⟩ := List.getLast?_eq_some_iff.mp complete
    have alone : lines ['\r'] = [] :: [[]] := by
      rw [lines_return (by simp), lines_nil]
    have pair : lines ('\r' :: '\n' :: fenceMarks) = [] :: [fenceMarks] := by
      rw [lines_return_newline, marks]
    have code_lines : lines (init ++ ['\r']) = lines init ++ [[]] :=
      lines_append_return alone init
    refine ⟨lines init, ?_, lines_ne_nil init, ?_, ?_⟩
    · rw [List.append_assoc]
      exact lines_append_return pair init
    · rw [code_lines]
      exact List.subset_append_left _ _
    · rw [← body_lines, code_lines, Scan.body, Scan.body,
        joinLines_append_nil (lines_ne_nil init), trim_append_of_isBlankText _ (by decide)]
  · have apart : lines (code ++ '\n' :: fenceMarks) = lines code ++ [fenceMarks] := by
      rw [lines_append_newline complete, marks]
    exact ⟨lines code, apart, lines_ne_nil code, List.Subset.refl _, body_lines code⟩

/-- Code that fences no code in itself is the body of the fence around it. -/
theorem parse_fenced (framed : Bool) {tag code : Text} (word : ∀ c ∈ tag, isWord c = true)
    (inside : ∀ line ∈ lines code, ¬FencesCode line) :
    ∃ block : CodeBlock,
      block.framed = framed ∧
      block.tokens = Code.tokenize (trim (unifyBreaks code)) ∧
      block.text = trim (unifyBreaks code) ∧
      parse framed (fenceMarks ++ tag ++ '\n' :: (code ++ '\n' :: fenceMarks)) =
        .ok [.code block] ∧
      parse framed (fenceMarks ++ tag ++ '\n' :: code) = .ok [.code block] := by
  refine ⟨.ofCode (trim (unifyBreaks code)) framed, rfl, rfl,
    (Code.tokenize_cut _).plainText_eq, ?_, ?_⟩
  · obtain ⟨body, lines_eq, body_ne, body_subset, body_eq⟩ := lines_append_fenceMarks code
    have kept : (Stream.mk [] (.fence [])).feedAll framed body = .ok ⟨[], .fence body⟩ :=
      Stream.feedAll_fence [] [] fun line member => inside line (body_subset member)
    have closes : isFence (trim fenceMarks) = true := by decide
    rw [parse_fenceMarks_append word, lines_eq, Stream.endingAfter_append, kept]
    simp [Except.bind, Stream.endingAfter_cons, Stream.feed_fence, closes, Stream.turn_fence,
      Scan.codeBlocks, body_ne, body_eq, Stream.ending, Stream.finish_idle, Except.map]
  · have kept : (Stream.mk [] (.fence [])).feedAll framed (lines code) =
        .ok ⟨[], .fence (lines code)⟩ :=
      Stream.feedAll_fence [] [] inside
    rw [parse_fenceMarks_append word, Stream.endingAfter, kept]
    simp [Except.bind, Stream.ending, Stream.finish, Stream.Pending.close, body_lines, Except.map]

/-- Code that looks like a header, a separator and an item, and ends inside a break. -/
theorem parse_fenced_markup :
    (∀ c ∈ "c_9".toList, isWord c = true) ∧
      (∀ line ∈ lines "### `a`\r\n---\n\t- ```\r".toList, ¬FencesCode line) ∧
      ∃ block : CodeBlock,
        block.framed = false ∧
        block.tokens = Code.tokenize (trim (unifyBreaks "### `a`\r\n---\n\t- ```\r".toList)) ∧
        block.text = trim (unifyBreaks "### `a`\r\n---\n\t- ```\r".toList) ∧
        parse false (fenceMarks ++ "c_9".toList ++
          '\n' :: ("### `a`\r\n---\n\t- ```\r".toList ++ '\n' :: fenceMarks)) =
            .ok [.code block] ∧
        parse false (fenceMarks ++ "c_9".toList ++ '\n' :: "### `a`\r\n---\n\t- ```\r".toList) =
          .ok [.code block] := by
  have word : ∀ c ∈ "c_9".toList, isWord c = true :=
    List.all_eq_true.mp (by decide +kernel)
  have inside : ∀ line ∈ lines "### `a`\r\n---\n\t- ```\r".toList, ¬FencesCode line := by
    simp only [← isFence_trim_eq_false_iff]
    decide +kernel
  exact ⟨word, inside, parse_fenced false word inside⟩

end Reply
end ChatReply
