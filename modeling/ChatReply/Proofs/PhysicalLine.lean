import ChatReply.Text.Line

/-!
# Physical lines

The two ways of cutting a text into lines find the same lines, and together with their breaks the
lines are the text. A line feed between two texts ends the last line of the first one, unless it
completes a break that a carriage return has begun. Joined by line feeds, the lines are the text
with all its breaks unified.
-/

namespace ChatReply

theorem isBreak_eq_false {c : Char} (newline_ne : c ≠ '\n') (return_ne : c ≠ '\r') :
    isBreak c = false := by
  simp [isBreak, newline_ne, return_ne]

/-! ## Lines with their breaks -/

/-- The text is a line break. -/
def IsLineBreak (text : Text) : Prop :=
  text = ['\r', '\n'] ∨ text = ['\n'] ∨ text = ['\r']

theorem IsLineBreak.ne_nil {text : Text} (breaks : IsLineBreak text) : text ≠ [] := by
  rcases breaks with rfl | rfl | rfl <;> simp

/-- No line break stands in the text. -/
def IsOneLine (text : Text) : Prop :=
  ∀ c ∈ text, isBreak c = false

theorem IsOneLine.of_infix {text part : Text} (single : IsOneLine text) (inside : part <:+: text) :
    IsOneLine part :=
  fun c c_mem => single c (inside.subset c_mem)

theorem newline_not_mem {text : Text} (single : IsOneLine text) : '\n' ∉ text :=
  fun newline => absurd (single _ newline) (by decide)

/-- The lines of a text: each but the last ends in a break, and no break stands inside one. -/
inductive Broken : Text → List Line → Prop
  /-- The last line. -/
  | last {content : Text} (single : IsOneLine content) :
      Broken content [⟨content, []⟩]
  /-- A line and its break. -/
  | next {content ending rest : Text} {lines : List Line}
      (single : IsOneLine content) (breaks : IsLineBreak ending) (later : Broken rest lines) :
      Broken (content ++ (ending ++ rest)) (⟨content, ending⟩ :: lines)

theorem Broken.extend {c : Char} {text : Text} {lines : List Line} (inside : isBreak c = false)
    (broken : Broken text lines) : Broken (c :: text) (Line.extend c lines) := by
  cases broken with
  | last single => exact .last (List.forall_mem_cons.mpr ⟨inside, single⟩)
  | next single breaks later => exact .next (List.forall_mem_cons.mpr ⟨inside, single⟩) breaks later

theorem broken_brokenLines (text : Text) : Broken text (brokenLines text) := by
  have empty : IsOneLine [] := List.forall_mem_nil _
  fun_induction brokenLines text with
  | case1 => exact .last empty
  | case2 text ih => exact .next empty (.inl rfl) ih
  | case3 text lone ih => exact .next empty (.inr (.inr rfl)) ih
  | case4 text ih => exact .next empty (.inr (.inl rfl)) ih
  | case5 c text _ return_ne newline_ne ih =>
      exact ih.extend (isBreak_eq_false newline_ne return_ne)

/-- No break stands inside a line, and each line but the last ends with one. -/
theorem Broken.of_mem {text : Text} {lines : List Line} (broken : Broken text lines) {line : Line}
    (line_mem : line ∈ lines) :
    IsOneLine line.content ∧ (line.ending = [] ∨ IsLineBreak line.ending) := by
  induction broken with
  | last single =>
      obtain rfl := List.mem_singleton.mp line_mem
      exact ⟨single, .inl rfl⟩
  | next single breaks later ih =>
      rcases List.mem_cons.mp line_mem with rfl | line_mem
      · exact ⟨single, .inr breaks⟩
      · exact ih line_mem

/-- A line as it stands in the text, with its break. -/
def Line.written (line : Line) : Text :=
  line.content ++ line.ending

/-- The lines of a text and their breaks hold all its characters in order. -/
theorem flatMap_written_brokenLines (text : Text) :
    (brokenLines text).flatMap Line.written = text := by
  have broken := broken_brokenLines text
  generalize brokenLines text = lines at broken
  induction broken with
  | last single => simp [Line.written]
  | next single breaks later ih => rw [List.flatMap_cons, ih, Line.written, List.append_assoc]

theorem brokenLines_ne_nil (text : Text) : brokenLines text ≠ [] := by
  have broken := broken_brokenLines text
  generalize brokenLines text = lines at broken
  cases broken <;> exact List.cons_ne_nil _ _

theorem isBreak_of_mem_content {text : Text} {line : Line} (line_mem : line ∈ brokenLines text)
    {c : Char} (c_mem : c ∈ line.content) : isBreak c = false :=
  ((broken_brokenLines text).of_mem line_mem).1 c c_mem

/-! ## Lines without their breaks -/

@[simp]
theorem lines_nil : lines [] = [[]] := by
  rw [lines]
  rfl

/-- A line feed after a carriage return belongs to the same break. -/
theorem lines_return_newline (text : Text) : lines ('\r' :: '\n' :: text) = [] :: lines text := by
  rw [lines]
  rfl

theorem lines_newline (text : Text) : lines ('\n' :: text) = [] :: lines text := by
  rw [lines]
  rfl

theorem breakLength_return {text : Text} (alone : text.head? ≠ some '\n') :
    breakLength ('\r' :: text) = 1 := by
  unfold breakLength
  split
  · rename_i pair
    cases pair
    exact (alone rfl).elim
  · rfl
  · rfl
  · rename_i other _
    exact (other text rfl).elim

theorem lines_return {text : Text} (alone : text.head? ≠ some '\n') :
    lines ('\r' :: text) = [] :: lines text := by
  rw [lines]
  change [] :: lines (text.drop (breakLength ('\r' :: text) - 1)) = [] :: lines text
  rw [breakLength_return alone, List.drop_zero]

theorem lines_cons {c : Char} (inside : isBreak c = false) (text : Text) :
    lines (c :: text) = (lines text).modifyHead (c :: ·) := by
  have skipped : (c :: text).dropWhile (fun c => !isBreak c) =
      text.dropWhile (fun c => !isBreak c) := by
    simp [inside]
  have kept : (c :: text).takeWhile (fun c => !isBreak c) =
      c :: text.takeWhile (fun c => !isBreak c) := by
    simp [inside]
  rw [lines.eq_def (c :: text), lines.eq_def text, skipped, kept]
  cases text.dropWhile (fun c => !isBreak c) with
  | nil => rfl
  | cons ending rest => rfl

theorem head?_ne_newline {text : Text} (lone : ∀ rest, text = '\n' :: rest → False) :
    text.head? ≠ some '\n' := by
  intro feed
  obtain ⟨rest, rfl⟩ := List.head?_eq_some_iff.mp feed
  exact lone rest rfl

/-- Both ways of cutting a text find the same lines. -/
theorem lines_eq_map_content (text : Text) : lines text = (brokenLines text).map Line.content := by
  fun_induction brokenLines text with
  | case1 => simp
  | case2 text ih => simp [lines_return_newline, ih]
  | case3 text lone ih =>
      rw [lines_return (head?_ne_newline lone), ih, List.map_cons]
  | case4 text ih => simp [lines_newline, ih]
  | case5 c text _ return_ne newline_ne ih =>
      obtain ⟨line, broken, cut⟩ := List.exists_cons_of_ne_nil (brokenLines_ne_nil text)
      rw [lines_cons (isBreak_eq_false newline_ne return_ne), ih, cut]
      rfl

@[simp]
theorem lines_ne_nil (text : Text) : lines text ≠ [] := by
  simp [lines_eq_map_content, brokenLines_ne_nil]

/-- The lines of a text hold no other characters than the text. -/
theorem subset_of_mem_lines {text line : Text} (member : line ∈ lines text) : line ⊆ text := by
  rw [lines_eq_map_content] at member
  obtain ⟨whole, whole_mem, rfl⟩ := List.mem_map.mp member
  intro c c_mem
  rw [← flatMap_written_brokenLines text]
  exact List.mem_flatMap.mpr ⟨whole, whole_mem, List.mem_append_left _ c_mem⟩

theorem isOneLine_of_mem_lines {text line : Text} (member : line ∈ lines text) :
    IsOneLine line := by
  rw [lines_eq_map_content] at member
  obtain ⟨whole, whole_mem, rfl⟩ := List.mem_map.mp member
  exact fun c c_mem => isBreak_of_mem_content whole_mem c_mem

theorem lines_eq_singleton {text : Text} (single : IsOneLine text) :
    lines text = [text] := by
  induction text with
  | nil => exact lines_nil
  | cons c text ih =>
      rw [lines_cons (single c List.mem_cons_self),
        ih fun later member => single later (List.mem_cons_of_mem _ member)]
      rfl

/-! ## Two texts with a break between them -/

private theorem tail_complete {c : Char} {text : Text}
    (complete : (c :: text).getLast? ≠ some '\r') : text.getLast? ≠ some '\r' := by
  cases text with
  | nil => simp
  | cons next text => simpa using complete

/-- A line feed that completes no break ends the last line before it. -/
theorem brokenLines_append_newline {first : Text} (complete : first.getLast? ≠ some '\r')
    (second : Text) :
    ∃ init last, brokenLines first = init ++ [⟨last, []⟩] ∧
      brokenLines (first ++ '\n' :: second) = init ++ ⟨last, ['\n']⟩ :: brokenLines second := by
  fun_induction brokenLines first with
  | case1 => exact ⟨[], [], rfl, by simp [brokenLines]⟩
  | case2 text ih =>
      obtain ⟨init, last, cut, whole⟩ := ih (tail_complete (tail_complete complete))
      refine ⟨⟨[], ['\r', '\n']⟩ :: init, last, by rw [cut]; rfl, ?_⟩
      simp [brokenLines, whole]
  | case3 text lone ih =>
      obtain ⟨init, last, cut, whole⟩ := ih (tail_complete complete)
      refine ⟨⟨[], ['\r']⟩ :: init, last, by rw [cut]; rfl, ?_⟩
      rw [List.cons_append, brokenLines, whole]
      · rfl
      · intro rest feed
        cases text with
        | nil => simp at complete
        | cons c text => exact lone text (by simp [(List.cons.inj feed).1])
  | case4 text ih =>
      obtain ⟨init, last, cut, whole⟩ := ih (tail_complete complete)
      refine ⟨⟨[], ['\n']⟩ :: init, last, by rw [cut]; rfl, ?_⟩
      simp [brokenLines, whole]
  | case5 c text pair_ne return_ne newline_ne ih =>
      obtain ⟨init, last, cut, whole⟩ := ih (tail_complete complete)
      rw [cut, List.cons_append, brokenLines, whole]
      · cases init with
        | nil => exact ⟨[], c :: last, rfl, rfl⟩
        | cons line init =>
            exact ⟨{ line with content := c :: line.content } :: init, last, rfl, rfl⟩
      · exact fun rest is_return _ => return_ne is_return
      · exact return_ne
      · exact newline_ne

/-- A line feed that completes no break begun before it cuts the text in two. -/
theorem lines_append_newline {first : Text} (complete : first.getLast? ≠ some '\r')
    (second : Text) : lines (first ++ '\n' :: second) = lines first ++ lines second := by
  obtain ⟨init, last, first_eq, whole_eq⟩ := brokenLines_append_newline complete second
  simp [lines_eq_map_content, first_eq, whole_eq]

/-- A carriage return begins a break whatever stands before it. -/
theorem lines_append_return {second : Text} {rest : List Text}
    (breaks : lines ('\r' :: second) = [] :: rest) (first : Text) :
    lines (first ++ '\r' :: second) = lines first ++ rest := by
  fun_induction brokenLines first with
  | case1 => simpa using breaks
  | case2 text ih => simp [lines_return_newline, ih]
  | case3 text lone ih =>
      have alone : text.head? ≠ some '\n' := head?_ne_newline lone
      have still_alone : (text ++ '\r' :: second).head? ≠ some '\n' := by
        cases text with
        | nil => simp
        | cons c text => simpa using alone
      rw [List.cons_append, lines_return alone, lines_return still_alone, ih]
      rfl
  | case4 text ih => simp [lines_newline, ih]
  | case5 c text _ return_ne newline_ne ih =>
      have inside := isBreak_eq_false newline_ne return_ne
      rw [List.cons_append, lines_cons inside, lines_cons inside, ih]
      obtain ⟨line, others, cut⟩ := List.exists_cons_of_ne_nil (lines_ne_nil text)
      simp [cut]

/-! ## Lines joined again -/

theorem joinWith_eq_append_flatMap (separator first : Text) (later : List Text) :
    joinWith separator (first :: later) = first ++ later.flatMap (separator ++ ·) := by
  induction later generalizing first with
  | nil => simp [joinWith]
  | cons next later ih => simp [joinWith, ih]

theorem mem_joinWith {separator : Text} {texts : List Text} {c : Char}
    (c_mem : c ∈ joinWith separator texts) : c ∈ separator ∨ ∃ text ∈ texts, c ∈ text := by
  cases texts with
  | nil => simp [joinWith] at c_mem
  | cons first later =>
      rw [joinWith_eq_append_flatMap] at c_mem
      rcases List.mem_append.mp c_mem with inside | later_mem
      · exact .inr ⟨first, List.mem_cons_self, inside⟩
      · obtain ⟨text, text_mem, inside⟩ := List.mem_flatMap.mp later_mem
        exact (List.mem_append.mp inside).imp_right fun inside =>
          ⟨text, List.mem_cons_of_mem first text_mem, inside⟩

theorem mem_joinLines {texts : List Text} {c : Char} (c_mem : c ∈ joinLines texts) :
    c = '\n' ∨ ∃ text ∈ texts, c ∈ text :=
  (mem_joinWith c_mem).imp_left List.mem_singleton.mp

theorem joinLines_cons (line : Text) {rest : List Text} (more : rest ≠ []) :
    joinLines (line :: rest) = line ++ '\n' :: joinLines rest := by
  obtain ⟨next, others, rfl⟩ := List.exists_cons_of_ne_nil more
  simp [joinLines, joinWith]

/-- Joining the lines of a text turns its breaks into line feeds. -/
theorem joinLines_lines (text : Text) : joinLines (lines text) = unifyBreaks text := by
  fun_induction brokenLines text with
  | case1 => simp [joinLines, joinWith, unifyBreaks]
  | case2 text ih =>
      rw [lines_return_newline, joinLines_cons _ (lines_ne_nil text), ih, unifyBreaks]
      rfl
  | case3 text lone ih =>
      rw [lines_return (head?_ne_newline lone), joinLines_cons _ (lines_ne_nil text), ih,
        unifyBreaks]
      · rfl
      · exact lone
  | case4 text ih =>
      rw [lines_newline, joinLines_cons _ (lines_ne_nil text), ih, unifyBreaks]
      · rfl
      · simp
      · simp
  | case5 c text pair_ne return_ne newline_ne ih =>
      obtain ⟨line, rest, cut⟩ := List.exists_cons_of_ne_nil (lines_ne_nil text)
      rw [lines_cons (isBreak_eq_false newline_ne return_ne), unifyBreaks, ← ih, cut]
      · cases rest with
        | nil => rfl
        | cons next others => simp [joinLines, joinWith]
      · exact pair_ne
      · exact return_ne

/-- Lines that are joined are cut apart again. -/
theorem lines_joinLines {texts : List Text} (texts_ne : texts ≠ [])
    (single : ∀ text ∈ texts, IsOneLine text) : lines (joinLines texts) = texts := by
  induction texts with
  | nil => exact (texts_ne rfl).elim
  | cons text texts ih =>
      obtain ⟨text_single, later_single⟩ := List.forall_mem_cons.mp single
      by_cases last : texts = []
      · rw [last]
        exact lines_eq_singleton text_single
      · have complete : text.getLast? ≠ some '\r' := by
          intro ends
          exact absurd (text_single _ (List.mem_of_getLast? ends)) (by decide)
        rw [joinLines_cons text last, lines_append_newline complete, lines_eq_singleton text_single,
          ih last later_single]
        rfl

theorem joinLines_append {first second : List Text} (first_ne : first ≠ [])
    (second_ne : second ≠ []) :
    joinLines (first ++ second) = joinLines first ++ '\n' :: joinLines second := by
  induction first with
  | nil => exact (first_ne rfl).elim
  | cons line first ih =>
      cases first with
      | nil => exact joinLines_cons line second_ne
      | cons next first =>
          rw [List.cons_append, joinLines_cons line (by simp), joinLines_cons line (by simp),
            ih (List.cons_ne_nil next first)]
          simp

theorem joinLines_append_nil {texts : List Text} (filled : texts ≠ []) :
    joinLines (texts ++ [[]]) = joinLines texts ++ ['\n'] := by
  rw [joinLines_append filled (List.cons_ne_nil [] [])]
  rfl

end ChatReply
