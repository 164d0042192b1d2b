import ChatReply.Proofs.PhysicalLine
import Mathlib.Data.List.Chain

/-!
# The division of a text into lines

A text is divided into physical lines in one way only, if each line but the last is to end in a
break, no break is to stand inside a line, and no break of two characters is to be taken for two
breaks. Both ways of cutting a text find this division, the one with the breaks and the other
without.
-/

namespace ChatReply

/-- A carriage return and the line feed behind it are taken for the breaks of two lines. -/
def Line.PartsPair (line next : Line) : Prop :=
  line.ending = ['\r'] ∧ next.content = [] ∧ next.ending = ['\n']

/-- The lines are those of a text, each with the break that ends it. -/
structure IsDivision (text : Text) (division : List Line) : Prop where
  /-- The lines and their breaks hold all characters of the text in order. -/
  written : division.flatMap Line.written = text
  /-- No break stands inside a line. -/
  single : ∀ line ∈ division, IsOneLine line.content
  /-- Each line but the last ends in a break. -/
  breaks : ∀ line ∈ division.dropLast, IsLineBreak line.ending
  /-- The last line has no break. -/
  ends : division.getLast?.map Line.ending = some []
  /-- No break of two characters is taken apart. -/
  whole : division.IsChain fun line next => ¬line.PartsPair next

/-! ## The lines that are found -/

theorem Broken.breaks {text : Text} {lines : List Line} (broken : Broken text lines) :
    (∀ line ∈ lines.dropLast, IsLineBreak line.ending) ∧
      lines.getLast?.map Line.ending = some [] := by
  induction broken with
  | last single => simp
  | @next content ending rest lines single breaks later ih =>
      have lines_ne : lines ≠ [] := by
        rintro rfl
        cases later
      rw [List.dropLast_cons_of_ne_nil lines_ne, List.getLast?_cons_of_ne_nil lines_ne]
      exact ⟨List.forall_mem_cons.mpr ⟨breaks, ih.1⟩, ih.2⟩

/-- Only a carriage return can be parted from what comes behind it. -/
theorem isChain_cons_of_ne {line : Line} {lines : List Line} (other : line.ending ≠ ['\r'])
    (later : lines.IsChain fun line next => ¬line.PartsPair next) :
    (line :: lines).IsChain fun line next => ¬line.PartsPair next :=
  List.isChain_cons.mpr ⟨fun _ _ parts => other parts.1, later⟩

theorem isChain_brokenLines (text : Text) :
    (brokenLines text).IsChain fun line next => ¬line.PartsPair next := by
  fun_induction brokenLines text with
  | case1 => exact .singleton _
  | case2 text ih => exact isChain_cons_of_ne (by simp) ih
  | case3 text lone ih =>
      refine List.isChain_cons.mpr ⟨?_, ih⟩
      -- The next line would be a line feed alone, and no line feed stands behind the return.
      rintro next next_mem ⟨-, empty, feed⟩
      obtain ⟨rest, cut⟩ := List.head?_eq_some_iff.mp next_mem
      have text_eq := flatMap_written_brokenLines text
      rw [cut, List.flatMap_cons, Line.written, empty, feed] at text_eq
      exact lone _ text_eq.symm
  | case4 text ih => exact isChain_cons_of_ne (by simp) ih
  | case5 c text _ _ _ ih =>
      obtain ⟨line, rest, cut⟩ := List.exists_cons_of_ne_nil (brokenLines_ne_nil text)
      rw [cut] at ih ⊢
      exact List.isChain_cons.mpr (List.isChain_cons.mp ih)

theorem isDivision_brokenLines (text : Text) : IsDivision text (brokenLines text) where
  written := flatMap_written_brokenLines text
  single := fun _ line_mem _ c_mem => isBreak_of_mem_content line_mem c_mem
  breaks := (broken_brokenLines text).breaks.1
  ends := (broken_brokenLines text).breaks.2
  whole := isChain_brokenLines text

/-! ## No other lines -/

theorem IsDivision.broken {text : Text} {division : List Line}
    (divided : IsDivision text division) : Broken text division := by
  induction division generalizing text with
  | nil => simpa using divided.ends
  | cons line rest ih =>
      obtain ⟨written, single, breaks, ends, whole⟩ := divided
      obtain ⟨line_single, rest_single⟩ := List.forall_mem_cons.mp single
      rw [List.flatMap_cons, Line.written] at written
      obtain ⟨content, ending⟩ := line
      cases rest with
      | nil =>
          obtain rfl : ending = [] := by simpa using ends
          obtain rfl : content = text := by simpa using written
          exact .last line_single
      | cons next rest =>
          obtain ⟨line_breaks, rest_breaks⟩ := List.forall_mem_cons.mp breaks
          rw [List.append_assoc] at written
          rw [← written]
          exact .next line_single line_breaks (ih ⟨rfl, rest_single, rest_breaks, ends, whole.tail⟩)

/-- A line feed at the head of a text is the break of an empty line. -/
theorem Broken.head?_of_newline {text : Text} {lines : List Line} (broken : Broken text lines)
    (feed : text.head? = some '\n') :
    ∃ next ∈ lines.head?, next.content = [] ∧ next.ending = ['\n'] := by
  have inside {content : Text} (single : IsOneLine content) : content.head? ≠ some '\n' :=
    fun found => newline_not_mem single (List.mem_of_head? found)
  cases broken with
  | last single => exact (inside single feed).elim
  | @next content ending rest lines single breaks later =>
      refine ⟨⟨content, ending⟩, rfl, ?_⟩
      cases content with
      | cons c content => exact (inside single feed).elim
      | nil =>
          rcases breaks with rfl | rfl | rfl
          · simp at feed
          · exact ⟨rfl, rfl⟩
          · simp at feed

theorem brokenLines_cons {c : Char} (inside : isBreak c = false) (text : Text) :
    brokenLines (c :: text) = Line.extend c (brokenLines text) := by
  have newline_ne : c ≠ '\n' := by
    rintro rfl
    cases inside
  have return_ne : c ≠ '\r' := by
    rintro rfl
    cases inside
  rw [brokenLines]
  · exact fun _ is_return _ => return_ne is_return
  · exact return_ne
  · exact newline_ne

theorem brokenLines_of_isOneLine {content : Text} (single : IsOneLine content) :
    brokenLines content = [⟨content, []⟩] := by
  induction content with
  | nil => simp [brokenLines]
  | cons c content ih =>
      obtain ⟨inside, later⟩ := List.forall_mem_cons.mp single
      rw [brokenLines_cons inside, ih later]
      rfl

theorem brokenLines_break {ending rest : Text} (breaks : IsLineBreak ending)
    (whole : ending = ['\r'] → rest.head? ≠ some '\n') :
    brokenLines (ending ++ rest) = ⟨[], ending⟩ :: brokenLines rest := by
  rcases breaks with rfl | rfl | rfl
  · simp [brokenLines]
  · simp [brokenLines]
  · rw [List.singleton_append, brokenLines]
    rintro later rfl
    exact whole rfl rfl

theorem brokenLines_append_break {content ending rest : Text} (single : IsOneLine content)
    (breaks : IsLineBreak ending) (whole : ending = ['\r'] → rest.head? ≠ some '\n') :
    brokenLines (content ++ (ending ++ rest)) = ⟨content, ending⟩ :: brokenLines rest := by
  induction content with
  | nil => exact brokenLines_break breaks whole
  | cons c content ih =>
      obtain ⟨inside, later⟩ := List.forall_mem_cons.mp single
      rw [List.cons_append, brokenLines_cons inside, ih later]
      rfl

theorem Broken.eq_brokenLines {text : Text} {lines : List Line} (broken : Broken text lines)
    (whole : lines.IsChain fun line next => ¬line.PartsPair next) : lines = brokenLines text := by
  induction broken with
  | last single => exact (brokenLines_of_isOneLine single).symm
  | @next content ending rest lines single breaks later ih =>
      obtain ⟨beside, whole⟩ := List.isChain_cons.mp whole
      rw [brokenLines_append_break single breaks, ← ih whole]
      -- Behind a return that ends a line a line feed would have to be the next line.
      intro is_return feed
      obtain ⟨next, next_mem, empty, is_feed⟩ := later.head?_of_newline feed
      exact beside next next_mem ⟨is_return, empty, is_feed⟩

/-- The lines of a text with their breaks are its one division into physical lines, and the pieces
between its line breaks are what these lines hold. -/
theorem isDivision_iff_eq_brokenLines (text : Text) :
    (∀ division, IsDivision text division ↔ division = brokenLines text) ∧
      (brokenLines text).map Line.content = lines text := by
  refine ⟨fun division => ⟨fun divided => ?_, ?_⟩, (lines_eq_map_content text).symm⟩
  · exact divided.broken.eq_brokenLines divided.whole
  · rintro rfl
    exact isDivision_brokenLines text

example : brokenLines "a\r\r\n\n\r".toList =
    [⟨['a'], ['\r']⟩, ⟨[], ['\r', '\n']⟩, ⟨[], ['\n']⟩, ⟨[], ['\r']⟩, ⟨[], []⟩] := by
  decide

end ChatReply
