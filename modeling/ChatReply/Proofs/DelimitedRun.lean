import Mathlib.Data.List.Chain
import Mathlib.Data.List.Infix
import ChatReply.Proofs.Leftmost
import ChatReply.Run

/-!
# Runs and their delimiters

Reading a line drops delimiters and nothing else: with its delimiters written again, the runs are
the line. They are in normal form, and a row of runs in which no mark can be mistaken is read back
from what it is written as.
-/

namespace ChatReply

/-! ## Spans -/

namespace Delimiter

variable {delimiter : Delimiter} {inner : Text}

/-- Two sides of the delimiter with some characters between them, none of them its mark. -/
def IsSpan (delimiter : Delimiter) (span : Text) : Prop :=
  ∃ inner, inner ≠ [] ∧ delimiter.mark ∉ inner ∧ span = delimiter.enclose inner

theorem span_reads (delimiter : Delimiter) :
    delimiter.span.Reads fun _ found _ => delimiter.IsSpan found := by
  intro before text matched
  by_cases opens : delimiter.side.isPrefixOf text = true
  · obtain ⟨opened, rfl⟩ := List.isPrefixOf_iff_prefix.mp opens
    have opened_eq : (delimiter.side ++ opened).drop delimiter.width = opened :=
      List.drop_left' List.length_replicate
    simp only [span, opens, if_true, opened_eq, drop_length_takeWhile] at matched ⊢
    split at matched
    · rename_i closed
      obtain ⟨inner_ne, closes⟩ := closed
      obtain ⟨rest, rest_eq⟩ := List.isPrefixOf_iff_prefix.mp closes
      have parts : opened = opened.takeWhile (· ≠ delimiter.mark) ++ (delimiter.side ++ rest) := by
        rw [rest_eq, List.takeWhile_append_dropWhile]
      refine ⟨delimiter.enclose (opened.takeWhile (· ≠ delimiter.mark)), rest, ?_, ?_, _, inner_ne,
        ?_, rfl⟩
      · simp only [enclose, List.append_assoc, ← parts]
      · rw [if_pos ⟨inner_ne, closes⟩]
        simp only [enclose, side, List.length_append, List.length_replicate]
        omega
      · intro inside
        simpa using List.mem_takeWhile_imp inside
    · exact (matched rfl).elim
  · simp [span, opens] at matched

/-- No span begins in a text that holds no side of the delimiter. -/
theorem silent_of_not_infix {gap : Text} (unopened : ¬delimiter.side <:+: gap)
    (before : Option Char) : delimiter.span.Silent before gap [] := by
  rintro front c back rfl
  have closed : ¬delimiter.side.isPrefixOf (c :: (back ++ [])) = true := by
    rw [List.append_nil, List.isPrefixOf_iff_prefix]
    exact fun opens => unopened (opens.isInfix.trans (List.suffix_append front _).isInfix)
  rw [span, if_neg closed]

section

variable (width_pos : 0 < delimiter.width)
include width_pos

theorem side_eq_cons : ∃ marks, delimiter.side = delimiter.mark :: marks := by
  obtain ⟨width, width_eq⟩ := Nat.exists_eq_add_one_of_ne_zero (Nat.ne_of_gt width_pos)
  exact ⟨List.replicate width delimiter.mark, by rw [side, width_eq, List.replicate_succ]⟩

/-- A span is matched whatever comes after it. -/
theorem span_enclose_append (inner_ne : inner ≠ []) (unmarked : delimiter.mark ∉ inner)
    (before : Option Char) (rest : Text) :
    delimiter.span before (delimiter.enclose inner ++ rest) =
      (delimiter.enclose inner).length := by
  obtain ⟨marks, side_eq⟩ := side_eq_cons width_pos
  have text_eq : delimiter.enclose inner ++ rest =
      delimiter.side ++ (inner ++ (delimiter.side ++ rest)) := by
    simp [enclose]
  have opened_eq : (delimiter.enclose inner ++ rest).drop delimiter.width =
      inner ++ (delimiter.side ++ rest) := by
    rw [text_eq]
    exact List.drop_left' List.length_replicate
  have inner_eq : (inner ++ (delimiter.side ++ rest)).takeWhile (· ≠ delimiter.mark) = inner := by
    rw [side_eq]
    exact takeWhile_ne_append unmarked _
  have opens : delimiter.side.isPrefixOf (delimiter.enclose inner ++ rest) = true := by
    rw [text_eq]
    exact List.isPrefixOf_iff_prefix.mpr (List.prefix_append _ _)
  have closes : delimiter.side.isPrefixOf (delimiter.side ++ rest) = true :=
    List.isPrefixOf_iff_prefix.mpr (List.prefix_append _ _)
  simp only [span, opens, if_true, opened_eq, inner_eq, List.drop_left]
  rw [if_pos ⟨inner_ne, closes⟩]
  simp only [enclose, side, List.length_append, List.length_replicate]
  omega

theorem enclose_ne_nil (inner : Text) : delimiter.enclose inner ≠ [] := by
  obtain ⟨marks, side_eq⟩ := side_eq_cons width_pos
  simp [enclose, side_eq]

/-- No span begins in a text without the mark. -/
theorem silent_of_not_mem {gap : Text} (unmarked : delimiter.mark ∉ gap) (before : Option Char)
    (rest : Text) : delimiter.span.Silent before gap rest := by
  rintro front c back rfl
  obtain ⟨marks, side_eq⟩ := side_eq_cons width_pos
  have mark_ne : delimiter.mark ≠ c := by
    rintro rfl
    simp at unmarked
  simp [span, side_eq, List.isPrefixOf, mark_ne]

/-- A text in which the delimiter matches nowhere holds no span. -/
theorem not_infix_of_silent {before : Option Char} {gap rest span : Text}
    (silent : delimiter.span.Silent before gap rest) (form : delimiter.IsSpan span) :
    ¬span <:+: gap := by
  rintro ⟨front, back, rfl⟩
  obtain ⟨inner, inner_ne, unmarked, rfl⟩ := form
  have matched := span_enclose_append width_pos inner_ne unmarked (front.getLast?.or before)
    (back ++ rest)
  obtain ⟨c, others, whole⟩ := List.exists_cons_of_ne_nil (enclose_ne_nil width_pos inner)
  rw [whole, List.cons_append] at matched
  have unmatched := silent front c (others ++ back) (by rw [whole]; simp)
  rw [List.append_assoc, matched] at unmatched
  simp at unmatched

/-- The first span ends the unmarked text before it, and what comes after it is cut on its own. -/
theorem segments_append_enclose {gap rest : Text} (gap_unmarked : delimiter.mark ∉ gap)
    (inner_ne : inner ≠ []) (unmarked : delimiter.mark ∉ inner) (before : Option Char) :
    delimiter.span.segments before (gap ++ (delimiter.enclose inner ++ rest)) =
      Segment.ofGap gap ++ .found (delimiter.enclose inner) ::
        delimiter.span.segments none rest := by
  rw [Pattern.segments_append_match (silent_of_not_mem width_pos gap_unmarked _ _)
    (enclose_ne_nil width_pos inner) (span_enclose_append width_pos inner_ne unmarked _ _)]
  rw [Pattern.segments_congr (fun _ _ _ => rfl) _ none]

end

theorem code_width_pos : 0 < code.width := by decide

theorem bold_width_pos : 0 < bold.width := by decide

end Delimiter

/-! ## Readers of runs -/

namespace Run

/-- One of two neighbours is not plain: two plain runs side by side would be one. -/
def Apart (left right : Run) : Prop :=
  left.style ≠ .plain ∨ right.style ≠ .plain

/-- The run is what is left when every delimiter is resolved: it is not empty, the mark of its own
delimiter does not stand in it, and a plain run holds no span of any of the delimiters. -/
def Resolved (delimiters : List Delimiter) (run : Run) : Prop :=
  run.text ≠ [] ∧
    match run.style with
    | .plain => ∀ delimiter ∈ delimiters, ∀ span, delimiter.IsSpan span → ¬span <:+: run.text
    | .bold => Delimiter.bold.mark ∉ run.text
    | .inlineCode => Delimiter.code.mark ∉ run.text

theorem Resolved.cons {delimiter : Delimiter} {delimiters : List Delimiter} {run : Run}
    (resolved : run.Resolved delimiters)
    (spanless : ∀ span, delimiter.IsSpan span → ¬span <:+: run.text) :
    run.Resolved (delimiter :: delimiters) := by
  obtain ⟨text, style⟩ := run
  obtain ⟨text_ne, others⟩ := resolved
  cases style with
  | plain => exact ⟨text_ne, List.forall_mem_cons.mpr ⟨spanless, others⟩⟩
  | bold | inlineCode => exact ⟨text_ne, others⟩

/-- The runs are the text without its delimiters, resolved and without plain neighbours. -/
structure Reading (delimiters : List Delimiter) (runs : List Run) (text : Text) : Prop where
  /-- Written with their delimiters, the runs are the text. -/
  written : runs.flatMap write = text
  /-- No delimiter is left in a run. -/
  resolved : ∀ run ∈ runs, run.Resolved delimiters
  /-- No plain run stands beside another. -/
  apart : runs.IsChain Apart

namespace Reading

variable {delimiters : List Delimiter} {runs : List Run} {text : Text}

theorem infix_of_mem (reading : Reading delimiters runs text) {run : Run} (member : run ∈ runs) :
    run.text <:+: text := by
  have inside : run.write <:+: text := by
    obtain ⟨before, after, rfl⟩ := List.append_of_mem member
    refine ⟨before.flatMap write, after.flatMap write, ?_⟩
    rw [← reading.written, List.flatMap_append, List.flatMap_cons, List.append_assoc]
  refine List.IsInfix.trans ?_ inside
  obtain ⟨text, style⟩ := run
  cases style with
  | plain => exact List.infix_rfl
  | bold | inlineCode => exact List.infix_append _ _ _

theorem ne_nil (reading : Reading delimiters runs text) (text_ne : text ≠ []) : runs ≠ [] := by
  rintro rfl
  exact text_ne reading.written.symm

theorem nil (delimiters : List Delimiter) : Reading delimiters [] [] :=
  ⟨rfl, by simp, .nil⟩

theorem single {run : Run} (resolved : run.Resolved delimiters) :
    Reading delimiters [run] run.write :=
  ⟨by simp, by simpa using resolved, .singleton run⟩

/-- Between two readings stands a run that is not plain. -/
theorem append_cons {others : List Run} {rest : Text} {run : Run}
    (first : Reading delimiters runs text) (styled : run.style ≠ .plain)
    (resolved : run.Resolved delimiters) (second : Reading delimiters others rest) :
    Reading delimiters (runs ++ run :: others) (text ++ (run.write ++ rest)) := by
  refine ⟨?_, ?_, ?_⟩
  · rw [List.flatMap_append, List.flatMap_cons, first.written, second.written]
  · intro other member
    rcases List.mem_append.mp member with member | member
    · exact first.resolved other member
    · rcases List.mem_cons.mp member with rfl | member
      · exact resolved
      · exact second.resolved other member
  · refine first.apart.append (second.apart.cons fun next _ => .inl styled) ?_
    intro last _ next next_mem
    obtain rfl : run = next := by simpa using next_mem
    exact .inr styled

end Reading

/-- The spans of a delimiter as runs of its style, with the gaps between them read in some way. -/
theorem reading_of_leftmost {delimiter : Delimiter} {delimiters : List Delimiter}
    {runs : Segment → List Run} {prior : Option Char} {text : Text} {segments : List Segment}
    (spans : ∀ span, delimiter.IsSpan span → ∃ run, runs (.found span) = [run] ∧
      run.style ≠ .plain ∧ run.Resolved delimiters ∧ run.write = span)
    (gaps : ∀ gap, gap ≠ [] → (∀ span, delimiter.IsSpan span → ¬span <:+: gap) →
      Reading delimiters (runs (.gap gap)) gap)
    (width_pos : 0 < delimiter.width) (cut : delimiter.span.Leftmost prior text segments) :
    Reading delimiters (segments.flatMap runs) text := by
  have each_gap {before : Option Char} {gap rest : Text}
      (silent : delimiter.span.Silent before gap rest) :
      Reading delimiters ((Segment.ofGap gap).flatMap runs) gap := by
    refine Segment.holds_flatMap_ofGap (Reading.nil delimiters) fun gap_ne => ?_
    exact gaps gap gap_ne fun span form => Delimiter.not_infix_of_silent width_pos silent form
  induction cut with
  | last silent => exact each_gap silent
  | next silent found_ne matched later ih =>
      obtain ⟨run, run_eq, styled, resolved, rfl⟩ :=
        spans _ (delimiter.span_reads.form_of_match found_ne matched)
      rw [List.flatMap_append, List.flatMap_cons, run_eq]
      exact (each_gap silent).append_cons styled resolved ih

theorem reading_ofProse (text : Text) : Reading [.bold] (ofProse text) text := by
  rw [ofProse, List.map_eq_flatMap]
  refine reading_of_leftmost ?_ ?_ Delimiter.bold_width_pos
    (Pattern.leftmost_segments Delimiter.bold.span_reads.fits none text)
  · rintro _ ⟨inner, inner_ne, unmarked, rfl⟩
    refine ⟨⟨inner, .bold⟩, ?_, by simp, ⟨inner_ne, unmarked⟩, rfl⟩
    simp only [Delimiter.content_enclose]
  · intro gap gap_ne spanless
    have resolved : Run.Resolved [.bold] ⟨gap, .plain⟩ := ⟨gap_ne, by simpa using spanless⟩
    exact Reading.single resolved

theorem reading_ofLine (line : Text) : Reading [.code, .bold] (ofLine line) line := by
  refine reading_of_leftmost ?_ ?_ Delimiter.code_width_pos
    (Pattern.leftmost_segments Delimiter.code.span_reads.fits none line)
  · rintro _ ⟨inner, inner_ne, unmarked, rfl⟩
    refine ⟨⟨inner, .inlineCode⟩, ?_, by simp, ⟨inner_ne, unmarked⟩, rfl⟩
    simp only [Delimiter.content_enclose]
  · intro gap gap_ne spanless
    have prose := reading_ofProse gap
    refine ⟨prose.written, ?_, prose.apart⟩
    -- A run lies inside the gap, so it holds no more spans than the gap does.
    intro run member
    refine (prose.resolved run member).cons ?_
    exact fun span form inside => spanless span form (inside.trans (prose.infix_of_mem member))

/-- Written with their delimiters again, the runs of a line are the line. No run is empty, no two
plain runs are neighbours, and no delimiter is left that could be resolved. -/
theorem ofLine_lossless (line : Text) :
    (ofLine line).flatMap write = line ∧
      (∀ run ∈ ofLine line, run.Resolved [.code, .bold]) ∧ (ofLine line).IsChain Apart :=
  have reading := reading_ofLine line
  ⟨reading.written, reading.resolved, reading.apart⟩

/-! ## Written runs -/

/-- No mark in the run can be mistaken: a backtick stands in no run, an asterisk in inline code
only. -/
def Clear (run : Run) : Prop :=
  run.text ≠ [] ∧ Delimiter.code.mark ∉ run.text ∧
    (run.style ≠ .inlineCode → Delimiter.bold.mark ∉ run.text)

/-- A text as a plain run. An empty text is none. -/
def ofPlain (text : Text) : List Run :=
  if text = [] then [] else [⟨text, .plain⟩]

theorem ofPlain_eq {text : Text} (text_ne : text ≠ []) : ofPlain text = [⟨text, .plain⟩] :=
  if_neg text_ne

theorem ofProse_of_not_mem {text : Text} (unmarked : Delimiter.bold.mark ∉ text) :
    ofProse text = ofPlain text := by
  have silent := Delimiter.silent_of_not_mem Delimiter.bold_width_pos unmarked none []
  rw [ofProse, Pattern.segments_of_silent silent, Segment.ofGap, ofPlain]
  split <;> rfl

theorem ofProse_of_not_infix {text : Text} (unopened : ¬Delimiter.bold.side <:+: text) :
    ofProse text = ofPlain text := by
  have silent := Delimiter.silent_of_not_infix unopened none
  rw [ofProse, Pattern.segments_of_silent silent, Segment.ofGap, ofPlain]
  split <;> rfl

/-- The first bold span ends the plain text before it. -/
theorem ofProse_append_bold {gap inner : Text} (gap_unmarked : Delimiter.bold.mark ∉ gap)
    (inner_ne : inner ≠ []) (unmarked : Delimiter.bold.mark ∉ inner) (rest : Text) :
    ofProse (gap ++ (Delimiter.bold.enclose inner ++ rest)) =
      ofPlain gap ++ ⟨inner, .bold⟩ :: ofProse rest := by
  rw [ofProse, Delimiter.segments_append_enclose Delimiter.bold_width_pos gap_unmarked inner_ne
    unmarked, List.map_append, List.map_cons, ofProse, Segment.ofGap, ofPlain]
  simp only [Delimiter.content_enclose]
  split <;> rfl

theorem ofProse_nil : ofProse [] = [] :=
  ofProse_of_not_mem (by simp)

theorem ofLine_of_not_mem {line : Text} (unmarked : Delimiter.code.mark ∉ line) :
    ofLine line = ofProse line := by
  have silent := Delimiter.silent_of_not_mem Delimiter.code_width_pos unmarked none []
  rw [ofLine, Pattern.segments_of_silent silent, Segment.flatMap_ofGap ofProse_nil]

theorem ofLine_nil : ofLine [] = [] := by
  rw [ofLine_of_not_mem List.not_mem_nil, ofProse_nil]

/-- The first code span ends the prose before it, whatever asterisks it holds. -/
theorem ofLine_append_code {prose inner : Text} (prose_unmarked : Delimiter.code.mark ∉ prose)
    (inner_ne : inner ≠ []) (unmarked : Delimiter.code.mark ∉ inner) (rest : Text) :
    ofLine (prose ++ (Delimiter.code.enclose inner ++ rest)) =
      ofProse prose ++ ⟨inner, .inlineCode⟩ :: ofLine rest := by
  rw [ofLine, Delimiter.segments_append_enclose Delimiter.code_width_pos prose_unmarked inner_ne
    unmarked, List.flatMap_append, List.flatMap_cons, Segment.flatMap_ofGap ofProse_nil, ofLine]
  simp only [Delimiter.content_enclose]
  rfl

/-- Runs of prose are read back, with plain text in front that may become the first of them. -/
theorem ofProse_append_write {gap : Text} {runs : List Run}
    (unmarked : Delimiter.bold.mark ∉ gap) (no_code : ∀ run ∈ runs, run.style ≠ .inlineCode)
    (clear : ∀ run ∈ runs, run.Clear) (apart : (ofPlain gap ++ runs).IsChain Apart) :
    ofProse (gap ++ runs.flatMap write) = ofPlain gap ++ runs := by
  induction runs generalizing gap with
  | nil => simpa using ofProse_of_not_mem unmarked
  | cons run runs ih =>
      obtain ⟨text, style⟩ := run
      obtain ⟨prose, later_no_code⟩ := List.forall_mem_cons.mp no_code
      obtain ⟨⟨text_ne, -, text_unmarked⟩, later_clear⟩ := List.forall_mem_cons.mp clear
      have text_unmarked := text_unmarked prose
      have later : (⟨text, style⟩ :: runs).IsChain Apart := apart.right_of_append
      cases style with
      | plain =>
          have gap_eq : gap = [] := by
            by_contra gap_ne
            rw [ofPlain_eq gap_ne] at apart
            simp [Apart] at apart
          rw [← List.singleton_append, ← ofPlain_eq text_ne] at later
          have read := ih text_unmarked later_no_code later_clear later
          rw [ofPlain_eq text_ne] at read
          rw [gap_eq]
          exact read
      | bold =>
          have nothing : Delimiter.bold.mark ∉ ([] : Text) := List.not_mem_nil
          have read := ih nothing later_no_code later_clear later.tail
          rw [List.flatMap_cons, write, ofProse_append_bold unmarked text_ne text_unmarked]
          exact congrArg (ofPlain gap ++ ⟨text, .bold⟩ :: ·) read
      | inlineCode => exact (prose rfl).elim

section

variable {prose : List Run} (no_code : ∀ run ∈ prose, run.style ≠ .inlineCode)
  (clear : ∀ run ∈ prose, run.Clear)
include no_code clear

theorem not_mem_flatMap_write : Delimiter.code.mark ∉ prose.flatMap write := by
  intro marked
  obtain ⟨⟨text, style⟩, member, inside⟩ := List.mem_flatMap.mp marked
  obtain ⟨-, unmarked, -⟩ := clear _ member
  cases style with
  | plain => exact unmarked inside
  | bold =>
      have side_unmarked : Delimiter.code.mark ∉ Delimiter.bold.side := by decide
      simp [write, Delimiter.enclose, side_unmarked, unmarked] at inside
  | inlineCode => exact no_code _ member rfl

theorem ofProse_flatMap_write (apart : prose.IsChain Apart) :
    ofProse (prose.flatMap write) = prose :=
  have nothing : Delimiter.bold.mark ∉ ([] : Text) := List.not_mem_nil
  ofProse_append_write nothing no_code clear apart

end

/-- Runs are read back, with runs of prose in front that end at the first code span. -/
theorem ofLine_append_write {prose runs : List Run}
    (no_code : ∀ run ∈ prose, run.style ≠ .inlineCode) (clear : ∀ run ∈ prose ++ runs, run.Clear)
    (apart : (prose ++ runs).IsChain Apart) :
    ofLine (prose.flatMap write ++ runs.flatMap write) = prose ++ runs := by
  induction runs generalizing prose with
  | nil =>
      rw [List.append_nil] at clear apart
      rw [List.flatMap_nil, List.append_nil, List.append_nil,
        ofLine_of_not_mem (not_mem_flatMap_write no_code clear),
        ofProse_flatMap_write no_code clear apart]
  | cons run runs ih =>
      by_cases is_code : run.style = .inlineCode
      · obtain ⟨prose_clear, later_clear⟩ := List.forall_mem_append.mp clear
        obtain ⟨⟨text_ne, unmarked, -⟩, later_clear⟩ := List.forall_mem_cons.mp later_clear
        have run_eq : run = ⟨run.text, .inlineCode⟩ := by rw [← is_code]
        have written : run.write = Delimiter.code.enclose run.text := by rw [run_eq, write]
        have read := ih (List.forall_mem_nil _) later_clear apart.right_of_append.tail
        rw [List.flatMap_cons, written,
          ofLine_append_code (not_mem_flatMap_write no_code prose_clear) text_ne unmarked,
          ofProse_flatMap_write no_code prose_clear apart.left_of_append, ← run_eq]
        exact congrArg (prose ++ run :: ·) read
      · have still_no_code : ∀ other ∈ prose ++ [run], other.style ≠ .inlineCode :=
          List.forall_mem_append.mpr ⟨no_code, List.forall_mem_singleton.mpr is_code⟩
        have read := ih still_no_code (by simpa using clear) (by simpa using apart)
        simpa using read

/-- Runs in which no mark can be mistaken are read back from what they are written as. -/
theorem ofLine_flatMap_write {runs : List Run} (clear : ∀ run ∈ runs, run.Clear)
    (apart : runs.IsChain Apart) : ofLine (runs.flatMap write) = runs :=
  have no_prose : ∀ run ∈ ([] : List Run), run.style ≠ .inlineCode := List.forall_mem_nil _
  ofLine_append_write no_prose clear apart

/-- Runs of the same style side by side, and asterisks in two code spans. -/
def neighbours : List Run :=
  [⟨['a'], .bold⟩, ⟨['b'], .bold⟩, ⟨['*', '*'], .inlineCode⟩, ⟨['c', '*'], .inlineCode⟩,
    ⟨[' '], .plain⟩, ⟨['d'], .bold⟩, ⟨['*', '*'], .inlineCode⟩]

theorem ofLine_flatMap_write_neighbours :
    (∀ run ∈ neighbours, run.Clear) ∧ neighbours.IsChain Apart ∧
      ofLine "**a****b**\x60**\x60\x60c*\x60 **d**\x60**\x60".toList = neighbours := by
  have clear : ∀ run ∈ neighbours, run.Clear := by
    simp [neighbours, Clear, Delimiter.code, Delimiter.bold]
  have apart : neighbours.IsChain Apart := by simp [neighbours, Apart]
  exact ⟨clear, apart, ofLine_flatMap_write clear apart⟩

end Run
end ChatReply
