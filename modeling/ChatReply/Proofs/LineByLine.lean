import ChatReply.Proofs.LiteralForm
import ChatReply.Proofs.Lossless

/-!
# Code line by line

Tokens that stand before a line feed do not depend on what comes after it, and the other way round,
unless a block comment is open there.
-/

namespace ChatReply

/-- The characters behind the last match, if there are any. -/
def Segment.trailing (segments : List Segment) : Text :=
  match segments.getLast? with
  | some (.gap text) => text
  | _ => []

theorem Segment.trailing_ofGap (text : Text) : trailing (ofGap text) = text := by
  cases text <;> rfl

theorem Segment.trailing_append_found (gap span : Text) (segments : List Segment) :
    trailing (ofGap gap ++ .found span :: segments) = trailing segments := by
  simp only [trailing, List.getLast?_append, List.getLast?_cons]
  cases segments.getLast? <;> simp

namespace Code

theorem linesTokens_append_newline {first : Text} (complete : first.getLast? ≠ some '\r')
    (second : Text) :
    linesTokens (first ++ '\n' :: second) =
      linesTokens first ++ ⟨['\n'], .plainText⟩ :: linesTokens second := by
  obtain ⟨init, last, first_eq, whole_eq⟩ := brokenLines_append_newline complete second
  simp [linesTokens, first_eq, whole_eq, breakTokens]

theorem linesTokens_nil : linesTokens [] = [] := by
  decide +kernel

/-- Code without block comments is read line by line. -/
theorem tokenize_of_silent {gap : Text} (silent : blockComment.Silent none gap []) :
    tokenize gap = linesTokens gap := by
  rw [tokenize, Pattern.segments_of_silent silent, Segment.flatMap_ofGap linesTokens_nil]

/-- The first comment parts the code before it from the code behind it. -/
theorem tokenize_append_comment {gap found rest : Text} (form : IsBlockComment found)
    (silent : blockComment.Silent none gap (found ++ rest)) :
    tokenize (gap ++ (found ++ rest)) =
      linesTokens gap ++ ⟨found, .comment⟩ :: tokenize rest := by
  rw [tokenize, Pattern.segments_append_match silent form.ne_nil (blockComment_append form _ rest),
    tokenize, Pattern.segments_congr (fun _ _ _ => rfl) found.getLast? none, List.flatMap_append,
    List.flatMap_cons, Segment.flatMap_ofGap linesTokens_nil]
  rfl

/-- A line feed behind code that opens no comment. -/
theorem tokenize_unopened_append_newline {gap : Text} (complete : gap.getLast? ≠ some '\r')
    (unopened : ¬['/', '*'] <:+: gap) (second : Text) :
    tokenize (gap ++ '\n' :: second) =
      linesTokens gap ++ ⟨['\n'], .plainText⟩ :: tokenize second := by
  have straddling {behind rest : Text} (silent : blockComment.Silent none behind rest) :
      blockComment.Silent none (gap ++ '\n' :: behind) rest := by
    refine (silent_of_unopened unopened (by simp) none).append ?_
    exact Pattern.silent_cons_iff.mpr ⟨rfl, silent.congr (fun _ _ _ => rfl) (some '\n')⟩
  have cut := Pattern.leftmost_segments blockComment_reads.fits none second
  generalize blockComment.segments none second = segments at cut
  cases cut with
  | last silent =>
      rw [tokenize_of_silent silent, tokenize_of_silent (straddling silent),
        linesTokens_append_newline complete]
  | @next _ behind found rest _ silent found_ne matched later =>
      have form := blockComment_reads.form_of_match found_ne matched
      rw [tokenize_append_comment form silent, ← List.cons_append, ← List.append_assoc,
        tokenize_append_comment form (straddling silent), linesTokens_append_newline complete]
      simp

/-- A line feed behind code whose last gap opens no comment. -/
theorem tokenize_leftmost_append_newline {before : Option Char} {first : Text}
    {segments : List Segment} (cut : blockComment.Leftmost before first segments)
    (complete : first.getLast? ≠ some '\r') (closed : ¬['/', '*'] <:+: Segment.trailing segments)
    (second : Text) :
    tokenize (first ++ '\n' :: second) =
      tokenize first ++ ⟨['\n'], .plainText⟩ :: tokenize second := by
  -- The induction is over the comments of the first part; each gap before one opens none.
  induction cut with
  | @last before gap silent =>
      rw [Segment.trailing_ofGap] at closed
      rw [tokenize_of_silent (silent.congr (fun _ _ _ => rfl) none),
        tokenize_unopened_append_newline complete closed]
  | @next before gap found rest segments silent found_ne matched later ih =>
      have form := blockComment_reads.form_of_match found_ne matched
      have unopened := not_infix_of_silent form silent
      have apart (more : Text) : (found ++ more).head? ≠ some '*' := by
        obtain ⟨inner, rfl, -⟩ := form
        simp
      have rest_complete : rest.getLast? ≠ some '\r' := by
        intro last
        simp [List.getLast?_append, last] at complete
      rw [Segment.trailing_append_found] at closed
      rw [tokenize_append_comment form (silent_of_unopened unopened (apart _) none),
        List.append_assoc, List.append_assoc,
        tokenize_append_comment form (silent_of_unopened unopened (apart _) none),
        ih rest_complete closed]
      simp

/-- The tokens behind a line feed are those of the code there alone, unless the code before it opens
a block comment behind the last one that it closes. -/
theorem tokenize_append_newline {first : Text} (complete : first.getLast? ≠ some '\r')
    (closed : ¬['/', '*'] <:+: Segment.trailing (blockComment.segments none first))
    (second : Text) :
    tokenize (first ++ '\n' :: second) =
      tokenize first ++ [⟨['\n'], .plainText⟩] ++ tokenize second := by
  have cut := Pattern.leftmost_segments blockComment_reads.fits none first
  rw [tokenize_leftmost_append_newline cut complete closed, List.append_assoc]
  rfl

/-- A slash before the line feed and an asterisk behind it open no comment. -/
theorem tokenize_append_newline_slash :
    ("a/*/*/\"/".toList).getLast? ≠ some '\r' ∧
      ¬['/', '*'] <:+: Segment.trailing (blockComment.segments none "a/*/*/\"/".toList) ∧
      tokenize ("a/*/*/\"/".toList ++ '\n' :: "*\"/**/".toList) =
        tokenize "a/*/*/\"/".toList ++ [⟨['\n'], .plainText⟩] ++ tokenize "*\"/**/".toList := by
  have closed :
      ¬['/', '*'] <:+: Segment.trailing (blockComment.segments none "a/*/*/\"/".toList) := by
    decide +kernel
  exact ⟨by decide, closed, tokenize_append_newline (by decide) closed _⟩

end Code
end ChatReply
