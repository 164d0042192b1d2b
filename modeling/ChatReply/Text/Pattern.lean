import ChatReply.Text.Range

/-!
# Patterns and the gaps between their matches

A pattern tells how many characters it matches at the head of a text. Taking its matches from left
to right cuts a text into matched pieces and the gaps between them; nothing of the text is lost.
-/

namespace ChatReply

/-- The length of a pattern's match at the head of a text, given the character before it, and zero
where the pattern does not match. -/
abbrev Pattern := Option Char → Text → Nat

/-- A piece of a text that is cut by a pattern. -/
inductive Segment where
  /-- The characters of one match. -/
  | found (text : Text)
  /-- The characters between two matches, or before the first or after the last. -/
  | gap (text : Text)
deriving DecidableEq, Repr

namespace Segment

/-- The characters of a piece. -/
def text : Segment → Text
  | found text => text
  | gap text => text

/-- Puts an unmatched character in front of pieces. -/
def extend (c : Char) : List Segment → List Segment
  | gap text :: segments => gap (c :: text) :: segments
  | segments => gap [c] :: segments

/-- An unmatched character is put in front of the characters of the pieces. -/
theorem flatMap_text_extend (c : Char) (segments : List Segment) :
    (extend c segments).flatMap Segment.text = c :: segments.flatMap Segment.text := by
  match segments with
  | [] => rfl
  | gap _ :: _ => rfl
  | found _ :: _ => rfl

end Segment

/-- The pieces of a text, with the leftmost matches of the pattern taken one after the other. -/
def Pattern.segments (pattern : Pattern) (before : Option Char) (text : Text) : List Segment :=
  match text with
  | [] => []
  | c :: rest =>
    if pattern before (c :: rest) = 0 then
      Segment.extend c (Pattern.segments pattern (some c) rest)
    else
      let size := pattern before (c :: rest)
      let matched := (c :: rest).take size
      .found matched :: Pattern.segments pattern matched.getLast? ((c :: rest).drop size)
termination_by text.length
decreasing_by
  · simp
  · simp only [List.length_drop, List.length_cons]
    omega

/-- The characters before the first match of the pattern in a text, and those of the match. -/
def Pattern.search? (pattern : Pattern) (before : Option Char) : Text → Option (Text × Text)
  | [] => none
  | c :: rest =>
    if pattern before (c :: rest) = 0 then
      (Pattern.search? pattern (some c) rest).map fun (skipped, found) => (c :: skipped, found)
    else some ([], (c :: rest).take (pattern before (c :: rest)))

/-- The pieces of a text hold all its characters in order. -/
theorem Pattern.flatMap_text_segments (pattern : Pattern) (before : Option Char) (text : Text) :
    (pattern.segments before text).flatMap Segment.text = text := by
  fun_induction Pattern.segments pattern before text with
  | case1 => rfl
  | case2 before c rest unmatched induction =>
    rw [Segment.flatMap_text_extend, induction]
  | case3 before c rest matches? size matched induction =>
    rw [List.flatMap_cons, induction]
    exact List.take_append_drop size (c :: rest)

end ChatReply
