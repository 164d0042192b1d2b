import ChatReply.Code.Lexer
import ChatReply.Proofs.LiteralForm
import ChatReply.Proofs.PhysicalLine

/-!
# Lossless tokens

The tokens of code cut it into pieces of at least one character. Every reader keeps this by handing
on what its pattern leaves over; a line comment may drop what follows it because nothing does.
-/

namespace ChatReply

/-! ## Pieces of a text -/

theorem Segment.text_ne_nil_of_mem_extend {c : Char} {segments : List Segment}
    (kept : ∀ segment ∈ segments, segment.text ≠ []) :
    ∀ segment ∈ Segment.extend c segments, segment.text ≠ [] := by
  intro segment member
  match segments with
  | [] | .found _ :: _ =>
      rcases List.mem_cons.mp member with rfl | member
      · simp [Segment.text]
      · exact kept segment member
  | .gap _ :: _ =>
      rcases List.mem_cons.mp member with rfl | member
      · simp [Segment.text]
      · exact kept segment (List.mem_cons_of_mem _ member)

namespace Pattern

/-- No piece of a text is empty. -/
theorem text_ne_nil_of_mem_segments (pattern : Pattern) (before : Option Char) (text : Text) :
    ∀ segment ∈ pattern.segments before text, segment.text ≠ [] := by
  fun_induction Pattern.segments pattern before text with
  | case1 => simp
  | case2 before c rest unmatched ih => exact Segment.text_ne_nil_of_mem_extend ih
  | case3 before c rest matches? size matched ih =>
      intro segment member
      rcases List.mem_cons.mp member with rfl | member
      · simpa [Segment.text, matched, size] using matches?
      · exact ih segment member

end Pattern

/-! ## Tokens that cut a text -/

namespace Token

/-- The token is a line break. -/
def IsBreak (token : Token) : Prop :=
  token.kind = .plainText ∧ IsLineBreak token.text

/-- The tokens are the text in pieces, none of them empty. -/
structure Cut (tokens : List Token) (text : Text) : Prop where
  /-- Together the tokens are the text. -/
  plainText_eq : plainText tokens = text
  /-- Each token holds at least one character. -/
  text_ne_nil : ∀ token ∈ tokens, token.text ≠ []

namespace Cut

theorem nil : Cut [] [] :=
  ⟨rfl, by simp⟩

theorem single {text : Text} (text_ne : text ≠ []) (kind : TokenKind) : Cut [⟨text, kind⟩] text :=
  ⟨by simp [plainText], by simpa using text_ne⟩

theorem append {tokens others : List Token} {text rest : Text} (first : Cut tokens text)
    (second : Cut others rest) : Cut (tokens ++ others) (text ++ rest) := by
  refine ⟨?_, ?_⟩
  · rw [plainText, List.flatMap_append]
    rw [← first.plainText_eq, ← second.plainText_eq]
    rfl
  · intro token member
    rcases List.mem_append.mp member with member | member
    · exact first.text_ne_nil token member
    · exact second.text_ne_nil token member

/-- Parts that are cut one by one are cut as a whole. -/
theorem flatMap {Part : Type} {parts : List Part} {written : Part → Text}
    {tokens : Part → List Token} (each : ∀ part ∈ parts, Cut (tokens part) (written part)) :
    Cut (parts.flatMap tokens) (parts.flatMap written) := by
  induction parts with
  | nil => exact nil
  | cons part parts ih =>
      rw [List.flatMap_cons, List.flatMap_cons]
      exact (each part List.mem_cons_self).append
        (ih fun part member => each part (List.mem_cons_of_mem _ member))

/-- A reader that cuts every piece of a text which is not empty cuts the text. -/
theorem segments {pattern : Pattern} {before : Option Char} {tokens : Segment → List Token}
    (each : ∀ segment, segment.text ≠ [] → Cut (tokens segment) segment.text) (text : Text) :
    Cut ((pattern.segments before text).flatMap tokens) text := by
  have pieces : Cut ((pattern.segments before text).flatMap tokens)
      ((pattern.segments before text).flatMap Segment.text) :=
    flatMap fun segment member =>
      each segment (pattern.text_ne_nil_of_mem_segments before text segment member)
  rwa [pattern.flatMap_text_segments] at pieces

end Cut
end Token

/-! ## The readers of code -/

namespace Code

open Token (Cut)

theorem wordTokens_cut (text : Text) : Cut (wordTokens text) text := by
  rw [wordTokens, List.map_eq_flatMap]
  apply Cut.segments
  rintro (name | gap) text_ne
  · exact Cut.single text_ne _
  · exact Cut.single text_ne _

theorem numberTokens_cut (text : Text) : Cut (numberTokens text) text := by
  apply Cut.segments
  rintro (literal | gap) text_ne
  · exact Cut.single text_ne _
  · exact wordTokens_cut gap

theorem stringTokens_cut (text : Text) : Cut (stringTokens text) text := by
  apply Cut.segments
  rintro (literal | gap) text_ne
  · exact Cut.single text_ne _
  · exact numberTokens_cut gap

theorem lineTokens_cut {line : Text} (single : '\n' ∉ line) : Cut (lineTokens line) line := by
  unfold lineTokens
  split
  · rename_i directive
    refine Cut.single ?_ _
    rintro rfl
    simp [isDirective, trimStart, stripStart] at directive
  · split
    · rename_i code comment first
      obtain ⟨line_eq, ⟨rest, comment_eq⟩, -⟩ := search?_lineComment single first
      rw [line_eq]
      exact (stringTokens_cut code).append (Cut.single (by simp [comment_eq]) _)
    · exact stringTokens_cut line

theorem breakTokens_cut (ending : Text) : Cut (breakTokens ending) ending := by
  unfold breakTokens
  split
  · rename_i empty
    rw [empty]
    exact Cut.nil
  · rename_i ending_ne
    exact Cut.single ending_ne _

theorem isBreak_of_mem_breakTokens {ending : Text} (breaks : ending = [] ∨ IsLineBreak ending)
    {token : Token} (member : token ∈ breakTokens ending) : token.IsBreak := by
  unfold breakTokens at member
  split at member
  · simp at member
  · rename_i ending_ne
    obtain rfl := List.mem_singleton.mp member
    exact ⟨rfl, breaks.resolve_left ending_ne⟩

theorem linesTokens_cut (text : Text) : Cut (linesTokens text) text := by
  have each : ∀ line ∈ brokenLines text,
      Cut (lineTokens line.content ++ breakTokens line.ending) line.written := by
    intro line member
    have single : '\n' ∉ line.content := fun newline =>
      absurd (isBreak_of_mem_content member newline) (by decide)
    exact (lineTokens_cut single).append (breakTokens_cut line.ending)
  have whole := Cut.flatMap each
  rwa [flatMap_written_brokenLines] at whole

theorem tokenize_cut (code : Text) : Cut (tokenize code) code := by
  apply Cut.segments
  rintro (comment | gap) text_ne
  · exact Cut.single text_ne _
  · exact linesTokens_cut gap

/-- No character of the code is lost, and no token is empty. -/
theorem tokenize_lossless (code : Text) :
    Token.plainText (tokenize code) = code ∧ ∀ token ∈ tokenize code, token.text ≠ [] :=
  ⟨(tokenize_cut code).plainText_eq, (tokenize_cut code).text_ne_nil⟩

end Code
end ChatReply
