import ChatReply.Proofs.CodeFrame

/-!
# Tab stops

However the tokens of a line divide it, each tab in it reaches from the column where it stands to
the next tab stop, and all other characters stay as they are. This fixes what is written of a line,
because exactly one number of spaces reaches the next stop.
-/

namespace ChatReply
namespace Render

/-- What is written of a text behind what stands before it: each tab as one to four spaces that end
at a multiple of four columns, every other character as it is. -/
inductive Tabbed : Text → Text → Text → Prop
  | nil {before : Text} : Tabbed before [] []
  | char {before text written : Text} {c : Char} (other : c ≠ '\t')
      (later : Tabbed (before ++ [c]) text written) : Tabbed before (c :: text) (c :: written)
  | tab {before text written : Text} {fill : Nat} (at_least : 1 ≤ fill) (at_most : fill ≤ 4)
      (stop : 4 ∣ displayWidth (before ++ List.replicate fill ' '))
      (later : Tabbed (before ++ List.replicate fill ' ') text written) :
      Tabbed before ('\t' :: text) (List.replicate fill ' ' ++ written)

/-- What is written of the tokens of a line behind what stands before them: each token keeps its
kind, and its text is written behind the texts of the tokens before it. -/
inductive TabbedTokens : Text → List Token → List Token → Prop
  | nil {before : Text} : TabbedTokens before [] []
  | cons {before text written : Text} {kind : TokenKind} {tokens later : List Token}
      (first : Tabbed before text written)
      (rest : TabbedTokens (before ++ written) tokens later) :
      TabbedTokens before (⟨text, kind⟩ :: tokens) (⟨written, kind⟩ :: later)

/-! ## One text -/

theorem displayWidth_append_spaces (before : Text) (fill : Nat) :
    displayWidth (before ++ List.replicate fill ' ') = displayWidth before + fill := by
  have space : charWidth ' ' = 1 := charWidth_of_mem_frameChars ' ' (by decide)
  rw [displayWidth_append, displayWidth_replicate fill space]

/-- One number of spaces reaches from a column to the next stop. -/
theorem eq_fill_of_stop {before : Text} {fill : Nat} (at_least : 1 ≤ fill) (at_most : fill ≤ 4)
    (stop : 4 ∣ displayWidth (before ++ List.replicate fill ' ')) :
    fill = tabWidth - displayWidth before % tabWidth := by
  rw [displayWidth_append_spaces] at stop
  rw [tabWidth]
  omega

theorem tabbed_expandText (before text : Text) :
    Tabbed before text (expandText (displayWidth before) text) := by
  induction text generalizing before with
  | nil => exact .nil
  | cons c text ih =>
      rw [expandText, ← displayWidth_append]
      by_cases tab : c = '\t'
      · rw [tab, expandChar, if_pos rfl]
        refine .tab ?_ ?_ ?_ (ih _)
        · rw [tabWidth]
          omega
        · exact Nat.sub_le tabWidth _
        · rw [displayWidth_append_spaces, tabWidth]
          omega
      · rw [expandChar, if_neg tab]
        exact .char tab (ih _)

theorem Tabbed.eq_expandText {before text written : Text} (tabbed : Tabbed before text written) :
    written = expandText (displayWidth before) text := by
  induction tabbed with
  | nil => rfl
  | char other later ih =>
      rw [expandText, expandChar, if_neg other, ← displayWidth_append, ← ih]
      rfl
  | tab at_least at_most stop later ih =>
      rw [expandText, expandChar, if_pos rfl, ← eq_fill_of_stop at_least at_most stop,
        ← displayWidth_append, ← ih]

theorem Tabbed.tab_not_mem {before text written : Text} (tabbed : Tabbed before text written) :
    '\t' ∉ written := by
  induction tabbed with
  | nil => exact List.not_mem_nil
  | char other later ih => exact List.not_mem_cons_of_ne_of_not_mem (Ne.symm other) ih
  | tab at_least at_most stop later ih => exact List.not_mem_append (by simp) ih

/-! ## The tokens of a line -/

theorem tabbedTokens_expandFrom (before : Text) (tokens : List Token) :
    TabbedTokens before tokens (expandFrom (displayWidth before) tokens) := by
  induction tokens generalizing before with
  | nil => exact .nil
  | cons token tokens ih =>
      rw [expandFrom, ← displayWidth_append]
      exact .cons (tabbed_expandText before token.text) (ih _)

theorem TabbedTokens.eq_expandFrom {before : Text} {tokens written : List Token}
    (tabbed : TabbedTokens before tokens written) :
    written = expandFrom (displayWidth before) tokens := by
  induction tabbed with
  | nil => rfl
  | cons first rest ih => rw [expandFrom, ← first.eq_expandText, ← displayWidth_append, ← ih]

theorem TabbedTokens.map_kind {before : Text} {tokens written : List Token}
    (tabbed : TabbedTokens before tokens written) :
    written.map Token.kind = tokens.map Token.kind := by
  induction tabbed with
  | nil => rfl
  | cons first rest ih => rw [List.map_cons, List.map_cons, ih]

/-- What is written of tokens is what is written of their text. -/
theorem TabbedTokens.plainText {before : Text} {tokens written : List Token}
    (tabbed : TabbedTokens before tokens written) :
    Tabbed before (Token.plainText tokens) (Token.plainText written) := by
  rw [tabbed.eq_expandFrom, plainText_expandFrom]
  exact tabbed_expandText before (Token.plainText tokens)

/-- Expanding tabs keeps the tokens of a line with their kinds and leaves no tab. All tokens
together come out as one token with their text would, and what comes out is the one way to let each
tab reach to the next stop and to keep all other characters. -/
theorem expandTabs_exact (tokens : List Token) :
    (expandTabs tokens).length = tokens.length ∧
      (expandTabs tokens).map Token.kind = tokens.map Token.kind ∧
      '\t' ∉ Token.plainText (expandTabs tokens) ∧
      (∀ kind, expandTabs [⟨Token.plainText tokens, kind⟩] =
        [⟨Token.plainText (expandTabs tokens), kind⟩]) ∧
      Tabbed [] (Token.plainText tokens) (Token.plainText (expandTabs tokens)) ∧
      ∀ written, TabbedTokens [] tokens written ↔ written = expandTabs tokens := by
  have tabbed : TabbedTokens [] tokens (expandTabs tokens) := tabbedTokens_expandFrom [] tokens
  have kinds := tabbed.map_kind
  refine ⟨?_, kinds, tabbed.plainText.tab_not_mem, fun kind => ?_, tabbed.plainText,
    fun written => ⟨TabbedTokens.eq_expandFrom, ?_⟩⟩
  · simpa using congrArg List.length kinds
  · rw [tabbed.plainText.eq_expandText]
    rfl
  · rintro rfl
    exact tabbed

example : expandTabs [⟨"字\u0301".toList, .stringLiteral⟩, ⟨"\tx".toList, .operator⟩,
      ⟨"\t\t".toList, .plainText⟩] =
    [⟨"字\u0301".toList, .stringLiteral⟩, ⟨"  x".toList, .operator⟩,
      ⟨"       ".toList, .plainText⟩] := by
  decide +kernel

end Render
end ChatReply
