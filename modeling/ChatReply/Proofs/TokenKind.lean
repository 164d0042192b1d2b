import ChatReply.Proofs.LineByLine
import ChatReply.Proofs.WholeWord

/-!
# Kinds of tokens

What the kind of a token says of its characters and of the tokens beside it. A reader hands on
only what holds no match of its pattern, so a later reader never finds what an earlier one takes.
-/

namespace ChatReply
namespace Token

open Code

/-- The token is a block comment. -/
def IsBlock (token : Token) : Prop :=
  token.kind = .comment ∧ IsBlockComment token.text

/-- A line of code may end beside the token: a line break, a block comment or none at all. -/
def LineEdge (neighbour : Option Token) : Prop :=
  ∀ token ∈ neighbour, token.IsBreak ∨ token.IsBlock

/-- What the kind of a token says of its characters and of the tokens before and after it. -/
def Sound (before : Option Token) (token : Token) (after : Option Token) : Prop :=
  match token.kind with
  | .comment =>
      IsBlockComment token.text ∨
        (['/', '/'] <+: token.text ∧ IsOneLine token.text ∧ LineEdge after)
  | .preprocessor =>
      IsOneLine token.text ∧ token.text.find? (fun c => !isBlank c) = some '#' ∧
        LineEdge before ∧ LineEdge after
  | .stringLiteral =>
      IsStringLiteral token.text ∧ IsOneLine token.text ∧ ¬['/', '/'] <:+: token.text
  | .numberLiteral => IsNumberLiteral token.text
  | .keyword => String.ofList token.text ∈ keywords
  | .typeName => String.ofList token.text ∈ typeNames
  | .plainText =>
      IsLineBreak token.text ∨
        (IsName token.text ∧ String.ofList token.text ∉ keywords ∧
          String.ofList token.text ∉ typeNames)
  | .operator =>
      IsOneLine token.text ∧ ¬['/', '/'] <:+: token.text ∧
        ∀ literal, IsStringLiteral literal → ¬literal <:+: token.text

/-- Each token of a row is sound in its place, when the row stands between two tokens. -/
def Placed (before : Option Token) : List Token → Option Token → Prop
  | [], _ => True
  | token :: tokens, after =>
      Sound before token (tokens.head?.or after) ∧ Placed (some token) tokens after

variable {before after : Option Token} {tokens others : List Token}

/-- Of two rows each stands beside the other. -/
theorem placed_append :
    Placed before (tokens ++ others) after ↔
      Placed before tokens (others.head?.or after) ∧
        Placed (tokens.getLast?.or before) others after := by
  induction tokens generalizing before with
  | nil => simp [Placed]
  | cons token tokens ih =>
      rw [List.cons_append, Placed, Placed, ih, List.head?_append, Option.or_assoc, and_assoc,
        Pattern.getLast?_cons_or]

theorem placed_singleton {token : Token} :
    Placed before [token] after ↔ Sound before token after :=
  Iff.of_eq (and_true _)

theorem placed_of_forall (sound : ∀ token ∈ tokens, ∀ before after, Sound before token after)
    (before after : Option Token) : Placed before tokens after := by
  induction tokens generalizing before with
  | nil => trivial
  | cons token tokens ih =>
      obtain ⟨sound, later⟩ := List.forall_mem_cons.mp sound
      exact ⟨sound before _, ih later (some token)⟩

theorem Cut.infix_of_mem {tokens : List Token} {text : Text} (cut : Cut tokens text)
    {token : Token} (member : token ∈ tokens) : token.text <:+: text := by
  obtain ⟨before, after, rfl⟩ := List.append_of_mem member
  refine ⟨plainText before, plainText after, ?_⟩
  rw [← cut.plainText_eq, plainText_append, plainText_cons, List.append_assoc]

end Token

/-! ## Tokens inside a line -/

namespace Code

open Token (Sound Placed LineEdge placed_append placed_singleton placed_of_forall)

theorem sound_of_isName {name : Text} (is_name : IsName name) (before after : Option Token) :
    Sound before ⟨name, classify name⟩ after := by
  unfold classify
  split
  · rename_i keyword
    exact List.contains_iff_mem.mp keyword
  · rename_i no_keyword
    split
    · rename_i type_name
      exact List.contains_iff_mem.mp type_name
    · rename_i no_type_name
      refine .inr ⟨is_name, ?_, ?_⟩
      · rwa [List.contains_iff_mem] at no_keyword
      · rwa [List.contains_iff_mem] at no_type_name

/-- Operators aside, words and numbers have the form of their kind. -/
theorem sound_of_mem_numberTokens {text : Text} {token : Token} (member : token ∈ numberTokens text)
    (operators : token.kind = .operator → ∀ before after, Sound before token after)
    (before after : Option Token) : Sound before token after := by
  have cut := Pattern.leftmost_segments numberLiteral_reads.fits none text
  obtain ⟨segment, segment_mem, token_mem⟩ := List.mem_flatMap.mp member
  cases segment with
  | found literal =>
      obtain rfl := List.mem_singleton.mp token_mem
      obtain ⟨-, -, is_literal, -⟩ := cut.form_of_mem numberLiteral_reads segment_mem
      exact is_literal
  | gap gap =>
      have words := Pattern.leftmost_segments identifier_reads.fits none gap
      obtain ⟨word, word_mem, rfl⟩ := List.mem_map.mp token_mem
      cases word with
      | found name =>
          obtain ⟨-, -, is_name, -⟩ := words.form_of_mem identifier_reads word_mem
          exact sound_of_isName is_name before after
      | gap text => exact operators rfl before after

/-- No string literal is left over between string literals. -/
theorem not_infix_stringLiteral_of_silent {before : Option Char} {gap rest literal : Text}
    (silent : stringLiteral.Silent before gap rest) (form : IsStringLiteral literal) :
    ¬literal <:+: gap := by
  rintro ⟨front, back, rfl⟩
  have matched := stringLiteral_append form (front.getLast?.or before) (back ++ rest)
  obtain ⟨quote, inner, -, rfl, -⟩ := form
  have unmatched := silent front quote (inner ++ [quote] ++ back) (by simp)
  rw [List.append_assoc, ← List.cons_append, matched] at unmatched
  simp at unmatched

theorem sound_of_mem_stringTokens {text : Text} (single : IsOneLine text)
    (uncommented : ¬['/', '/'] <:+: text) {token : Token} (member : token ∈ stringTokens text)
    (before after : Option Token) : Sound before token after := by
  have cut := Pattern.leftmost_segments stringLiteral_reads.fits none text
  have inside := (stringTokens_cut text).infix_of_mem member
  have token_single := single.of_infix inside
  have token_uncommented : ¬['/', '/'] <:+: token.text := fun slashes =>
    uncommented (slashes.trans inside)
  obtain ⟨segment, segment_mem, token_mem⟩ := List.mem_flatMap.mp member
  cases segment with
  | found literal =>
      obtain rfl := List.mem_singleton.mp token_mem
      obtain ⟨-, -, is_literal⟩ := cut.form_of_mem stringLiteral_reads segment_mem
      exact ⟨is_literal, token_single, token_uncommented⟩
  | gap gap =>
      obtain ⟨left, right, -, -, -, silent⟩ :=
        cut.gap_of_mem stringLiteral_keepsWords (parted_none text) segment_mem
      refine sound_of_mem_numberTokens token_mem ?_ before after
      intro operator before after
      have unquoted : ∀ literal, IsStringLiteral literal → ¬literal <:+: token.text := by
        intro literal form literal_inside
        apply not_infix_stringLiteral_of_silent silent form
        exact literal_inside.trans ((numberTokens_cut gap).infix_of_mem token_mem)
      rw [Sound, operator]
      exact ⟨token_single, token_uncommented, unquoted⟩

/-! ## Lines -/

theorem find?_of_isDirective {line : Text} (directive : isDirective line = true) :
    line.find? (fun c => !isBlank c) = some '#' := by
  unfold isDirective at directive
  split at directive
  · rename_i rest start
    rw [List.find?_not_eq_head?_dropWhile]
    exact congrArg List.head? start
  · exact absurd directive (by decide)

theorem placed_lineTokens {line : Text} (single : IsOneLine line) {before after : Option Token}
    (start : LineEdge before) (finish : LineEdge after) :
    Placed before (lineTokens line) after := by
  have no_newline := newline_not_mem single
  unfold lineTokens
  split
  · rename_i directive
    exact placed_singleton.mpr ⟨single, find?_of_isDirective directive, start, finish⟩
  · split
    · rename_i code comment first
      obtain ⟨rfl, ⟨rest, rfl⟩, uncommented⟩ := search?_lineComment no_newline first
      have code_single : IsOneLine code := single.of_infix (List.infix_append [] code _)
      have comment_single := single.of_infix (List.suffix_append code _).isInfix
      refine placed_append.mpr ⟨placed_of_forall ?_ _ _, placed_singleton.mpr (.inr ?_)⟩
      · exact fun token member => sound_of_mem_stringTokens code_single uncommented member
      · exact ⟨⟨rest, rfl⟩, comment_single, finish⟩
    · rename_i absent
      have uncommented := search?_lineComment_eq_none no_newline absent
      refine placed_of_forall ?_ before after
      exact fun token member => sound_of_mem_stringTokens single uncommented member

theorem placed_linesTokens (text : Text) {before after : Option Token} (start : LineEdge before)
    (finish : LineEdge after) : Placed before (linesTokens text) after := by
  have broken := broken_brokenLines text
  rw [linesTokens]
  generalize brokenLines text = lines at broken
  induction broken generalizing before with
  | @last content single =>
      have placed := placed_lineTokens single start finish
      simpa [breakTokens] using placed
  | @next content ending rest lines single breaks later ih =>
      have edge : LineEdge (some ⟨ending, .plainText⟩) := by
        rintro token ⟨⟩
        exact .inl ⟨rfl, breaks⟩
      have line_break : breakTokens ending = [⟨ending, .plainText⟩] := if_neg breaks.ne_nil
      rw [List.flatMap_cons, line_break, List.append_assoc, placed_append]
      exact ⟨placed_lineTokens single start edge, .inl breaks, ih edge⟩

theorem placed_of_leftmost {prior : Option Char} {code : Text} {segments : List Segment}
    (cut : blockComment.Leftmost prior code segments) {before : Option Token}
    (start : LineEdge before) : Placed before (tokenize code) none := by
  -- The induction is over the block comments, each of which ends a line before it and starts one.
  induction cut generalizing before with
  | last silent =>
      rw [tokenize_of_silent (silent.congr (fun _ _ _ => rfl) none)]
      exact placed_linesTokens _ start (by simp [LineEdge])
  | @next prior gap found rest segments silent found_ne matched later ih =>
      have form := blockComment_reads.form_of_match found_ne matched
      have edge : LineEdge (some ⟨found, .comment⟩) := by
        rintro token ⟨⟩
        exact .inr ⟨rfl, form⟩
      rw [tokenize_append_comment form (silent.congr (fun _ _ _ => rfl) none), placed_append]
      exact ⟨placed_linesTokens gap start edge, .inl form, ih edge⟩

/-- No break stands in a token of a line. -/
theorem isOneLine_of_mem_lineTokens {line : Text} (single : IsOneLine line) {token : Token}
    (member : token ∈ lineTokens line) : IsOneLine token.text :=
  single.of_infix ((lineTokens_cut (newline_not_mem single)).infix_of_mem member)

theorem isOneLine_of_mem_linesTokens {text : Text} {token : Token}
    (member : token ∈ linesTokens text) : IsOneLine token.text ∨ token.IsBreak := by
  obtain ⟨line, line_mem, token_mem⟩ := List.mem_flatMap.mp member
  obtain ⟨single, ending⟩ := (broken_brokenLines text).of_mem line_mem
  rcases List.mem_append.mp token_mem with token_mem | token_mem
  · exact .inl (isOneLine_of_mem_lineTokens single token_mem)
  · exact .inr (isBreak_of_mem_breakTokens ending token_mem)

theorem isOneLine_of_mem_tokenize {code : Text} {token : Token} (member : token ∈ tokenize code) :
    IsOneLine token.text ∨ token.IsBreak ∨ token.IsBlock := by
  have cut := Pattern.leftmost_segments blockComment_reads.fits none code
  obtain ⟨segment, segment_mem, token_mem⟩ := List.mem_flatMap.mp member
  cases segment with
  | found comment =>
      obtain rfl := List.mem_singleton.mp token_mem
      obtain ⟨-, -, form⟩ := cut.form_of_mem blockComment_reads segment_mem
      exact .inr (.inr ⟨rfl, form⟩)
  | gap gap => exact (isOneLine_of_mem_linesTokens token_mem).imp_right .inl

/-- Each token has the characters and the neighbours that its kind calls for, and a line break
stands in block comments and in tokens of its own only. -/
theorem tokenize_sound (code : Text) :
    (∀ before token after, tokenize code = before ++ token :: after →
      Sound before.getLast? token after.head?) ∧
    ∀ token ∈ tokenize code, IsOneLine token.text ∨ token.IsBreak ∨ token.IsBlock := by
  refine ⟨?_, fun token => isOneLine_of_mem_tokenize⟩
  intro before token after split
  have start : LineEdge none := by simp [LineEdge]
  have placed := placed_of_leftmost
    (Pattern.leftmost_segments blockComment_reads.fits none code) start
  rw [split, placed_append] at placed
  obtain ⟨-, sound, -⟩ := placed
  rwa [Option.or_none, Option.or_none] at sound

theorem tokenize_sound_directive :
    Sound (some ⟨"a".toList, .plainText⟩) ⟨"//b".toList, .comment⟩ (some ⟨['\n'], .plainText⟩) ∧
      Sound (some ⟨['\n'], .plainText⟩) ⟨"#c".toList, .preprocessor⟩ none := by
  have tokens_eq : tokenize "a//b\n#c".toList =
      [⟨"a".toList, .plainText⟩, ⟨"//b".toList, .comment⟩, ⟨['\n'], .plainText⟩,
        ⟨"#c".toList, .preprocessor⟩] := by
    decide +kernel
  have sound := (tokenize_sound "a//b\n#c".toList).1
  exact ⟨sound [_] _ [_, _] tokens_eq, sound [_, _, _] _ [] tokens_eq⟩

end Code
end ChatReply
