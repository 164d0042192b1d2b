import ChatReply.Proofs.CodeFrame
import ChatReply.Proofs.TokenKind
import ChatReply.Proofs.UnifiedBreaks
import ChatReply.Proofs.WellFormed

/-!
# Lines of code

A renderer cuts each token at the line breaks in it. That gives the lines of the code as a whole
only where no break begins in one token and goes on in the next. Code has no such tokens: a carriage
return ends a line only where no line feed follows it, and a slash stands at either end of a block
comment.
-/

namespace ChatReply

/-! ## Texts that split no break -/

/-- No line break begins in the first text and goes on in the second. -/
def SplitsNoBreak (first second : Text) : Prop :=
  first.getLast? = some '\r' → second.head? ≠ some '\n'

namespace SplitsNoBreak

variable {first second : Text}

theorem of_not_mem (no_return : '\r' ∉ first) : SplitsNoBreak first second :=
  fun last => absurd (List.mem_of_getLast? last) no_return

theorem tail {c : Char} (apart : SplitsNoBreak (c :: first) second) :
    SplitsNoBreak first second := by
  intro last
  apply apart
  rw [List.getLast?_cons, last]
  rfl

theorem cons {c : Char} (apart : SplitsNoBreak first second) (inside : c ≠ '\r') :
    SplitsNoBreak (c :: first) second := by
  cases first with
  | nil => exact of_not_mem (by simpa using inside.symm)
  | cons d first => simpa [SplitsNoBreak] using apart

theorem append {middle : Text} (left : SplitsNoBreak first middle)
    (right : SplitsNoBreak (first ++ middle) second) : SplitsNoBreak first (middle ++ second) := by
  cases middle with
  | nil => rwa [List.append_nil] at right
  | cons c middle => exact left

theorem of_append {middle : Text} (apart : SplitsNoBreak (first ++ middle) second) :
    SplitsNoBreak middle second := by
  intro last
  apply apart
  rw [List.getLast?_append, last]
  rfl

end SplitsNoBreak

/-- The last line of the first text and the first line of the second one become one line. -/
theorem lines_append {first second : Text} (apart : SplitsNoBreak first second) :
    ∃ init last next rest, lines first = init ++ [last] ∧ lines second = next :: rest ∧
      lines (first ++ second) = init ++ (last ++ next) :: rest := by
  obtain ⟨next, rest, second_eq⟩ := List.exists_cons_of_ne_nil (lines_ne_nil second)
  suffices ∃ init last, lines first = init ++ [last] ∧
      lines (first ++ second) = init ++ (last ++ next) :: rest by
    obtain ⟨init, last, first_eq, whole_eq⟩ := this
    exact ⟨init, last, next, rest, first_eq, second_eq, whole_eq⟩
  fun_induction brokenLines first with
  | case1 => exact ⟨[], [], lines_nil, second_eq⟩
  | case2 text ih =>
      obtain ⟨init, last, first_eq, whole_eq⟩ := ih apart.tail.tail
      refine ⟨[] :: init, last, ?_, ?_⟩
      · rw [lines_return_newline, first_eq]
        rfl
      · rw [List.cons_append, List.cons_append, lines_return_newline, whole_eq]
        rfl
  | case3 text lone ih =>
      obtain ⟨init, last, first_eq, whole_eq⟩ := ih apart.tail
      have alone : (text ++ second).head? ≠ some '\n' := by
        cases text with
        | nil => exact apart rfl
        | cons c text => simpa using head?_ne_newline lone
      refine ⟨[] :: init, last, ?_, ?_⟩
      · rw [lines_return (head?_ne_newline lone), first_eq]
        rfl
      · rw [List.cons_append, lines_return alone, whole_eq]
        rfl
  | case4 text ih =>
      obtain ⟨init, last, first_eq, whole_eq⟩ := ih apart.tail
      refine ⟨[] :: init, last, ?_, ?_⟩
      · rw [lines_newline, first_eq]
        rfl
      · rw [List.cons_append, lines_newline, whole_eq]
        rfl
  | case5 c text _ return_ne newline_ne ih =>
      have inside := isBreak_eq_false newline_ne return_ne
      obtain ⟨init, last, first_eq, whole_eq⟩ := ih apart.tail
      rw [List.cons_append, lines_cons inside, lines_cons inside, first_eq, whole_eq]
      cases init with
      | nil => exact ⟨[], c :: last, rfl, rfl⟩
      | cons line init => exact ⟨(c :: line) :: init, last, rfl, rfl⟩

/-- The lines of a text hold all its characters outside line breaks. -/
theorem flatten_lines (text : Text) : (lines text).flatten = text.filter fun c => !isBreak c := by
  fun_induction brokenLines text with
  | case1 => simp
  | case2 text ih => simp [lines_return_newline, ih, isBreak]
  | case3 text lone ih => simp [lines_return (head?_ne_newline lone), ih, isBreak]
  | case4 text ih => simp [lines_newline, ih, isBreak]
  | case5 c text _ return_ne newline_ne ih =>
      have inside := isBreak_eq_false newline_ne return_ne
      obtain ⟨line, rest, cut⟩ := List.exists_cons_of_ne_nil (lines_ne_nil text)
      rw [lines_cons inside, List.filter_cons_of_pos (by simp [inside]), ← ih, cut]
      rfl

/-- No line break begins in one of the texts and goes on behind it. -/
def Unsplit : List Text → Prop
  | [] => True
  | text :: texts => SplitsNoBreak text texts.flatten ∧ Unsplit texts

theorem unsplit_singleton (text : Text) : Unsplit [text] :=
  ⟨fun _ => by simp, trivial⟩

theorem unsplit_of_forall {texts : List Text} (no_return : ∀ text ∈ texts, '\r' ∉ text) :
    Unsplit texts := by
  induction texts with
  | nil => trivial
  | cons text texts ih =>
      obtain ⟨first, later⟩ := List.forall_mem_cons.mp no_return
      exact ⟨.of_not_mem first, ih later⟩

theorem Unsplit.append {texts others : List Text} (first : Unsplit texts) (second : Unsplit others)
    (apart : SplitsNoBreak texts.flatten others.flatten) : Unsplit (texts ++ others) := by
  induction texts with
  | nil => exact second
  | cons text texts ih =>
      obtain ⟨beside, first⟩ := first
      rw [List.cons_append, Unsplit, List.flatten_append]
      exact ⟨beside.append apart, ih first apart.of_append⟩

/-- Texts that are cut further split no break if no text does inside. -/
theorem unsplit_flatMap {Part : Type} {parts : List Part} {written : Part → Text}
    {pieces : Part → List Text} (unsplit : Unsplit (parts.map written))
    (each : ∀ part ∈ parts, (pieces part).flatten = written part ∧ Unsplit (pieces part)) :
    Unsplit (parts.flatMap pieces) ∧ (parts.flatMap pieces).flatten = parts.flatMap written := by
  induction parts with
  | nil => exact ⟨trivial, rfl⟩
  | cons part parts ih =>
      obtain ⟨beside, unsplit⟩ := unsplit
      obtain ⟨⟨part_eq, inside⟩, each⟩ := List.forall_mem_cons.mp each
      obtain ⟨later, later_eq⟩ := ih unsplit each
      rw [← List.flatMap_def, ← part_eq, ← later_eq] at beside
      rw [List.flatMap_cons, List.flatMap_cons, List.flatten_append, part_eq, later_eq]
      exact ⟨inside.append later beside, rfl⟩

theorem unsplit_brokenLines (text : Text) : Unsplit ((brokenLines text).map Line.written) := by
  have rest_eq (rest : Text) : ((brokenLines rest).map Line.written).flatten = rest := by
    rw [← List.flatMap_def, flatMap_written_brokenLines]
  fun_induction brokenLines text with
  | case1 => exact unsplit_singleton []
  | case2 text ih => exact ⟨by simp [SplitsNoBreak, Line.written], ih⟩
  | case3 text lone ih =>
      refine ⟨fun _ => ?_, ih⟩
      rw [rest_eq]
      exact head?_ne_newline lone
  | case4 text ih => exact ⟨.of_not_mem (by simp [Line.written]), ih⟩
  | case5 c text _ return_ne _ ih =>
      obtain ⟨line, rest, cut⟩ := List.exists_cons_of_ne_nil (brokenLines_ne_nil text)
      rw [cut] at ih ⊢
      exact ⟨ih.1.cons return_ne, ih.2⟩

/-! ## Tokens that split no break -/

namespace Code

open Token (Cut)

theorem unsplit_breakTokens (ending : Text) : Unsplit ((breakTokens ending).map Token.text) := by
  unfold breakTokens
  split
  · trivial
  · exact unsplit_singleton ending

theorem unsplit_linesTokens (text : Text) : Unsplit ((linesTokens text).map Token.text) := by
  rw [linesTokens, List.map_flatMap]
  refine (unsplit_flatMap (unsplit_brokenLines text) ?_).1
  intro line member
  have single := ((broken_brokenLines text).of_mem member).1
  have content := lineTokens_cut (newline_not_mem single)
  have no_return : '\r' ∉ line.content := fun inside => absurd (single _ inside) (by decide)
  rw [← List.flatMap_def]
  refine ⟨(content.append (breakTokens_cut line.ending)).plainText_eq, ?_⟩
  rw [List.map_append]
  refine (unsplit_of_forall ?_).append (unsplit_breakTokens line.ending) (.of_not_mem ?_)
  · intro piece piece_mem
    obtain ⟨token, token_mem, rfl⟩ := List.mem_map.mp piece_mem
    exact fun inside => no_return ((content.infix_of_mem token_mem).subset inside)
  · have content_eq : (lineTokens line.content).flatMap Token.text = line.content :=
      content.plainText_eq
    rwa [← List.flatMap_def, content_eq]

theorem unsplit_of_leftmost {before : Option Char} {code : Text} {segments : List Segment}
    (cut : blockComment.Leftmost before code segments) : Unsplit (segments.map Segment.text) := by
  have gap_alone (gap : Text) : Unsplit ((Segment.ofGap gap).map Segment.text) := by
    unfold Segment.ofGap
    split
    · trivial
    · exact unsplit_singleton gap
  induction cut with
  | last silent => exact gap_alone _
  | @next before gap found rest segments silent found_ne matched later ih =>
      obtain ⟨inner, rfl, -⟩ := blockComment_reads.form_of_match found_ne matched
      rw [List.map_append, List.map_cons]
      have closing : ('/' :: '*' :: (inner ++ ['*', '/'])).getLast? = some '/' := by
        simp [List.getLast?_cons]
      refine (gap_alone gap).append ⟨?_, ih⟩ ?_
      · simp [SplitsNoBreak, Segment.text, closing]
      · simp [SplitsNoBreak, Segment.text]

/-- Wherever two tokens of code meet, no line break does. -/
theorem unsplit_tokenize (code : Text) : Unsplit ((tokenize code).map Token.text) := by
  have cut := Pattern.leftmost_segments blockComment_reads.fits none code
  rw [tokenize, List.map_flatMap]
  refine (unsplit_flatMap (unsplit_of_leftmost cut) ?_).1
  rintro (comment | gap) -
  · exact ⟨by simp [Segment.text], unsplit_singleton comment⟩
  · rw [← List.flatMap_def]
    exact ⟨(linesTokens_cut gap).plainText_eq, unsplit_linesTokens gap⟩

end Code

/-! ## Tokens in lines -/

/-- The characters of tokens, each with the kind of its token. -/
def Token.characters (tokens : List Token) : List (Char × TokenKind) :=
  tokens.flatMap fun token => token.text.map fun c => (c, token.kind)

namespace Render

theorem continueRows_append (init : List (List Token)) (last next : List Token)
    (rest : List (List Token)) :
    continueRows (init ++ [last]) (next :: rest) = init ++ (last ++ next) :: rest := by
  induction init with
  | nil => rfl
  | cons row init ih =>
      rw [List.cons_append, continueRows, ih]
      · rfl
      · simp
      · simp

theorem flatten_continueRows (rows later : List (List Token)) :
    (continueRows rows later).flatten = rows.flatten ++ later.flatten := by
  fun_induction continueRows rows later with
  | case1 => rfl
  | case2 => simp
  | case3 => simp
  | case4 row more rows _ _ ih => simp [ih]

theorem flatten_codeLines (tokens : List Token) :
    (codeLines tokens).flatten = tokens.flatMap fun token => (tokenRows token).flatten := by
  induction tokens with
  | nil => rfl
  | cons token tokens ih =>
      change (continueRows (tokenRows token) (codeLines tokens)).flatten = _
      rw [flatten_continueRows, ih, List.flatMap_cons]

theorem map_plainText_tokenRows (token : Token) :
    (tokenRows token).map Token.plainText = lines token.text := by
  rw [tokenRows, List.map_map]
  refine (List.map_congr_left fun piece _ => ?_).trans (List.map_id _)
  by_cases empty : piece = []
  · simp [empty, Token.plainText]
  · simp [empty, Token.plainText]

theorem map_plainText_continueRows {rows later : List (List Token)} {init rest : List Text}
    {last next : Text} (rows_eq : rows.map Token.plainText = init ++ [last])
    (later_eq : later.map Token.plainText = next :: rest) :
    (continueRows rows later).map Token.plainText = init ++ (last ++ next) :: rest := by
  obtain ⟨front, back, rfl, rfl, back_eq⟩ := List.map_eq_append_iff.mp rows_eq
  obtain ⟨row, rfl, rfl⟩ := List.map_eq_singleton_iff.mp back_eq
  obtain ⟨first, others, rfl, rfl, rfl⟩ := List.map_eq_cons_iff.mp later_eq
  rw [continueRows_append, List.map_append, List.map_cons, Token.plainText_append]

/-- Tokens that split no break are put on the lines of their text. -/
theorem map_plainText_codeLines {tokens : List Token}
    (unsplit : Unsplit (tokens.map Token.text)) :
    (codeLines tokens).map Token.plainText = lines (Token.plainText tokens) := by
  induction tokens with
  | nil => exact lines_nil.symm
  | cons token tokens ih =>
      obtain ⟨apart, unsplit⟩ := unsplit
      rw [← List.flatMap_def] at apart
      obtain ⟨init, last, next, rest, first_eq, second_eq, whole_eq⟩ := lines_append apart
      have rows_eq := (map_plainText_tokenRows token).trans first_eq
      have later_eq := (ih unsplit).trans second_eq
      exact (map_plainText_continueRows rows_eq later_eq).trans whole_eq.symm

/-- Tokens that do split a break are put on too many lines. -/
example : (codeLines [⟨['\r'], .plainText⟩, ⟨['\n'], .plainText⟩]).length = 3 ∧
    (lines ['\r', '\n']).length = 2 := by
  decide +kernel

/-- A token on a line is a piece of a token of the code, and no empty one. -/
theorem exists_source_of_mem_codeLines {tokens row : List Token} (row_mem : row ∈ codeLines tokens)
    {token : Token} (member : token ∈ row) :
    token.text ≠ [] ∧ ∃ source ∈ tokens, token.text ∈ lines source.text := by
  have flat := List.mem_flatten_of_mem row_mem member
  rw [flatten_codeLines, List.mem_flatMap] at flat
  obtain ⟨source, source_mem, inside⟩ := flat
  obtain ⟨pieces, pieces_mem, member⟩ := List.mem_flatten.mp inside
  obtain ⟨piece, piece_mem, rfl⟩ := List.mem_map.mp pieces_mem
  by_cases empty : piece = []
  · simp [empty] at member
  · obtain rfl : token = ⟨piece, source.kind⟩ := by simpa [empty] using member
    exact ⟨empty, source, source_mem, piece_mem⟩

theorem characters_flatten_tokenRows (token : Token) :
    Token.characters (tokenRows token).flatten =
      (Token.characters [token]).filter fun (c, _) => !isBreak c := by
  have each (piece : Text) :
      Token.characters (if piece = [] then [] else [⟨piece, token.kind⟩]) =
        piece.map fun c => (c, token.kind) := by
    by_cases empty : piece = []
    · simp [empty, Token.characters]
    · simp [empty, Token.characters]
  calc
    Token.characters (tokenRows token).flatten
      = (lines token.text).flatMap fun piece => piece.map fun c => (c, token.kind) := by
        rw [tokenRows, ← List.flatMap_def, Token.characters, List.flatMap_assoc]
        exact List.flatMap_congr fun piece _ => each piece
    _ = (lines token.text).flatten.map fun c => (c, token.kind) := by
        rw [List.map_flatten, List.flatMap_def]
    _ = (Token.characters [token]).filter fun (c, _) => !isBreak c := by
        rw [flatten_lines, Token.characters, List.flatMap_singleton, List.filter_map]
        rfl

/-- Each character outside a line break keeps its place in the row and the kind of its token. -/
theorem characters_flatten_codeLines (tokens : List Token) :
    Token.characters (codeLines tokens).flatten =
      (Token.characters tokens).filter fun (c, _) => !isBreak c := by
  rw [flatten_codeLines]
  induction tokens with
  | nil => rfl
  | cons token tokens ih =>
      have first := characters_flatten_tokenRows token
      simp only [Token.characters, List.flatMap_cons, List.flatMap_append, List.filter_append,
        List.flatMap_nil, List.append_nil] at first ih ⊢
      rw [first, ih]

end Render

/-! ## Code blocks of a reply -/

theorem Reply.wellFormed_of_parse {framed : Bool} {text : Text} {document : Document}
    (parsed : parse framed text = .ok document) {block : Block} (member : block ∈ document) :
    block.WellFormed framed := by
  rw [parse_eq_bind_finish] at parsed
  obtain ⟨stream, fed, finished⟩ := bind_eq_ok_iff.mp parsed
  obtain ⟨closed, closes, rfl⟩ := map_eq_ok_iff.mp finished
  have start : Stream.WellFormed framed ⟨[], .idle⟩ := ⟨List.forall_mem_nil _, trivial⟩
  have formed := Stream.wellFormed_feedAll start (fun line => isOneLine_of_mem_lines) fed
  rcases List.mem_append.mp member with complete | last
  · exact formed.blocks block complete
  · exact Stream.Pending.wellFormed_close formed.pending closes block last

namespace Render

/-- The tokens of code are put on the lines of the code, without an empty token, and every character
outside a line break keeps its kind. So a code block of a reply is drawn as its text, if it is drawn
without a frame. -/
theorem codeLines_exact :
    (∀ code, (codeLines (Code.tokenize code)).map Token.plainText = lines code ∧
      (∀ row ∈ codeLines (Code.tokenize code), ∀ token ∈ row, token.text ≠ []) ∧
      Token.characters (codeLines (Code.tokenize code)).flatten =
        (Token.characters (Code.tokenize code)).filter fun (c, _) => !isBreak c) ∧
    ∀ framed text document, Reply.parse framed text = .ok document →
      ∀ block, .code block ∈ document → ∀ padding,
        joinLines (code Painter.plain false padding block) = block.text := by
  have rows_eq (code : Text) :
      (codeLines (Code.tokenize code)).map Token.plainText = lines code := by
    rw [map_plainText_codeLines (Code.unsplit_tokenize code), (Code.tokenize_cut code).plainText_eq]
  refine ⟨fun code => ⟨rows_eq code, ?_, characters_flatten_codeLines _⟩, ?_⟩
  · exact fun row row_mem token member => (exists_source_of_mem_codeLines row_mem member).1
  · intro framed text document parsed block member padding
    obtain ⟨-, no_return, -, tokens_eq⟩ : block.WellFormed framed :=
      Reply.wellFormed_of_parse parsed member
    calc
      joinLines (code Painter.plain false padding block)
        = joinLines ((codeLines block.tokens).map Token.plainText) := rfl
      _ = unifyBreaks block.text := by rw [tokens_eq, rows_eq, joinLines_lines]
      _ = block.text := unifyBreaks_of_not_mem no_return

/-- A comment over an empty line, which ends in a break of two characters. -/
theorem codeLines_exact_comment :
    Reply.parse true "\x60\x60\x60\r\n/*\r\r\n*/b\n\x60\x60\x60".toList =
        .ok [.code (.ofCode "/*\n\n*/b".toList true)] ∧
      joinLines (code Painter.plain false 1 (.ofCode "/*\n\n*/b".toList true)) =
        "/*\n\n*/b".toList := by
  have parsed : Reply.parse true "\x60\x60\x60\r\n/*\r\r\n*/b\n\x60\x60\x60".toList =
      .ok [.code (.ofCode "/*\n\n*/b".toList true)] := by decide +kernel
  have drawn := codeLines_exact.2 true _ _ parsed _ List.mem_cons_self 1
  exact ⟨parsed, drawn.trans (Code.tokenize_cut _).plainText_eq⟩

end Render
end ChatReply
