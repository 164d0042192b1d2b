import ChatReply.Proofs.LiteralForm
import ChatReply.Proofs.Lossless

/-!
# Whole words

No word goes on from one token into the next: a match stands between two ends of words, so a reader
that hands on the gaps between matches cuts no word either.
-/

namespace ChatReply

/-- No word goes on from the character into the text. -/
def Parted (before : Option Char) (text : Text) : Prop :=
  before.any isWord = true → atWordEnd text = true

theorem parted_none (text : Text) : Parted none text := by
  intro word
  simp at word

theorem parted_nil (before : Option Char) : Parted before [] :=
  fun _ => rfl

theorem parted_of_free {before : Option Char} (free : before.any isWord = false) (text : Text) :
    Parted before text := by
  intro word
  simp [word] at free

theorem parted_cons {c : Char} (outside : isWord c = false) (before : Option Char) (text : Text) :
    Parted before (c :: text) := by
  intro _
  simp [atWordEnd, outside]

theorem atWordEnd_append {text : Text} (text_ne : text ≠ []) (rest : Text) :
    atWordEnd (text ++ rest) = atWordEnd text := by
  cases text with
  | nil => exact (text_ne rfl).elim
  | cons c text => rfl

theorem parted_append_iff {before : Option Char} {text : Text} (text_ne : text ≠ []) (rest : Text) :
    Parted before (text ++ rest) ↔ Parted before text := by
  rw [Parted, atWordEnd_append text_ne, Parted]

theorem Parted.of_or {before other : Option Char} {text : Text}
    (parted : Parted (before.or other) text) : Parted before text := by
  cases before with
  | none => exact parted_none text
  | some c => exact parted

/-- A row of word characters that no further one precedes or follows. -/
structure WholeWord (front run back : Text) : Prop where
  /-- The row is not empty. -/
  run_ne : run ≠ []
  /-- It holds word characters only. -/
  word : ∀ c ∈ run, isWord c = true
  /-- No word character precedes it. -/
  starts : front.getLast?.any isWord = false
  /-- No word character follows it. -/
  ends : atWordEnd back = true

namespace WholeWord

variable {front run back : Text}

theorem isWord_of_head? (whole : WholeWord front run back) : run.head?.any isWord = true := by
  obtain ⟨c, rest, rfl⟩ := List.exists_cons_of_ne_nil whole.run_ne
  exact whole.word c List.mem_cons_self

theorem isWord_of_getLast? (whole : WholeWord front run back) : run.getLast?.any isWord = true := by
  rw [List.getLast?_eq_some_getLast whole.run_ne]
  exact whole.word _ (List.getLast_mem whole.run_ne)

/-- Where no word goes on over the ends of a text, its words end with it. -/
theorem ends_of_parted (whole : WholeWord front run back) {before : Option Char} {rest : Text}
    (start : Parted before (front ++ (run ++ back)))
    (finish : Parted (front ++ (run ++ back)).getLast? rest) :
    (front.getLast?.or before).any isWord = false ∧ atWordEnd (back ++ rest) = true := by
  constructor
  · cases last : front.getLast? with
    | some c => simpa [last] using whole.starts
    | none =>
        obtain rfl := List.getLast?_eq_none_iff.mp last
        rw [Bool.eq_false_iff]
        intro word
        have outside := start word
        rw [List.nil_append, atWordEnd_append whole.run_ne] at outside
        simp [atWordEnd, whole.isWord_of_head?] at outside
  · cases back with
    | cons c back => exact whole.ends
    | nil =>
        apply finish
        rw [List.append_nil, List.getLast?_append_of_ne_nil _ whole.run_ne]
        exact whole.isWord_of_getLast?

end WholeWord

/-! ## Tokens that cut no word -/

namespace Token

theorem plainText_append (tokens others : List Token) :
    plainText (tokens ++ others) = plainText tokens ++ plainText others :=
  List.flatMap_append

theorem plainText_cons (token : Token) (tokens : List Token) :
    plainText (token :: tokens) = token.text ++ plainText tokens :=
  List.flatMap_cons

theorem plainText_singleton (token : Token) : plainText [token] = token.text :=
  List.flatMap_singleton _ _

/-- The tokens are the text in pieces, and no word goes on from one of them into the next. -/
structure Whole (tokens : List Token) (text : Text) : Prop extends Cut tokens text where
  /-- Wherever the row of tokens is divided, no word is. -/
  parted : ∀ front back, tokens = front ++ back →
    Parted (plainText front).getLast? (plainText back)

namespace Whole

theorem nil : Whole [] [] := by
  refine ⟨Cut.nil, ?_⟩
  intro front back split
  obtain ⟨rfl, rfl⟩ := List.append_eq_nil_iff.mp split.symm
  exact parted_nil _

theorem single {text : Text} (text_ne : text ≠ []) (kind : TokenKind) :
    Whole [⟨text, kind⟩] text := by
  refine ⟨Cut.single text_ne kind, ?_⟩
  intro front back split
  rcases List.append_eq_singleton_iff.mp split.symm with ⟨rfl, -⟩ | ⟨-, rfl⟩
  · exact parted_none _
  · exact parted_nil _

theorem append {tokens others : List Token} {text rest : Text} (first : Whole tokens text)
    (second : Whole others rest) (parted : Parted text.getLast? rest) :
    Whole (tokens ++ others) (text ++ rest) := by
  refine ⟨first.toCut.append second.toCut, ?_⟩
  intro front back split
  rcases List.append_eq_append_iff.mp split with ⟨middle, rfl, others_eq⟩ | ⟨middle, tokens_eq, rfl⟩
  · have inner := second.parted middle back others_eq
    have rest_eq : plainText middle ++ plainText back = rest := by
      rw [← plainText_append, ← others_eq, second.plainText_eq]
    rw [plainText_append, first.plainText_eq]
    by_cases empty : plainText middle = []
    · rw [empty, List.nil_append] at rest_eq
      rwa [empty, List.append_nil, rest_eq]
    · rwa [List.getLast?_append_of_ne_nil _ empty]
  · have inner := first.parted front middle tokens_eq
    have text_eq : plainText front ++ plainText middle = text := by
      rw [← plainText_append, ← tokens_eq, first.plainText_eq]
    rw [plainText_append, second.plainText_eq]
    by_cases empty : plainText middle = []
    · rw [empty, List.append_nil] at text_eq
      rwa [empty, List.nil_append, text_eq]
    · rwa [parted_append_iff empty]

end Whole
end Token

/-! ## Patterns that cut no word -/

namespace Pattern

/-- No word goes on over either end of a match. -/
def KeepsWords (pattern : Pattern) : Prop :=
  pattern.Reads fun before found rest => Parted before found ∧ Parted found.getLast? rest

variable {pattern : Pattern} {before : Option Char} {text : Text} {segments : List Segment}

/-- A reader that cuts no word of any piece cuts no word of the text. -/
theorem Leftmost.whole (keeps : pattern.KeepsWords) {tokens : Segment → List Token}
    (each : ∀ segment, segment.text ≠ [] → Token.Whole (tokens segment) segment.text)
    (cut : pattern.Leftmost before text segments) :
    Token.Whole (segments.flatMap tokens) text := by
  have each_gap (gap : Text) : Token.Whole ((Segment.ofGap gap).flatMap tokens) gap :=
    Segment.holds_flatMap_ofGap Token.Whole.nil (each (.gap gap))
  induction cut with
  | last silent => exact each_gap _
  | @next before gap found rest segments silent found_ne matched later ih =>
      obtain ⟨start, finish⟩ := keeps.form_of_match found_ne matched
      rw [List.flatMap_append, List.flatMap_cons]
      refine (each_gap gap).append ((each (.found found) found_ne).append ih finish) ?_
      exact (parted_append_iff found_ne rest).mpr start.of_or

/-- A gap between matches stands between two ends of words. -/
theorem Leftmost.gap_of_mem (keeps : pattern.KeepsWords)
    (cut : pattern.Leftmost before text segments) (start : Parted before text) {gap : Text}
    (member : Segment.gap gap ∈ segments) :
    ∃ left right, text = left ++ (gap ++ right) ∧ Parted (left.getLast?.or before) gap ∧
      Parted gap.getLast? right ∧ pattern.Silent (left.getLast?.or before) gap right := by
  induction cut with
  | last silent =>
      obtain ⟨-, same⟩ := mem_ofGap_iff.mp member
      obtain rfl := Segment.gap.inj same
      exact ⟨[], [], by simp, start, parted_nil _, silent⟩
  | @next before first found rest segments silent found_ne matched later ih =>
      obtain ⟨starts, finish⟩ := keeps.form_of_match found_ne matched
      rcases List.mem_append.mp member with member | member
      · obtain ⟨gap_ne, same⟩ := mem_ofGap_iff.mp member
        obtain rfl := Segment.gap.inj same
        refine ⟨[], found ++ rest, rfl, (parted_append_iff gap_ne _).mp start, ?_, silent⟩
        exact (parted_append_iff found_ne rest).mpr starts.of_or
      · obtain ⟨left, right, rfl, parted_left, parted_right, silent⟩ :=
          ih finish (by simpa using member)
        rw [← getLast?_append_or found_ne first left before] at parted_left silent
        exact ⟨first ++ (found ++ left), right, by simp, parted_left, parted_right, silent⟩

end Pattern

namespace Code

theorem blockComment_keepsWords : blockComment.KeepsWords := by
  refine blockComment_reads.mono ?_
  rintro before _ rest ⟨inner, rfl, -⟩
  refine ⟨parted_cons (by decide) before _, parted_of_free ?_ rest⟩
  have last : ('/' :: '*' :: (inner ++ ['*', '/'])).getLast? = some '/' := by
    rw [List.append_cons]
    exact List.getLast?_concat (l := '/' :: '*' :: (inner ++ ['*']))
  rw [last]
  decide

theorem isWord_of_isQuote {c : Char} (quote : isQuote c = true) : isWord c = false := by
  simp only [isQuote, Bool.or_eq_true, beq_iff_eq] at quote
  rcases quote with rfl | rfl <;> decide

theorem stringLiteral_keepsWords : stringLiteral.KeepsWords := by
  refine stringLiteral_reads.mono ?_
  rintro before _ rest ⟨quote, inner, is_quote, rfl, -⟩
  have outside := isWord_of_isQuote is_quote
  refine ⟨parted_cons outside before _, parted_of_free ?_ rest⟩
  have last : (quote :: (inner ++ [quote])).getLast? = some quote :=
    List.getLast?_concat (l := quote :: inner)
  rw [last]
  exact outside

theorem numberLiteral_keepsWords : numberLiteral.KeepsWords := by
  refine numberLiteral_reads.mono ?_
  rintro before found rest ⟨-, free, ends⟩
  exact ⟨parted_of_free free found, fun _ => ends⟩

theorem identifier_keepsWords : identifier.KeepsWords := by
  refine identifier_reads.mono ?_
  rintro before found rest ⟨-, free, ends⟩
  exact ⟨parted_of_free free found, fun _ => ends⟩

/-! ## The readers of code -/

open Token (Whole)

theorem wordTokens_whole (text : Text) : Whole (wordTokens text) text := by
  rw [wordTokens, List.map_eq_flatMap]
  refine Pattern.Leftmost.whole identifier_keepsWords ?_
    (Pattern.leftmost_segments identifier_reads.fits none text)
  rintro (name | gap) text_ne
  · exact Whole.single text_ne _
  · exact Whole.single text_ne _

theorem numberTokens_whole (text : Text) : Whole (numberTokens text) text := by
  refine Pattern.Leftmost.whole numberLiteral_keepsWords ?_
    (Pattern.leftmost_segments numberLiteral_reads.fits none text)
  rintro (literal | gap) text_ne
  · exact Whole.single text_ne _
  · exact wordTokens_whole gap

theorem stringTokens_whole (text : Text) : Whole (stringTokens text) text := by
  refine Pattern.Leftmost.whole stringLiteral_keepsWords ?_
    (Pattern.leftmost_segments stringLiteral_reads.fits none text)
  rintro (literal | gap) text_ne
  · exact Whole.single text_ne _
  · exact numberTokens_whole gap

theorem lineTokens_whole {line : Text} (single : '\n' ∉ line) : Whole (lineTokens line) line := by
  unfold lineTokens
  split
  · rename_i directive
    refine Whole.single ?_ _
    rintro rfl
    simp [isDirective, trimStart, stripStart] at directive
  · split
    · rename_i code comment first
      obtain ⟨line_eq, ⟨rest, comment_eq⟩, -⟩ := search?_lineComment single first
      rw [line_eq, comment_eq]
      exact (stringTokens_whole code).append (Whole.single (by simp) _)
        (parted_cons (by decide) _ _)
    · exact stringTokens_whole line

theorem isWord_of_isLineBreak {ending : Text} (breaks : IsLineBreak ending) :
    ∀ c ∈ ending, isWord c = false := by
  intro c c_mem
  have c_eq : c = '\r' ∨ c = '\n' := by
    rcases breaks with rfl | rfl | rfl <;> simp_all
  rcases c_eq with rfl | rfl <;> decide

theorem linesTokens_whole (text : Text) : Whole (linesTokens text) text := by
  have broken := broken_brokenLines text
  rw [linesTokens]
  generalize brokenLines text = lines at broken
  induction broken with
  | @last content single =>
      have whole := lineTokens_whole (newline_not_mem single)
      simpa [breakTokens] using whole
  | @next content ending rest lines single breaks later ih =>
      have outside := isWord_of_isLineBreak breaks
      obtain ⟨c, others, rfl⟩ := List.exists_cons_of_ne_nil breaks.ne_nil
      have start : Parted content.getLast? (c :: others ++ rest) :=
        parted_cons (outside c List.mem_cons_self) _ _
      have finish : Parted (c :: others).getLast? rest := by
        apply parted_of_free
        rw [List.getLast?_eq_some_getLast breaks.ne_nil]
        exact outside _ (List.getLast_mem breaks.ne_nil)
      rw [List.flatMap_cons, List.append_assoc]
      exact (lineTokens_whole (newline_not_mem single)).append
        ((Whole.single breaks.ne_nil .plainText).append ih finish) start

theorem tokenize_whole (code : Text) : Whole (tokenize code) code := by
  refine Pattern.Leftmost.whole blockComment_keepsWords ?_
    (Pattern.leftmost_segments blockComment_reads.fits none code)
  rintro (comment | gap) text_ne
  · exact Whole.single text_ne _
  · exact linesTokens_whole gap

end Code
end ChatReply
