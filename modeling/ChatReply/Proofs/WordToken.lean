import ChatReply.Proofs.WholeWord

/-!
# Words and their tokens

As no reader of code cuts a word, each word stands in one token. A word outside comments, directives
and string literals that has the form of an identifier is a token of its own, and a word of digits
stands in a number literal.
-/

namespace ChatReply
namespace Token

/-- The token covers a stretch of the text: the row behind as many characters. -/
def Covers (tokens : List Token) (token : Token) (front run : Text) : Prop :=
  ∃ before after, tokens = before ++ token :: after ∧
    (plainText before).length ≤ front.length ∧
    front.length + run.length ≤ (plainText before).length + token.text.length

theorem Covers.mem {tokens : List Token} {token : Token} {front run : Text}
    (covers : Covers tokens token front run) : token ∈ tokens := by
  obtain ⟨before, after, rfl, -⟩ := covers
  exact List.mem_append_right before List.mem_cons_self

/-- Each character of the text stands in some token. -/
theorem exists_token_of_plainText {tokens : List Token} {front rest : Text} {c : Char}
    (text_eq : plainText tokens = front ++ c :: rest) :
    ∃ before token after left right, tokens = before ++ token :: after ∧
      token.text = left ++ c :: right ∧ front = plainText before ++ left ∧
      rest = right ++ plainText after := by
  induction tokens generalizing front with
  | nil => simp [plainText] at text_eq
  | cons token tokens ih =>
      have text_eq : token.text ++ plainText tokens = front ++ c :: rest := text_eq
      by_cases behind : token.text.length ≤ front.length
      · obtain ⟨middle, rfl⟩ := List.prefix_of_prefix_length_le ⟨_, text_eq⟩
          (List.prefix_append front (c :: rest)) behind
        rw [List.append_assoc] at text_eq
        obtain ⟨before, found, after, left, right, rfl, found_eq, rfl, rest_eq⟩ :=
          ih (List.append_cancel_left text_eq)
        refine ⟨token :: before, found, after, left, right, rfl, found_eq, ?_, rest_eq⟩
        rw [← List.append_assoc]
        rfl
      · rcases List.append_eq_append_iff.mp text_eq with
          ⟨middle, rfl, -⟩ | ⟨middle, token_eq, later⟩
        · simp at behind
        · cases middle with
          | nil => simp [token_eq] at behind
          | cons d middle =>
              obtain ⟨rfl, rest_eq⟩ := List.cons.inj later
              exact ⟨[], token, tokens, front, middle, rfl, token_eq, rfl, rest_eq⟩

/-- No word goes on from a token into the next one. -/
theorem Whole.apart {before after : List Token} {first second : Token} {text : Text}
    (whole : Whole (before ++ first :: second :: after) text) :
    ¬(first.text.getLast?.any isWord = true ∧ second.text.head?.any isWord = true) := by
  rintro ⟨last_word, head_word⟩
  have parted := whole.parted (before ++ [first]) (second :: after) (by simp)
  have first_ne : first.text ≠ [] := whole.text_ne_nil first (by simp)
  have second_ne : second.text ≠ [] := whole.text_ne_nil second (by simp)
  rw [plainText_append, plainText_singleton, List.getLast?_append_of_ne_nil _ first_ne,
    plainText_cons, parted_append_iff second_ne] at parted
  have outside := parted last_word
  simp [atWordEnd, head_word] at outside

/-- A word does not go on behind the token that its first character stands in. -/
theorem Whole.exists_right {before after : List Token} {token : Token}
    {text left behind others back : Text} {c : Char}
    (whole : Whole (before ++ token :: after) text) (token_eq : token.text = left ++ c :: behind)
    (word : ∀ d ∈ c :: others, isWord d = true)
    (rest_eq : others ++ back = behind ++ plainText after) : ∃ right, behind = others ++ right := by
  rcases List.append_eq_append_iff.mp rest_eq with
    ⟨middle, behind_eq, -⟩ | ⟨middle, others_eq, after_eq⟩
  · exact ⟨middle, behind_eq⟩
  · rcases middle with - | ⟨d, middle⟩
    · exact ⟨[], by simpa using others_eq.symm⟩
    · -- The word would go on into the token behind.
      have parted := whole.parted (before ++ [token]) after (by simp)
      have last_word : (plainText (before ++ [token])).getLast?.any isWord = true := by
        rw [plainText_append, plainText_singleton, token_eq, ← List.append_assoc,
          List.getLast?_append_of_ne_nil _ (by simp), List.getLast?_eq_some_getLast (by simp)]
        apply word
        rw [others_eq, ← List.cons_append]
        exact List.mem_append_left _ (List.getLast_mem _)
      have outside := parted last_word
      have d_word : isWord d = true := word d (by simp [others_eq])
      simp [after_eq, atWordEnd, d_word] at outside

/-- Where no word is cut, each word stands in one token and is as whole there as in the text. -/
theorem Whole.exists_token {tokens : List Token} {text front run back : Text}
    (whole : Whole tokens text) (text_eq : text = front ++ (run ++ back))
    (word : WholeWord front run back) :
    ∃ before token after left right, tokens = before ++ token :: after ∧
      token.text = left ++ (run ++ right) ∧ front = plainText before ++ left ∧
      WholeWord left run right := by
  obtain ⟨c, others, rfl⟩ := List.exists_cons_of_ne_nil word.run_ne
  obtain ⟨before, token, after, left, behind, rfl, token_eq, rfl, rest_eq⟩ :=
    exists_token_of_plainText (whole.plainText_eq.trans text_eq)
  obtain ⟨right, rfl⟩ := whole.exists_right token_eq word.word rest_eq
  have back_eq : back = right ++ plainText after :=
    List.append_cancel_left (rest_eq.trans (List.append_assoc _ _ _))
  have starts : left.getLast?.any isWord = false := by
    by_cases empty : left = []
    · simp [empty]
    · rw [← List.getLast?_append_of_ne_nil (plainText before) empty]
      exact word.starts
  have ends : atWordEnd right = true := by
    by_cases empty : right = []
    · simp [empty, atWordEnd]
    · rw [← atWordEnd_append empty, ← back_eq]
      exact word.ends
  exact ⟨before, token, after, left, right, rfl, token_eq, rfl,
    word.run_ne, word.word, starts, ends⟩

end Token

/-! ## Words outside comments, directives and string literals -/

namespace Pattern.Leftmost

variable {pattern : Pattern} {text gap : Text} {segments : List Segment} {front run back : Text}

/-- A word of a gap is a word of the text. -/
theorem exists_wholeWord (keeps : pattern.KeepsWords) (cut : pattern.Leftmost none text segments)
    (member : Segment.gap gap ∈ segments) (gap_eq : gap = front ++ (run ++ back))
    (word : WholeWord front run back) :
    ∃ before after, text = before ++ (run ++ after) ∧ WholeWord before run after := by
  obtain ⟨left, right, rfl, start, finish, -⟩ := cut.gap_of_mem keeps (parted_none _) member
  rw [gap_eq] at start finish
  obtain ⟨starts, ends⟩ := word.ends_of_parted start finish
  refine ⟨left ++ front, back ++ right, by simp [gap_eq], word.run_ne, word.word, ?_, ends⟩
  rwa [List.getLast?_append, ← Option.or_none (o := left.getLast?)]

/-- No word of a gap has a form that the pattern matches wherever it is a word. -/
theorem not_form_of_gap (keeps : pattern.KeepsWords) {form : Text → Prop}
    (matches? : ∀ {before : Option Char} {run rest : Text}, before.any isWord = false → form run →
      atWordEnd rest = true → pattern before (run ++ rest) ≠ 0)
    (cut : pattern.Leftmost none text segments) (member : Segment.gap gap ∈ segments)
    (gap_eq : gap = front ++ (run ++ back)) (word : WholeWord front run back) : ¬form run := by
  intro formed
  obtain ⟨left, right, -, start, finish, silent⟩ := cut.gap_of_mem keeps (parted_none _) member
  rw [gap_eq] at start finish silent
  obtain ⟨starts, ends⟩ := word.ends_of_parted start finish
  apply matches? starts formed ends
  obtain ⟨c, others, rfl⟩ := List.exists_cons_of_ne_nil word.run_ne
  have unmatched := silent front c (others ++ back) rfl
  rwa [List.append_assoc] at unmatched

end Pattern.Leftmost

namespace Code

/-- In comments, directives and string literals words are not told apart. -/
def isVerbatim : TokenKind → Bool
  | .comment | .preprocessor | .stringLiteral => true
  | _ => false

/-- The words of a token are what its kind says. -/
def SortsWords (token : Token) : Prop :=
  ∀ front run back, token.text = front ++ (run ++ back) → WholeWord front run back →
    isVerbatim token.kind = true ∨
      (IsName run → token = ⟨run, classify run⟩) ∧ (IsDigits run → token.kind = .numberLiteral)

/-- A text of word characters is its only word. -/
theorem eq_of_wholeWord {text front run back : Text} (all : ∀ c ∈ text, isWord c = true)
    (text_eq : text = front ++ (run ++ back)) (word : WholeWord front run back) : run = text := by
  have front_eq : front = [] := by
    by_contra front_ne
    have starts := word.starts
    have inside : isWord (front.getLast front_ne) = true :=
      all _ (by rw [text_eq]; exact List.mem_append_left _ (List.getLast_mem front_ne))
    simp [List.getLast?_eq_some_getLast front_ne, inside] at starts
  have back_eq : back = [] := by
    cases back with
    | nil => rfl
    | cons c back =>
        have ends := word.ends
        simp [atWordEnd, all c (by simp [text_eq])] at ends
  simp [text_eq, front_eq, back_eq]

/-- No word of a number literal is a name. -/
theorem IsNumberLiteral.not_isName {literal front run back : Text}
    (form : IsNumberLiteral literal) (literal_eq : literal = front ++ (run ++ back))
    (word : WholeWord front run back) : ¬IsName run := by
  intro name
  apply identifier_ne_zero word.starts name word.ends
  obtain ⟨c, others, rfl⟩ := List.exists_cons_of_ne_nil word.run_ne
  have unmatched := form.silent none [] front c (others ++ back) literal_eq
  rwa [Option.or_none, List.append_nil] at unmatched

theorem sortsWords_wordTokens {text : Text}
    (no_digits : ∀ front run back, text = front ++ (run ++ back) → WholeWord front run back →
      ¬IsDigits run) : ∀ token ∈ wordTokens text, SortsWords token := by
  have cut := Pattern.leftmost_segments identifier_reads.fits none text
  intro token member front run back text_eq word
  obtain ⟨segment, segment_mem, rfl⟩ := List.mem_map.mp member
  right
  cases segment with
  | found name =>
      obtain ⟨-, -, is_name, -⟩ := cut.form_of_mem identifier_reads segment_mem
      have all : ∀ c ∈ name, isWord c = true :=
        fun c c_mem => isWord_of_isNameChar (is_name.isNameChar_of_mem c c_mem)
      obtain rfl := eq_of_wholeWord all text_eq word
      exact ⟨fun _ => rfl, fun digits => (is_name.not_isDigits digits).elim⟩
  | gap gap =>
      constructor
      · intro name
        exact (cut.not_form_of_gap identifier_keepsWords identifier_ne_zero segment_mem text_eq word
          name).elim
      · intro digits
        obtain ⟨before, after, whole_eq, word⟩ :=
          cut.exists_wholeWord identifier_keepsWords segment_mem text_eq word
        exact (no_digits before run after whole_eq word digits).elim

theorem sortsWords_numberTokens (text : Text) : ∀ token ∈ numberTokens text, SortsWords token := by
  have cut := Pattern.leftmost_segments numberLiteral_reads.fits none text
  intro token member
  obtain ⟨segment, segment_mem, token_mem⟩ := List.mem_flatMap.mp member
  cases segment with
  | found literal =>
      obtain rfl := List.mem_singleton.mp token_mem
      obtain ⟨-, -, is_literal, -⟩ := cut.form_of_mem numberLiteral_reads segment_mem
      intro front run back text_eq word
      exact .inr ⟨fun name => (is_literal.not_isName text_eq word name).elim, fun _ => rfl⟩
  | gap gap =>
      refine sortsWords_wordTokens ?_ token token_mem
      intro front run back gap_eq word
      exact cut.not_form_of_gap numberLiteral_keepsWords numberLiteral_ne_zero segment_mem gap_eq
        word

theorem sortsWords_of_isVerbatim {token : Token} (verbatim : isVerbatim token.kind = true) :
    SortsWords token :=
  fun _ _ _ _ _ => .inl verbatim

theorem sortsWords_stringTokens (text : Text) : ∀ token ∈ stringTokens text, SortsWords token := by
  intro token member
  obtain ⟨segment, -, token_mem⟩ := List.mem_flatMap.mp member
  cases segment with
  | found literal =>
      obtain rfl := List.mem_singleton.mp token_mem
      exact sortsWords_of_isVerbatim rfl
  | gap gap => exact sortsWords_numberTokens gap token token_mem

theorem sortsWords_lineTokens (line : Text) : ∀ token ∈ lineTokens line, SortsWords token := by
  intro token member
  unfold lineTokens at member
  split at member
  · obtain rfl := List.mem_singleton.mp member
    exact sortsWords_of_isVerbatim rfl
  · split at member
    · rcases List.mem_append.mp member with member | member
      · exact sortsWords_stringTokens _ token member
      · obtain rfl := List.mem_singleton.mp member
        exact sortsWords_of_isVerbatim rfl
    · exact sortsWords_stringTokens line token member

theorem sortsWords_of_isBreak {token : Token} (breaks : token.IsBreak) : SortsWords token := by
  intro front run back text_eq word
  have outside := isWord_of_isLineBreak breaks.2
  obtain ⟨c, others, rfl⟩ := List.exists_cons_of_ne_nil word.run_ne
  have inside := word.word c List.mem_cons_self
  rw [outside c (by simp [text_eq])] at inside
  simp at inside

theorem sortsWords_linesTokens (text : Text) : ∀ token ∈ linesTokens text, SortsWords token := by
  intro token member
  obtain ⟨line, line_mem, token_mem⟩ := List.mem_flatMap.mp member
  obtain ⟨-, ending⟩ := (broken_brokenLines text).of_mem line_mem
  rcases List.mem_append.mp token_mem with token_mem | token_mem
  · exact sortsWords_lineTokens _ token token_mem
  · exact sortsWords_of_isBreak (isBreak_of_mem_breakTokens ending token_mem)

theorem sortsWords_tokenize (code : Text) : ∀ token ∈ tokenize code, SortsWords token := by
  intro token member
  obtain ⟨segment, -, token_mem⟩ := List.mem_flatMap.mp member
  cases segment with
  | found comment =>
      obtain rfl := List.mem_singleton.mp token_mem
      exact sortsWords_of_isVerbatim rfl
  | gap gap => exact sortsWords_linesTokens gap token token_mem

/-- No word is cut. Outside comments, directives and string literals a word with the form of an
identifier is one token of the kind that its vocabulary gives, and a word of digits lies in a number
literal. -/
theorem tokenize_words (code : Text) :
    (∀ before first second after, tokenize code = before ++ first :: second :: after →
      ¬(first.text.getLast?.any isWord = true ∧ second.text.head?.any isWord = true)) ∧
    (∀ front run back, code = front ++ (run ++ back) → WholeWord front run back →
      (∀ token, Token.Covers (tokenize code) token front run → isVerbatim token.kind = false) →
        (IsName run → ∃ before after,
          tokenize code = before ++ ⟨run, classify run⟩ :: after ∧
            Token.plainText before = front) ∧
        (IsDigits run → ∃ token, Token.Covers (tokenize code) token front run ∧
          token.kind = .numberLiteral)) := by
  have whole := tokenize_whole code
  constructor
  · intro before first second after tokens_eq
    exact (tokens_eq ▸ whole).apart
  · intro front run back code_eq word outside
    obtain ⟨before, token, after, left, right, tokens_eq, text_eq, front_eq, within⟩ :=
      whole.exists_token code_eq word
    have covers : Token.Covers (tokenize code) token front run := by
      refine ⟨before, after, tokens_eq, ?_, ?_⟩
      · simp [front_eq]
      · simp [front_eq, text_eq]
        omega
    have sorted :=
      sortsWords_tokenize code token (by simp [tokens_eq]) left run right text_eq within
    obtain ⟨named, digital⟩ := sorted.resolve_left (by simp [outside token covers])
    constructor
    · intro name
      have token_eq := named name
      rw [token_eq] at text_eq
      have left_eq : left = [] := by
        have lengths := congrArg List.length text_eq
        simp only [List.length_append] at lengths
        exact List.eq_nil_of_length_eq_zero (by omega)
      refine ⟨before, after, token_eq ▸ tokens_eq, ?_⟩
      simp [front_eq, left_eq]
    · intro digits
      exact ⟨token, covers, digital digits⟩

theorem tokenize_words_declaration :
    (∃ before after,
      tokenize "int x1 = 2.5f;".toList = before ++ ⟨"x1".toList, .plainText⟩ :: after ∧
        Token.plainText before = "int ".toList) ∧
    ∃ token, Token.Covers (tokenize "int x1 = 2.5f;".toList) token "int x1 = ".toList "2".toList ∧
      token.kind = .numberLiteral := by
  have outside : ∀ token ∈ tokenize "int x1 = 2.5f;".toList, isVerbatim token.kind = false := by
    decide +kernel
  have name : WholeWord "int ".toList "x1".toList " = 2.5f;".toList :=
    ⟨by decide, List.all_eq_true.mp (by decide), by decide, by decide⟩
  have digits : WholeWord "int x1 = ".toList "2".toList ".5f;".toList :=
    ⟨by decide, List.all_eq_true.mp (by decide), by decide, by decide⟩
  have is_name : IsName "x1".toList :=
    ⟨'x', ['1'], by decide, by decide, List.all_eq_true.mp (by decide)⟩
  have is_digits : IsDigits "2".toList := ⟨by decide, List.all_eq_true.mp (by decide)⟩
  have words := (tokenize_words "int x1 = 2.5f;".toList).2
  constructor
  · refine (words _ _ _ (by decide) name ?_).1 is_name
    exact fun token covers => outside token covers.mem
  · refine (words _ _ _ (by decide) digits ?_).2 is_digits
    exact fun token covers => outside token covers.mem

end Code
end ChatReply
