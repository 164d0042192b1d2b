import Mathlib.Data.List.Infix
import ChatReply.Code.Literal
import ChatReply.Proofs.CharacterClass
import ChatReply.Proofs.Leftmost

/-!
# Forms of comments and literals

What the lexical patterns of code match, said without them: the first closing ends a block comment,
the next quote of its kind ends a string literal, a number literal follows its grammar, and numbers
and identifiers are cut out of no word.
-/

namespace ChatReply
namespace Code

/-! ## Block comments -/

/-- An opening, characters without a closing, and a closing. -/
def IsBlockComment (text : Text) : Prop :=
  ∃ inner, text = '/' :: '*' :: (inner ++ ['*', '/']) ∧ ¬['*', '/'] <:+: inner ++ ['*']

theorem not_infix_cons {c : Char} {text : Text} (unclosed : ¬['*', '/'] <:+: text)
    (apart : c = '*' → text.head? ≠ some '/') : ¬['*', '/'] <:+: c :: text := by
  rw [List.infix_cons_iff]
  rintro (⟨rest, begins⟩ | inside)
  · obtain ⟨rfl, rfl⟩ := List.cons.inj begins
    exact apart rfl rfl
  · exact unclosed inside

theorem closingLength?_eq_some {text : Text} {size : Nat}
    (closes : closingLength? text = some size) :
    ∃ inner rest, text = inner ++ '*' :: '/' :: rest ∧ size = inner.length + 2 ∧
      ¬['*', '/'] <:+: inner ++ ['*'] := by
  fun_induction closingLength? text generalizing size with
  | case1 rest =>
      obtain rfl := Option.some.inj closes
      exact ⟨[], rest, rfl, rfl, by decide⟩
  | case2 c text apart ih =>
      obtain ⟨later, closes_later, rfl⟩ := Option.map_eq_some_iff.mp closes
      obtain ⟨inner, rest, rfl, rfl, unclosed⟩ := ih closes_later
      refine ⟨c :: inner, rest, rfl, rfl, not_infix_cons unclosed ?_⟩
      intro star slash
      cases inner with
      | nil => simp at slash
      | cons d inner =>
          obtain rfl : d = '/' := by simpa using slash
          exact apart _ star rfl
  | case3 => simp at closes

theorem closingLength?_append {inner : Text} (unclosed : ¬['*', '/'] <:+: inner ++ ['*'])
    (rest : Text) : closingLength? (inner ++ '*' :: '/' :: rest) = some (inner.length + 2) := by
  induction inner with
  | nil => rfl
  | cons c inner ih =>
      rw [List.cons_append, List.infix_cons_iff, not_or] at unclosed
      obtain ⟨begins, unclosed⟩ := unclosed
      rw [List.cons_append, closingLength?, ih unclosed]
      · rfl
      · rintro tail rfl slash
        cases inner with
        | nil => simp at slash
        | cons d inner =>
            obtain rfl : d = '/' := (List.cons.inj slash).1
            exact begins ⟨inner ++ ['*'], rfl⟩

/-- A text that holds a closing is closed. -/
theorem not_infix_of_closingLength? {text : Text} (unclosed : closingLength? text = none) :
    ¬['*', '/'] <:+: text := by
  fun_induction closingLength? text with
  | case1 => simp at unclosed
  | case2 c text apart ih =>
      refine not_infix_cons (ih (by simpa using unclosed)) ?_
      intro star slash
      obtain ⟨tail, rfl⟩ := List.head?_eq_some_iff.mp slash
      exact apart tail star rfl
  | case3 => decide

theorem blockComment_reads : blockComment.Reads fun _ found _ => IsBlockComment found := by
  intro before text matched
  unfold blockComment at matched
  split at matched
  · rename_i text
    cases closes : closingLength? text with
    | none => simp [closes] at matched
    | some size =>
        obtain ⟨inner, rest, rfl, rfl, unclosed⟩ := closingLength?_eq_some closes
        refine ⟨'/' :: '*' :: (inner ++ ['*', '/']), rest, by simp, ?_, inner, rfl, unclosed⟩
        simp [blockComment, closes]
  · exact (matched rfl).elim

/-- A block comment is matched whatever comes after it. -/
theorem blockComment_append {found : Text} (form : IsBlockComment found) (before : Option Char)
    (rest : Text) : blockComment before (found ++ rest) = found.length := by
  obtain ⟨inner, rfl, unclosed⟩ := form
  have closes := closingLength?_append unclosed rest
  simp [blockComment, closes]

theorem IsBlockComment.ne_nil {text : Text} (form : IsBlockComment text) : text ≠ [] := by
  obtain ⟨inner, rfl, -⟩ := form
  simp

/-- A gap before a comment opens none: the closing of that comment would end it. -/
theorem not_infix_of_silent {before : Option Char} {gap found rest : Text}
    (form : IsBlockComment found) (silent : blockComment.Silent before gap (found ++ rest)) :
    ¬['/', '*'] <:+: gap := by
  rintro ⟨front, back, gap_eq⟩
  have unmatched := silent front '/' ('*' :: back) (by rw [← gap_eq]; simp)
  have unclosed : closingLength? (back ++ (found ++ rest)) = none := by
    cases closes : closingLength? (back ++ (found ++ rest)) with
    | none => rfl
    | some size => simp [blockComment, closes] at unmatched
  obtain ⟨inner, rfl, -⟩ := form
  apply not_infix_of_closingLength? unclosed
  exact ⟨back ++ '/' :: '*' :: inner, rest, by simp⟩

/-- Where no comment opens, none is found. -/
theorem silent_of_unopened {gap rest : Text} (unopened : ¬['/', '*'] <:+: gap)
    (apart : rest.head? ≠ some '*') (before : Option Char) :
    blockComment.Silent before gap rest := by
  rintro front c back rfl
  unfold blockComment
  split
  · rename_i inner opening
    obtain ⟨rfl, star⟩ := List.cons.inj opening
    cases back with
    | nil =>
        obtain rfl : rest = '*' :: inner := star
        exact (apart rfl).elim
    | cons d back =>
        obtain ⟨rfl, -⟩ := List.cons.inj star
        exact (unopened ⟨front, back, by simp⟩).elim
  · rfl

/-! ## Line comments -/

/-- Where no line feed stands, the rest of the line is everything. -/
theorem restOfLine?_eq_length {text : Text} (single : '\n' ∉ text) :
    restOfLine? text = some text.length := by
  have all : text.takeWhile (· ≠ '\n') = text := by
    rw [List.takeWhile_eq_self_iff]
    intro c c_mem
    simp only [ne_eq, decide_eq_true_eq]
    rintro rfl
    exact single c_mem
  rw [restOfLine?, all]
  simp

theorem lineComment_eq_length {rest : Text} (single : '\n' ∉ rest) (before : Option Char) :
    lineComment before ('/' :: '/' :: rest) = rest.length + 2 := by
  simp [lineComment, restOfLine?_eq_length single]

theorem slashes_of_lineComment {before : Option Char} {text : Text}
    (matched : lineComment before text ≠ 0) : ∃ rest, text = '/' :: '/' :: rest := by
  unfold lineComment at matched
  split at matched
  · exact ⟨_, rfl⟩
  · exact (matched rfl).elim

theorem not_slashes_of_silent {before : Option Char} {gap rest : Text} (single : '\n' ∉ gap ++ rest)
    (silent : lineComment.Silent before gap rest) : ¬['/', '/'] <:+: gap := by
  rintro ⟨front, back, rfl⟩
  have unmatched := silent front '/' ('/' :: back) (by simp)
  have single_back : '\n' ∉ back ++ rest := fun member => single (by simp_all)
  rw [List.cons_append, lineComment_eq_length single_back] at unmatched
  simp at unmatched

/-- A line without comment holds no two slashes in a row. -/
theorem search?_lineComment_eq_none {line : Text} (single : '\n' ∉ line) {before : Option Char}
    (absent : lineComment.search? before line = none) : ¬['/', '/'] <:+: line :=
  not_slashes_of_silent (by simpa using single) (Pattern.search?_eq_none absent)

/-- The first two slashes of a line begin a comment that takes the rest of the line. -/
theorem search?_lineComment {line code comment : Text} (single : '\n' ∉ line)
    {before : Option Char} (first : lineComment.search? before line = some (code, comment)) :
    line = code ++ comment ∧ (∃ rest, comment = '/' :: '/' :: rest) ∧ ¬['/', '/'] <:+: code := by
  obtain ⟨rest, rfl, silent, matched, rfl⟩ := Pattern.silent_of_search? first
  obtain ⟨inner, rfl⟩ := slashes_of_lineComment matched
  have single_inner : '\n' ∉ inner := fun member => single (by simp [member])
  rw [lineComment_eq_length single_inner, List.take_of_length_le (by simp)]
  exact ⟨rfl, ⟨inner, rfl⟩, not_slashes_of_silent single silent⟩

/-! ## String literals -/

/-- A quote, characters other than it, and the same quote. -/
def IsStringLiteral (text : Text) : Prop :=
  ∃ quote inner, isQuote quote = true ∧ text = quote :: (inner ++ [quote]) ∧ quote ∉ inner

/-- A string literal is matched whatever comes after it. -/
theorem stringLiteral_append {found : Text} (form : IsStringLiteral found) (before : Option Char)
    (rest : Text) : stringLiteral before (found ++ rest) = found.length := by
  obtain ⟨quote, inner, is_quote, rfl, outside⟩ := form
  have taken := takeWhile_ne_append outside rest
  simp only [List.cons_append, List.append_assoc, List.nil_append, stringLiteral, taken, is_quote]
  simp

theorem stringLiteral_reads : stringLiteral.Reads fun _ found _ => IsStringLiteral found := by
  intro before text matched
  cases text with
  | nil => exact (matched rfl).elim
  | cons quote text =>
      have is_quote : isQuote quote = true := by
        by_contra other
        simp [stringLiteral, other] at matched
      by_cases closed : quote ∈ text
      · obtain ⟨inner, rest, rfl, outside⟩ := List.eq_append_cons_of_mem closed
        have form : IsStringLiteral (quote :: (inner ++ [quote])) :=
          ⟨quote, inner, is_quote, rfl, outside⟩
        have text_eq : quote :: (inner ++ quote :: rest) =
            quote :: (inner ++ [quote]) ++ rest := by simp
        exact ⟨_, rest, text_eq, text_eq ▸ stringLiteral_append form before rest, form⟩
      · have all : text.takeWhile (· ≠ quote) = text := by
          rw [List.takeWhile_eq_self_iff]
          intro c c_mem
          simp only [ne_eq, decide_eq_true_eq]
          rintro rfl
          exact closed c_mem
        rw [stringLiteral, all] at matched
        simp at matched

/-! ## Number literals -/

/-- One digit or more. -/
def IsDigits (text : Text) : Prop :=
  text ≠ [] ∧ ∀ c ∈ text, isDigit c = true

/-- A decimal point and digits. -/
def IsFraction (text : Text) : Prop :=
  ∃ digits, IsDigits digits ∧ text = '.' :: digits

/-- An exponent mark, a sign or none, and digits. -/
def IsExponent (text : Text) : Prop :=
  ∃ mark sign digits, (mark = 'e' ∨ mark = 'E') ∧ (sign = [] ∨ sign = ['+'] ∨ sign = ['-']) ∧
    IsDigits digits ∧ text = mark :: (sign ++ digits)

/-- A type letter. -/
def IsNumberSuffix (text : Text) : Prop :=
  ∃ letter ∈ ['f', 'F', 'm', 'M', 'd', 'D'], text = [letter]

/-- Digits, then a fraction, an exponent and a type letter, each of which may be missing. -/
def IsNumberLiteral (text : Text) : Prop :=
  ∃ whole fraction exponent suffix, text = whole ++ (fraction ++ (exponent ++ suffix)) ∧
    IsDigits whole ∧ (fraction = [] ∨ IsFraction fraction) ∧
    (exponent = [] ∨ IsExponent exponent) ∧ (suffix = [] ∨ IsNumberSuffix suffix)

theorem isDigits_takeWhile {text : Text} (some_digit : digitCount text ≠ 0) :
    IsDigits (text.takeWhile isDigit) := by
  refine ⟨?_, fun c => List.mem_takeWhile_imp⟩
  intro empty
  simp [digitCount, empty] at some_digit

theorem exists_fraction (text : Text) :
    ∃ part rest, text = part ++ rest ∧ fractionLength text = part.length ∧
      (part = [] ∨ IsFraction part) := by
  unfold fractionLength
  split
  · rename_i rest
    split
    · exact ⟨[], _, rfl, rfl, .inl rfl⟩
    · rename_i some_digit
      refine ⟨'.' :: rest.takeWhile isDigit, rest.dropWhile isDigit, ?_, rfl,
        .inr ⟨_, isDigits_takeWhile some_digit, rfl⟩⟩
      rw [List.cons_append, List.takeWhile_append_dropWhile]
  · exact ⟨[], _, rfl, rfl, .inl rfl⟩

theorem exists_sign (text : Text) :
    ∃ part rest, text = part ++ rest ∧ signLength text = part.length ∧
      (part = [] ∨ part = ['+'] ∨ part = ['-']) := by
  unfold signLength
  split
  · exact ⟨['+'], _, rfl, rfl, by simp⟩
  · exact ⟨['-'], _, rfl, rfl, by simp⟩
  · exact ⟨[], _, rfl, rfl, by simp⟩

theorem exists_exponent (text : Text) :
    ∃ part rest, text = part ++ rest ∧ exponentLength text = part.length ∧
      (part = [] ∨ IsExponent part) := by
  cases text with
  | nil => exact ⟨[], [], rfl, rfl, .inl rfl⟩
  | cons mark rest =>
      obtain ⟨sign, digits, rfl, sign_length, is_sign⟩ := exists_sign rest
      rw [exponentLength, sign_length, List.drop_left]
      split
      · rename_i exponent
        obtain ⟨is_mark, some_digit⟩ := Bool.and_eq_true_iff.mp exponent
        have some_digit : digitCount digits ≠ 0 :=
          Nat.pos_iff_ne_zero.mp (of_decide_eq_true some_digit)
        refine ⟨mark :: (sign ++ digits.takeWhile isDigit), digits.dropWhile isDigit, ?_, ?_,
          .inr ⟨mark, sign, _, by simpa using is_mark, is_sign, isDigits_takeWhile some_digit, rfl⟩⟩
        · rw [List.cons_append, List.append_assoc, List.takeWhile_append_dropWhile]
        · simp [digitCount, Nat.add_comm]
      · exact ⟨[], _, rfl, rfl, .inl rfl⟩

theorem exists_suffix (text : Text) :
    ∃ part rest, text = part ++ rest ∧ suffixLength text = part.length ∧
      (part = [] ∨ IsNumberSuffix part) := by
  cases text with
  | nil => exact ⟨[], [], rfl, rfl, .inl rfl⟩
  | cons letter rest =>
      rw [suffixLength]
      split
      · rename_i is_suffix
        refine ⟨[letter], rest, rfl, rfl, .inr ⟨letter, ?_, rfl⟩⟩
        simpa [isNumberSuffix, or_assoc] using is_suffix
      · exact ⟨[], _, rfl, rfl, .inl rfl⟩

/-- Exponent and type letter go up to the end of a word. -/
theorem numberTail?_eq_some {text : Text} {size : Nat} (found : numberTail? text = some size) :
    ∃ exponent suffix rest, text = exponent ++ (suffix ++ rest) ∧
      size = exponent.length + suffix.length ∧ (exponent = [] ∨ IsExponent exponent) ∧
      (suffix = [] ∨ IsNumberSuffix suffix) ∧ atWordEnd rest = true := by
  obtain ⟨exponent, text, rfl, exponent_length, is_exponent⟩ := exists_exponent text
  obtain ⟨suffix, rest, rfl, suffix_length, is_suffix⟩ := exists_suffix text
  simp only [numberTail?, exponent_length, List.drop_left, suffix_length,
    Option.ite_none_right_eq_some] at found
  obtain ⟨ends, size_eq⟩ := found
  rw [← List.drop_drop, List.drop_left, List.drop_left] at ends
  exact ⟨exponent, suffix, rest, rfl, (Option.some.inj size_eq).symm, is_exponent, is_suffix, ends⟩

/-- A number literal stands between two ends of words. -/
theorem numberLiteral_reads :
    numberLiteral.Reads fun before found rest =>
      IsNumberLiteral found ∧ before.any isWord = false ∧ atWordEnd rest = true := by
  intro before text matched
  have text_eq := List.takeWhile_append_dropWhile (p := isDigit) (l := text)
  have whole_length : digitCount text = (text.takeWhile isDigit).length := rfl
  obtain ⟨fraction, behind, behind_eq, fraction_length, is_fraction⟩ :=
    exists_fraction (text.dropWhile isDigit)
  have dropped : text.drop (digitCount text) = text.dropWhile isDigit :=
    drop_length_takeWhile isDigit text
  have dropped_fraction : text.drop (digitCount text + fraction.length) = behind := by
    rw [← List.drop_drop, dropped, behind_eq, List.drop_left]
  have starts : ¬(before.any isWord || digitCount text == 0) = true := by
    intro refused
    simp [numberLiteral, refused] at matched
  obtain ⟨free, some_digit⟩ : before.any isWord = false ∧ digitCount text ≠ 0 := by
    simpa using starts
  have whole_digits : IsDigits (text.takeWhile isDigit) := isDigits_takeWhile some_digit
  simp only [numberLiteral, dropped, fraction_length, dropped_fraction, if_neg starts] at matched ⊢
  cases tail : numberTail? behind with
  | some size =>
      obtain ⟨exponent, suffix, rest, rfl, rfl, is_exponent, is_suffix, ends⟩ :=
        numberTail?_eq_some tail
      refine ⟨text.takeWhile isDigit ++ (fraction ++ (exponent ++ suffix)), rest, ?_, ?_,
        ⟨_, fraction, exponent, suffix, rfl, whole_digits, is_fraction, is_exponent, is_suffix⟩,
        free, ends⟩
      · simp only [List.append_assoc, ← behind_eq, text_eq]
      · simp only [List.length_append, whole_length, Nat.add_assoc]
  | none =>
      -- The word goes on behind the fraction, which leaves the digits before the point.
      rw [tail] at matched
      obtain ⟨fraction_ne, -⟩ : fraction ≠ [] ∧ digitCount text ≠ 0 := by
        simpa using matched
      obtain ⟨digits, -, point⟩ := is_fraction.resolve_left fraction_ne
      refine ⟨text.takeWhile isDigit, text.dropWhile isDigit, text_eq.symm, ?_,
        ⟨_, [], [], [], by simp, whole_digits, .inl rfl, .inl rfl, .inl rfl⟩, free, ?_⟩
      · simp [fraction_ne, whole_length]
      · rw [behind_eq, point]
        rfl

/-! ## Whole words -/

/-- A class of word characters is taken up to the end of the word. -/
theorem takeWhile_append_of_atWordEnd {class? : Char → Bool} {run rest : Text}
    (within : ∀ c, class? c = true → isWord c = true) (all : ∀ c ∈ run, class? c = true)
    (ends : atWordEnd rest = true) : (run ++ rest).takeWhile class? = run := by
  rw [List.takeWhile_append_of_pos all]
  cases rest with
  | nil => simp
  | cons c rest =>
      have outside : ¬class? c = true := by
        intro inside
        simp [atWordEnd, within c inside] at ends
      rw [List.takeWhile_cons_of_neg outside, List.append_nil]

theorem isWord_of_isNumberSuffix {c : Char} (suffix : isNumberSuffix c = true) :
    isWord c = true := by
  simp only [isNumberSuffix, Bool.or_eq_true, beq_iff_eq] at suffix
  rcases suffix with ((((rfl | rfl) | rfl) | rfl) | rfl) | rfl <;> decide

/-- Neither an exponent nor a type letter stands where a word ends. -/
theorem numberTail?_of_atWordEnd {text : Text} (ends : atWordEnd text = true) :
    numberTail? text = some 0 := by
  cases text with
  | nil => rfl
  | cons c rest =>
      have outside : isWord c = false := by simpa [atWordEnd] using ends
      have no_suffix : isNumberSuffix c = false := by
        rw [Bool.eq_false_iff]
        intro suffix
        simp [isWord_of_isNumberSuffix suffix] at outside
      have no_mark : c ≠ 'e' ∧ c ≠ 'E' := by
        constructor <;> (rintro rfl; exact absurd outside (by decide))
      simp [numberTail?, exponentLength, suffixLength, no_mark, no_suffix, ends]

/-- Digits that are a word of their own are matched. -/
theorem numberLiteral_ne_zero {before : Option Char} {run rest : Text}
    (free : before.any isWord = false) (digits : IsDigits run) (ends : atWordEnd rest = true) :
    numberLiteral before (run ++ rest) ≠ 0 := by
  obtain ⟨run_ne, all⟩ := digits
  have whole : digitCount (run ++ rest) = run.length := by
    rw [digitCount, takeWhile_append_of_atWordEnd (fun c => isWord_of_isDigit) all ends]
  have length_ne : run.length ≠ 0 := by simpa using run_ne
  have starts : ¬(before.any isWord || run.length == 0) = true := by
    simp [free, length_ne]
  simp only [numberLiteral, whole, List.drop_left, if_neg starts]
  split
  · omega
  · rename_i refused
    have fraction_ne : fractionLength rest ≠ 0 := by
      intro no_fraction
      rw [no_fraction, Nat.add_zero, List.drop_left, numberTail?_of_atWordEnd ends] at refused
      exact absurd refused (by simp)
    rw [if_neg fraction_ne]
    exact length_ne

/-- A letter or a low line, and then letters, digits and low lines, all of ASCII. -/
def IsName (text : Text) : Prop :=
  ∃ first rest, text = first :: rest ∧ isNameStart first = true ∧
    ∀ c ∈ rest, isNameChar c = true

theorem IsName.isNameChar_of_mem {text : Text} (name : IsName text) :
    ∀ c ∈ text, isNameChar c = true := by
  obtain ⟨first, rest, rfl, starts, inside⟩ := name
  intro c c_mem
  rcases List.mem_cons.mp c_mem with rfl | c_mem
  · exact isNameChar_of_isNameStart starts
  · exact inside c c_mem

theorem IsName.not_isDigits {text : Text} (name : IsName text) : ¬IsDigits text := by
  rintro ⟨-, all⟩
  obtain ⟨first, rest, rfl, starts, -⟩ := name
  have digit := all first List.mem_cons_self
  rw [isDigit_eq_false_of_isNameStart starts] at digit
  exact absurd digit (by decide)

/-- An identifier stands between two ends of words. -/
theorem identifier_reads :
    identifier.Reads fun before found rest =>
      IsName found ∧ before.any isWord = false ∧ atWordEnd rest = true := by
  intro before text matched
  have text_eq := List.takeWhile_append_dropWhile (p := isNameChar) (l := text)
  simp only [identifier, drop_length_takeWhile] at matched ⊢
  split at matched
  · rename_i accepted
    simp only [Bool.and_eq_true, Bool.not_eq_true'] at accepted
    obtain ⟨⟨starts, free⟩, ends⟩ := accepted
    cases text with
    | nil => simp at starts
    | cons first rest =>
        have starts : isNameStart first = true := by simpa using starts
        have kept : (first :: rest).takeWhile isNameChar = first :: rest.takeWhile isNameChar :=
          List.takeWhile_cons_of_pos (isNameChar_of_isNameStart starts)
        refine ⟨_, _, text_eq.symm, by simp [starts, free, ends], ?_, free, ends⟩
        exact ⟨first, _, kept, starts, fun c => List.mem_takeWhile_imp⟩
  · exact (matched rfl).elim

/-- A name that is a word of its own is matched. -/
theorem identifier_ne_zero {before : Option Char} {run rest : Text}
    (free : before.any isWord = false) (name : IsName run) (ends : atWordEnd rest = true) :
    identifier before (run ++ rest) ≠ 0 := by
  have taken : (run ++ rest).takeWhile isNameChar = run :=
    takeWhile_append_of_atWordEnd (fun c => isWord_of_isNameChar) name.isNameChar_of_mem ends
  obtain ⟨first, others, rfl, starts, -⟩ := name
  simp only [identifier, taken, List.drop_left]
  simp [starts, free, ends]

/-! ## Identifiers in number literals -/

theorem identifier_silent_of_forall {gap : Text} (none_starts : ∀ c ∈ gap, isNameStart c = false)
    (before : Option Char) (rest : Text) : identifier.Silent before gap rest := by
  intro front c back split
  have inside := none_starts c (by simp [split])
  simp [identifier, inside]

/-- A letter behind a word character starts no identifier. -/
theorem identifier_silent_cons {before : Option Char} {gap : Text}
    (inside : before.any isWord = true) (none_starts : ∀ c ∈ gap, isNameStart c = false) (c : Char)
    (rest : Text) : identifier.Silent before (c :: gap) rest := by
  refine Pattern.silent_cons_iff.mpr ⟨?_, identifier_silent_of_forall none_starts _ rest⟩
  simp [identifier, inside]

theorem IsDigits.not_isNameStart {digits : Text} (all : IsDigits digits) :
    ∀ c ∈ digits, isNameStart c = false := by
  intro c c_mem
  rw [Bool.eq_false_iff]
  intro starts
  have digit := all.2 c c_mem
  rw [isDigit_eq_false_of_isNameStart starts] at digit
  exact absurd digit (by decide)

/-- Behind digits a word may go on. -/
theorem IsDigits.isWord_getLast? {digits : Text} (all : IsDigits digits) (front : Text)
    (before : Option Char) : ((front ++ digits).getLast?.or before).any isWord = true := by
  obtain ⟨digits_ne, all⟩ := all
  rw [List.getLast?_append_of_ne_nil front digits_ne, List.getLast?_eq_some_getLast digits_ne]
  exact isWord_of_isDigit (all _ (List.getLast_mem digits_ne))

/-- Text that ends in digits and in which no identifier stands. -/
def IsNumberPart (text : Text) : Prop :=
  ∀ before : Option Char, (text.getLast?.or before).any isWord = true ∧
    ∀ rest, identifier.Silent before text rest

theorem isNumberPart_append_digits {front digits : Text} (all : IsDigits digits)
    (none_starts : ∀ c ∈ front, isNameStart c = false) : IsNumberPart (front ++ digits) := by
  intro before
  refine ⟨all.isWord_getLast? front before, identifier_silent_of_forall ?_ before⟩
  exact List.forall_mem_append.mpr ⟨none_starts, all.not_isNameStart⟩

/-- A letter may stand behind digits. -/
theorem IsNumberPart.silent_append {text tail : Text} (part : IsNumberPart text)
    (none_starts : ∀ c ∈ tail, isNameStart c = false) (c : Char) (before : Option Char)
    (rest : Text) : identifier.Silent before (text ++ c :: tail) rest :=
  ((part before).2 _).append (identifier_silent_cons (part before).1 none_starts c rest)

theorem IsNumberPart.append_exponent {text exponent : Text} (part : IsNumberPart text)
    (form : IsExponent exponent) : IsNumberPart (text ++ exponent) := by
  obtain ⟨mark, sign, digits, -, is_sign, is_digits, rfl⟩ := form
  intro before
  have sign_starts : ∀ c ∈ sign, isNameStart c = false := by
    rcases is_sign with rfl | rfl | rfl
    · exact List.forall_mem_nil _
    · exact List.forall_mem_singleton.mpr (by decide)
    · exact List.forall_mem_singleton.mpr (by decide)
  refine ⟨?_, part.silent_append ?_ mark before⟩
  · rw [← List.cons_append, ← List.append_assoc]
    exact is_digits.isWord_getLast? _ before
  · exact List.forall_mem_append.mpr ⟨sign_starts, is_digits.not_isNameStart⟩

/-- No identifier stands in a number literal: its letters come behind digits. -/
theorem IsNumberLiteral.silent {literal : Text} (form : IsNumberLiteral literal)
    (before : Option Char) (rest : Text) : identifier.Silent before literal rest := by
  obtain ⟨whole, fraction, exponent, suffix, rfl, is_whole, is_fraction, is_exponent, is_suffix⟩ :=
    form
  have mantissa : IsNumberPart (whole ++ fraction) := by
    rcases is_fraction with rfl | ⟨digits, is_digits, rfl⟩
    · rw [List.append_nil, ← List.nil_append whole]
      exact isNumberPart_append_digits is_whole (by simp)
    · rw [List.append_cons]
      refine isNumberPart_append_digits is_digits ?_
      have point_starts : ∀ c ∈ ['.'], isNameStart c = false :=
        List.forall_mem_singleton.mpr (by decide)
      exact List.forall_mem_append.mpr ⟨is_whole.not_isNameStart, point_starts⟩
  have scaled : IsNumberPart (whole ++ fraction ++ exponent) := by
    rcases is_exponent with rfl | is_exponent
    · rwa [List.append_nil]
    · exact mantissa.append_exponent is_exponent
  rw [← List.append_assoc, ← List.append_assoc]
  rcases is_suffix with rfl | ⟨letter, -, rfl⟩
  · rw [List.append_nil]
    exact (scaled before).2 rest
  · exact scaled.silent_append (by simp) letter before rest

end Code
end ChatReply
