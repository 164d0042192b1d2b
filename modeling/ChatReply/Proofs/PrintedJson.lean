import ChatReply.Json.Print
import ChatReply.Json.Read
import Mathlib.Data.List.Basic

/-!
# Printed JSON

A printed value is read back, whatever its indentation and whatever text follows that does not go
on with a number. Strings may hold any characters, since every character that would end or upset a
string is escaped. The reader is given fuel for the characters of the printed value.
-/

namespace ChatReply

/-! ## Hexadecimal numbers -/

theorem hexValue?_hexDigit {value : Nat} (small : value < 16) :
    hexValue? (hexDigit value) = some value := by
  have each : ∀ digit : Fin 16, hexValue? (hexDigit digit) = some digit.val := by decide
  exact each ⟨value, small⟩

namespace Json

theorem fourHex?_hexDigits {value : Nat} (small : value < 0x10000) (rest : Text) :
    fourHex? (hexDigits 4 value ++ rest) = some (value, rest) := by
  have first : value / 16 / 16 / 16 % 16 < 16 := Nat.mod_lt _ (by decide)
  have second : value / 16 / 16 % 16 < 16 := Nat.mod_lt _ (by decide)
  have third : value / 16 % 16 < 16 := Nat.mod_lt _ (by decide)
  have fourth : value % 16 < 16 := Nat.mod_lt _ (by decide)
  have whole : value / 16 / 16 / 16 % 16 * 0x1000 + value / 16 / 16 % 16 * 0x100 +
      value / 16 % 16 * 0x10 + value % 16 = value := by omega
  simp [hexDigits, fourHex?, hexValue?_hexDigit, first, second, third, fourth, whole]

/-! ## Blanks -/

/-- The text holds nothing but what may stand between two tokens. -/
def IsSpaces (text : Text) : Prop :=
  ∀ c ∈ text, isSpace c = true

theorem isSpaces_nil : IsSpaces [] :=
  List.forall_mem_nil _

theorem isSpaces_newLine (indent : Option Nat) (level : Nat) : IsSpaces (newLine indent level) := by
  cases indent with
  | none => exact isSpaces_nil
  | some width =>
      refine List.forall_mem_cons.mpr ⟨rfl, ?_⟩
      intro c c_mem
      rw [List.eq_of_mem_replicate c_mem]
      rfl

/-- Between two printed items stand a comma and blanks. -/
theorem exists_joinWith_comma (indent : Option Nat) (level : Nat) (first next : Text)
    (texts : List Text) :
    ∃ gap, IsSpaces gap ∧ joinWith (comma indent level) (first :: next :: texts) =
      first ++ ',' :: (gap ++ joinWith (comma indent level) (next :: texts)) := by
  cases indent with
  | none => exact ⟨[' '], by simp [IsSpaces, isSpace], by simp [joinWith, comma]⟩
  | some width =>
      exact ⟨newLine (some width) level, isSpaces_newLine (some width) level,
        by simp [joinWith, comma]⟩

theorem skipSpace_append {space : Text} (spaces : IsSpaces space) (text : Text) :
    skipSpace (space ++ text) = skipSpace text :=
  List.dropWhile_append_of_pos spaces

theorem skipSpace_cons {c : Char} (solid : isSpace c = false) (text : Text) :
    skipSpace (c :: text) = c :: text :=
  List.dropWhile_cons_of_neg (by simp [solid])

theorem skipSpace_append_cons {space : Text} (spaces : IsSpaces space) {c : Char}
    (solid : isSpace c = false) (text : Text) :
    skipSpace (space ++ c :: text) = c :: text := by
  rw [skipSpace_append spaces, skipSpace_cons solid]

/-- Blanks in front of a value make no difference. -/
theorem readValue?_append {space : Text} (spaces : IsSpaces space) (fuel : Nat) (text : Text) :
    readValue? fuel (space ++ text) = readValue? fuel text := by
  cases fuel with
  | zero => rfl
  | succ fuel => rw [readValue?, readValue?, skipSpace_append spaces]

theorem readFields?_append {space : Text} (spaces : IsSpaces space) (fuel : Nat) (text : Text) :
    readFields? fuel (space ++ text) = readFields? fuel text := by
  cases fuel with
  | zero => rfl
  | succ fuel => rw [readFields?, readFields?, skipSpace_append spaces]

/-! ## Strings -/

theorem scalar?_toNat (c : Char) : scalar? c.toNat = some c := by
  have valid : c.toNat.isValidChar := c.valid
  rw [scalar?, dif_pos valid]
  rfl

/-- The characters that have a letter for their escape, or stand for themselves in it. -/
def marked : List Char := ['\x22', '\\', '\n', '\r', '\t', '\x08', '\x0c']

theorem unescape?_marked {c : Char} (member : c ∈ marked) :
    ∃ code, escape c = '\\' :: code ∧ ∀ rest, unescape? (code ++ rest) = some (c, rest) := by
  simp only [marked, List.mem_cons, List.not_mem_nil, or_false] at member
  rcases member with rfl | rfl | rfl | rfl | rfl | rfl | rfl <;>
    exact ⟨_, rfl, fun rest => rfl⟩

theorem escape_of_not_marked {c : Char} (unmarked : c ∉ marked) :
    escape c = if c.toNat < 0x20 then '\\' :: 'u' :: hexDigits 4 c.toNat else [c] := by
  simp only [marked, List.mem_cons, List.not_mem_nil, or_false, not_or] at unmarked
  obtain ⟨quote, backslash, newline, return_, tab, backspace, feed⟩ := unmarked
  rw [escape, if_neg quote, if_neg backslash, if_neg newline, if_neg return_, if_neg tab,
    if_neg backspace, if_neg feed]

/-- An escaped character is found behind a backslash; any other one stands for itself. -/
theorem escape_cases (c : Char) :
    (escape c = [c] ∧ c ≠ '\x22' ∧ c ≠ '\\' ∧ ¬c.toNat < 0x20) ∨
      ∃ code, escape c = '\\' :: code ∧ ∀ rest, unescape? (code ++ rest) = some (c, rest) := by
  by_cases member : c ∈ marked
  · exact .inr (unescape?_marked member)
  · rw [escape_of_not_marked member]
    by_cases control : c.toNat < 0x20
    · have small : c.toNat < 0x10000 := by omega
      refine .inr ⟨_, if_pos control, fun rest => ?_⟩
      simp only [List.cons_append, unescape?, fourHex?_hexDigits small, Option.bind_eq_bind,
        Option.bind_some, scalar?_toNat]
    · refine .inl ⟨if_neg control, ?_, ?_, control⟩
      · rintro rfl
        exact member (by decide)
      · rintro rfl
        exact member (by decide)

theorem escape_ne_nil (c : Char) : escape c ≠ [] := by
  rcases escape_cases c with ⟨itself, -⟩ | ⟨code, escaped, -⟩
  · simp [itself]
  · simp [escaped]

/-- A printed character is read as that character. -/
theorem readString?_escape (c : Char) (fuel : Nat) (text : Text) :
    readString? (fuel + 1) (escape c ++ text) =
      (readString? fuel text).map fun (read, rest) => (c :: read, rest) := by
  rcases escape_cases c with ⟨itself, quote_ne, backslash_ne, graphic⟩ | ⟨code, escaped, decoded⟩
  · rw [itself, List.singleton_append, readString?, if_neg quote_ne, if_neg backslash_ne,
      if_neg graphic]
    cases readString? fuel text <;> rfl
  · rw [escaped, List.cons_append, readString?, if_neg (by decide), if_pos rfl, decoded]
    change ((readString? fuel text).bind fun (read, rest) => some (c :: read, rest)) = _
    cases readString? fuel text <;> rfl

/-- The characters of a printed string up to its closing quote are those of the string. -/
theorem readString?_printed {text : Text} {fuel : Nat} (enough : text.length < fuel)
    (rest : Text) :
    readString? fuel (text.flatMap escape ++ '\x22' :: rest) = some (text, rest) := by
  induction text generalizing fuel with
  | nil =>
      obtain ⟨fuel, rfl⟩ := Nat.exists_eq_add_of_lt enough
      simp [readString?]
  | cons c text ih =>
      obtain ⟨fuel, rfl⟩ : ∃ more, fuel = more + 1 := ⟨fuel - 1, by omega⟩
      rw [List.flatMap_cons, List.append_assoc, readString?_escape,
        ih (by simpa using enough)]
      rfl

theorem length_le_length_flatMap_escape (text : Text) :
    text.length ≤ (text.flatMap escape).length := by
  induction text with
  | nil => exact Nat.le_refl 0
  | cons c text ih =>
      have some_char := List.length_pos_of_ne_nil (escape_ne_nil c)
      simp only [List.flatMap_cons, List.length_append, List.length_cons]
      omega

/-! ## Integers -/

/-- No digit stands at the head of the text. -/
def EndsNumber (text : Text) : Prop :=
  ∀ c ∈ text.head?, c.isDigit = false

theorem endsNumber_cons {c : Char} (other : c.isDigit = false) (text : Text) :
    EndsNumber (c :: text) := by
  simpa [EndsNumber] using other

theorem isDigit_eq_false_of_isSpace {c : Char} (space : isSpace c = true) : c.isDigit = false := by
  simp only [isSpace, Bool.or_eq_true, beq_iff_eq] at space
  rcases space with ((rfl | rfl) | rfl) | rfl <;> rfl

theorem endsNumber_append_cons {space : Text} (spaces : IsSpaces space) {c : Char}
    (other : c.isDigit = false) (text : Text) : EndsNumber (space ++ c :: text) := by
  cases space with
  | nil => exact endsNumber_cons other text
  | cons head space =>
      exact endsNumber_cons (isDigit_eq_false_of_isSpace (spaces head List.mem_cons_self)) _

theorem head?_toDigits_ne_zero {value : Nat} (positive : 0 < value) :
    (Nat.toDigits 10 value).head? ≠ some '0' := by
  induction value using Nat.strongRecOn with
  | ind value ih =>
      by_cases single : value < 10
      · rw [Nat.toDigits_of_lt_base single]
        simpa [Nat.digitChar_eq_zero] using Nat.ne_of_gt positive
      · rw [Nat.toDigits_of_base_le (by decide) (by omega),
          List.head?_append_of_ne_nil _ Nat.toDigits_ne_nil]
        exact ih (value / 10) (by omega) (by omega)

/-- A printed number has no superfluous zeros, and its digits have the value of the number. -/
theorem natural?_toDigits (value : Nat) : natural? (Nat.toDigits 10 value) = some value := by
  have denoted : (Nat.toDigits 10 value).foldl
      (fun value digit => 10 * value + (digit.toNat - '0'.toNat)) 0 = value := by
    rw [← Nat.ofDigitChars_eq_foldl, Nat.ofDigitChars_ten_toDigits]
  unfold natural?
  split
  · rename_i empty
    exact (Nat.toDigits_ne_nil empty).elim
  · rename_i padded
    by_cases single : value < 10
    · simp [Nat.toDigits_of_lt_base single] at padded
    · have positive : 0 < value := by omega
      exact (head?_toDigits_ne_zero positive (by rw [padded]; rfl)).elim
  · rw [denoted]

theorem isDigit_of_mem_toDigits {value : Nat} {c : Char} (member : c ∈ Nat.toDigits 10 value) :
    c.isDigit = true :=
  Nat.isDigit_of_mem_toDigits (by decide) (by decide) member

theorem takeWhile_toDigits_append (value : Nat) {rest : Text} (ends : EndsNumber rest) :
    (Nat.toDigits 10 value ++ rest).takeWhile Char.isDigit = Nat.toDigits 10 value ∧
      (Nat.toDigits 10 value ++ rest).dropWhile Char.isDigit = rest := by
  rw [List.takeWhile_append_of_pos fun _ => isDigit_of_mem_toDigits,
    List.dropWhile_append_of_pos fun _ => isDigit_of_mem_toDigits]
  cases rest with
  | nil => simp
  | cons c rest =>
      have other : c.isDigit = false := ends c rfl
      simp [other]

theorem exists_toDigits_eq_cons (value : Nat) :
    ∃ c tail, Nat.toDigits 10 value = c :: tail ∧ c.isDigit = true := by
  obtain ⟨c, tail, digits_eq⟩ := List.exists_cons_of_ne_nil
    (Nat.toDigits_ne_nil (n := value) (b := 10))
  exact ⟨c, tail, digits_eq, isDigit_of_mem_toDigits (digits_eq ▸ List.mem_cons_self)⟩

/-- The character can start an integer. -/
def StartsNumber (c : Char) : Prop :=
  c = '-' ∨ c.isDigit = true

theorem StartsNumber.isSpace_eq_false {c : Char} (starts : StartsNumber c) : isSpace c = false := by
  rcases starts with rfl | digit
  · rfl
  · cases space : isSpace c with
    | false => rfl
    | true => exact absurd digit (by simp [isDigit_eq_false_of_isSpace space])

theorem exists_printInteger_eq_cons (value : Int) :
    ∃ c tail, printInteger value = c :: tail ∧ StartsNumber c := by
  cases value with
  | ofNat magnitude =>
      obtain ⟨c, tail, digits_eq, digit⟩ := exists_toDigits_eq_cons magnitude
      exact ⟨c, tail, by rw [printInteger, Nat.toList_repr, digits_eq], .inr digit⟩
  | negSucc predecessor => exact ⟨'-', _, rfl, .inl rfl⟩

theorem readInteger?_of_isDigit {c : Char} (digit : c.isDigit = true) (text : Text) :
    readInteger? (c :: text) =
      (natural? ((c :: text).takeWhile Char.isDigit)).map fun value =>
        ((value : Int), (c :: text).dropWhile Char.isDigit) := by
  unfold readInteger?
  split
  · rename_i negative
    obtain ⟨rfl, -⟩ := List.cons.inj negative
    exact absurd digit (by decide)
  · rfl

/-- A printed integer is read back, unless more digits follow it. -/
theorem readInteger?_printInteger (value : Int) {rest : Text} (ends : EndsNumber rest) :
    readInteger? (printInteger value ++ rest) = some (value, rest) := by
  cases value with
  | ofNat magnitude =>
      obtain ⟨taken, left⟩ := takeWhile_toDigits_append magnitude ends
      obtain ⟨c, tail, digits_eq, digit⟩ := exists_toDigits_eq_cons magnitude
      have read := readInteger?_of_isDigit digit (tail ++ rest)
      rw [← List.cons_append, ← digits_eq, taken, left, natural?_toDigits] at read
      rw [printInteger, Nat.toList_repr, read]
      rfl
  | negSucc predecessor =>
      obtain ⟨taken, left⟩ := takeWhile_toDigits_append (predecessor + 1) ends
      rw [printInteger, Nat.toList_repr, List.cons_append, readInteger?, taken, left,
        natural?_toDigits]
      rfl

/-! ## Values -/

/-- What holds of each value if it holds of those inside it holds of all values. -/
@[induction_eliminator]
theorem induction {motive : Json → Prop} (null : motive null)
    (bool : ∀ value, motive (bool value)) (integer : ∀ value, motive (integer value))
    (string : ∀ text, motive (string text))
    (array : ∀ items, (∀ item ∈ items, motive item) → motive (array items))
    (object : ∀ fields, (∀ field ∈ fields, motive field.2) → motive (object fields))
    (value : Json) : motive value :=
  match value with
  | .null => null
  | .bool value => bool value
  | .integer value => integer value
  | .string text => string text
  | .array items =>
      array items fun item _ => induction null bool integer string array object item
  | .object fields =>
      object fields fun field _ => induction null bool integer string array object field.2
termination_by sizeOf value
decreasing_by
  · have smaller := List.sizeOf_lt_of_mem ‹item ∈ items›
    simp only [Json.array.sizeOf_spec]
    omega
  · have smaller := List.sizeOf_lt_of_mem ‹field ∈ fields›
    have part : sizeOf field = 1 + sizeOf field.1 + sizeOf field.2 := rfl
    simp only [Json.object.sizeOf_spec]
    omega

theorem readValue?_number {c : Char} (starts : StartsNumber c) (fuel : Nat) (text : Text) :
    readValue? (fuel + 1) (c :: text) =
      (readInteger? (c :: text)).map fun (value, rest) => (integer value, rest) := by
  rw [readValue?, skipSpace_cons starts.isSpace_eq_false]
  split
  all_goals first | rfl | skip
  all_goals
    rename_i other
    obtain ⟨rfl, -⟩ := List.cons.inj other
    exact absurd starts (by unfold StartsNumber; decide)

/-! ## Items and fields -/

theorem printItems_eq_map (indent : Option Nat) (level : Nat) (items : List Json) :
    printItems indent level items = items.map (printAt indent level) := by
  induction items with
  | nil => rfl
  | cons item items ih => rw [printItems, ih, List.map_cons]

/-- A field as it is printed. -/
def printField (indent : Option Nat) (level : Nat) (field : String × Json) : Text :=
  printString field.1.toList ++ [':', ' '] ++ printAt indent level field.2

theorem printFields_eq_map (indent : Option Nat) (level : Nat) (fields : List (String × Json)) :
    printFields indent level fields = fields.map (printField indent level) := by
  induction fields with
  | nil => rfl
  | cons field fields ih => rw [printFields, ih, List.map_cons, printField]

/-- The value is read back from what is printed of it at any nesting level. -/
def ReadsBack (indent : Option Nat) (value : Json) : Prop :=
  ∀ level fuel rest, EndsNumber rest → (printAt indent level value).length < fuel →
    readValue? fuel (printAt indent level value ++ rest) = some (value, rest)

theorem ReadsBack.of_succ {indent : Option Nat} {value : Json}
    (reads : ∀ level fuel rest, EndsNumber rest → (printAt indent level value).length ≤ fuel →
      readValue? (fuel + 1) (printAt indent level value ++ rest) = some (value, rest)) :
    ReadsBack indent value := by
  intro level fuel rest ends enough
  obtain ⟨fuel, rfl⟩ : ∃ more, fuel = more + 1 := ⟨fuel - 1, by omega⟩
  exact reads level fuel rest ends (by omega)

theorem readItems?_append {space : Text} (spaces : IsSpaces space) (fuel : Nat) (text : Text) :
    readItems? fuel (space ++ text) = readItems? fuel text := by
  cases fuel with
  | zero => rfl
  | succ fuel => rw [readItems?, readItems?, readValue?_append spaces]

theorem readItems?_last {fuel : Nat} {text space rest : Text} {item : Json}
    (read : readValue? fuel text = some (item, space ++ ']' :: rest)) (spaces : IsSpaces space) :
    readItems? (fuel + 1) text = some ([item], rest) := by
  have closed : skipSpace (space ++ ']' :: rest) = ']' :: rest :=
    skipSpace_append_cons spaces (by decide) rest
  simp [readItems?, read, closed]

theorem readItems?_next {fuel : Nat} {text later rest : Text} {item : Json} {items : List Json}
    (read : readValue? fuel text = some (item, ',' :: later))
    (others : readItems? fuel later = some (items, rest)) :
    readItems? (fuel + 1) text = some (item :: items, rest) := by
  have parted : skipSpace (',' :: later) = ',' :: later := skipSpace_cons (by decide) later
  simp [readItems?, read, parted, others]

theorem readItems?_joinWith {indent : Option Nat} {level fuel : Nat} {item : Json}
    {items : List Json} (reads : ∀ each ∈ item :: items, ReadsBack indent each)
    (enough : (joinWith (comma indent level) ((item :: items).map (printAt indent level))).length +
      1 < fuel) {space : Text} (spaces : IsSpaces space) (rest : Text) :
    readItems? fuel (joinWith (comma indent level) ((item :: items).map (printAt indent level)) ++
      (space ++ ']' :: rest)) = some (item :: items, rest) := by
  obtain ⟨fuel, rfl⟩ : ∃ more, fuel = more + 1 := ⟨fuel - 1, by omega⟩
  induction items generalizing item fuel with
  | nil =>
      have ends : EndsNumber (space ++ ']' :: rest) :=
        endsNumber_append_cons spaces (by decide) rest
      exact readItems?_last (reads item List.mem_cons_self level fuel _ ends
        (by simpa [joinWith] using enough)) spaces
  | cons next items ih =>
      obtain ⟨gap, gaps, joined⟩ := exists_joinWith_comma indent level
        (printAt indent level item) (printAt indent level next)
        (items.map (printAt indent level))
      simp only [List.map_cons, joined, List.length_append, List.length_cons] at enough ⊢
      obtain ⟨fuel, rfl⟩ : ∃ more, fuel = more + 1 := ⟨fuel - 1, by omega⟩
      have others := ih (fun each member => reads each (List.mem_cons_of_mem _ member)) fuel
        (by rw [List.map_cons]; omega)
      rw [List.append_assoc, List.cons_append, List.append_assoc]
      refine readItems?_next (reads item List.mem_cons_self level _ _
        (endsNumber_cons (by decide) _) (by omega)) ?_
      rwa [readItems?_append gaps]

theorem readFields?_last {name : String} {value : Json} {fuel : Nat} {text space rest : Text}
    (enough : name.toList.length < fuel)
    (read : readValue? fuel text = some (value, space ++ '\x7d' :: rest))
    (spaces : IsSpaces space) :
    readFields? (fuel + 1) (printString name.toList ++ ':' :: text) =
      some ([(name, value)], rest) := by
  have closed : skipSpace (space ++ '\x7d' :: rest) = '\x7d' :: rest :=
    skipSpace_append_cons spaces (by decide) rest
  have named := readString?_printed enough (':' :: text)
  simp [readFields?, printString, skipSpace_cons, isSpace, named, read, closed]

theorem readFields?_next {name : String} {value : Json} {fields : List (String × Json)}
    {fuel : Nat} {text later rest : Text} (enough : name.toList.length < fuel)
    (read : readValue? fuel text = some (value, ',' :: later))
    (others : readFields? fuel later = some (fields, rest)) :
    readFields? (fuel + 1) (printString name.toList ++ ':' :: text) =
      some ((name, value) :: fields, rest) := by
  have named := readString?_printed enough (':' :: text)
  simp [readFields?, printString, skipSpace_cons, isSpace, named, read, others]

/-- A field is read once its value is, from behind the name and the colon. -/
theorem reads_field {indent : Option Nat} {level fuel : Nat} {field : String × Json}
    (reads : ReadsBack indent field.2) (enough : (printField indent level field).length ≤ fuel)
    {rest : Text} (ends : EndsNumber rest) :
    ∃ text, printField indent level field ++ rest = printString field.1.toList ++ ':' :: text ∧
      field.1.toList.length < fuel ∧ readValue? fuel text = some (field.2, rest) := by
  have name_le := length_le_length_flatMap_escape field.1.toList
  simp only [printField, printString, List.length_append, List.length_cons, List.length_nil]
    at enough
  refine ⟨[' '] ++ (printAt indent level field.2 ++ rest), by simp [printField], by omega, ?_⟩
  rw [readValue?_append (by simp [IsSpaces, isSpace]), reads level fuel rest ends (by omega)]

theorem readFields?_joinWith {indent : Option Nat} {level fuel : Nat} {field : String × Json}
    {fields : List (String × Json)} (reads : ∀ each ∈ field :: fields, ReadsBack indent each.2)
    (enough :
      (joinWith (comma indent level) ((field :: fields).map (printField indent level))).length +
        1 < fuel) {space : Text} (spaces : IsSpaces space) (rest : Text) :
    readFields? fuel
      (joinWith (comma indent level) ((field :: fields).map (printField indent level)) ++
        (space ++ '\x7d' :: rest)) = some (field :: fields, rest) := by
  obtain ⟨fuel, rfl⟩ : ∃ more, fuel = more + 1 := ⟨fuel - 1, by omega⟩
  induction fields generalizing field fuel with
  | nil =>
      simp only [List.map_cons, List.map_nil, joinWith] at enough ⊢
      have ends : EndsNumber (space ++ '\x7d' :: rest) :=
        endsNumber_append_cons spaces (by decide) rest
      have shorter : (printField indent level field).length ≤ fuel := by omega
      obtain ⟨text, printed, short, read⟩ :=
        reads_field (reads field List.mem_cons_self) shorter ends
      rw [printed]
      exact readFields?_last short read spaces
  | cons next fields ih =>
      obtain ⟨gap, gaps, joined⟩ := exists_joinWith_comma indent level
        (printField indent level field) (printField indent level next)
        (fields.map (printField indent level))
      simp only [List.map_cons, joined, List.length_append, List.length_cons] at enough ⊢
      obtain ⟨fuel, rfl⟩ : ∃ more, fuel = more + 1 := ⟨fuel - 1, by omega⟩
      have others := ih (fun each member => reads each (List.mem_cons_of_mem _ member)) fuel
        (by rw [List.map_cons]; omega)
      have shorter : (printField indent level field).length ≤ fuel + 1 := by omega
      have ends : Char.isDigit ',' = false := rfl
      rw [List.append_assoc, List.cons_append, List.append_assoc]
      obtain ⟨text, printed, short, read⟩ :=
        reads_field (reads field List.mem_cons_self) shorter (endsNumber_cons ends _)
      rw [printed]
      refine readFields?_next short read ?_
      rwa [readFields?_append gaps]

/-! ## Whole values -/

theorem bracket_append {items : List Text} (filled : items ≠ []) (indent : Option Nat)
    (level : Nat) (left right : Char) (rest : Text) :
    bracket indent level left right items ++ rest =
      left :: (newLine indent (level + 1) ++ (joinWith (comma indent (level + 1)) items ++
        (newLine indent level ++ right :: rest))) := by
  simp [bracket, filled]

theorem length_joinWith_lt_bracket {items : List Text} (filled : items ≠ [])
    (indent : Option Nat) (level : Nat) (left right : Char) :
    (joinWith (comma indent (level + 1)) items).length + 1 <
      (bracket indent level left right items).length := by
  have whole := congrArg List.length (bracket_append filled indent level left right [])
  simp only [List.append_nil, List.length_append, List.length_cons] at whole
  omega

theorem readValue?_array {fuel : Nat} {text rest : Text} {items : List Json}
    (read : readItems? fuel text = some (items, rest)) :
    readValue? (fuel + 1) ('[' :: text) = some (array items, rest) := by
  rw [readValue?, skipSpace_cons (by decide)]
  simp only
  split
  · rename_i after closed
    -- No item starts with the bracket that ends an empty array.
    have unread : readItems? fuel text = none := by
      cases fuel with
      | zero => rfl
      | succ fuel =>
          cases fuel <;> simp [readItems?, readValue?, closed, readInteger?, natural?]
    simp [unread] at read
  · rw [read]
    rfl

theorem readValue?_object {fuel : Nat} {text rest : Text} {fields : List (String × Json)}
    (read : readFields? fuel text = some (fields, rest)) :
    readValue? (fuel + 1) ('\x7b' :: text) = some (object fields, rest) := by
  rw [readValue?, skipSpace_cons (by decide)]
  simp only
  split
  · rename_i after closed
    have unread : readFields? fuel text = none := by
      cases fuel <;> simp [readFields?, closed]
    simp [unread] at read
  · rw [read]
    rfl

theorem readsBack_array {indent : Option Nat} {items : List Json}
    (reads : ∀ item ∈ items, ReadsBack indent item) : ReadsBack indent (array items) := by
  refine .of_succ fun level fuel rest ends enough => ?_
  rw [printAt, printItems_eq_map] at enough ⊢
  cases items with
  | nil => rfl
  | cons item items =>
      have filled : (item :: items).map (printAt indent (level + 1)) ≠ [] := List.cons_ne_nil _ _
      have shorter := length_joinWith_lt_bracket filled indent level '[' ']'
      rw [bracket_append filled]
      apply readValue?_array
      rw [readItems?_append (isSpaces_newLine indent (level + 1))]
      exact readItems?_joinWith reads (by omega) (isSpaces_newLine indent level) rest

theorem readsBack_object {indent : Option Nat} {fields : List (String × Json)}
    (reads : ∀ field ∈ fields, ReadsBack indent field.2) : ReadsBack indent (object fields) := by
  refine .of_succ fun level fuel rest ends enough => ?_
  rw [printAt, printFields_eq_map] at enough ⊢
  cases fields with
  | nil => rfl
  | cons field fields =>
      have filled : (field :: fields).map (printField indent (level + 1)) ≠ [] :=
        List.cons_ne_nil _ _
      have shorter := length_joinWith_lt_bracket filled indent level '\x7b' '\x7d'
      rw [bracket_append filled]
      apply readValue?_object
      rw [readFields?_append (isSpaces_newLine indent (level + 1))]
      exact readFields?_joinWith reads (by omega) (isSpaces_newLine indent level) rest

/-- Every value is read back from its printed form. -/
theorem readsBack (indent : Option Nat) (value : Json) : ReadsBack indent value := by
  induction value with
  | null => exact .of_succ fun _ _ _ _ _ => rfl
  | bool value => exact .of_succ fun _ _ _ _ _ => by cases value <;> rfl
  | integer value =>
      refine .of_succ fun level fuel rest ends enough => ?_
      obtain ⟨c, tail, printed, starts⟩ := exists_printInteger_eq_cons value
      have read := readValue?_number starts fuel (tail ++ rest)
      rw [← List.cons_append, ← printed, readInteger?_printInteger value ends] at read
      exact read
  | string text =>
      refine .of_succ fun level fuel rest ends enough => ?_
      have text_le := length_le_length_flatMap_escape text
      simp only [printAt, printString, List.length_cons, List.length_append] at enough
      have read := readString?_printed (show text.length < fuel by omega) rest
      simp [printAt, printString, readValue?, skipSpace_cons, isSpace, read]
  | array items ih => exact readsBack_array ih
  | object fields ih => exact readsBack_object ih

/-- Reading takes back printing, whatever the indentation. -/
theorem read?_print (indent : Option Nat) (value : Json) :
    read? (value.print indent) = some value := by
  have ends : EndsNumber [] := by simp [EndsNumber]
  have read : readValue? ((value.print indent).length + 1) (value.print indent ++ []) =
      some (value, []) := readsBack indent value 0 _ [] ends (Nat.lt_succ_self _)
  rw [List.append_nil] at read
  rw [read?, read]
  rfl

end Json
end ChatReply
