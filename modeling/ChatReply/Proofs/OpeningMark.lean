import ChatReply.Proofs.CharacterClass
import ChatReply.Proofs.LineForm

/-!
# Marks that open a line

An item of an ordered list and a header open with a mark, blanks and some text. Joined to another
line by a space, a line opens with a mark if it did so before or if the mark was all of it.
-/

namespace ChatReply
namespace Reply

/-! ## Text behind blanks -/

theorem isSome_spacedRest?_iff {text : Text} (single : '\n' ∉ text) :
    (spacedRest? text).isSome = true ↔
      isBlankText text = false ∧ ∃ c ∈ text.head?, isBlank c = true := by
  have rest_single : '\n' ∉ trimStart text :=
    fun newline => single ((List.dropWhile_suffix isBlank).subset newline)
  have rest_ne : trimStart text ≠ [] ↔ isBlankText text = false := by
    rw [Ne, trimStart_eq_nil_iff, Bool.not_eq_true]
  have shorter : (trimStart text).length < text.length ↔ ∃ c ∈ text.head?, isBlank c = true := by
    cases text with
    | nil => simp [trimStart, stripStart]
    | cons c text =>
        have at_most := (List.dropWhile_suffix isBlank (l := text)).length_le
        cases blank : isBlank c with
        | true => simp [trimStart, stripStart, blank]; omega
        | false => simp [trimStart, stripStart, blank]
  simp only [spacedRest?, Option.isSome_ite, rest_single, not_false_eq_true, and_true, rest_ne,
    shorter]
  exact And.comm

/-- Blanks behind a text do not matter to the text behind its first blanks. -/
theorem isSome_spacedRest?_append_blank {text tail : Text} (single : '\n' ∉ text ++ tail)
    (blank : isBlankText tail = true) :
    (spacedRest? (text ++ tail)).isSome = (spacedRest? text).isSome := by
  have text_single : '\n' ∉ text := fun newline => single (List.mem_append_left tail newline)
  have same_blank : isBlankText (text ++ tail) = isBlankText text := by
    rw [isBlankText, List.all_append, show tail.all isBlank = true from blank, Bool.and_true]
    rfl
  rw [Bool.eq_iff_iff, isSome_spacedRest?_iff single, isSome_spacedRest?_iff text_single,
    same_blank]
  cases text with
  | nil => simp [isBlankText]
  | cons c text => rfl

/-- Where a filled text follows behind a space, the first characters have to be blank. -/
theorem isSome_spacedRest?_append_space {text more : Text} (single : '\n' ∉ text ++ ' ' :: more)
    (filled : isBlankText more = false) :
    (spacedRest? (text ++ ' ' :: more)).isSome = true ↔
      isBlankText text = true ∨ (spacedRest? text).isSome = true := by
  have text_single : '\n' ∉ text := fun newline => single (List.mem_append_left _ newline)
  have whole_filled : isBlankText (text ++ ' ' :: more) = false := by
    rw [isBlankText, List.all_append, List.all_cons, show more.all isBlank = false from filled,
      Bool.and_false, Bool.and_false]
  rw [isSome_spacedRest?_iff single, isSome_spacedRest?_iff text_single, and_iff_right whole_filled]
  cases text with
  | nil => exact iff_of_true ⟨' ', rfl, by decide⟩ (.inl rfl)
  | cons c text =>
      cases blank : isBlankText (c :: text) with
      | true => simp_all [isBlankText]
      | false => simp

/-! ## Marks -/

/-- Behind the blanks at its start, the line opens with a mark, blanks and some text. -/
def OpensWith (mark line : Text) : Prop :=
  ∃ rest, trimStart line = mark ++ rest ∧ (spacedRest? rest).isSome = true

/-- The blanks at the end of a line do not matter to how it opens. -/
theorem opensWith_iff_trim {mark line : Text} (single : '\n' ∉ line) :
    OpensWith mark line ↔
      ∃ rest, trim line = mark ++ rest ∧ (spacedRest? rest).isSome = true := by
  have start_single : '\n' ∉ trimStart line :=
    fun newline => single ((List.dropWhile_suffix isBlank).subset newline)
  have trim_eq : trim line = stripEnd isBlank (trimStart line) := rfl
  rw [OpensWith, trim_eq]
  constructor
  · rintro ⟨rest, split, spaced⟩
    have rest_single : '\n' ∉ rest :=
      fun newline => start_single (split ▸ List.mem_append_right mark newline)
    obtain ⟨filled, -⟩ := (isSome_spacedRest?_iff rest_single).mp spaced
    obtain ⟨tail, whole, all⟩ := exists_stripEnd_append isBlank rest
    refine ⟨stripEnd isBlank rest, ?_, ?_⟩
    · rw [split, stripEnd_append_of_ne_nil mark (stripEnd_ne_nil filled)]
    · rw [← whole] at spaced rest_single
      rwa [isSome_spacedRest?_append_blank rest_single (List.all_eq_true.mpr all)] at spaced
  · rintro ⟨rest, split, spaced⟩
    obtain ⟨tail, whole, all⟩ := exists_stripEnd_append isBlank (trimStart line)
    rw [split, List.append_assoc] at whole
    have rest_single : '\n' ∉ rest ++ tail :=
      fun newline => start_single (whole ▸ List.mem_append_right mark newline)
    refine ⟨rest ++ tail, whole.symm, ?_⟩
    rwa [isSome_spacedRest?_append_blank rest_single (List.all_eq_true.mpr all)]

/-- A trimmed line is a mark just if nothing but blanks follows the mark. -/
theorem trim_eq_iff {mark line : Text} (solid : ∀ c ∈ mark, isBlank c = false) :
    trim line = mark ↔ ∃ tail, trimStart line = mark ++ tail ∧ isBlankText tail = true := by
  have trim_eq : trim line = stripEnd isBlank (trimStart line) := rfl
  rw [trim_eq]
  constructor
  · rintro rfl
    obtain ⟨tail, whole, all⟩ := exists_stripEnd_append isBlank (trimStart line)
    exact ⟨tail, whole.symm, List.all_eq_true.mpr all⟩
  · rintro ⟨tail, whole, blank⟩
    rw [whole, stripEnd_append mark (List.all_eq_true.mp blank), stripEnd_eq_self solid]

/-- A line that another one is joined to opens with a mark just if the mark was all of it or it
opened with the mark before. -/
theorem opensWith_append_iff {mark first more : Text} (solid : ∀ c ∈ mark, isBlank c = false)
    (filled : isBlankText first = false) (more_filled : isBlankText more = false)
    (single : '\n' ∉ first ++ ' ' :: more) :
    OpensWith mark (first ++ ' ' :: more) ↔ trim first = mark ∨ OpensWith mark first := by
  have start_single : '\n' ∉ trimStart first ++ ' ' :: more := by
    rw [← trimStart_append filled]
    exact fun newline => single ((List.dropWhile_suffix isBlank).subset newline)
  have rest_single {rest : Text} (split : trimStart first = mark ++ rest) :
      '\n' ∉ rest ++ ' ' :: more := by
    rw [split, List.append_assoc] at start_single
    exact fun newline => start_single (List.mem_append_right mark newline)
  rw [trim_eq_iff solid, OpensWith, OpensWith, trimStart_append filled]
  constructor
  · rintro ⟨rest, split, spaced⟩
    obtain ⟨inner, start_eq, rfl⟩ : ∃ inner, trimStart first = mark ++ inner ∧
        rest = inner ++ ' ' :: more := by
      rcases List.append_eq_append_iff.mp split with ⟨inner, mark_eq, rest_eq⟩ | found
      · cases inner with
        | nil => exact ⟨[], by simpa using mark_eq.symm, by simpa using rest_eq.symm⟩
        | cons c inner =>
            -- The space between the two lines would be part of the mark.
            obtain ⟨rfl, -⟩ := List.cons.inj rest_eq
            exact absurd (solid ' ' (mark_eq ▸ by simp)) (by decide)
      · exact found
    rcases (isSome_spacedRest?_append_space (rest_single start_eq) more_filled).mp spaced with
      blank | spaced
    · exact .inl ⟨inner, start_eq, blank⟩
    · exact .inr ⟨inner, start_eq, spaced⟩
  · have opens {rest : Text} (split : trimStart first = mark ++ rest)
        (follows : isBlankText rest = true ∨ (spacedRest? rest).isSome = true) :
        ∃ rest, trimStart first ++ ' ' :: more = mark ++ rest ∧
          (spacedRest? rest).isSome = true :=
      ⟨rest ++ ' ' :: more, by rw [split, List.append_assoc],
        (isSome_spacedRest?_append_space (rest_single split) more_filled).mpr follows⟩
    rintro (⟨rest, split, blank⟩ | ⟨rest, split, spaced⟩)
    · exact opens split (.inl blank)
    · exact opens split (.inr spaced)

/-! ## Lines that start a block -/

theorem starts_ordered_iff {line : Text} (single : '\n' ∉ line) :
    ListKind.ordered.starts line = true ↔
      ∃ digits, digits ≠ [] ∧ (∀ c ∈ digits, isDigit c = true) ∧
        OpensWith (digits ++ ['.']) line := by
  simp only [opensWith_iff_trim single, List.append_assoc, List.singleton_append]
  constructor
  · intro starts
    obtain ⟨⟨digits, text⟩, parts⟩ := Option.isSome_iff_exists.mp starts
    obtain ⟨rest, split, spaced, digits_ne, numeral⟩ := exists_rest_of_orderedItem? parts
    exact ⟨digits, digits_ne, numeral, rest, split, by rw [spaced]; rfl⟩
  · rintro ⟨digits, digits_ne, numeral, rest, split, spaced⟩
    have taken : (trim line).takeWhile isDigit = digits := by
      rw [split, List.takeWhile_append_of_pos numeral, List.takeWhile_cons_of_neg (by decide),
        List.append_nil]
    have dropped : (trim line).dropWhile isDigit = '.' :: rest := by
      rw [split, List.dropWhile_append_of_pos numeral, List.dropWhile_cons_of_neg (by decide)]
    simp [ListKind.starts, orderedItem?, taken, dropped, digits_ne, spaced]

/-- Without asterisks, an item of an unordered list starts with a minus sign or a plus sign. -/
theorem starts_bullet_iff {line : Text} (unmarked : '*' ∉ line) :
    ListKind.bullet.starts line = true ↔
      ∃ mark ∈ ['-', '+'], ∃ rest, trimStart line = mark :: ' ' :: rest := by
  constructor
  · intro starts
    obtain ⟨mark, mark_mem, rest, split⟩ := exists_mark_of_starts_bullet starts
    rcases List.mem_cons.mp mark_mem with rfl | mark_mem
    · have asterisk : '*' ∈ trimStart line := split ▸ List.mem_cons_self
      exact (unmarked ((List.dropWhile_suffix isBlank).subset asterisk)).elim
    · exact ⟨mark, mark_mem, rest, split⟩
  · rintro ⟨mark, mark_mem, rest, split⟩
    simp only [List.mem_cons, List.not_mem_nil, or_false] at mark_mem
    rcases mark_mem with rfl | rfl <;> simp [ListKind.starts, isBulletItem, split]

theorem isSome_header?_iff {line : Text} (single : '\n' ∉ line) :
    (header? line).isSome = true ↔ OpensWith ['#', '#', '#'] line := by
  rw [opensWith_iff_trim single]
  constructor
  · intro found
    unfold header? at found
    split at found
    · rename_i rest split
      exact ⟨rest, split, found⟩
    · simp at found
  · rintro ⟨rest, split, spaced⟩
    rw [header?, split]
    exact spaced

/-- The line starts an item or is a header. -/
def StartsBlock (line : Text) : Prop :=
  startsItem line = true ∨ (header? line).isSome = true

/-- The line holds nothing but the mark of an item or of a header. -/
def IsLoneMark (line : Text) : Prop :=
  trimStart line = ['-'] ∨ trimStart line = ['+'] ∨ trim line = ['#', '#', '#'] ∨
    ∃ digits, digits ≠ [] ∧ (∀ c ∈ digits, isDigit c = true) ∧ trim line = digits ++ ['.']

section

variable {first more : Text} (filled : isBlankText first = false)
variable (more_filled : isBlankText more = false) (single : '\n' ∉ first ++ ' ' :: more)
variable (unmarked : '*' ∉ first ++ ' ' :: more)

include filled

include unmarked in
theorem starts_bullet_append_iff :
    ListKind.bullet.starts (first ++ ' ' :: more) = true ↔
      (trimStart first = ['-'] ∨ trimStart first = ['+']) ∨
        ListKind.bullet.starts first = true := by
  have first_unmarked : '*' ∉ first := fun mark => unmarked (List.mem_append_left _ mark)
  rw [starts_bullet_iff unmarked, starts_bullet_iff first_unmarked, trimStart_append filled]
  have start_ne : trimStart first ≠ [] := by simp [trimStart_eq_nil_iff, filled]
  cases start : trimStart first with
  | nil => exact (start_ne start).elim
  | cons c rest =>
      cases rest with
      | nil => simp
      | cons next rest => simp

include more_filled single

theorem starts_ordered_append_iff :
    ListKind.ordered.starts (first ++ ' ' :: more) = true ↔
      (∃ digits, digits ≠ [] ∧ (∀ c ∈ digits, isDigit c = true) ∧ trim first = digits ++ ['.']) ∨
        ListKind.ordered.starts first = true := by
  have first_single : '\n' ∉ first := fun newline => single (List.mem_append_left _ newline)
  rw [starts_ordered_iff single, starts_ordered_iff first_single, ← exists_or]
  refine exists_congr fun digits => ?_
  rw [← and_or_left, ← and_or_left]
  refine and_congr_right fun _ => and_congr_right fun numeral => ?_
  have solid : ∀ c ∈ digits ++ ['.'], isBlank c = false := by
    simp only [List.mem_append, List.mem_singleton]
    rintro c (digit | rfl)
    · exact isBlank_eq_false_of_isWord (isWord_of_isDigit (numeral c digit))
    · decide
  exact opensWith_append_iff solid filled more_filled single

theorem isSome_header?_append_iff :
    (header? (first ++ ' ' :: more)).isSome = true ↔
      trim first = ['#', '#', '#'] ∨ (header? first).isSome = true := by
  have first_single : '\n' ∉ first := fun newline => single (List.mem_append_left _ newline)
  rw [isSome_header?_iff single, isSome_header?_iff first_single]
  have no_blank : isBlank '#' = false := by decide
  exact opensWith_append_iff (by simp [no_blank]) filled more_filled single

include unmarked

/-- A line that another one is joined to starts a block just if it was a lone mark or started one
before. -/
theorem startsBlock_append_iff :
    StartsBlock (first ++ ' ' :: more) ↔ IsLoneMark first ∨ StartsBlock first := by
  rw [StartsBlock, StartsBlock, startsItem, startsItem, Bool.or_eq_true, Bool.or_eq_true,
    starts_ordered_append_iff filled more_filled single,
    starts_bullet_append_iff filled unmarked,
    isSome_header?_append_iff filled more_filled single, IsLoneMark]
  simp only [or_assoc, or_comm, or_left_comm]

end

end Reply
end ChatReply
