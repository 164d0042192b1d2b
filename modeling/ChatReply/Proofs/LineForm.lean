import Mathlib.Data.List.Infix
import Mathlib.Data.List.TakeWhile
import ChatReply.Reply.ItemLines

/-!
# Forms that exclude each other

A line has at most one form. What starts an item can neither be blank nor fence code in, and it is
an item of one kind of list only, because these forms begin with different characters.
-/

namespace ChatReply

/-! ## Blanks around a text -/

theorem trimStart_eq_nil_iff {text : Text} : trimStart text = [] ↔ isBlankText text = true := by
  simp [trimStart, stripStart, isBlankText, List.dropWhile_eq_nil_iff]

theorem isBlank_of_head?_trimStart {text : Text} {c : Char}
    (first : (trimStart text).head? = some c) : isBlank c = false := by
  have stops := List.head?_dropWhile_not isBlank text
  rw [trimStart, stripStart] at first
  rw [first] at stops
  simpa using stops

theorem stripEnd_cons {class? : Char → Bool} {c : Char} (kept : class? c = false) (text : Text) :
    stripEnd class? (c :: text) = c :: stripEnd class? text := by
  rw [stripEnd, stripEnd, List.reverse_cons, List.dropWhile_append]
  cases text.reverse.dropWhile class? with
  | nil => simp [kept]
  | cons last rest => simp

theorem stripEnd_append {class? : Char → Bool} (text : Text) {tail : Text}
    (all : ∀ c ∈ tail, class? c = true) :
    stripEnd class? (text ++ tail) = stripEnd class? text := by
  rw [stripEnd, stripEnd, List.reverse_append, List.dropWhile_append_of_pos (by simpa using all)]

theorem trim_append_of_isBlankText (text : Text) {tail : Text} (blank : isBlankText tail = true) :
    trim (text ++ tail) = trim text := by
  have all : ∀ c ∈ tail, isBlank c = true := by simpa [isBlankText] using blank
  simp only [trim, stripStart, List.dropWhile_append]
  split
  · rename_i nothing
    rw [List.isEmpty_iff] at nothing
    rw [nothing, List.dropWhile_eq_nil_iff.mpr all]
  · exact stripEnd_append _ all

theorem isBlank_of_getLast?_trim {text : Text} {c : Char}
    (last : (trim text).getLast? = some c) : isBlank c = false := by
  rw [trim, stripEnd, List.getLast?_reverse] at last
  have stops := List.head?_dropWhile_not isBlank (stripStart isBlank text).reverse
  rw [last] at stops
  simpa using stops

/-- A text keeps its first character that is not blank when the blanks at both ends go. -/
theorem head?_trim (text : Text) : (trim text).head? = (trimStart text).head? := by
  change (stripEnd isBlank (trimStart text)).head? = (trimStart text).head?
  cases start : trimStart text with
  | nil => rfl
  | cons c rest =>
      have kept : isBlank c = false := isBlank_of_head?_trimStart (by rw [start]; rfl)
      rw [stripEnd_cons kept]
      rfl

theorem trim_eq_nil_iff {text : Text} : trim text = [] ↔ isBlankText text = true := by
  rw [← trimStart_eq_nil_iff, ← List.head?_eq_none_iff, head?_trim, List.head?_eq_none_iff]

theorem stripEnd_isPrefix (class? : Char → Bool) (text : Text) : stripEnd class? text <+: text := by
  rw [← List.reverse_suffix, stripEnd, List.reverse_reverse]
  exact List.dropWhile_suffix class?

/-- What goes at the end belongs to the class. -/
theorem exists_stripEnd_append (class? : Char → Bool) (text : Text) :
    ∃ tail, stripEnd class? text ++ tail = text ∧ ∀ c ∈ tail, class? c = true := by
  refine ⟨(text.reverse.takeWhile class?).reverse, ?_, ?_⟩
  · rw [stripEnd, ← List.reverse_append, List.takeWhile_append_dropWhile, List.reverse_reverse]
  · intro c c_mem
    exact List.mem_takeWhile_imp (List.mem_reverse.mp c_mem)

theorem trimStart_append {text : Text} (filled : isBlankText text = false) (rest : Text) :
    trimStart (text ++ rest) = trimStart text ++ rest := by
  have start_ne : trimStart text ≠ [] := by simp [trimStart_eq_nil_iff, filled]
  rw [trimStart, stripStart, List.dropWhile_append]
  exact if_neg fun empty => start_ne (List.isEmpty_iff.mp empty)

/-- What stands before a part that is kept is kept. -/
theorem stripEnd_append_of_ne_nil {class? : Char → Bool} (text : Text) {rest : Text}
    (kept : stripEnd class? rest ≠ []) :
    stripEnd class? (text ++ rest) = text ++ stripEnd class? rest := by
  have some_kept : ¬(rest.reverse.dropWhile class?).isEmpty = true := by
    intro empty
    exact kept (by rw [stripEnd, List.isEmpty_iff.mp empty]; rfl)
  rw [stripEnd, List.reverse_append, List.dropWhile_append, if_neg some_kept, List.reverse_append,
    List.reverse_reverse]
  rfl

theorem stripEnd_eq_self {class? : Char → Bool} {text : Text}
    (solid : ∀ c ∈ text, class? c = false) : stripEnd class? text = text := by
  obtain ⟨tail, whole, all⟩ := exists_stripEnd_append class? text
  cases tail with
  | nil => simpa using whole
  | cons c tail =>
      have c_mem : c ∈ text := whole ▸ List.mem_append_right _ List.mem_cons_self
      simp [solid c c_mem] at all

theorem isBlankText_stripEnd (text : Text) :
    isBlankText (stripEnd isBlank text) = isBlankText text := by
  obtain ⟨tail, whole, all⟩ := exists_stripEnd_append isBlank text
  have tail_blank : tail.all isBlank = true := List.all_eq_true.mpr all
  conv_rhs => rw [← whole, isBlankText, List.all_append, tail_blank, Bool.and_true]
  rfl

theorem stripEnd_ne_nil {text : Text} (filled : isBlankText text = false) :
    stripEnd isBlank text ≠ [] := by
  intro nothing
  rw [← isBlankText_stripEnd, nothing] at filled
  simp [isBlankText] at filled

theorem trim_isInfix (text : Text) : trim text <:+: text := by
  have start : stripStart isBlank text <:+ text := List.dropWhile_suffix isBlank
  have finish : trim text <+: stripStart isBlank text := stripEnd_isPrefix isBlank _
  exact finish.isInfix.trans start.isInfix

/-- No blank stands at either end of the text. -/
def Trimmed (text : Text) : Prop :=
  ∀ c, text.head? = some c ∨ text.getLast? = some c → isBlank c = false

theorem trimmed_trim (text : Text) : Trimmed (trim text) := by
  rintro c (first | last)
  · rw [head?_trim] at first
    exact isBlank_of_head?_trimStart first
  · exact isBlank_of_getLast?_trim last

theorem Trimmed.trim_eq {text : Text} (trimmed : Trimmed text) : trim text = text := by
  have start : stripStart isBlank text = text := by
    cases text with
    | nil => rfl
    | cons c text => simp [stripStart, trimmed c (.inl rfl)]
  rw [trim, start, stripEnd]
  cases reversed : text.reverse with
  | nil => simpa using congrArg List.reverse reversed.symm
  | cons c rest =>
      have kept : isBlank c = false := by
        apply trimmed c (.inr _)
        rw [← List.head?_reverse, reversed]
        rfl
      rw [List.dropWhile_cons_of_neg (by simp [kept]), ← reversed, List.reverse_reverse]

theorem trim_eq_self {text : Text} (solid : ∀ c ∈ text, isBlank c = false) : trim text = text := by
  apply Trimmed.trim_eq
  rintro c (first | last)
  · exact solid c (List.mem_of_head? first)
  · exact solid c (List.mem_of_getLast? last)

namespace Reply

/-! ## Text behind blanks -/

/-- In a trimmed line the text behind some blanks is trimmed as well, and it is not empty. -/
theorem trimmed_of_spacedRest? {line front rest text : Text} (line_eq : trim line = front ++ rest)
    (found : spacedRest? rest = some text) : text ≠ [] ∧ Trimmed text ∧ text <:+: line := by
  simp only [spacedRest?, Option.ite_none_right_eq_some] at found
  obtain ⟨⟨-, text_ne, -⟩, text_eq⟩ := found
  obtain rfl := Option.some.inj text_eq
  have finish : trimStart rest <:+ trim line := by
    rw [line_eq]
    exact (List.dropWhile_suffix isBlank).trans (List.suffix_append front rest)
  refine ⟨text_ne, ?_, finish.isInfix.trans (trim_isInfix line)⟩
  rintro c (first | last)
  · exact isBlank_of_head?_trimStart first
  · have last : (trim line).getLast? = some c := by
      obtain ⟨before, whole⟩ := finish
      rw [← whole, List.getLast?_append_of_ne_nil before text_ne]
      exact last
    exact isBlank_of_getLast?_trim last

theorem trimmed_of_header? {line text : Text} (found : header? line = some text) :
    text ≠ [] ∧ Trimmed text ∧ text <:+: line := by
  unfold header? at found
  split at found
  · rename_i rest line_eq
    have line_eq : trim line = ['#', '#', '#'] ++ rest := line_eq
    exact trimmed_of_spacedRest? line_eq found
  · simp at found

/-- The line of an item of an ordered list starts with digits and a point. -/
theorem exists_rest_of_orderedItem? {line digits text : Text}
    (found : orderedItem? line = some (digits, text)) :
    ∃ rest, trim line = digits ++ '.' :: rest ∧ spacedRest? rest = some text ∧ digits ≠ [] ∧
      ∀ c ∈ digits, isDigit c = true := by
  simp only [orderedItem?] at found
  split at found
  · rename_i rest behind
    split at found
    · simp at found
    · rename_i digits_ne
      obtain ⟨other, spaced, pair_eq⟩ := Option.map_eq_some_iff.mp found
      obtain ⟨rfl, rfl⟩ := Prod.mk.inj pair_eq
      refine ⟨rest, ?_, spaced, digits_ne, fun c => List.mem_takeWhile_imp⟩
      rw [← behind, List.takeWhile_append_dropWhile]
  · simp at found

theorem trimmed_of_orderedItem? {line digits text : Text}
    (found : orderedItem? line = some (digits, text)) :
    text ≠ [] ∧ Trimmed text ∧ text <:+: line := by
  obtain ⟨rest, line_eq, spaced, -, -⟩ := exists_rest_of_orderedItem? found
  rw [← List.singleton_append, ← List.append_assoc] at line_eq
  exact trimmed_of_spacedRest? line_eq spaced

theorem exists_gap_of_spacedRest? {rest text : Text} (found : spacedRest? rest = some text) :
    ∃ gap, gap ++ text = rest ∧ gap ≠ [] ∧ isBlankText gap = true := by
  simp only [spacedRest?, Option.ite_none_right_eq_some] at found
  obtain ⟨⟨shorter, -, -⟩, text_eq⟩ := found
  obtain rfl := Option.some.inj text_eq
  have whole : rest.takeWhile isBlank ++ trimStart rest = rest := List.takeWhile_append_dropWhile
  refine ⟨rest.takeWhile isBlank, whole, fun no_gap => ?_, ?_⟩
  · rw [no_gap, List.nil_append] at whole
    exact absurd (congrArg List.length whole) (Nat.ne_of_lt shorter)
  · exact List.all_eq_true.mpr fun c => List.mem_takeWhile_imp

/-- The text of an item of an unordered list stands behind its mark and a space. -/
theorem bulletText_eq {line rest : Text} {mark : Char}
    (start : trimStart line = mark :: ' ' :: rest) : bulletText line = trim rest := by
  have mark_kept : isBlank mark = false := isBlank_of_head?_trimStart (by rw [start]; rfl)
  have line_eq : trim line = mark :: stripEnd isBlank (' ' :: rest) := by
    change stripEnd isBlank (trimStart line) = _
    rw [start, stripEnd_cons mark_kept]
  obtain ⟨tail, whole, all⟩ := exists_stripEnd_append isBlank (' ' :: rest)
  have tail_blank : isBlankText tail = true := List.all_eq_true.mpr all
  rw [bulletText, line_eq, List.drop_succ_cons]
  cases kept : stripEnd isBlank (' ' :: rest) with
  | nil =>
      have rest_blank : isBlankText rest = true := by
        rw [kept, List.nil_append] at whole
        simp only [whole, isBlankText, List.all_cons, Bool.and_eq_true] at tail_blank
        exact tail_blank.2
      rw [trim_eq_nil_iff.mpr rest_blank]
      rfl
  | cons c text =>
      have rest_eq : text ++ tail = rest := (List.cons.inj (kept ▸ whole)).2
      rw [List.drop_succ_cons, List.drop_zero, ← rest_eq,
        trim_append_of_isBlankText text tail_blank]

/-! ## First characters -/

theorem head?_of_isFence {text : Text} (fence : isFence text = true) :
    text.head? = some '\x60' := by
  simp only [isFence, Bool.and_eq_true] at fence
  obtain ⟨rest, rfl⟩ := List.isPrefixOf_iff_prefix.mp fence.1
  rfl

theorem head?_of_starts_ordered {line : Text} (starts : ListKind.ordered.starts line = true) :
    ∃ digit, (trim line).head? = some digit ∧ isDigit digit = true := by
  simp only [ListKind.starts, orderedItem?] at starts
  split at starts
  · split at starts
    · simp at starts
    · rename_i digits_ne
      cases line_eq : trim line with
      | nil => simp [line_eq] at digits_ne
      | cons digit rest =>
          refine ⟨digit, rfl, ?_⟩
          by_contra other
          simp [line_eq, other] at digits_ne
  · simp at starts

/-- An item of an unordered list starts with a mark and a space. -/
theorem exists_mark_of_starts_bullet {line : Text} (starts : ListKind.bullet.starts line = true) :
    ∃ mark ∈ ['*', '-', '+'], ∃ rest, trimStart line = mark :: ' ' :: rest := by
  simp only [ListKind.starts, isBulletItem] at starts
  split at starts
  · exact ⟨'*', by simp, _, by assumption⟩
  · exact ⟨'-', by simp, _, by assumption⟩
  · exact ⟨'+', by simp, _, by assumption⟩
  · simp at starts

theorem head?_of_starts_bullet {line : Text} (starts : ListKind.bullet.starts line = true) :
    ∃ mark ∈ ['*', '-', '+'], (trim line).head? = some mark := by
  obtain ⟨mark, mark_mem, rest, start⟩ := exists_mark_of_starts_bullet starts
  exact ⟨mark, mark_mem, by rw [head?_trim, start]; rfl⟩

/-- No line is an item of both kinds of list. -/
theorem starts_ordered_eq_false {line : Text} (starts : ListKind.bullet.starts line = true) :
    ListKind.ordered.starts line = false := by
  obtain ⟨mark, mark_mem, first⟩ := head?_of_starts_bullet starts
  by_contra ordered
  obtain ⟨digit, also_first, digit_is⟩ := head?_of_starts_ordered (by simpa using ordered)
  obtain rfl : mark = digit := Option.some.inj (first.symm.trans also_first)
  revert digit_is
  simp only [List.mem_cons, List.not_mem_nil, or_false] at mark_mem
  rcases mark_mem with rfl | rfl | rfl <;> decide

theorem itemKind?_eq_some_iff {line : Text} {kind : ListKind} :
    itemKind? line = some kind ↔ kind.starts line = true := by
  refine ⟨starts_of_itemKind?, fun starts => ?_⟩
  cases kind with
  | ordered => simp [itemKind?, starts]
  | bullet => simp [itemKind?, starts, starts_ordered_eq_false starts]

theorem startsItem_eq_isSome (line : Text) : startsItem line = (itemKind? line).isSome := by
  simp only [startsItem, itemKind?]
  cases ListKind.ordered.starts line <;> cases ListKind.bullet.starts line <;> rfl

/-- A line that starts with neither a digit nor a mark starts no item. -/
theorem itemKind?_eq_none_of_head? {line : Text} {c : Char} (first : (trim line).head? = some c)
    (no_digit : isDigit c = false) (no_mark : c ∉ ['*', '-', '+']) : itemKind? line = none := by
  rw [Option.eq_none_iff_forall_ne_some]
  intro kind found
  cases kind with
  | ordered =>
      obtain ⟨digit, also_first, digit_is⟩ := head?_of_starts_ordered (starts_of_itemKind? found)
      obtain rfl : c = digit := Option.some.inj (first.symm.trans also_first)
      simp [no_digit] at digit_is
  | bullet =>
      obtain ⟨mark, mark_mem, also_first⟩ := head?_of_starts_bullet (starts_of_itemKind? found)
      obtain rfl : c = mark := Option.some.inj (first.symm.trans also_first)
      exact no_mark mark_mem

/-- A line that fences code in starts no item. -/
theorem itemKind?_of_isFence {line : Text} (fence : isFence (trim line) = true) :
    itemKind? line = none :=
  itemKind?_eq_none_of_head? (head?_of_isFence fence) (by decide) (by decide)

theorem isFence_eq_false_of_itemKind? {line : Text} {kind : ListKind}
    (found : itemKind? line = some kind) : isFence (trim line) = false := by
  by_contra fence
  have no_item := itemKind?_of_isFence (by simpa using fence)
  simp [no_item] at found

theorem head?_of_header? {line text : Text} (found : header? line = some text) :
    (trim line).head? = some '#' := by
  unfold header? at found
  split at found
  · rename_i start
    rw [start]
    rfl
  · simp at found

/-- A header starts no item. -/
theorem itemKind?_of_header? {line text : Text} (found : header? line = some text) :
    itemKind? line = none :=
  itemKind?_eq_none_of_head? (head?_of_header? found) (by decide) (by decide)

theorem isFence_of_header? {line text : Text} (found : header? line = some text) :
    isFence (trim line) = false := by
  by_contra fence
  have first := head?_of_isFence (by simpa using fence)
  simp [head?_of_header? found] at first

theorem isFence_of_isSeparator {line : Text} (found : isSeparator line = true) :
    isFence (trim line) = false := by
  have whole : trim line = ['-', '-', '-'] := by simpa [isSeparator] using found
  rw [whole]
  rfl

/-- A separator starts no item: its first minus sign has no space behind it. -/
theorem itemKind?_of_isSeparator {line : Text} (found : isSeparator line = true) :
    itemKind? line = none := by
  have whole : trim line = ['-', '-', '-'] := by simpa [isSeparator] using found
  rw [Option.eq_none_iff_forall_ne_some]
  intro kind is_item
  cases kind with
  | ordered =>
      obtain ⟨digit, first, digit_is⟩ := head?_of_starts_ordered (starts_of_itemKind? is_item)
      obtain rfl : '-' = digit := by simpa [whole] using first
      revert digit_is
      decide
  | bullet =>
      obtain ⟨mark, -, rest, start⟩ := exists_mark_of_starts_bullet (starts_of_itemKind? is_item)
      have front : trim line <+: mark :: ' ' :: rest := start ▸ stripEnd_isPrefix isBlank _
      simp [whole] at front

/-! ## Blank lines -/

section

variable {line : Text} (blank : isBlankText line = true)
include blank

theorem isFence_of_isBlankText : isFence (trim line) = false := by
  rw [trim_eq_nil_iff.mpr blank]
  rfl

theorem itemKind?_of_isBlankText : itemKind? line = none := by
  simp [itemKind?, ListKind.starts, orderedItem?, isBulletItem, trim_eq_nil_iff.mpr blank,
    trimStart_eq_nil_iff.mpr blank]

theorem header?_of_isBlankText : header? line = none := by
  rw [header?, trim_eq_nil_iff.mpr blank]

theorem isSeparator_of_isBlankText : isSeparator line = false := by
  rw [isSeparator, trim_eq_nil_iff.mpr blank]
  rfl

end

theorem isBlankText_of_itemKind? {line : Text} {kind : ListKind}
    (found : itemKind? line = some kind) : isBlankText line = false := by
  by_contra blank
  simp [itemKind?_of_isBlankText (by simpa using blank)] at found

/-- What continues an item is neither blank nor an item. -/
theorem continuesItem_iff {line : Text} :
    continuesItem line = true ↔ isBlankText line = false ∧ itemKind? line = none := by
  simp [continuesItem, startsItem_eq_isSome]

/-! ## Lines that start items -/

theorem ItemLines.start?_eq_some {line : Text} {kind : ListKind}
    (found : itemKind? line = some kind) :
    ItemLines.start? line = some ⟨kind, line, [], starts_of_itemKind? found⟩ := by
  unfold ItemLines.start?
  split
  · rename_i other also_found
    obtain rfl := Option.some.inj (found.symm.trans also_found)
    rfl
  · simp_all

theorem ItemLines.start?_eq_none {line : Text} (no_item : itemKind? line = none) :
    ItemLines.start? line = none := by
  unfold ItemLines.start?
  split <;> simp_all

/-- The item that lines denote where the first of them has a number. -/
theorem ItemLines.item_of_orderedItem? {first digits text : Text} (continuation : List Text)
    (starts : ListKind.ordered.starts first = true)
    (parts : orderedItem? first = some (digits, text)) :
    ItemLines.item ⟨.ordered, first, continuation, starts⟩ =
      (Numeral.read digits).map fun (number : Nat) =>
        ⟨.number number, Run.ofLine text, continuation.map fun line => Run.ofLine (trim line)⟩ := by
  simp [ItemLines.item, ItemLines.continuationRuns, parts]

end Reply
end ChatReply
