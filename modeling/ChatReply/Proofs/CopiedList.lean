import Mathlib.Data.Nat.Digits.Defs
import ChatReply.Proofs.Concatenation
import ChatReply.Proofs.DelimitedRun
import ChatReply.Proofs.OpeningMark
import ChatReply.Proofs.PrintedJson
import ChatReply.Render.Page

/-!
# Lists that are read again

The plain text of a list has a line for each item and one for each line that continues it. Read
again, every line has the form of what it was written for, so the list that is found is the same,
whatever the kinds of its items and with any of the marks of an unordered list.
-/

namespace ChatReply

/-! ## Blanks in front -/

theorem Trimmed.trimStart_eq {text : Text} (trimmed : Trimmed text) : trimStart text = text := by
  cases text with
  | nil => rfl
  | cons c text => simp [trimStart, stripStart, trimmed c (.inl rfl)]

theorem Trimmed.append {front text : Text} (front_solid : ∀ c ∈ front.head?, isBlank c = false)
    (front_ne : front ≠ []) (text_ne : text ≠ []) (trimmed : Trimmed text) :
    Trimmed (front ++ text) := by
  rintro c (first | last)
  · rw [List.head?_append_of_ne_nil _ front_ne] at first
    exact front_solid c first
  · rw [List.getLast?_append_of_ne_nil _ text_ne] at last
    exact trimmed c (.inr last)

theorem trimStart_append_of_isBlankText {front : Text} (blank : isBlankText front = true)
    (text : Text) : trimStart (front ++ text) = trimStart text :=
  List.dropWhile_append_of_pos (List.all_eq_true.mp blank)

theorem trim_append_left {front : Text} (blank : isBlankText front = true) (text : Text) :
    trim (front ++ text) = trim text := by
  change stripEnd isBlank (trimStart (front ++ text)) = trim text
  rw [trimStart_append_of_isBlankText blank]
  rfl

/-- A stretch that ends where the next member fails the test is taken as a whole. -/
theorem takeWhile_append_eq {α : Type} {test : α → Bool} {front rest : List α}
    (inside : ∀ value ∈ front, test value = true)
    (stops : ∀ value ∈ rest.head?, test value = false) :
    (front ++ rest).takeWhile test = front ∧ (front ++ rest).dropWhile test = rest := by
  rw [List.takeWhile_append_of_pos inside, List.dropWhile_append_of_pos inside]
  cases rest with
  | nil => simp
  | cons value rest => simp [stops value rfl]

theorem isBlankText_indent (width : Nat) : isBlankText (List.replicate width ' ') = true := by
  have space : isBlank ' ' = true := by decide
  simp [isBlankText, space]

/-! ## Numbers -/

namespace Numeral

theorem ofDigits_append (front : Text) (digit : Char) :
    ofDigits (front ++ [digit]) = 10 * ofDigits front + digitValue digit := by
  rw [ofDigits, List.foldl_append]
  rfl

theorem digitValue_digitChar {value : Nat} (single : value < 10) :
    digitValue value.digitChar = value := by
  have each : ∀ value < 10, digitValue (Nat.digitChar value) = value := by decide
  exact each value single

theorem ofDigits_toDigits (value : Nat) : ofDigits (Nat.toDigits 10 value) = value := by
  induction value using Nat.strongRecOn with
  | ind value ih =>
      by_cases single : value < 10
      · rw [Nat.toDigits_of_lt_base single, ← List.nil_append [_], ofDigits_append,
          digitValue_digitChar single]
        exact Nat.zero_add value
      · rw [Nat.toDigits_of_base_le (by decide) (Nat.le_of_not_lt single), ofDigits_append,
          ih (value / 10) (by omega), digitValue_digitChar (Nat.mod_lt value (by decide))]
        exact Nat.div_add_mod value 10

/-- A number that is short enough is read from its digits. -/
theorem read_toDigits {value : Nat} (short : value < 10 ^ digitLimit) :
    read (Nat.toDigits 10 value) = .ok value := by
  have fits : (Nat.toDigits 10 value).length ≤ digitLimit :=
    Nat.toDigits_length 10 value digitLimit (by decide) short
  rw [read, if_pos fits, ofDigits_toDigits]

end Numeral

namespace Reply

/-! ## Lines that start an item -/

theorem holds_eq_true_iff {part text : Text} : holds part text = true ↔ part <:+: text := by
  induction text with
  | nil => simp [holds]
  | cons c text ih =>
      rw [holds, Bool.or_eq_true, List.isPrefixOf_iff_prefix, ih, List.infix_cons_iff]

/-- A line without two asterisks in a row is an item if it starts with a mark and a space. -/
theorem starts_bullet_of_trimStart {line rest : Text} {mark : Char}
    (mark_mem : mark ∈ ['*', '-', '+']) (start : trimStart line = mark :: ' ' :: rest)
    (no_bold : ¬Delimiter.bold.side <:+: line) : ListKind.bullet.starts line = true := by
  have unheld : holds Delimiter.bold.side line = false := by
    rw [Bool.eq_false_iff, Ne, holds_eq_true_iff]
    exact no_bold
  simp only [List.mem_cons, List.not_mem_nil, or_false] at mark_mem
  rcases mark_mem with rfl | rfl | rfl <;> simp [ListKind.starts, isBulletItem, start, unheld]

theorem orderedItem?_append {digits text : Text} (digits_ne : digits ≠ [])
    (numeral : ∀ c ∈ digits, isDigit c = true) (text_ne : text ≠ []) (trimmed : Trimmed text)
    (single : '\n' ∉ text) : orderedItem? (digits ++ '.' :: ' ' :: text) = some (digits, text) := by
  have trim_eq : trim (digits ++ '.' :: ' ' :: text) = digits ++ '.' :: ' ' :: text := by
    rw [List.append_cons, List.append_cons]
    refine Trimmed.trim_eq (.append ?_ (by simp) text_ne trimmed)
    intro c c_mem
    rw [List.append_assoc, List.head?_append_of_ne_nil _ digits_ne] at c_mem
    exact isBlank_eq_false_of_isWord (isWord_of_isDigit (numeral c (List.mem_of_head? c_mem)))
  have taken : (digits ++ '.' :: ' ' :: text).takeWhile isDigit = digits := by
    rw [List.takeWhile_append_of_pos numeral, List.takeWhile_cons_of_neg (by decide),
      List.append_nil]
  have dropped : (digits ++ '.' :: ' ' :: text).dropWhile isDigit = '.' :: ' ' :: text := by
    rw [List.dropWhile_append_of_pos numeral, List.dropWhile_cons_of_neg (by decide)]
  have start : trimStart (' ' :: text) = text := by
    rw [← List.singleton_append, trimStart_append_of_isBlankText (by decide), trimmed.trimStart_eq]
  have spaced : spacedRest? (' ' :: text) = some text := by
    simp [spacedRest?, start, text_ne, single]
  simp [orderedItem?, trim_eq, taken, dropped, digits_ne, spaced]

/-! ## Texts of list lines -/

/-- The text is read as one plain run: it is not empty, no blank stands at either end, and there is
no line break, no backtick and no two asterisks in a row in it. -/
structure IsListText (text : Text) : Prop where
  filled : text ≠ []
  trimmed : Trimmed text
  single : IsOneLine text
  no_code : Delimiter.code.mark ∉ text
  no_bold : ¬Delimiter.bold.side <:+: text

theorem isListText_iff {text : Text} :
    IsListText text ↔ text ≠ [] ∧ trim text = text ∧ text.all (!isBreak ·) = true ∧
      Delimiter.code.mark ∉ text ∧ ¬Delimiter.bold.side <:+: text := by
  have single_iff : text.all (!isBreak ·) = true ↔ IsOneLine text := by simp [IsOneLine]
  rw [single_iff]
  constructor
  · rintro ⟨filled, trimmed, single, no_code, no_bold⟩
    exact ⟨filled, trimmed.trim_eq, single, no_code, no_bold⟩
  · rintro ⟨filled, trim_eq, single, no_code, no_bold⟩
    exact ⟨filled, trim_eq ▸ trimmed_trim text, single, no_code, no_bold⟩

instance : DecidablePred IsListText := fun _ => decidable_of_iff _ isListText_iff.symm

section

variable {text : Text} (plain : IsListText text)
include plain

theorem IsListText.ofLine_eq : Run.ofLine text = [⟨text, .plain⟩] := by
  rw [Run.ofLine_of_not_mem plain.no_code, Run.ofProse_of_not_infix plain.no_bold,
    Run.ofPlain_eq plain.filled]

/-- Between a mark and the text no two asterisks come together. -/
theorem IsListText.not_infix_mark (mark : Char) :
    ¬Delimiter.bold.side <:+: mark :: ' ' :: text := by
  have side_eq : Delimiter.bold.side = ['*', '*'] := rfl
  have no_bold := plain.no_bold
  rw [side_eq] at no_bold ⊢
  simp [List.infix_cons_iff, List.cons_prefix_cons, no_bold]

end

/-- The text is a list text that starts no item. -/
def ContinuesList (text : Text) : Prop :=
  IsListText text ∧ startsItem text = false

instance : DecidablePred ContinuesList := fun _ => inferInstanceAs (Decidable (_ ∧ _))

/-- An indented line goes on with an item if it starts none without the indent. -/
theorem ContinuesList.continuesItem_indent {text : Text} (continues : ContinuesList text)
    (width : Nat) : continuesItem (List.replicate width ' ' ++ text) = true := by
  obtain ⟨plain, no_item⟩ := continues
  have blank := isBlankText_indent width
  have start_eq : trimStart (List.replicate width ' ' ++ text) = trimStart text :=
    trimStart_append_of_isBlankText blank text
  have trim_eq : trim (List.replicate width ' ' ++ text) = trim text := trim_append_left blank text
  have filled : isBlankText (List.replicate width ' ' ++ text) = false := by
    rw [Bool.eq_false_iff, Ne, ← trim_eq_nil_iff, trim_eq, plain.trimmed.trim_eq]
    exact plain.filled
  rw [startsItem, Bool.or_eq_false_iff] at no_item
  have no_ordered : ListKind.ordered.starts (List.replicate width ' ' ++ text) = false := by
    rw [← no_item.1]
    simp only [ListKind.starts, orderedItem?, trim_eq]
  have no_bullet : ListKind.bullet.starts (List.replicate width ' ' ++ text) = false := by
    rw [Bool.eq_false_iff]
    intro starts
    obtain ⟨mark, mark_mem, rest, start⟩ := exists_mark_of_starts_bullet starts
    have text_starts : ListKind.bullet.starts text = true :=
      starts_bullet_of_trimStart mark_mem (start_eq.symm.trans start) plain.no_bold
    simp [no_item.2] at text_starts
  simp [continuesItem, filled, startsItem, no_ordered, no_bullet]

/-! ## Items -/

/-- The item is written so that it can be told apart again: a number that is short enough and a
plain text, or a bullet and a plain text or none; and plain texts that start no items behind it. -/
inductive IsListItem : Item → Prop
  | number {value : Int} {text : Text} {further : List Text} (positive : 0 ≤ value)
      (short : value < 10 ^ Numeral.digitLimit) (plain : IsListText text)
      (continues : ∀ line ∈ further, ContinuesList line) :
      IsListItem ⟨.number value, [⟨text, .plain⟩], further.map fun line => [⟨line, .plain⟩]⟩
  | bullet {text : Text} {further : List Text} (plain : IsListText text)
      (continues : ∀ line ∈ further, ContinuesList line) :
      IsListItem ⟨.bullet, [⟨text, .plain⟩], further.map fun line => [⟨line, .plain⟩]⟩
  | lone {further : List Text} (continues : ∀ line ∈ further, ContinuesList line) :
      IsListItem ⟨.bullet, [], further.map fun line => [⟨line, .plain⟩]⟩

/-- The lines are those of the item as plain text, and they are read as the item. -/
structure ItemLines.Writes (lines : ItemLines) (layout : Layout) (item : Item) : Prop where
  written : Render.item Painter.plain layout item = lines.first :: lines.continuation
  continues : ∀ line ∈ lines.continuation, continuesItem line = true
  single : ∀ line ∈ lines.first :: lines.continuation, IsOneLine line
  read : lines.item = .ok item

section

variable {further : List Text} (continues : ∀ line ∈ further, ContinuesList line) (width : Nat)
include continues

theorem continuesItem_of_mem_indent :
    ∀ line ∈ further.map (List.replicate width ' ' ++ ·), continuesItem line = true := by
  rw [List.forall_mem_map]
  exact fun line line_mem => (continues line line_mem).continuesItem_indent width

theorem isOneLine_of_mem_indent :
    ∀ line ∈ further.map (List.replicate width ' ' ++ ·), IsOneLine line := by
  rw [List.forall_mem_map]
  intro line line_mem c c_mem
  rcases List.mem_append.mp c_mem with indent | inside
  · rw [(List.mem_replicate.mp indent).2]
    decide
  · exact (continues line line_mem).1.single c inside

theorem ofLine_trim_indent :
    (further.map (List.replicate width ' ' ++ ·)).map (fun line => Run.ofLine (trim line)) =
      further.map fun line => [⟨line, .plain⟩] := by
  rw [List.map_map]
  refine List.map_congr_left fun line line_mem => ?_
  have plain := (continues line line_mem).1
  change Run.ofLine (trim (List.replicate width ' ' ++ line)) = _
  rw [trim_append_left (isBlankText_indent width), plain.trimmed.trim_eq, plain.ofLine_eq]

end

/-- The rendered lines of an item of plain texts. -/
theorem item_plain (layout : Layout) (marker : Marker) (runs : List Run) (further : List Text) :
    Render.item Painter.plain layout
        ⟨marker, runs, further.map fun line => [⟨line, .plain⟩]⟩ =
      (Render.markerText layout marker ++ Run.plainText runs) ::
        further.map (List.replicate (Render.markerText layout marker).length ' ' ++ ·) := by
  simp [Render.item, Painter.runs, Painter.plain, Run.plainText, Function.comp_def]

section

variable {further : List Text} (continues : ∀ line ∈ further, ContinuesList line)
include continues

theorem exists_writes_number (layout : Layout) {value : Nat}
    (short : value < 10 ^ Numeral.digitLimit) {text : Text} (plain : IsListText text) :
    ∃ lines : ItemLines, lines.Writes layout
      ⟨.number value, [⟨text, .plain⟩], further.map fun line => [⟨line, .plain⟩]⟩ := by
  have digit : ∀ c ∈ Nat.toDigits 10 value, c.isDigit = true :=
    fun c c_mem => Json.isDigit_of_mem_toDigits c_mem
  have parts := orderedItem?_append Nat.toDigits_ne_nil
    (fun c c_mem => Code.isDigit_of_isDigit (digit c c_mem)) plain.filled plain.trimmed
    (newline_not_mem plain.single)
  have first_eq : Render.markerText layout (.number value) ++ Run.plainText [⟨text, .plain⟩] =
      Nat.toDigits 10 value ++ '.' :: ' ' :: text := by
    simp [Render.markerText, Json.printInteger, Nat.toList_repr, Run.plainText]
  have first_single : IsOneLine (Nat.toDigits 10 value ++ '.' :: ' ' :: text) := by
    intro c c_mem
    simp only [List.mem_append, List.mem_cons] at c_mem
    rcases c_mem with in_number | rfl | rfl | in_text
    · have c_digit := digit c in_number
      apply isBreak_eq_false <;> rintro rfl <;> exact absurd c_digit (by decide)
    · decide
    · decide
    · exact plain.single c in_text
  rw [← first_eq] at parts first_single
  have starts : ListKind.ordered.starts
      (Render.markerText layout (.number value) ++ Run.plainText [⟨text, .plain⟩]) = true := by
    rw [ListKind.starts, parts]
    rfl
  refine ⟨⟨.ordered, _, _, starts⟩, item_plain _ _ _ _, continuesItem_of_mem_indent continues _,
    List.forall_mem_cons.mpr ⟨first_single, isOneLine_of_mem_indent continues _⟩, ?_⟩
  rw [ItemLines.item_of_orderedItem? _ starts parts, Numeral.read_toDigits short,
    ofLine_trim_indent continues, plain.ofLine_eq]
  rfl

theorem exists_writes_bullet {mark : Char} (mark_mem : mark ∈ ['*', '-', '+']) (padding : Int)
    {runs : List Run} (read : Run.ofLine (trim (Run.plainText runs)) = runs)
    (single : IsOneLine (Run.plainText runs))
    (no_bold : ¬Delimiter.bold.side <:+: mark :: ' ' :: Run.plainText runs) :
    ∃ lines : ItemLines, lines.Writes ⟨[mark], padding⟩
      ⟨.bullet, runs, further.map fun line => [⟨line, .plain⟩]⟩ := by
  have solid : isBlank mark = false ∧ isBreak mark = false := by
    obtain rfl | rfl | rfl : mark = '*' ∨ mark = '-' ∨ mark = '+' := by simpa using mark_mem
    all_goals decide
  have start : trimStart (mark :: ' ' :: Run.plainText runs) =
      mark :: ' ' :: Run.plainText runs := by
    simp [trimStart, stripStart, solid.1]
  have starts : ListKind.bullet.starts
      (Render.markerText ⟨[mark], padding⟩ .bullet ++ Run.plainText runs) = true :=
    starts_bullet_of_trimStart mark_mem start no_bold
  refine ⟨⟨.bullet, _, _, starts⟩, item_plain _ _ _ _, continuesItem_of_mem_indent continues _,
    List.forall_mem_cons.mpr ⟨?_, isOneLine_of_mem_indent continues _⟩, ?_⟩
  · exact List.forall_mem_cons.mpr ⟨solid.2, List.forall_mem_cons.mpr ⟨by decide, single⟩⟩
  · have text_eq : bulletText (Render.markerText ⟨[mark], padding⟩ .bullet ++ Run.plainText runs) =
        trim (Run.plainText runs) := bulletText_eq start
    simp only [ItemLines.item, ItemLines.continuationRuns, ofLine_trim_indent continues, text_eq,
      read]

end

theorem exists_writes {mark : Char} (mark_mem : mark ∈ ['*', '-', '+']) (padding : Int)
    {item : Item} (listed : IsListItem item) :
    ∃ lines : ItemLines, lines.Writes ⟨[mark], padding⟩ item := by
  cases listed with
  | @number value text further positive short plain continues =>
      obtain ⟨value, rfl⟩ := Int.eq_ofNat_of_zero_le positive
      exact exists_writes_number continues _ (by exact_mod_cast short) plain
  | @bullet text further plain continues =>
      have text_eq : Run.plainText [⟨text, .plain⟩] = text := List.append_nil text
      apply exists_writes_bullet continues mark_mem padding
      · rw [text_eq, plain.trimmed.trim_eq, plain.ofLine_eq]
      · rw [text_eq]
        exact plain.single
      · rw [text_eq]
        exact plain.not_infix_mark mark
  | @lone further continues =>
      have apart : ¬Delimiter.bold.side <:+: [mark, ' '] := by
        obtain rfl | rfl | rfl : mark = '*' ∨ mark = '-' ∨ mark = '+' := by simpa using mark_mem
        all_goals decide
      exact exists_writes_bullet continues mark_mem padding Run.ofLine_nil (List.forall_mem_nil _)
        apart

/-! ## Lists -/

/-- The lines of items that stand one after the other. -/
theorem documentLines_list (layout : Layout) (items : List Item) :
    Render.documentLines Painter.plain false layout (items.map .item) =
      items.flatMap (Render.item Painter.plain layout) := by
  induction items with
  | nil => rfl
  | cons item items ih =>
      cases items with
      | nil => exact (List.append_nil _).symm
      | cons next items =>
          have unspaced : Render.spacing (.item item) (.item next) = [] := rfl
          rw [List.flatMap_cons, ← ih, List.map_cons, List.map_cons, Render.documentLines, unspaced,
            List.append_nil]
          rfl

section

variable {layout : Layout} {items : List Item}
variable (writable : ∀ item ∈ items, ∃ lines : ItemLines, lines.Writes layout item)
include writable

/-- What comes behind an item starts another one. -/
theorem continuesItem_of_head?_list :
    ∀ line ∈ (items.flatMap (Render.item Painter.plain layout)).head?,
      continuesItem line = false := by
  cases items with
  | nil => simp
  | cons item items =>
      obtain ⟨lines, writes⟩ := writable item List.mem_cons_self
      intro line line_mem
      rw [List.flatMap_cons, writes.written] at line_mem
      obtain rfl : lines.first = line := Option.some.inj line_mem
      rw [Bool.eq_false_iff]
      intro continues
      have no_item := (continuesItem_iff.mp continues).2
      simp [itemKind?_eq_some_iff.mpr lines.starts] at no_item

theorem isOneLine_of_mem_list :
    ∀ line ∈ items.flatMap (Render.item Painter.plain layout), IsOneLine line := by
  rw [List.forall_mem_flatMap]
  intro item item_mem
  obtain ⟨lines, writes⟩ := writable item item_mem
  rw [writes.written]
  exact writes.single

/-- Lines that write items are read as the items. -/
theorem endingAfter_list (framed : Bool) (blocks : List Block) :
    (Stream.mk blocks .idle).endingAfter framed
        (items.flatMap (Render.item Painter.plain layout)) =
      .ok ⟨false, blocks ++ items.map .item⟩ := by
  induction items generalizing blocks with
  | nil =>
      rw [List.flatMap_nil, Stream.endingAfter_nil, Stream.ending, Stream.finish_idle,
        List.map_nil, List.append_nil]
      rfl
  | cons item items ih =>
      obtain ⟨⟨lines, writes⟩, later⟩ := List.forall_mem_cons.mp writable
      obtain ⟨taken, left⟩ :=
        takeWhile_append_eq writes.continues (continuesItem_of_head?_list later)
      have found := itemKind?_eq_some_iff.mpr lines.starts
      have whole : (ItemLines.mk lines.kind lines.first [] lines.starts).extend lines.continuation =
          lines := rfl
      rw [List.flatMap_cons, writes.written, List.cons_append, Stream.endingAfter_cons,
        Stream.feed_idle_of_itemKind? blocks found]
      simp only [Except.bind]
      rw [Stream.endingAfter_item, taken, left, whole, writes.read]
      simp only [Except.bind]
      rw [ih later, List.append_assoc, List.map_cons, List.singleton_append]

end

/-- A list of plain texts is found again in its plain text. -/
theorem parse_plain_list (framed : Bool) (padding : Int) {mark : Char}
    (mark_mem : mark ∈ ['*', '-', '+']) {items : List Item}
    (listed : ∀ item ∈ items, IsListItem item) :
    parse framed (Document.plain ⟨[mark], padding⟩ (items.map .item)) = .ok (items.map .item) := by
  cases items with
  | nil => rfl
  | cons item items =>
      have writable := fun item item_mem => exists_writes mark_mem padding (listed item item_mem)
      obtain ⟨lines, writes⟩ := writable item List.mem_cons_self
      have ends := endingAfter_list writable framed []
      rw [Document.plain, Render.document, documentLines_list, parse_eq_map_endingAfter,
        lines_joinLines _ (isOneLine_of_mem_list writable), ends]
      · rfl
      · rw [List.flatMap_cons, writes.written]
        exact List.cons_ne_nil _ _

/-- Items whose texts look like other lines. -/
def misleadingItems : List Item :=
  [⟨.number 7, [⟨"*字* 1. a".toList, .plain⟩],
      ["-".toList, "### b".toList].map fun line => [⟨line, .plain⟩]⟩,
    ⟨.bullet, [], ["---".toList].map fun line => [⟨line, .plain⟩]⟩,
    ⟨.bullet, [⟨"* c".toList, .plain⟩], []⟩,
    ⟨.number 0, [⟨"- d".toList, .plain⟩], []⟩]

theorem parse_plain_list_misleading :
    '*' ∈ ['*', '-', '+'] ∧ (∀ item ∈ misleadingItems, IsListItem item) ∧
      Document.plain ⟨['*'], 1⟩ (misleadingItems.map .item) =
        "7. *字* 1. a\n   -\n   ### b\n* \n  ---\n* * c\n0. - d".toList ∧
      parse true (Document.plain ⟨['*'], 1⟩ (misleadingItems.map .item)) =
        .ok (misleadingItems.map .item) := by
  have short {value : Nat} (small : value < 10 ^ 1) : (value : Int) < 10 ^ Numeral.digitLimit := by
    exact_mod_cast small.trans_le (Nat.pow_le_pow_right (by decide) (by decide))
  have listed : ∀ item ∈ misleadingItems, IsListItem item := by
    rw [misleadingItems, List.forall_mem_cons, List.forall_mem_cons, List.forall_mem_cons,
      List.forall_mem_singleton]
    refine ⟨.number (by decide) (short (by decide)) (by decide +kernel) (by decide +kernel),
      .lone (by decide +kernel),
      @IsListItem.bullet _ [] (by decide +kernel) (List.forall_mem_nil _),
      @IsListItem.number _ _ [] (by decide) (short (by decide)) (by decide +kernel)
        (List.forall_mem_nil _)⟩
  exact ⟨by decide, listed, by decide +kernel, parse_plain_list true 1 (by decide) listed⟩

end Reply
end ChatReply
