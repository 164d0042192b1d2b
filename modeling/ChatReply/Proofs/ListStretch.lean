import Mathlib.Data.List.TakeDrop
import Mathlib.Data.List.Forall2
import ChatReply.Proofs.Stream

/-!
# Stretches of list lines

Taking a list off the front of some lines takes as long a stretch as there is. Each line of it is an
item of the list, continues one, or is the blank line before one; and the items are those of the
stretch, each with all the lines that continue it.
-/

namespace ChatReply
namespace Reply

/-! ## Lines of a list -/

/-- What a line is to a list. -/
inductive LineRole where
  /-- It starts an item of the list. -/
  | item
  /-- It continues an item. -/
  | continuation
  /-- It is the blank line between two items. -/
  | gap
deriving DecidableEq, Repr

/-- The line has the role in a list of the given kind. The line after it may be missing. -/
def LineRole.Fits (kind : ListKind) (line : Text) (after : Option Text) : LineRole → Prop
  | item => kind.starts line = true
  | continuation => isBlankText line = false ∧ startsItem line = false
  | gap => isBlankText line = true ∧ ∃ next ∈ after, kind.starts next = true

section

variable {kind : ListKind} {line : Text}

theorem startsItem_of_starts (starts : kind.starts line = true) : startsItem line = true := by
  rw [startsItem_eq_isSome, itemKind?_eq_some_iff.mpr starts]
  rfl

theorem isBlankText_of_starts (starts : kind.starts line = true) : isBlankText line = false :=
  isBlankText_of_itemKind? (itemKind?_eq_some_iff.mpr starts)

/-- No line has two roles. -/
theorem LineRole.Fits.existsUnique {after : Option Text} {role : LineRole}
    (fits : role.Fits kind line after) : ∃! role : LineRole, role.Fits kind line after := by
  have role_eq (other : LineRole) (other_fits : other.Fits kind line after) :
      other = if isBlankText line then gap else if startsItem line then item else continuation := by
    cases other with
    | item => simp [isBlankText_of_starts other_fits, startsItem_of_starts other_fits]
    | continuation => simp [other_fits.1, other_fits.2]
    | gap => simp [other_fits.1]
  exact ⟨role, fits, fun other other_fits =>
    (role_eq other other_fits).trans (role_eq role fits).symm⟩

end

/-- Every line of a stretch has one role in the list. `left` holds the lines behind it. -/
def EachFits (kind : ListKind) (left : List Text) : List Text → Prop
  | [] => True
  | line :: rest =>
    (∃! role : LineRole, role.Fits kind line (rest ++ left).head?) ∧ EachFits kind left rest

/-- The items that start in some lines, each with the lines up to the next blank line, item or
end. -/
def itemsIn (kind : ListKind) : List Text → List ItemLines
  | [] => []
  | line :: rest =>
    if starts : kind.starts line then
      ⟨kind, line, rest.takeWhile continuesItem, starts⟩ :: itemsIn kind rest
    else itemsIn kind rest

/-- A list that has been met ends before the lines. -/
def EndsBefore (kind : ListKind) (left : List Text) : Prop :=
  left = [] ∨ (∃ line ∈ left.head?, ∃ other, other ≠ kind ∧ other.starts line = true) ∨
    ∃ line ∈ left.head?, isBlankText line = true ∧
      ∀ next ∈ left.tail.head?, kind.starts next = false

/-- The stretch of lines that a list takes, its items, and the lines that are left. -/
inductive Stretch (kind : ListKind) : List Text → List ItemLines → List Text → Prop
  /-- The next line is neither an item of the list nor a blank line before one. -/
  | stop {left : List Text} (no_item : ∀ line ∈ left.head?, kind.starts line = false)
      (no_gap : ∀ line ∈ left.head?, isBlankText line = true →
        ∀ next ∈ left.tail.head?, kind.starts next = false) :
      Stretch kind [] [] left
  /-- An item with all the lines that continue it. -/
  | item {line : Text} {continuation taken left : List Text} {items : List ItemLines}
      (starts : kind.starts line = true)
      (continues : ∀ further ∈ continuation, continuesItem further = true)
      (complete : ∀ next ∈ (taken ++ left).head?, continuesItem next = false)
      (later : Stretch kind taken items left) :
      Stretch kind (line :: (continuation ++ taken)) (⟨kind, line, continuation, starts⟩ :: items)
        left
  /-- A blank line and an item after it. -/
  | gap {line : Text} {taken left : List Text} {items : List ItemLines}
      (blank : isBlankText line = true)
      (before : ∃ next ∈ (taken ++ left).head?, kind.starts next = true)
      (later : Stretch kind taken items left) : Stretch kind (line :: taken) items left

theorem exists_stretch (kind : ListKind) (lines : List Text) :
    ∃ taken, taken ++ (takeItems kind lines).2 = lines ∧
      Stretch kind taken (takeItems kind lines).1 (takeItems kind lines).2 := by
  fun_induction takeItems kind lines with
  | case1 => exact ⟨[], rfl, .stop (by simp) (by simp)⟩
  | case2 line rest starts items remaining step ih =>
      rw [step] at ih
      obtain ⟨taken, whole, stretch⟩ := ih
      refine ⟨line :: (rest.takeWhile continuesItem ++ taken), ?_, .item starts ?_ ?_ stretch⟩
      · simp only [List.cons_append, List.append_assoc, whole, List.takeWhile_append_dropWhile]
      · exact fun further => List.mem_takeWhile_imp
      · intro next next_eq
        have stops := List.head?_dropWhile_not continuesItem rest
        rw [whole, Option.mem_def] at next_eq
        simpa [next_eq] using stops
  | case3 line rest no_item gap ih =>
      obtain ⟨taken, whole, stretch⟩ := ih
      obtain ⟨blank, before⟩ := Bool.and_eq_true_iff.mp gap
      refine ⟨line :: taken, by rw [List.cons_append, whole], .gap blank ?_ stretch⟩
      rw [whole]
      exact (Option.any_eq_true _ _).mp before
  | case4 line rest no_item no_gap =>
      refine ⟨[], rfl, .stop ?_ ?_⟩
      · simpa using no_item
      · intro first first_eq blank next next_eq
        obtain rfl : line = first := Option.some.inj first_eq
        have next_eq : rest.head? = some next := next_eq
        simpa [blank, next_eq] using no_gap

namespace Stretch

variable {kind : ListKind} {taken left : List Text} {items : List ItemLines}

theorem eachFits_append {continuation : List Text}
    (continues : ∀ further ∈ continuation, continuesItem further = true)
    (fits : EachFits kind left taken) : EachFits kind left (continuation ++ taken) := by
  induction continuation with
  | nil => exact fits
  | cons further continuation ih =>
      obtain ⟨first, later⟩ := List.forall_mem_cons.mp continues
      have role :
          LineRole.continuation.Fits kind further (continuation ++ taken ++ left).head? := by
        simpa [LineRole.Fits, continuesItem] using first
      exact ⟨role.existsUnique, ih later⟩

theorem eachFits (stretch : Stretch kind taken items left) : EachFits kind left taken := by
  induction stretch with
  | stop => trivial
  | @item line _ _ _ _ starts continues complete later ih =>
      have role (after : Option Text) : LineRole.item.Fits kind line after := starts
      exact ⟨(role _).existsUnique, eachFits_append continues ih⟩
  | @gap line taken left _ blank before later ih =>
      have role : LineRole.gap.Fits kind line (taken ++ left).head? := ⟨blank, before⟩
      exact ⟨role.existsUnique, ih⟩

theorem starts_of_continuesItem {line : Text} (continues : continuesItem line = true)
    (kind : ListKind) : kind.starts line = false := by
  by_contra starts
  have no_item := (continuesItem_iff.mp continues).2
  simp [itemKind?_eq_some_iff.mpr (by simpa using starts)] at no_item

theorem itemsIn_append {continuation : List Text}
    (continues : ∀ further ∈ continuation, continuesItem further = true) (rest : List Text) :
    itemsIn kind (continuation ++ rest) = itemsIn kind rest := by
  induction continuation with
  | nil => rfl
  | cons further continuation ih =>
      obtain ⟨first, later⟩ := List.forall_mem_cons.mp continues
      simp [itemsIn, starts_of_continuesItem first, ih later]

theorem items_eq (stretch : Stretch kind taken items left) : items = itemsIn kind taken := by
  induction stretch with
  | stop => rfl
  | @item line continuation taken left items starts continues complete later ih =>
      have stops : taken.takeWhile continuesItem = [] := by
        cases taken with
        | nil => rfl
        | cons next taken => simp [complete next rfl]
      have all : (continuation ++ taken).takeWhile continuesItem = continuation := by
        rw [List.takeWhile_append_of_pos continues, stops, List.append_nil]
      rw [itemsIn, dif_pos starts, all, itemsIn_append continues, ih]
  | @gap line taken left items blank before later ih =>
      have no_item : kind.starts line = false := by
        by_contra starts
        simp [isBlankText_of_starts (by simpa using starts)] at blank
      simp [itemsIn, no_item, ih]

theorem kind_of_mem (stretch : Stretch kind taken items left) :
    ∀ lines ∈ items, lines.kind = kind := by
  induction stretch with
  | stop => exact List.forall_mem_nil _
  | item starts continues complete later ih => exact List.forall_mem_cons.mpr ⟨rfl, ih⟩
  | gap blank before later ih => exact ih

/-- A list that has been met ends only where it must. -/
theorem endsBefore (stretch : Stretch kind taken items left)
    (met : taken ≠ [] ∨ ∀ next ∈ left.head?, continuesItem next = false) :
    EndsBefore kind left := by
  induction stretch with
  | @stop left no_item no_gap =>
      have complete := met.resolve_left (fun met => met rfl)
      cases left with
      | nil => exact .inl rfl
      | cons line left =>
          cases blank : isBlankText line with
          | true => exact .inr (.inr ⟨line, rfl, blank, no_gap line rfl blank⟩)
          | false =>
              have not_continues := complete line rfl
              cases found : itemKind? line with
              | none => simp [continuesItem_iff.mpr ⟨blank, found⟩] at not_continues
              | some other =>
                  have starts := starts_of_itemKind? found
                  refine .inr (.inl ⟨line, rfl, other, ?_, starts⟩)
                  rintro rfl
                  simp [no_item line rfl] at starts
  | @item line continuation taken left items starts continues complete later ih =>
      apply ih
      cases taken with
      | nil => exact .inr complete
      | cons next taken => exact .inl (List.cons_ne_nil _ _)
  | @gap line taken left items blank before later ih =>
      cases later with
      | stop no_item no_gap =>
          obtain ⟨next, next_eq, starts⟩ := before
          simp [no_item next next_eq] at starts
      | item => exact ih (.inl (List.cons_ne_nil _ _))
      | gap => exact ih (.inl (List.cons_ne_nil _ _))

end Stretch

/-! ## Blocks of items -/

/-- What stands behind the marker of an item of the given kind, without the blanks around it. -/
inductive ItemForm (line : Text) : ListKind → Marker → Text → Prop
  | number {digits gap text : Text} (written : trim line = digits ++ '.' :: (gap ++ text))
      (digits_ne : digits ≠ []) (numeral : ∀ c ∈ digits, isDigit c = true) (gap_ne : gap ≠ [])
      (blank : isBlankText gap = true) (text_ne : text ≠ []) (trimmed : Trimmed text) :
      ItemForm line .ordered (.number (Numeral.ofDigits digits)) text
  | bullet {mark : Char} {rest : Text} (mark_mem : mark ∈ ['*', '-', '+'])
      (written : trimStart line = mark :: ' ' :: rest) :
      ItemForm line .bullet .bullet (trim rest)

/-- The block shows the lines of an item: the text behind its marker and the trimmed lines that
continue it, all with their styles. -/
def ItemLines.Shows (lines : ItemLines) (block : Block) : Prop :=
  ∃ marker text, ItemForm lines.first lines.kind marker text ∧
    block = .item ⟨marker, Run.ofLine text,
      lines.continuation.map fun line => Run.ofLine (trim line)⟩

theorem ItemLines.shows_item {lines : ItemLines} {item : Item} (is_item : lines.item = .ok item) :
    lines.Shows (.item item) := by
  obtain ⟨kind, first, continuation, starts⟩ := lines
  cases kind with
  | ordered =>
      obtain ⟨⟨digits, text⟩, parts⟩ := Option.isSome_iff_exists.mp starts
      obtain ⟨text_ne, trimmed, -⟩ := trimmed_of_orderedItem? parts
      obtain ⟨rest, written, spaced, digits_ne, numeral⟩ := exists_rest_of_orderedItem? parts
      obtain ⟨gap, rfl, gap_ne, blank⟩ := exists_gap_of_spacedRest? spaced
      rw [ItemLines.item_of_orderedItem? continuation starts parts, Numeral.read] at is_item
      split at is_item
      · obtain rfl := Except.ok.inj is_item
        exact ⟨_, text, .number written digits_ne numeral gap_ne blank text_ne trimmed, rfl⟩
      · simp [Except.map] at is_item
  | bullet =>
      simp only [ItemLines.item, Except.ok.injEq] at is_item
      obtain ⟨mark, mark_mem, rest, written⟩ := exists_mark_of_starts_bullet starts
      refine ⟨.bullet, trim rest, .bullet mark_mem written, ?_⟩
      rw [← is_item, bulletText_eq written]
      rfl

theorem ItemLines.forall₂_shows_blocks {items : List ItemLines} {blocks : List Block}
    (are_blocks : ItemLines.blocks items = .ok blocks) :
    List.Forall₂ ItemLines.Shows items blocks := by
  induction items generalizing blocks with
  | nil =>
      obtain rfl := Except.ok.inj are_blocks
      exact .nil
  | cons lines items ih =>
      rw [ItemLines.blocks] at are_blocks
      split at are_blocks
      · simp at are_blocks
      · rename_i item is_item
        obtain ⟨others, are_others, rfl⟩ := map_eq_ok_iff.mp are_blocks
        exact .cons (ItemLines.shows_item is_item) (ih are_others)

/-! ## Stretches of a reply -/

theorem EachFits.existsUnique {kind : ListKind} {left taken : List Text}
    (fits : EachFits kind left taken) {position : Nat} {line : Text}
    (line_eq : taken[position]? = some line) :
    ∃! role : LineRole, role.Fits kind line (taken ++ left)[position + 1]? := by
  induction taken generalizing position with
  | nil => simp at line_eq
  | cons first taken ih =>
      obtain ⟨first_fits, later_fits⟩ := fits
      cases position with
      | zero =>
          obtain rfl : first = line := by simpa using line_eq
          simpa [List.head?_eq_getElem?] using first_fits
      | succ position => simpa using ih later_fits (by simpa using line_eq)

/-- The list at an index takes the longest stretch of lines that are its own, and all of each item
in it. -/
theorem takeItems_drop (kind : ListKind) (lines : List Text) {index : Nat}
    (inside : index < lines.length) :
    ∃ next, index ≤ next ∧ next ≤ lines.length ∧
      (takeItems kind (lines.drop index)).2 = lines.drop next ∧
      (kind.starts lines[index] = true → index < next) ∧
      (∀ position line, index ≤ position → position < next → lines[position]? = some line →
        ∃! role : LineRole, role.Fits kind line lines[position + 1]?) ∧
      (takeItems kind (lines.drop index)).1 = itemsIn kind ((lines.take next).drop index) ∧
      (∀ blocks, ItemLines.blocks (takeItems kind (lines.drop index)).1 = .ok blocks →
        List.Forall₂ ItemLines.Shows (takeItems kind (lines.drop index)).1 blocks) ∧
      (index < next → EndsBefore kind (lines.drop next)) := by
  obtain ⟨taken, whole, stretch⟩ := exists_stretch kind (lines.drop index)
  have lengths : taken.length + (takeItems kind (lines.drop index)).2.length =
      lines.length - index := by
    rw [← List.length_append, whole, List.length_drop]
  have left_eq : (takeItems kind (lines.drop index)).2 = lines.drop (index + taken.length) :=
    calc (takeItems kind (lines.drop index)).2
        = (taken ++ (takeItems kind (lines.drop index)).2).drop taken.length := List.drop_left.symm
      _ = (lines.drop index).drop taken.length := congrArg (List.drop taken.length) whole
      _ = lines.drop (index + taken.length) := List.drop_drop
  have taken_eq : taken = (lines.take (index + taken.length)).drop index := by
    rw [List.drop_take, Nat.add_sub_cancel_left, ← whole, List.take_left]
  refine ⟨index + taken.length, by omega, by omega, left_eq, ?_, ?_, ?_, ?_, ?_⟩
  · intro starts
    have shorter := length_remaining_lt (lines.drop (index + 1)) starts
    rw [← List.drop_eq_getElem_cons inside, List.length_drop] at shorter
    omega
  · intro position line after before line_eq
    obtain ⟨offset, rfl⟩ := Nat.exists_eq_add_of_le after
    have here : taken[offset]? = some line := by
      rw [← line_eq, ← List.getElem?_drop, ← whole, List.getElem?_append_left (by omega)]
    have role := stretch.eachFits.existsUnique here
    rwa [whole, List.getElem?_drop, ← Nat.add_assoc] at role
  · rw [← taken_eq]
    exact stretch.items_eq
  · exact fun blocks => ItemLines.forall₂_shows_blocks
  · intro met
    rw [← left_eq]
    refine stretch.endsBefore (.inl ?_)
    rintro rfl
    simp at met

/-- A list of two items with a blank line between them, and an item behind two blank lines. -/
def gapLines : List Text :=
  [['a'], ['-', ' ', 'b'], ['c'], [], ['+', ' ', 'd'], [], [], ['-', ' ', 'e']]

theorem takeItems_drop_gap :
    1 < gapLines.length ∧
      List.Forall₂ ItemLines.Shows (itemsIn .bullet ((gapLines.take 5).drop 1))
        [.item ⟨.bullet, [⟨['b'], .plain⟩], [[⟨['c'], .plain⟩]]⟩,
          .item ⟨.bullet, [⟨['d'], .plain⟩], []⟩] ∧
      EndsBefore .bullet (gapLines.drop 5) := by
  have inside : 1 < gapLines.length := by decide
  obtain ⟨next, -, at_most, left_eq, starts, -, items_eq, shown, ends⟩ :=
    takeItems_drop .bullet gapLines inside
  have left : (takeItems .bullet (gapLines.drop 1)).2 = gapLines.drop 5 := by decide +kernel
  obtain rfl : next = 5 := by
    have lengths := congrArg List.length (left_eq.symm.trans left)
    simp only [List.length_drop, gapLines, List.length_cons, List.length_nil] at lengths at_most
    omega
  rw [items_eq] at shown
  exact ⟨inside, shown _ (by decide +kernel), ends (starts rfl)⟩

end Reply
end ChatReply
