import ChatReply.Proofs.Concatenation
import ChatReply.Proofs.ListStretch

/-!
# Numbers of items

Parsing a reply is refused for the number of an item and for nothing else. The number is that of the
first line outside code fences that starts an item with more digits than the limit allows: such a
line starts an item wherever it stands, and a line inside a fence starts none.
-/

namespace ChatReply
namespace Reply

/-! ## Lines outside code fences -/

/-- Where a line of a reply stands. -/
inductive Place where
  /-- Between two blocks or in a paragraph. -/
  | free
  /-- Behind a list item that may go on. -/
  | item
  /-- In a code fence. -/
  | fence
deriving DecidableEq, Repr

/-- Where the line after a line stands. Behind an item a fence is a line like any other. -/
def Place.next (place : Place) (line : Text) : Place :=
  match place with
  | fence => if isFence (trim line) then free else fence
  | item => if isBlankText line then free else item
  | free => if isFence (trim line) then fence else if startsItem line then item else free

/-- The lines that stand outside code fences, of lines that start at a place. -/
def Place.unfenced (place : Place) : List Text → List Text
  | [] => []
  | line :: lines =>
    if place = fence then (place.next line).unfenced lines
    else line :: (place.next line).unfenced lines

/-- The lines of a reply that stand outside code fences. -/
def unfencedLines (text : Text) : List Text :=
  Place.free.unfenced (lines text)

/-! ## Refused numbers -/

/-- The refusal of a line that starts an item with too long a number. -/
def longNumber? (line : Text) : Option Numeral.TooLong :=
  match orderedItem? line with
  | some (digits, _) =>
    if Numeral.digitLimit < digits.length then some ⟨digits.length⟩ else none
  | none => none

theorem longNumber?_eq_some_iff {line : Text} {error : Numeral.TooLong} :
    longNumber? line = some error ↔
      ∃ digits text, orderedItem? line = some (digits, text) ∧
        Numeral.digitLimit < digits.length ∧ error = ⟨digits.length⟩ := by
  unfold longNumber?
  cases orderedItem? line with
  | none => simp
  | some parts =>
      obtain ⟨digits, text⟩ := parts
      simp [eq_comm]

theorem longNumber?_eq_none_iff {line : Text} :
    longNumber? line = none ↔
      ∀ digits text, orderedItem? line = some (digits, text) →
        digits.length ≤ Numeral.digitLimit := by
  unfold longNumber?
  cases orderedItem? line with
  | none => simp
  | some parts =>
      obtain ⟨digits, text⟩ := parts
      simp

theorem longNumber?_of_itemKind? {line : Text} (no_item : itemKind? line = none) :
    longNumber? line = none := by
  have unordered : orderedItem? line = none := by
    by_contra ordered
    have starts : ListKind.ordered.starts line = true := Option.isSome_iff_ne_none.mpr ordered
    simp [itemKind?, starts] at no_item
  simp [longNumber?, unordered]

/-- Why an outcome is refused, if it is. -/
def refusal? {Value : Type} : Except Numeral.TooLong Value → Option Numeral.TooLong
  | .error error => some error
  | .ok _ => none

section

variable {Value Result : Type}

theorem refusal?_eq_some_iff {outcome : Except Numeral.TooLong Value} {error : Numeral.TooLong} :
    refusal? outcome = some error ↔ outcome = .error error := by
  cases outcome <;> simp [refusal?]

theorem refusal?_eq_none_iff {outcome : Except Numeral.TooLong Value} :
    refusal? outcome = none ↔ ∃ value, outcome = .ok value := by
  cases outcome <;> simp [refusal?]

@[simp]
theorem refusal?_map (outcome : Except Numeral.TooLong Value) (change : Value → Result) :
    refusal? (outcome.map change) = refusal? outcome := by
  cases outcome <;> rfl

/-- What comes second is refused only where what comes first is not. -/
theorem refusal?_bind {outcome : Except Numeral.TooLong Value}
    {next : Value → Except Numeral.TooLong Result} {later : Option Numeral.TooLong}
    (same : ∀ value, outcome = .ok value → refusal? (next value) = later) :
    refusal? (outcome.bind next) = (refusal? outcome).or later := by
  cases outcome with
  | error error => rfl
  | ok value => simpa [Except.bind, refusal?] using same value rfl

end

/-- The item that a line starts is refused for the number of that line. -/
theorem refusal?_item (lines : ItemLines) : refusal? lines.item = longNumber? lines.first := by
  obtain ⟨kind, first, continuation, starts⟩ := lines
  cases kind with
  | ordered =>
      obtain ⟨⟨digits, text⟩, parts⟩ := Option.isSome_iff_exists.mp starts
      rw [ItemLines.item_of_orderedItem? continuation starts parts]
      simp only [refusal?_map, longNumber?, parts, Numeral.read]
      by_cases fits : digits.length ≤ Numeral.digitLimit
      · simp [fits, Nat.not_lt.mpr fits, refusal?]
      · simp [fits, Nat.lt_of_not_le fits, refusal?]
  | bullet =>
      have unordered : orderedItem? first = none := by
        simpa [ListKind.starts] using starts_ordered_eq_false starts
      simp [ItemLines.item, longNumber?, unordered, refusal?]

namespace Stream

variable {framed : Bool}

/-- Where the line after an open part stands. -/
def Pending.place : Pending → Place
  | idle => .free
  | text _ => .free
  | item _ => .item
  | fence _ => .fence

/-- Why an open part is refused where it ends, if it is. -/
def Pending.refusal? : Pending → Option Numeral.TooLong
  | item lines => Reply.refusal? lines.item
  | _ => none

theorem refusal?_close (framed : Bool) (pending : Pending) :
    Reply.refusal? (pending.close framed) = pending.refusal? := by
  cases pending with
  | idle | text runs | fence code => rfl
  | item lines => exact refusal?_map lines.item _

/-- The part that is open after a line with the effect. -/
def Effect.next : Effect → Pending
  | turn _ _ next => next
  | keep next => next

/-- Why a line with the effect is refused, if it is: for what it ends. -/
def Effect.refusal? : Effect → Option Numeral.TooLong
  | turn closing _ _ => closing.refusal?
  | keep _ => none

theorem refusal?_apply (framed : Bool) (effect : Effect) (blocks : List Block) :
    Reply.refusal? (effect.apply framed blocks) = effect.refusal? := by
  cases effect with
  | keep next => rfl
  | turn closing added next =>
      rw [Effect.apply, turn, refusal?_map, refusal?_close]
      rfl

theorem pending_of_apply {effect : Effect} {blocks : List Block} {next : Stream}
    (applied : effect.apply framed blocks = .ok next) : next.pending = effect.next := by
  cases effect with
  | keep pending =>
      obtain rfl := Except.ok.inj applied
      rfl
  | turn closing added pending =>
      obtain ⟨closed, -, rfl⟩ := map_eq_ok_iff.mp applied
      rfl

theorem TextStep.place_next {line : Text} {runs : List Run} {effect : Effect}
    (step : TextStep line runs effect) : effect.next.place = Place.free.next line := by
  have free (no_fence : Reply.isFence (trim line) = false) (no_item : itemKind? line = none) :
      Place.free.next line = .free := by
    simp [Place.next, no_fence, startsItem_eq_isSome, no_item]
  cases step with
  | fence marks => simp [Effect.next, Pending.place, Place.next, marks]
  | item found =>
      simp [Effect.next, Pending.place, Place.next, isFence_eq_false_of_itemKind? found,
        startsItem_eq_isSome, found]
  | header found => exact (free (isFence_of_header? found) (itemKind?_of_header? found)).symm
  | separator found =>
      exact (free (isFence_of_isSeparator found) (itemKind?_of_isSeparator found)).symm
  | blank blank =>
      exact (free (isFence_of_isBlankText blank) (itemKind?_of_isBlankText blank)).symm
  | text no_fence no_item => exact (free no_fence no_item).symm

/-- Outside fences and items a line ends nothing that could be refused, and what it opens is refused
for its number. -/
theorem TextStep.refusal?_next {line : Text} {runs : List Run} {effect : Effect}
    (step : TextStep line runs effect) :
    effect.refusal? = none ∧ effect.next.refusal? = longNumber? line := by
  cases step with
  | fence marks => exact ⟨rfl, (longNumber?_of_itemKind? (itemKind?_of_isFence marks)).symm⟩
  | item found => exact ⟨rfl, refusal?_item _⟩
  | header found => exact ⟨rfl, (longNumber?_of_itemKind? (itemKind?_of_header? found)).symm⟩
  | separator found => exact ⟨rfl, (longNumber?_of_itemKind? (itemKind?_of_isSeparator found)).symm⟩
  | blank blank => exact ⟨rfl, (longNumber?_of_itemKind? (itemKind?_of_isBlankText blank)).symm⟩
  | text no_fence no_item => exact ⟨rfl, (longNumber?_of_itemKind? no_item).symm⟩

theorem Step.place_next {line : Text} {pending : Pending} {effect : Effect}
    (step : Step line pending effect) : effect.next.place = pending.place.next line := by
  cases step with
  | idle step | text step => exact step.place_next
  | itemEnds blank => simp [Effect.next, Pending.place, Place.next, blank]
  | itemFollows found =>
      simp [Effect.next, Pending.place, Place.next, isBlankText_of_itemKind? found]
  | itemGoesOn continues =>
      obtain ⟨filled, -⟩ := continuesItem_iff.mp continues
      simp [Effect.next, Pending.place, Place.next, filled]
  | fenceEnds marks => simp [Effect.next, Pending.place, Place.next, marks]
  | fenceGoesOn inside => simp [Effect.next, Pending.place, Place.next, inside]

/-- With a line outside fences, its number is checked after that of the item before it. -/
theorem Step.refusal?_next {line : Text} {pending : Pending} {effect : Effect}
    (step : Step line pending effect) :
    effect.refusal?.or effect.next.refusal? =
      pending.refusal?.or (if pending.place = .fence then none else longNumber? line) := by
  cases step with
  | idle step | text step =>
      obtain ⟨unrefused, opened⟩ := step.refusal?_next
      rw [unrefused, opened]
      rfl
  | itemEnds blank =>
      have unnumbered := longNumber?_of_itemKind? (itemKind?_of_isBlankText blank)
      simp [Effect.refusal?, Effect.next, Pending.refusal?, Pending.place, unnumbered]
  | @itemFollows item kind found =>
      exact congrArg (Option.or (Pending.item item).refusal?) (refusal?_item _)
  | @itemGoesOn item continues =>
      have unnumbered := longNumber?_of_itemKind? (continuesItem_iff.mp continues).2
      simp [Effect.refusal?, Effect.next, Pending.refusal?, Pending.place, unnumbered,
        ItemLines.item_extend]
  | fenceEnds marks => rfl
  | fenceGoesOn inside => rfl

/-- A stream is refused for the item that is open or else for the first line outside fences that
starts an item with too long a number. -/
theorem refusal?_endingAfter (framed : Bool) (stream : Stream) (lines : List Text) :
    Reply.refusal? (stream.endingAfter framed lines) =
      stream.pending.refusal?.or
        ((stream.pending.place.unfenced lines).findSome? longNumber?) := by
  induction lines generalizing stream with
  | nil =>
      rw [endingAfter_nil, ending, finish, refusal?_map, refusal?_map, refusal?_close]
      exact (Option.or_none).symm
  | cons line lines ih =>
      obtain ⟨effect, step, fed⟩ := exists_step line stream.pending
      have later (next : Stream) (applied : effect.apply framed stream.blocks = .ok next) :
          Reply.refusal? (next.endingAfter framed lines) =
            effect.next.refusal?.or
              ((effect.next.place.unfenced lines).findSome? longNumber?) := by
        rw [ih next, pending_of_apply applied]
      have met : (stream.pending.place.unfenced (line :: lines)).findSome? longNumber? =
          (if stream.pending.place = .fence then none else longNumber? line).or
            (((stream.pending.place.next line).unfenced lines).findSome? longNumber?) := by
        rw [Place.unfenced]
        split
        · rfl
        · rw [List.findSome?_cons]
          cases longNumber? line <;> rfl
      calc Reply.refusal? (stream.endingAfter framed (line :: lines))
          = effect.refusal?.or (effect.next.refusal?.or
              ((effect.next.place.unfenced lines).findSome? longNumber?)) := by
            rw [endingAfter_cons, fed framed stream.blocks, refusal?_bind later, refusal?_apply]
        _ = stream.pending.refusal?.or
              ((stream.pending.place.unfenced (line :: lines)).findSome? longNumber?) := by
            rw [← Option.or_assoc, step.refusal?_next, step.place_next, Option.or_assoc, met]

end Stream

/-- A reply is refused for the first line outside code fences that starts an item with too long a
number. -/
theorem refusal?_parse (framed : Bool) (text : Text) :
    refusal? (parse framed text) = (unfencedLines text).findSome? longNumber? := by
  rw [parse_eq_map_endingAfter, refusal?_map, Stream.refusal?_endingAfter]
  rfl

/-- Every item of an ordered list is built from a line that has a number, also once it is
trimmed. -/
theorem isSome_orderedItem?_of_mem_takeItems {lines : List Text} {item : ItemLines}
    (member : item ∈ (takeItems .ordered lines).1) :
    (orderedItem? (trim item.first)).isSome = true := by
  obtain ⟨taken, -, stretch⟩ := exists_stretch .ordered lines
  have starts := item.starts
  rw [stretch.kind_of_mem item member] at starts
  rw [orderedItem?, (trimmed_trim item.first).trim_eq, ← orderedItem?]
  exact starts

/-- A reply has no document just if a line outside code fences starts an item whose number has too
many digits. Then the number of the first such line is refused, and every item is built from a line
that has a number. -/
theorem parse_eq_error_iff (framed : Bool) (text : Text) :
    (∀ error, parse framed text = .error error ↔
      ∃ before line after digits content,
        unfencedLines text = before ++ line :: after ∧
        (∀ earlier ∈ before, longNumber? earlier = none) ∧
        orderedItem? line = some (digits, content) ∧ 4300 < digits.length ∧
        error = ⟨digits.length⟩) ∧
    ((∃ document, parse framed text = .ok document) ↔
      ∀ line ∈ unfencedLines text, ∀ digits content,
        orderedItem? line = some (digits, content) → digits.length ≤ 4300) ∧
    ∀ lines, ∀ item ∈ (takeItems .ordered lines).1,
      (orderedItem? (trim item.first)).isSome = true := by
  refine ⟨fun error => ?_, ?_, fun lines item => isSome_orderedItem?_of_mem_takeItems⟩
  · rw [← refusal?_eq_some_iff, refusal?_parse, List.findSome?_eq_some_iff]
    constructor
    · rintro ⟨before, line, after, split, long, short⟩
      obtain ⟨digits, content, parts, bound, error_eq⟩ := longNumber?_eq_some_iff.mp long
      exact ⟨before, line, after, digits, content, split, short, parts, bound, error_eq⟩
    · rintro ⟨before, line, after, digits, content, split, short, parts, bound, error_eq⟩
      have long := longNumber?_eq_some_iff.mpr ⟨digits, content, parts, bound, error_eq⟩
      exact ⟨before, line, after, split, long, short⟩
  · rw [← refusal?_eq_none_iff, refusal?_parse, List.findSome?_eq_none_iff]
    exact forall₂_congr fun line _ => longNumber?_eq_none_iff

end Reply
end ChatReply
