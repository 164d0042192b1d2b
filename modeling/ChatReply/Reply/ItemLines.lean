import ChatReply.Reply.LineForm

/-!
# The lines of a list

An item is its own line together with the lines after it that are neither blank nor items
themselves. A list goes on with the next item of its kind, which one blank line may precede, and it
ends where neither comes.
-/

namespace ChatReply
namespace Reply

/-- The lines of one item. -/
structure ItemLines where
  /-- The kind of list to which the item belongs. -/
  kind : ListKind
  /-- The line that starts the item. -/
  first : Text
  /-- The lines that continue it. -/
  continuation : List Text
  /-- The first line has the form of an item of that list. -/
  starts : kind.starts first = true
deriving DecidableEq, Repr

/-- The line continues the item before it. -/
def continuesItem (line : Text) : Bool :=
  !isBlankText line && !startsItem line

/-- Divides lines into the items of the list at their head and the lines after that list. -/
def takeItems (kind : ListKind) (lines : List Text) : List ItemLines × List Text :=
  match lines with
  | [] => ([], [])
  | line :: rest =>
    if starts : kind.starts line then
      let (items, remaining) := takeItems kind (rest.dropWhile continuesItem)
      (⟨kind, line, rest.takeWhile continuesItem, starts⟩ :: items, remaining)
    else if isBlankText line && rest.head?.any kind.starts then
      takeItems kind rest
    else ([], line :: rest)
termination_by lines.length
decreasing_by
  · have shorter := (List.dropWhile_suffix continuesItem (l := rest)).length_le
    simp only [List.length_cons]
    omega
  · simp

/-- No line is added by taking a list away. -/
theorem length_remaining_le (kind : ListKind) (lines : List Text) :
    (takeItems kind lines).2.length ≤ lines.length := by
  fun_induction takeItems kind lines with
  | case1 => exact Nat.le_refl _
  | case2 line rest starts items remaining step induction =>
    have shorter := (List.dropWhile_suffix continuesItem (l := rest)).length_le
    rw [step] at induction
    simp only [List.length_cons] at induction ⊢
    omega
  | case3 line rest starts blank induction =>
    simp only [List.length_cons]
    omega
  | case4 => exact Nat.le_refl _

/-- A list that starts at the first line takes at least that line. -/
theorem length_remaining_lt {kind : ListKind} {line : Text} (rest : List Text)
    (starts : kind.starts line = true) :
    (takeItems kind (line :: rest)).2.length < (line :: rest).length := by
  rw [takeItems]
  simp only [starts, dite_true]
  have bound := length_remaining_le kind (rest.dropWhile continuesItem)
  have shorter := (List.dropWhile_suffix continuesItem (l := rest)).length_le
  simp only [List.length_cons]
  omega

namespace ItemLines

/-- The runs of the continuation lines, each trimmed. -/
def continuationRuns (lines : ItemLines) : List (List Run) :=
  lines.continuation.map fun line => Run.ofLine (trim line)

/-- The item that a line starts, before any line continues it. -/
def start? (line : Text) : Option ItemLines :=
  match found : itemKind? line with
  | some kind => some ⟨kind, line, [], starts_of_itemKind? found⟩
  | none => none

/-- The item that the lines denote. Its number has to keep the digit limit. -/
def item (lines : ItemLines) : Except Numeral.TooLong Item :=
  match lines with
  | ⟨.ordered, first, _, starts⟩ =>
    let (digits, text) := (orderedItem? first).get starts
    (Numeral.read digits).map fun (number : Nat) =>
      ⟨.number number, Run.ofLine text, lines.continuationRuns⟩
  | ⟨.bullet, first, _, _⟩ =>
    .ok ⟨.bullet, Run.ofLine (bulletText first), lines.continuationRuns⟩

/-- The blocks of a row of items, or the refusal of the first number that is too long. -/
def blocks : List ItemLines → Except Numeral.TooLong (List Block)
  | [] => .ok []
  | lines :: rest =>
    match lines.item with
    | .error error => .error error
    | .ok item => (blocks rest).map (.item item :: ·)

end ItemLines

end Reply
end ChatReply
