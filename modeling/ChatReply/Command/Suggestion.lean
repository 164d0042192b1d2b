import ChatReply.Text.Range

/-!
# Suggestions

Known names that are close to an unknown one. Two texts have their longest common block in common,
then the longest one of what stands before it in both, and the longest one of what stands behind it,
and so on. How close they are is the share of their characters that they have in common.
-/

namespace ChatReply
namespace Command

/-- The length of the longest common start of two texts. -/
def sharedLength : Text → Text → Nat
  | c :: first, d :: second => if c = d then sharedLength first second + 1 else 0
  | _, _ => 0

theorem take_sharedLength (first second : Text) :
    first.take (sharedLength first second) = second.take (sharedLength first second) := by
  fun_induction sharedLength first second with
  | case1 first c second ih => rw [List.take_succ_cons, List.take_succ_cons, ih]
  | case2 => rfl
  | case3 => rfl

theorem sharedLength_le (first second : Text) :
    sharedLength first second ≤ first.length ∧ sharedLength first second ≤ second.length := by
  fun_induction sharedLength first second with
  | case1 first c second ih => simpa using ih
  | case2 => simp
  | case3 => simp

/-- A block of characters that stands in two texts. -/
structure Overlap (first second : Text) where
  /-- Where the block starts in the first text. -/
  place : Nat
  /-- Where it starts in the second text. -/
  otherPlace : Nat
  /-- The number of its characters. -/
  length : Nat
  within : place + length ≤ first.length
  other_within : otherPlace + length ≤ second.length
  same : (first.drop place).take length = (second.drop otherPlace).take length

namespace Overlap

variable {first second : Text}

/-- The block without characters. -/
def empty (first second : Text) : Overlap first second :=
  ⟨0, 0, 0, Nat.zero_le _, Nat.zero_le _, rfl⟩

/-- The longest block that starts at two given places. -/
def startingAt (place : Fin first.length) (otherPlace : Fin second.length) :
    Overlap first second where
  place := place
  otherPlace := otherPlace
  length := sharedLength (first.drop place) (second.drop otherPlace)
  within := by
    have fits := (sharedLength_le (first.drop place) (second.drop otherPlace)).1
    rw [List.length_drop] at fits
    omega
  other_within := by
    have fits := (sharedLength_le (first.drop place) (second.drop otherPlace)).2
    rw [List.length_drop] at fits
    omega
  same := take_sharedLength _ _

/-- Keeps a block unless another one is longer. -/
def orLonger (found other : Overlap first second) : Overlap first second :=
  if found.length < other.length then other else found

/-- The longest block of two texts, the first of several in the first text and then in the
second. -/
def longest (first second : Text) : Overlap first second :=
  let starts := (List.finRange first.length).flatMap fun place =>
    (List.finRange second.length).map fun otherPlace => startingAt place otherPlace
  starts.foldl orLonger (empty first second)

end Overlap

/-- The number of characters that two texts have in common. -/
def commonCount (first second : Text) : Nat :=
  let block := Overlap.longest first second
  if _ : block.length = 0 then 0
  else
    commonCount (first.take block.place) (second.take block.otherPlace) + block.length +
      commonCount (first.drop (block.place + block.length))
        (second.drop (block.otherPlace + block.length))
termination_by first.length
decreasing_by
  all_goals
    have within := (Overlap.longest first second).within
    simp only [List.length_take, List.length_drop, block] at *
    omega

/-- A known name and how close it is to a given one. -/
structure KnownName where
  name : String
  /-- The number of characters that it has in common with the given name. -/
  common : Nat
  /-- The number of characters of both names. -/
  total : Nat
deriving DecidableEq, Repr

namespace KnownName

/-- A known name, seen from a given one. -/
def of (given name : String) : KnownName :=
  ⟨name, commonCount name.toList given.toList, name.length + given.length⟩

/-- At least six tenths of the characters of both names are common ones. -/
def isClose (known : KnownName) : Bool :=
  decide (6 * known.total ≤ 10 * (2 * known.common))

/-- The name is suggested before another one: it is closer, or as close and not before it in the
alphabet. -/
def goesBefore (known other : KnownName) : Bool :=
  let share := known.common * other.total
  let otherShare := other.common * known.total
  decide (otherShare < share) || (share == otherShare && decide (other.name ≤ known.name))

end KnownName

/-- The greatest number of names that are suggested. -/
def suggestionLimit : Nat := 3

/-- The closest of some known names to a given one, as far as they are close. -/
def closest (known : List String) (given : String) : List String :=
  let close := (known.map (KnownName.of given)).filter KnownName.isClose
  ((close.mergeSort KnownName.goesBefore).take suggestionLimit).map KnownName.name

/-- What is added to the refusal of an unknown name. -/
def hint : List String → String
  | [] => ""
  | [name] => " Did you mean " ++ name ++ "?"
  | names =>
    let sorted := names.mergeSort fun name other => decide (name ≤ other)
    " (Possible options: " ++ String.intercalate ", " sorted ++ ")"

end Command
end ChatReply
