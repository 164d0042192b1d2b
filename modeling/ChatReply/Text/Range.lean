/-!
# Ranges of code points

A property of characters is a list of closed ranges of code points in ascending order. A look-up
walks the list and stops at the first range that lies wholly beyond the code point.
-/

namespace ChatReply

/-- A text is the list of its characters. -/
abbrev Text := List Char

/-- The range that holds the code point, among ascending ranges. -/
def rangeOf? : List (Nat × Nat) → Nat → Option (Nat × Nat)
  | [], _ => none
  | (first, last) :: ranges, point =>
    if point < first then none
    else if point ≤ last then some (first, last)
    else rangeOf? ranges point

/-- Some range of the ascending list holds the code point. -/
def covers (ranges : List (Nat × Nat)) (point : Nat) : Bool :=
  (rangeOf? ranges point).isSome

/-- A range that is found belongs to the list and holds the code point. -/
theorem mem_of_rangeOf? {ranges : List (Nat × Nat)} {point : Nat} {range : Nat × Nat}
    (found : rangeOf? ranges point = some range) :
    range ∈ ranges ∧ range.1 ≤ point ∧ point ≤ range.2 := by
  induction ranges with
  | nil => simp [rangeOf?] at found
  | cons head ranges induction =>
    obtain ⟨first, last⟩ := head
    simp only [rangeOf?] at found
    split at found
    · simp at found
    · split at found
      · simp only [Option.some.injEq] at found
        subst found
        exact ⟨List.mem_cons_self, by simp only; omega, by simp only; omega⟩
      · have tail := induction found
        exact ⟨List.mem_cons_of_mem _ tail.1, tail.2⟩

end ChatReply
