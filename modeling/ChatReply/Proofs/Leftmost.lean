import Mathlib.Data.List.TakeWhile
import ChatReply.Text.Pattern

/-!
# Leftmost matches

The matches of a pattern in a text, taken from left to right, as a relation: a gap in which the
pattern matches nowhere, a match, and so on behind that match. The pieces of a text are exactly
those to which the relation leads, so what is said of them is proved by its two cases.
-/

namespace ChatReply

theorem drop_length_takeWhile (class? : Char → Bool) (text : Text) :
    text.drop (text.takeWhile class?).length = text.dropWhile class? := by
  calc text.drop (text.takeWhile class?).length
      = (text.takeWhile class? ++ text.dropWhile class?).drop (text.takeWhile class?).length := by
        rw [List.takeWhile_append_dropWhile]
    _ = text.dropWhile class? := List.drop_left

theorem takeWhile_ne_append {inner : Text} {quote : Char} (outside : quote ∉ inner) (rest : Text) :
    (inner ++ quote :: rest).takeWhile (· ≠ quote) = inner := by
  have kept : ∀ c ∈ inner, decide (c ≠ quote) = true := by
    intro c c_mem
    simp only [ne_eq, decide_eq_true_eq]
    rintro rfl
    exact outside c_mem
  rw [List.takeWhile_append_of_pos kept, List.takeWhile_cons_of_neg (by simp), List.append_nil]

namespace Segment

/-- A gap as a piece of its text. An empty gap is none. -/
def ofGap (text : Text) : List Segment :=
  if text = [] then [] else [gap text]

theorem ofGap_eq {text : Text} (text_ne : text ≠ []) : ofGap text = [gap text] :=
  if_neg text_ne

theorem extend_ofGap (c : Char) (text : Text) : extend c (ofGap text) = ofGap (c :: text) := by
  cases text with
  | nil => rfl
  | cons d text => rfl

theorem extend_ofGap_found (c : Char) (text span : Text) (segments : List Segment) :
    extend c (ofGap text ++ found span :: segments) =
      ofGap (c :: text) ++ found span :: segments := by
  cases text with
  | nil => rfl
  | cons d text => rfl

/-- An empty gap is no piece; that makes no difference to a reader that finds nothing in it. -/
theorem flatMap_ofGap {Part : Type} {parts : Segment → List Part} (nothing : parts (gap []) = [])
    (text : Text) : (ofGap text).flatMap parts = parts (gap text) := by
  by_cases empty : text = []
  · rw [empty, nothing]
    rfl
  · rw [ofGap_eq empty, List.flatMap_singleton]

theorem holds_flatMap_ofGap {Part : Type} {Holds : List Part → Text → Prop}
    {parts : Segment → List Part} {text : Text} (nothing : Holds [] [])
    (something : text ≠ [] → Holds (parts (gap text)) text) :
    Holds ((ofGap text).flatMap parts) text := by
  by_cases empty : text = []
  · rw [empty]
    exact nothing
  · rw [ofGap_eq empty, List.flatMap_singleton]
    exact something empty

end Segment

namespace Pattern

variable {pattern : Pattern}

/-- The pattern matches nowhere in the gap when the rest comes after it. -/
def Silent (pattern : Pattern) (before : Option Char) (gap rest : Text) : Prop :=
  ∀ front c back, gap = front ++ c :: back →
    pattern (front.getLast?.or before) (c :: (back ++ rest)) = 0

theorem silent_nil (pattern : Pattern) (before : Option Char) (rest : Text) :
    pattern.Silent before [] rest := by
  intro front c back split
  simp at split

theorem getLast?_cons_or {α : Type} (first : α) (rest : List α) (before : Option α) :
    (first :: rest).getLast?.or before = rest.getLast?.or (some first) := by
  rw [List.getLast?_cons]
  cases rest.getLast? <;> rfl

theorem getLast?_append_or {α : Type} {middle : List α} (middle_ne : middle ≠ [])
    (front back : List α) (before : Option α) :
    (front ++ (middle ++ back)).getLast?.or before = back.getLast?.or middle.getLast? := by
  rw [List.getLast?_append, List.getLast?_append, List.getLast?_eq_some_getLast middle_ne]
  cases back.getLast? <;> rfl

theorem silent_cons_iff {before : Option Char} {c : Char} {gap rest : Text} :
    pattern.Silent before (c :: gap) rest ↔
      pattern before (c :: (gap ++ rest)) = 0 ∧ pattern.Silent (some c) gap rest := by
  constructor
  · intro silent
    refine ⟨silent [] c gap rfl, ?_⟩
    intro front d back split
    rw [← getLast?_cons_or]
    exact silent (c :: front) d back (by rw [split, List.cons_append])
  · rintro ⟨unmatched, silent⟩ front d back split
    cases front with
    | nil =>
        obtain ⟨rfl, rfl⟩ := List.cons.inj split
        exact unmatched
    | cons e front =>
        obtain ⟨rfl, gap_eq⟩ := List.cons.inj split
        rw [getLast?_cons_or]
        exact silent front d back gap_eq

/-- Two gaps make one where the first is silent before the second. -/
theorem Silent.append {before : Option Char} {gap behind rest : Text}
    (first : pattern.Silent before gap (behind ++ rest))
    (second : pattern.Silent (gap.getLast?.or before) behind rest) :
    pattern.Silent before (gap ++ behind) rest := by
  induction gap generalizing before with
  | nil => exact second
  | cons c gap ih =>
      obtain ⟨unmatched, first⟩ := silent_cons_iff.mp first
      rw [getLast?_cons_or] at second
      rw [List.cons_append, silent_cons_iff, List.append_assoc]
      exact ⟨unmatched, ih first second⟩

/-- Leftmost matches of the pattern cut the text into the pieces. -/
inductive Leftmost (pattern : Pattern) : Option Char → Text → List Segment → Prop
  /-- Behind the last match. -/
  | last {before : Option Char} {gap : Text} (silent : pattern.Silent before gap []) :
      Leftmost pattern before gap (Segment.ofGap gap)
  /-- Up to the first match and over it. -/
  | next {before : Option Char} {gap found rest : Text} {segments : List Segment}
      (silent : pattern.Silent before gap (found ++ rest)) (found_ne : found ≠ [])
      (matched : pattern (gap.getLast?.or before) (found ++ rest) = found.length)
      (later : Leftmost pattern found.getLast? rest segments) :
      Leftmost pattern before (gap ++ (found ++ rest))
        (Segment.ofGap gap ++ .found found :: segments)

/-- A match of the pattern is part of the text. -/
def Fits (pattern : Pattern) : Prop :=
  ∀ before text, pattern before text ≤ text.length

/-- Each match of the pattern has a form, which may depend on the character before the match and on
the text behind it. -/
def Reads (pattern : Pattern) (form : Option Char → Text → Text → Prop) : Prop :=
  ∀ before text, pattern before text ≠ 0 →
    ∃ found rest, text = found ++ rest ∧ pattern before text = found.length ∧
      form before found rest

namespace Reads

variable {form : Option Char → Text → Text → Prop}

theorem fits (reads : pattern.Reads form) : pattern.Fits := by
  intro before text
  by_cases matched : pattern before text = 0
  · omega
  · obtain ⟨found, rest, rfl, length_eq, -⟩ := reads before text matched
    simp [length_eq]

theorem form_of_match (reads : pattern.Reads form) {before : Option Char} {found rest : Text}
    (found_ne : found ≠ []) (matched : pattern before (found ++ rest) = found.length) :
    form before found rest := by
  have matches? : pattern before (found ++ rest) ≠ 0 := by
    rw [matched]
    exact fun empty => found_ne (List.eq_nil_of_length_eq_zero empty)
  obtain ⟨other, behind, text_eq, length_eq, formed⟩ := reads before _ matches?
  obtain ⟨rfl, rfl⟩ := List.append_inj text_eq (matched.symm.trans length_eq)
  exact formed

theorem mono {other : Option Char → Text → Text → Prop} (reads : pattern.Reads form)
    (weaker : ∀ before found rest, form before found rest → other before found rest) :
    pattern.Reads other := by
  intro before text matched
  obtain ⟨found, rest, text_eq, length_eq, formed⟩ := reads before text matched
  exact ⟨found, rest, text_eq, length_eq, weaker before found rest formed⟩

end Reads

theorem Leftmost.extend {before : Option Char} {c : Char} {text : Text} {segments : List Segment}
    (unmatched : pattern before (c :: text) = 0)
    (later : pattern.Leftmost (some c) text segments) :
    pattern.Leftmost before (c :: text) (Segment.extend c segments) := by
  cases later with
  | last silent =>
      rw [Segment.extend_ofGap]
      exact .last (silent_cons_iff.mpr ⟨by simpa using unmatched, silent⟩)
  | next silent found_ne matched later =>
      rw [Segment.extend_ofGap_found, ← List.cons_append]
      rw [← getLast?_cons_or c _ before] at matched
      exact .next (silent_cons_iff.mpr ⟨unmatched, silent⟩) found_ne matched later

/-- The pieces of a text are cut by leftmost matches. -/
theorem leftmost_segments (fits : pattern.Fits) (before : Option Char) (text : Text) :
    pattern.Leftmost before text (pattern.segments before text) := by
  fun_induction Pattern.segments pattern before text with
  | case1 before => exact .last (silent_nil pattern before [])
  | case2 before c rest unmatched ih => exact ih.extend unmatched
  | case3 before c rest matches? size matched ih =>
      have parts : c :: rest = matched ++ (c :: rest).drop size :=
        (List.take_append_drop size (c :: rest)).symm
      have length_eq : matched.length = size := List.length_take_of_le (fits before (c :: rest))
      have matched_ne : matched ≠ [] := by
        intro empty
        rw [empty] at length_eq
        exact matches? length_eq.symm
      have step := Leftmost.next (silent_nil pattern before _) matched_ne
        (by rw [length_eq, ← parts]; rfl) ih
      rwa [List.nil_append, ← parts] at step

theorem mem_ofGap_iff {segment : Segment} {gap : Text} :
    segment ∈ Segment.ofGap gap ↔ gap ≠ [] ∧ segment = .gap gap := by
  unfold Segment.ofGap
  split <;> simp_all

/-- Each match among the pieces has the form of the pattern's matches. -/
theorem Leftmost.form_of_mem {form : Option Char → Text → Text → Prop}
    (reads : pattern.Reads form) {before : Option Char} {text : Text} {segments : List Segment}
    (cut : pattern.Leftmost before text segments) {found : Text}
    (member : Segment.found found ∈ segments) : ∃ prior rest, form prior found rest := by
  induction cut with
  | last silent => simp [mem_ofGap_iff] at member
  | next silent found_ne matched later ih =>
      rcases List.mem_append.mp member with member | member
      · simp [mem_ofGap_iff] at member
      · rcases List.mem_cons.mp member with same | member
        · obtain rfl := Segment.found.inj same
          exact ⟨_, _, reads.form_of_match found_ne matched⟩
        · exact ih member

/-! ## Pieces from matches -/

/-- A gap is put in front of the pieces behind it character by character. -/
theorem segments_append_of_silent {before : Option Char} {gap rest : Text}
    (silent : pattern.Silent before gap rest) :
    pattern.segments before (gap ++ rest) =
      gap.foldr Segment.extend (pattern.segments (gap.getLast?.or before) rest) := by
  induction gap generalizing before with
  | nil => rfl
  | cons c gap ih =>
      obtain ⟨unmatched, silent⟩ := silent_cons_iff.mp silent
      rw [getLast?_cons_or, List.foldr_cons, ← ih silent, List.cons_append, segments,
        if_pos unmatched]

theorem foldr_extend_nil (gap : Text) : gap.foldr Segment.extend [] = Segment.ofGap gap := by
  induction gap with
  | nil => rfl
  | cons c gap ih => rw [List.foldr_cons, ih, Segment.extend_ofGap]

theorem foldr_extend_found (gap found : Text) (segments : List Segment) :
    gap.foldr Segment.extend (.found found :: segments) =
      Segment.ofGap gap ++ .found found :: segments := by
  induction gap with
  | nil => rfl
  | cons c gap ih => rw [List.foldr_cons, ih, Segment.extend_ofGap_found]

theorem segments_nil (pattern : Pattern) (before : Option Char) :
    pattern.segments before [] = [] := by
  rw [segments]

/-- Where the pattern matches nowhere, the whole text is a gap. -/
theorem segments_of_silent {before : Option Char} {gap : Text}
    (silent : pattern.Silent before gap []) :
    pattern.segments before gap = Segment.ofGap gap := by
  have whole := segments_append_of_silent silent
  rwa [List.append_nil, segments_nil, foldr_extend_nil] at whole

/-- The first match and the gap before it are the first pieces. -/
theorem segments_append_match {before : Option Char} {gap found rest : Text}
    (silent : pattern.Silent before gap (found ++ rest)) (found_ne : found ≠ [])
    (matched : pattern (gap.getLast?.or before) (found ++ rest) = found.length) :
    pattern.segments before (gap ++ (found ++ rest)) =
      Segment.ofGap gap ++ .found found :: pattern.segments found.getLast? rest := by
  rw [segments_append_of_silent silent, ← foldr_extend_found]
  obtain ⟨c, tail, rfl⟩ := List.exists_cons_of_ne_nil found_ne
  rw [List.cons_append] at matched ⊢
  rw [segments, if_neg (by simp [matched])]
  simp only [matched]
  rw [← List.cons_append, List.take_left, List.drop_left]

/-! ## Patterns that do not look back -/

section

variable (alike : ∀ before other text, pattern before text = pattern other text)
include alike

theorem Silent.congr {before : Option Char} {gap rest : Text}
    (silent : pattern.Silent before gap rest) (other : Option Char) :
    pattern.Silent other gap rest := by
  intro front c back split
  rw [alike _ (front.getLast?.or before)]
  exact silent front c back split

theorem segments_congr (before other : Option Char) (text : Text) :
    pattern.segments before text = pattern.segments other text := by
  cases text with
  | nil => rw [segments_nil, segments_nil]
  | cons c rest => rw [segments, segments, alike before other]

end

/-! ## The first match alone -/

theorem search?_eq_none {before : Option Char} {text : Text}
    (absent : pattern.search? before text = none) : pattern.Silent before text [] := by
  induction text generalizing before with
  | nil => exact silent_nil pattern before []
  | cons c text ih =>
      rw [search?] at absent
      split at absent
      · rename_i unmatched
        refine silent_cons_iff.mpr ⟨by simpa using unmatched, ?_⟩
        exact ih (by simpa using absent)
      · simp at absent

/-- No match stands before the first one. -/
theorem silent_of_search? {before : Option Char} {text skipped found : Text}
    (first : pattern.search? before text = some (skipped, found)) :
    ∃ rest, text = skipped ++ rest ∧ pattern.Silent before skipped rest ∧
      pattern (skipped.getLast?.or before) rest ≠ 0 ∧
      found = rest.take (pattern (skipped.getLast?.or before) rest) := by
  induction text generalizing before skipped with
  | nil => simp [search?] at first
  | cons c text ih =>
      rw [search?] at first
      split at first
      · rename_i unmatched
        obtain ⟨⟨passed, same⟩, later, equality⟩ := Option.map_eq_some_iff.mp first
        obtain ⟨rfl, rfl⟩ := Prod.mk.inj equality
        obtain ⟨rest, rfl, silent, matches?, found_eq⟩ := ih later
        rw [getLast?_cons_or]
        exact ⟨rest, rfl, silent_cons_iff.mpr ⟨unmatched, silent⟩, matches?, found_eq⟩
      · rename_i matches?
        obtain ⟨rfl, rfl⟩ := Prod.mk.inj (Option.some.inj first)
        exact ⟨c :: text, rfl, silent_nil pattern before _, matches?, rfl⟩

end Pattern
end ChatReply
