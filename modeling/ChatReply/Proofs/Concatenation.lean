import ChatReply.Proofs.Simulation

/-!
# Replies put together

What comes after a line feed changes at most the last block of a reply. What comes after a blank
line changes none, unless a code fence is still open: then the document of the whole is that of the
first part followed by that of the second.
-/

namespace ChatReply
namespace Reply

variable {framed : Bool}

/-- Further lines of an item add their runs to it and change nothing else. -/
theorem ItemLines.item_extend (item : ItemLines) (lines : List Text) :
    (item.extend lines).item =
      item.item.map fun block =>
        { block with continuation :=
            block.continuation ++ lines.map fun line => Run.ofLine (trim line) } := by
  obtain ⟨kind, first, continuation, starts⟩ := item
  cases kind with
  | bullet => simp [ItemLines.item, extend, continuationRuns, Except.map]
  | ordered =>
      cases read : Numeral.read ((orderedItem? first).get starts).1 <;>
        simp [ItemLines.item, extend, continuationRuns, Except.map, read]

namespace Stream

/-- The open part is one block at most. -/
theorem length_close_le {pending : Pending} {closed : List Block}
    (closes : pending.close framed = .ok closed) : closed.length ≤ 1 := by
  cases pending with
  | idle =>
      obtain rfl := Except.ok.inj closes
      simp
  | text runs | fence code =>
      obtain rfl := Except.ok.inj closes
      split <;> simp
  | item item =>
      obtain ⟨block, -, rfl⟩ := map_eq_ok_iff.mp closes
      simp

/-- What is open when a stream goes on to an end could have ended at once. -/
theorem close_of_endingAfter {stream : Stream} {lines : List Text} {ending : Ending}
    (ends : stream.endingAfter framed lines = .ok ending) :
    ∃ closed, stream.pending.close framed = .ok closed := by
  obtain ⟨blocks, pending⟩ := stream
  cases pending with
  | idle => exact ⟨_, rfl⟩
  | text runs => exact ⟨_, rfl⟩
  | fence code => exact ⟨_, rfl⟩
  | item item =>
      rw [endingAfter_item, ItemLines.item_extend] at ends
      obtain ⟨_, extended, -⟩ := bind_eq_ok_iff.mp ends
      obtain ⟨block, is_item, -⟩ := map_eq_ok_iff.mp extended
      exact ⟨[.item block], map_eq_ok_iff.mpr ⟨block, is_item, rfl⟩⟩

/-- The blocks that a stream has found stay in front of the document. -/
theorem blocks_isPrefix_of_endingAfter {stream : Stream} {lines : List Text} {ending : Ending}
    (ends : stream.endingAfter framed lines = .ok ending) : stream.blocks <+: ending.document := by
  have whole : stream = (Stream.mk [] stream.pending).after stream.blocks := by simp [after]
  rw [whole, endingAfter_after] at ends
  obtain ⟨own, -, rfl⟩ := map_eq_ok_iff.mp ends
  exact List.prefix_append stream.blocks own.document

end Stream

/-- What comes after a line feed leaves all blocks of a reply alone but the last one. -/
theorem dropLast_isPrefix_of_parse_append {first second : Text} {longer : Document}
    (complete : first.getLast? ≠ some '\r')
    (parsed : parse framed (first ++ '\n' :: second) = .ok longer) :
    ∃ shorter, parse framed first = .ok shorter ∧ shorter.dropLast <+: longer := by
  rw [parse_eq_map_endingAfter, lines_append_newline complete, Stream.endingAfter_append] at parsed
  obtain ⟨whole, ends, rfl⟩ := map_eq_ok_iff.mp parsed
  obtain ⟨stream, read, ends⟩ := bind_eq_ok_iff.mp ends
  obtain ⟨closed, closes⟩ := Stream.close_of_endingAfter ends
  have finished : stream.finish framed = .ok (stream.blocks ++ closed) :=
    map_eq_ok_iff.mpr ⟨closed, closes, rfl⟩
  refine ⟨stream.blocks ++ closed, ?_, ?_⟩
  · rw [parse_eq_bind_finish, read]
    exact finished
  · have at_most := Stream.length_close_le closes
    have unchanged : (stream.blocks ++ closed).dropLast <+: stream.blocks := by
      cases closed with
      | nil => simpa using List.dropLast_prefix stream.blocks
      | cons block others =>
          obtain rfl : others = [] := by simpa using at_most
          simp
    exact unchanged.trans (Stream.blocks_isPrefix_of_endingAfter ends)

/-- A line that continues an item changes the item and not the header before it. -/
theorem dropLast_isPrefix_of_parse_append_item :
    ("### t\n- a\nb".toList).getLast? ≠ some '\r' ∧
      parse true ("### t\n- a\nb".toList ++ '\n' :: "c\n\n1. d".toList) =
        .ok [.header ['t'],
          .item ⟨.bullet, [⟨['a'], .plain⟩], [[⟨['b'], .plain⟩], [⟨['c'], .plain⟩]]⟩,
          .item ⟨.number 1, [⟨['d'], .plain⟩], []⟩] ∧
      ∃ shorter, parse true "### t\n- a\nb".toList = .ok shorter ∧
        shorter.dropLast <+:
          [.header ['t'],
            .item ⟨.bullet, [⟨['a'], .plain⟩], [[⟨['b'], .plain⟩], [⟨['c'], .plain⟩]]⟩,
            .item ⟨.number 1, [⟨['d'], .plain⟩], []⟩] := by
  have parsed : parse true ("### t\n- a\nb".toList ++ '\n' :: "c\n\n1. d".toList) =
      .ok [.header ['t'],
        .item ⟨.bullet, [⟨['a'], .plain⟩], [[⟨['b'], .plain⟩], [⟨['c'], .plain⟩]]⟩,
        .item ⟨.number 1, [⟨['d'], .plain⟩], []⟩] := by
    decide +kernel
  exact ⟨by decide, parsed, dropLast_isPrefix_of_parse_append (by decide) parsed⟩

/-- A scan that leaves no fence open comes with a stream that leaves none open. -/
theorem isFence_eq_false_of_scan {first : Text} {stream : Stream}
    (unfenced : ∀ scanned, scan framed first = .ok scanned → scanned.fenced = false)
    (read : Stream.feedAll framed ⟨[], .idle⟩ (lines first) = .ok stream) :
    stream.pending.isFence = false := by
  obtain ⟨blocks, pending⟩ := stream
  cases pending with
  | idle | text | item => rfl
  | fence code =>
      have alike := map_ending_scan framed first
      rw [Stream.endingAfter, read] at alike
      obtain ⟨scanned, scans, same⟩ := map_eq_ok_iff.mp alike
      have fenced : scanned.fenced = true := congrArg Ending.fenced same
      simp [unfenced scanned scans] at fenced

/-- A blank line outside fences divides a reply: the blocks of the first part come first, and
nothing of it reaches into the second part. -/
theorem parse_append_blank_line {first : Text} (complete : first.getLast? ≠ some '\r')
    (unfenced : ∀ scanned, scan framed first = .ok scanned → scanned.fenced = false)
    (second : Text) :
    parse framed (first ++ '\n' :: '\n' :: second) = do
      let before ← parse framed first
      let behind ← parse framed second
      return before ++ behind := by
  rw [parse_eq_map_endingAfter framed (first ++ _), lines_append_newline complete, lines_newline,
    Stream.endingAfter_append, parse_eq_bind_finish framed first]
  cases read : Stream.feedAll framed ⟨[], .idle⟩ (lines first) with
  | error error => rfl
  | ok stream =>
      have divided : stream.feed framed [] =
          (stream.finish framed).map fun blocks => ⟨blocks, .idle⟩ :=
        Stream.feed_of_isBlankText (isFence_eq_false_of_scan unfenced read) rfl
      simp only [Except.bind, Stream.endingAfter_cons, divided]
      cases stream.finish framed with
      | error error => rfl
      | ok document =>
          have shifted : (Stream.mk document .idle).endingAfter framed (lines second) =
              ((Stream.mk [] .idle).endingAfter framed (lines second)).map
                (Ending.after document) := by
            simpa [Stream.after] using Stream.endingAfter_after document ⟨[], .idle⟩ (lines second)
          simp only [Except.map, shifted, parse_eq_map_endingAfter framed second]
          cases (Stream.mk [] .idle).endingAfter framed (lines second) with
          | error error => rfl
          | ok ending => rfl

/-- An item after a blank line is the same whether a list of its kind stands before or nothing. -/
theorem parse_append_blank_line_items :
    ("- a\nb".toList).getLast? ≠ some '\r' ∧
      (∀ scanned, scan true "- a\nb".toList = .ok scanned → scanned.fenced = false) ∧
      parse true ("- a\nb".toList ++ '\n' :: '\n' :: "- c\n1. d".toList) = do
        let before ← parse true "- a\nb".toList
        let behind ← parse true "- c\n1. d".toList
        return before ++ behind := by
  have scans : (scan true "- a\nb".toList).map Scan.fenced = .ok false := by decide +kernel
  have unfenced : ∀ scanned, scan true "- a\nb".toList = .ok scanned → scanned.fenced = false := by
    intro scanned is_scan
    rw [is_scan] at scans
    exact Except.ok.inj scans
  exact ⟨by decide, unfenced, parse_append_blank_line (by decide) unfenced _⟩

end Reply
end ChatReply
