import ChatReply.Proofs.PhysicalLine
import ChatReply.Proofs.Stream

/-!
# A scan and a stream find the same blocks

A scan looks one line ahead and takes lists as a whole, a stream reads each line once. Between two
blocks both know the same: the scan has only added the space that joins the open paragraph to the
next line, which the stream adds when it reads that line.
-/

namespace ChatReply
namespace Reply

variable {framed : Bool}

namespace Scan

/-- How a reply ends whose scan ends here. -/
def ending (framed : Bool) (scan : Scan) : Ending :=
  ⟨scan.fenced, (scan.finish framed).blocks⟩

/-- The block of an open paragraph, if it has runs. -/
def paragraphBlocks (paragraph : List Run) : List Block :=
  if paragraph = [] then [] else [.paragraph paragraph]

/-- The block of an open fence, if it has lines. -/
def codeBlocks (framed : Bool) (code : List Text) : List Block :=
  if code = [] then [] else [.code (.ofCode (body code) framed)]

theorem flush_eq (scan : Scan) :
    scan.flush =
      { scan with blocks := scan.blocks ++ paragraphBlocks scan.paragraph, paragraph := [] } := by
  obtain ⟨blocks, fenced, paragraph, code⟩ := scan
  cases paragraph with
  | nil => simp [flush, paragraphBlocks]
  | cons run runs => simp [flush, paragraphBlocks, push]

theorem emitCode_eq (scan : Scan) :
    scan.emitCode framed =
      { scan with blocks := scan.blocks ++ codeBlocks framed scan.code, code := [] } := by
  obtain ⟨blocks, fenced, paragraph, code⟩ := scan
  cases code with
  | nil => simp [emitCode, codeBlocks]
  | cons line lines => simp [emitCode, codeBlocks, push]

/-- Whether a line opens a fence, and the scan behind it. -/
theorem openFence_eq (scan : Scan) (line : Text) :
    scan.openFence line =
      if isFence line = true ∧ scan.fenced = false then
        (true, ⟨scan.blocks ++ paragraphBlocks scan.paragraph, true, [], []⟩)
      else (false, scan) := by
  cases marks : isFence line <;> cases fenced : scan.fenced <;>
    simp [openFence, marks, fenced, flush_eq]

/-- Whether a line closes the fence, and the scan behind it. -/
theorem closeFence_eq (scan : Scan) (line : Text) :
    scan.closeFence framed line =
      if isFence line = true ∧ scan.fenced = true then
        (true, ⟨scan.blocks ++ codeBlocks framed scan.code, false, scan.paragraph, []⟩)
      else (false, scan) := by
  cases marks : isFence line <;> cases fenced : scan.fenced <;>
    simp [closeFence, marks, fenced, emitCode_eq]

/-- Outside a fence, and nowhere else, a fence is opened by a line that is one. -/
theorem opens_iff {scan opened : Scan} {line : Text} :
    scan.openFence line = (true, opened) ↔
      isFence line = true ∧ scan.fenced = false ∧
        ⟨scan.blocks ++ paragraphBlocks scan.paragraph, true, [], []⟩ = opened := by
  rw [openFence_eq]
  split <;> simp_all

/-- A line that opens no fence leaves the scan as it is. -/
theorem eq_of_openFence {scan same : Scan} {line : Text}
    (refused : scan.openFence line = (false, same)) : scan = same := by
  rw [openFence_eq] at refused
  split at refused <;> simp_all

/-- A line that closes no fence leaves the scan as it is. -/
theorem eq_of_closeFence {scan same : Scan} {line : Text}
    (refused : scan.closeFence framed line = (false, same)) : scan = same := by
  rw [closeFence_eq] at refused
  split at refused <;> simp_all

theorem blocks_finish (scan : Scan) :
    (scan.finish framed).blocks =
      scan.blocks ++ (if scan.fenced then codeBlocks framed scan.code else []) ++
        paragraphBlocks scan.paragraph := by
  rw [finish]
  split
  · rename_i fenced
    simp [flush_eq, emitCode_eq, fenced]
  · rename_i unfenced
    simp [flush_eq, unfenced]

end Scan

namespace Stream

theorem turn_text (framed : Bool) (blocks added : List Block) (runs : List Run) (next : Pending) :
    (Stream.mk blocks (.text runs)).turn framed added next =
      .ok ⟨blocks ++ Scan.paragraphBlocks runs ++ added, next⟩ := rfl

theorem turn_fence (framed : Bool) (blocks added : List Block) (code : List Text) (next : Pending) :
    (Stream.mk blocks (.fence code)).turn framed added next =
      .ok ⟨blocks ++ Scan.codeBlocks framed code ++ added, next⟩ := rfl

end Stream

/-- A scan that stands before some lines knows what a stream knows there. -/
inductive Agrees : Scan → Stream → List Text → Prop
  | idle (blocks : List Block) (lines : List Text) :
      Agrees { blocks } ⟨blocks, .idle⟩ lines
  | text (blocks : List Block) (runs : List Run) (lines : List Text) :
      Agrees { blocks, paragraph := runs ++ Scan.joint lines } ⟨blocks, .text runs⟩ lines
  | fence (blocks : List Block) (code lines : List Text) :
      Agrees { blocks, fenced := true, code } ⟨blocks, .fence code⟩ lines

namespace Agrees

variable {scan : Scan} {stream : Stream} {line : Text} {rest : List Text}

/-- Where no lines are left, both end alike. -/
theorem ending_eq (agrees : Agrees scan stream []) :
    stream.ending framed = .ok (scan.ending framed) := by
  rw [Stream.ending, Scan.ending, Scan.blocks_finish]
  cases agrees with
  | idle blocks => simp [Stream.finish_idle, Scan.paragraphBlocks, Except.map]
  | text blocks runs =>
      simp [Stream.finish, Stream.Pending.close, Scan.paragraphBlocks, Scan.joint, Except.map]
  | fence blocks code =>
      simp [Stream.finish, Stream.Pending.close, Scan.paragraphBlocks, Scan.codeBlocks, Except.map]

/-- Inside a fence both close it or both keep the line. -/
theorem fenced_step (agrees : Agrees scan stream (line :: rest)) (fenced : scan.fenced = true) :
    ∃ next, stream.feed framed line = .ok next ∧
      Agrees (scan.fencedLine framed line) next rest := by
  cases agrees with
  | idle | text => simp at fenced
  | fence blocks code =>
      simp only [Stream.feed_fence, Scan.fencedLine, Scan.closeFence_eq, and_true]
      cases isFence (trim line) with
      | true =>
          refine ⟨_, Stream.turn_fence framed .., ?_⟩
          simp only [if_true, List.append_nil]
          exact idle _ rest
      | false => exact ⟨_, rfl, fence blocks (code ++ [line]) rest⟩

/-- Outside a fence a scan knows its blocks and its open paragraph. -/
theorem eq_of_unfenced {lines : List Text} (agrees : Agrees scan stream lines)
    (unfenced : ¬scan.fenced = true) :
    scan = { blocks := scan.blocks, paragraph := scan.paragraph } := by
  cases agrees with
  | idle | text => rfl
  | fence => simp at unfenced

/-- Outside a fence a stream has the open paragraph of the scan once it sees the next line. -/
theorem feed_eq (agrees : Agrees scan stream (line :: rest)) (unfenced : ¬scan.fenced = true) :
    stream.feed framed line =
      (Stream.mk scan.blocks .idle).feedText framed scan.paragraph line := by
  cases agrees with
  | idle => rfl
  | text blocks runs =>
      have joined_eq : Stream.joined runs line = runs ++ Scan.joint (line :: rest) := by
        cases blank : isBlankText line <;> simp [Stream.joined, Scan.joint, blank]
      rw [Stream.feed_text, joined_eq]
      rfl
  | fence => simp at unfenced

/-- On a code fence both end the paragraph and open the fence. -/
theorem open_step (framed : Bool) {opened : Scan} (agrees : Agrees scan stream (line :: rest))
    (opens : scan.openFence (trim line) = (true, opened)) :
    ∃ next, stream.feed framed line = .ok next ∧ Agrees opened next rest := by
  obtain ⟨is_fence, unfenced, rfl⟩ := Scan.opens_iff.mp opens
  refine ⟨⟨scan.blocks ++ Scan.paragraphBlocks scan.paragraph, .fence []⟩, ?_, fence _ [] rest⟩
  rw [agrees.feed_eq (Bool.eq_false_iff.mp unfenced), Stream.feedText, if_pos is_fence,
    Stream.turn_text, List.append_nil]

/-- An item ends the open paragraph before the stream reads it. -/
theorem item_step {kind : ListKind} (agrees : Agrees scan stream (line :: rest))
    (unfenced : ¬scan.fenced = true) (found : itemKind? line = some kind) :
    stream.endingAfter framed (line :: rest) =
      (Stream.mk scan.flush.blocks .idle).endingAfter framed (line :: rest) := by
  rw [Stream.endingAfter_cons, Stream.endingAfter_cons, agrees.feed_eq unfenced,
    Stream.feedText_of_itemKind? _ _ found, Stream.feed_idle_of_itemKind? _ found,
    Stream.turn_text, List.append_nil, Scan.flush_eq]

/-- On a line of no other block both end the paragraph or both go on with it. -/
theorem plain_step (framed : Bool) (blocks : List Block) (paragraph : List Run) {line : Text}
    (rest : List Text) (no_fence : isFence (trim line) = false)
    (no_item : itemKind? line = none) :
    ∃ next, (Stream.mk blocks .idle).feedText framed paragraph line = .ok next ∧
      Agrees (Scan.plainLine { blocks, paragraph } line rest) next rest := by
  simp only [Stream.feedText, no_fence, ItemLines.start?_eq_none no_item, Scan.plainLine,
    Scan.flush_eq, Scan.push, Bool.false_eq_true, if_false]
  cases header? line with
  | some text => exact ⟨_, Stream.turn_text framed .., idle _ rest⟩
  | none =>
      cases isSeparator line with
      | true => exact ⟨_, Stream.turn_text framed .., idle _ rest⟩
      | false =>
          cases isBlankText line with
          | true =>
              refine ⟨_, Stream.turn_text framed .., ?_⟩
              simp only [if_true, Bool.false_eq_true, if_false, List.append_nil]
              exact idle _ rest
          | false =>
              refine ⟨_, rfl, ?_⟩
              simp only [Bool.false_eq_true, if_false, Scan.addRuns, ← List.append_assoc]
              exact text blocks (paragraph ++ Run.ofLine line) rest

end Agrees

/-- A scan and a stream that agree before some lines end alike after them. -/
theorem map_ending_run {scan : Scan} {stream : Stream} {lines : List Text}
    (agrees : Agrees scan stream lines) :
    (Scan.run framed scan lines).map (Scan.ending framed) = stream.endingAfter framed lines := by
  -- The induction follows the scan, which takes a list in one step and a stream line by line.
  fun_induction Scan.run framed scan lines generalizing stream with
  | case1 scan => exact agrees.ending_eq.symm
  | case2 scan line rest fenced ih =>
      obtain ⟨next, fed, still⟩ := agrees.fenced_step fenced
      rw [Stream.endingAfter_cons, fed]
      exact ih still
  | case3 scan line rest unfenced opened opens ih =>
      obtain ⟨next, fed, still⟩ := agrees.open_step framed opens
      rw [Stream.endingAfter_cons, fed]
      exact ih still
  | case4 scan line rest unfenced same kind found no_fence error refused =>
      rw [agrees.item_step unfenced found, Stream.endingAfter_takeItems _ kind, refused]
      rfl
  | case5 scan line rest unfenced same kind found no_fence blocks items ih =>
      obtain rfl := Scan.eq_of_openFence no_fence
      rw [agrees.item_step unfenced found, Stream.endingAfter_takeItems _ kind, items]
      apply ih
      rw [Scan.flush_eq, agrees.eq_of_unfenced unfenced]
      exact .idle _ _
  | case6 scan line rest unfenced same no_item no_fence ih =>
      obtain rfl := Scan.eq_of_openFence no_fence
      have no_fence : isFence (trim line) = false := by
        simpa [Scan.openFence, unfenced] using no_fence
      obtain ⟨next, fed, still⟩ :=
        Agrees.plain_step framed scan.blocks scan.paragraph rest no_fence no_item
      rw [← agrees.eq_of_unfenced unfenced] at still
      rw [Stream.endingAfter_cons, agrees.feed_eq unfenced, fed]
      exact ih still

/-- The scan of a reply and the stream of its lines end alike, also where nothing is scanned. -/
theorem map_ending_scan (framed : Bool) (text : Text) :
    (scan framed text).map (Scan.ending framed) =
      (Stream.mk [] .idle).endingAfter framed (lines text) := by
  unfold scan
  split
  · rename_i blank
    have blank_lines : ∀ line ∈ lines text, isBlankText line = true := by
      intro line member
      simp only [isBlankText, List.all_eq_true] at blank ⊢
      exact fun c c_mem => blank c (subset_of_mem_lines member c_mem)
    rw [Stream.endingAfter_idle_of_isBlankText [] blank_lines]
    exact (Agrees.idle [] []).ending_eq.symm
  · exact map_ending_run (.idle [] (lines text))

theorem parse_eq_map_endingAfter (framed : Bool) (text : Text) :
    parse framed text =
      ((Stream.mk [] .idle).endingAfter framed (lines text)).map Ending.document := by
  rw [← map_ending_scan, parse]
  cases scan framed text with
  | error error => rfl
  | ok scanned => rfl

theorem parse_eq_bind_finish (framed : Bool) (text : Text) :
    parse framed text =
      (Stream.feedAll framed ⟨[], .idle⟩ (lines text)).bind (Stream.finish framed) := by
  rw [parse_eq_map_endingAfter, Stream.map_document_endingAfter]

/-- A reply that is parsed as a whole has the document that its lines give one by one. -/
theorem parse_eq_parse_stream (framed : Bool) (text : Text) :
    parse framed text = Stream.parse framed text := by
  rw [parse_eq_bind_finish, Stream.parse]
  cases Stream.feedAll framed ⟨[], .idle⟩ (lines text) with
  | error error => rfl
  | ok stream => rfl

end Reply
end ChatReply
