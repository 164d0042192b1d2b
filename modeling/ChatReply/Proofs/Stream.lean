import ChatReply.Proofs.LineForm
import ChatReply.Reply.Stream

/-!
# Laws of a stream

Reading a line ends what is open or goes on with it, and never looks at the blocks from before. A
list that is divided into its items first and a list that is read line by line give the same blocks:
between two items the stream could as well be idle.
-/

namespace ChatReply

/-! ## Outcomes -/

section

variable {Error Value Result : Type} {outcome : Except Error Value} {result : Result}

theorem map_eq_ok_iff {change : Value → Result} :
    outcome.map change = .ok result ↔ ∃ value, outcome = .ok value ∧ change value = result := by
  cases outcome <;> simp [Except.map]

theorem bind_eq_ok_iff {next : Value → Except Error Result} :
    outcome.bind next = .ok result ↔ ∃ value, outcome = .ok value ∧ next value = .ok result := by
  cases outcome <;> simp [Except.bind]

theorem bind_eq_error_iff {next : Value → Except Error Result} {error : Error} :
    outcome.bind next = .error error ↔
      outcome = .error error ∨ ∃ value, outcome = .ok value ∧ next value = .error error := by
  cases outcome <;> simp [Except.bind]

end

namespace Reply

/-- How a reply ends: whether its last fence is left open, and all its blocks. -/
structure Ending where
  /-- Whether a code fence is open. -/
  fenced : Bool
  /-- The blocks of the reply. -/
  document : Document

/-- The ending with further blocks in front of the document. -/
def Ending.after (front : List Block) (ending : Ending) : Ending :=
  { ending with document := front ++ ending.document }

/-- An item with further lines. -/
def ItemLines.extend (item : ItemLines) (lines : List Text) : ItemLines :=
  { item with continuation := item.continuation ++ lines }

namespace Stream

/-- The open part is a code fence. -/
@[simp]
def Pending.isFence : Pending → Bool
  | fence _ => true
  | _ => false

/-- How a reply ends whose stream ends here. -/
def ending (framed : Bool) (stream : Stream) : Except Numeral.TooLong Ending :=
  (stream.finish framed).map fun document => ⟨stream.pending.isFence, document⟩

/-- How a reply ends whose stream goes on with some lines and ends after them. -/
def endingAfter (framed : Bool) (stream : Stream) (lines : List Text) :
    Except Numeral.TooLong Ending :=
  (stream.feedAll framed lines).bind (ending framed)

variable {framed : Bool}

/-! ## Rows of lines -/

@[simp]
theorem endingAfter_nil (stream : Stream) :
    stream.endingAfter framed [] = stream.ending framed := rfl

theorem endingAfter_cons (stream : Stream) (line : Text) (lines : List Text) :
    stream.endingAfter framed (line :: lines) =
      (stream.feed framed line).bind fun next => next.endingAfter framed lines := by
  rw [endingAfter, feedAll]
  cases stream.feed framed line with
  | error error => rfl
  | ok next => rfl

/-- A stream folds the lines that it reads. -/
theorem feedAll_eq_foldlM (stream : Stream) (lines : List Text) :
    stream.feedAll framed lines = lines.foldlM (feed framed) stream := by
  induction lines generalizing stream with
  | nil => rfl
  | cons line lines ih =>
      rw [feedAll, List.foldlM_cons]
      cases stream.feed framed line with
      | error error => rfl
      | ok next => exact ih next

/-- A stream may rest between two rows of lines. -/
theorem endingAfter_append (stream : Stream) (first second : List Text) :
    stream.endingAfter framed (first ++ second) =
      (stream.feedAll framed first).bind fun next => next.endingAfter framed second := by
  rw [endingAfter, feedAll_eq_foldlM, List.foldlM_append, ← feedAll_eq_foldlM]
  cases stream.feedAll framed first with
  | error error => rfl
  | ok next => exact congrArg (·.bind (ending framed)) (feedAll_eq_foldlM next second).symm

theorem map_document_endingAfter (stream : Stream) (lines : List Text) :
    (stream.endingAfter framed lines).map Ending.document =
      (stream.feedAll framed lines).bind (finish framed) := by
  rw [endingAfter]
  cases stream.feedAll framed lines with
  | error error => rfl
  | ok next =>
      change (next.ending framed).map Ending.document = next.finish framed
      rw [ending]
      cases next.finish framed with
      | error error => rfl
      | ok document => rfl

/-! ## One line -/

theorem feed_idle (blocks : List Block) (line : Text) :
    (Stream.mk blocks .idle).feed framed line =
      (Stream.mk blocks .idle).feedText framed [] line := rfl

theorem feed_text (blocks : List Block) (runs : List Run) (line : Text) :
    (Stream.mk blocks (.text runs)).feed framed line =
      (Stream.mk blocks (.text runs)).feedText framed (joined runs line) line := rfl

theorem feed_item (blocks : List Block) (item : ItemLines) (line : Text) :
    (Stream.mk blocks (.item item)).feed framed line =
      if isBlankText line then (Stream.mk blocks (.item item)).turn framed [] .idle
      else
        match ItemLines.start? line with
        | some next => (Stream.mk blocks (.item item)).turn framed [] (.item next)
        | none => .ok ⟨blocks, .item (item.extend [line])⟩ := rfl

theorem feed_fence (blocks : List Block) (code : List Text) (line : Text) :
    (Stream.mk blocks (.fence code)).feed framed line =
      if Reply.isFence (trim line) then (Stream.mk blocks (.fence code)).turn framed [] .idle
      else .ok ⟨blocks, .fence (code ++ [line])⟩ := rfl

theorem turn_nil (stream : Stream) (next : Pending) :
    stream.turn framed [] next = (stream.finish framed).map fun blocks => ⟨blocks, next⟩ := by
  rw [turn, finish]
  cases stream.pending.close framed with
  | error error => rfl
  | ok closed => simp [Except.map]

theorem finish_idle (blocks : List Block) :
    (Stream.mk blocks .idle).finish framed = .ok blocks := by
  simp [finish, Pending.close, Except.map]

theorem finish_item (blocks : List Block) (item : ItemLines) :
    (Stream.mk blocks (.item item)).finish framed =
      item.item.map fun block => blocks ++ [.item block] := by
  rw [finish, Pending.close]
  cases item.item <;> rfl

theorem feedText_of_isBlankText (stream : Stream) (runs : List Run) {line : Text}
    (blank : isBlankText line = true) :
    stream.feedText framed runs line =
      (Stream.mk stream.blocks (.text runs)).turn framed [] .idle := by
  simp [feedText, isFence_of_isBlankText blank,
    ItemLines.start?_eq_none (itemKind?_of_isBlankText blank), header?_of_isBlankText blank,
    isSeparator_of_isBlankText blank, blank]

theorem feedText_of_itemKind? (stream : Stream) (runs : List Run) {line : Text} {kind : ListKind}
    (found : itemKind? line = some kind) :
    stream.feedText framed runs line =
      (Stream.mk stream.blocks (.text runs)).turn framed []
        (.item ⟨kind, line, [], starts_of_itemKind? found⟩) := by
  simp [feedText, isFence_eq_false_of_itemKind? found, ItemLines.start?_eq_some found]

/-- Outside fences a blank line ends what is open. -/
theorem feed_of_isBlankText {stream : Stream} (unfenced : stream.pending.isFence = false)
    {line : Text} (blank : isBlankText line = true) :
    stream.feed framed line = (stream.finish framed).map fun blocks => ⟨blocks, .idle⟩ := by
  obtain ⟨blocks, pending⟩ := stream
  cases pending with
  | idle =>
      rw [feed_idle, feedText_of_isBlankText _ _ blank, turn_nil]
      rfl
  | text runs =>
      have unjoined : joined runs line = runs := if_pos blank
      rw [feed_text, feedText_of_isBlankText _ _ blank, turn_nil, unjoined]
  | item item => rw [feed_item, if_pos blank, turn_nil]
  | fence code => simp at unfenced

theorem feed_idle_of_isBlankText (blocks : List Block) {line : Text}
    (blank : isBlankText line = true) :
    (Stream.mk blocks .idle).feed framed line = .ok ⟨blocks, .idle⟩ := by
  rw [feed_of_isBlankText rfl blank, finish_idle]
  rfl

theorem feed_idle_of_itemKind? (blocks : List Block) {line : Text} {kind : ListKind}
    (found : itemKind? line = some kind) :
    (Stream.mk blocks .idle).feed framed line =
      .ok ⟨blocks, .item ⟨kind, line, [], starts_of_itemKind? found⟩⟩ := by
  rw [feed_idle, feedText_of_itemKind? _ _ found, turn_nil]
  simp [finish, Pending.close, Except.map]

theorem endingAfter_idle_of_isBlankText (blocks : List Block) {lines : List Text}
    (blank : ∀ line ∈ lines, isBlankText line = true) :
    (Stream.mk blocks .idle).endingAfter framed lines =
      (Stream.mk blocks .idle).ending framed := by
  induction lines with
  | nil => rfl
  | cons line lines ih =>
      rw [endingAfter_cons, feed_idle_of_isBlankText blocks (blank line List.mem_cons_self)]
      exact ih fun later member => blank later (List.mem_cons_of_mem _ member)

/-! ## Lists -/

/-- A line that continues no item is read alike after an item and between two blocks. -/
theorem feed_of_not_continuesItem (framed : Bool) {line : Text}
    (complete : continuesItem line = false) :
    ∃ next, (∀ blocks, (Stream.mk blocks .idle).feed framed line = .ok ⟨blocks, next⟩) ∧
      ∀ blocks item, (Stream.mk blocks (.item item)).feed framed line =
        ((Stream.mk blocks (.item item)).finish framed).map fun blocks => ⟨blocks, next⟩ := by
  cases blank : isBlankText line with
  | true =>
      exact ⟨.idle, fun blocks => feed_idle_of_isBlankText blocks blank,
        fun blocks item => feed_of_isBlankText rfl blank⟩
  | false =>
      cases found : itemKind? line with
      | none => simp [continuesItem_iff.mpr ⟨blank, found⟩] at complete
      | some kind =>
          refine ⟨_, fun blocks => feed_idle_of_itemKind? blocks found, fun blocks item => ?_⟩
          simp [feed_item, blank, ItemLines.start?_eq_some found, turn_nil]

/-- Where an item cannot go on, it may be ended before the next line is read. -/
theorem endingAfter_complete_item (blocks : List Block) (item : ItemLines) {lines : List Text}
    (complete : lines.head?.any continuesItem = false) :
    (Stream.mk blocks (.item item)).endingAfter framed lines =
      item.item.bind fun block =>
        (Stream.mk (blocks ++ [.item block]) .idle).endingAfter framed lines := by
  cases lines with
  | nil =>
      simp only [endingAfter_nil, ending, finish_idle, finish_item]
      cases item.item <;> rfl
  | cons line lines =>
      obtain ⟨next, after_block, after_item⟩ := feed_of_not_continuesItem framed complete
      simp only [endingAfter_cons, after_block, after_item, finish_item]
      cases item.item <;> rfl

/-- An open item takes the lines that continue it. -/
theorem endingAfter_continued_item (blocks : List Block) (item : ItemLines) (lines : List Text) :
    (Stream.mk blocks (.item item)).endingAfter framed lines =
      (Stream.mk blocks (.item (item.extend (lines.takeWhile continuesItem)))).endingAfter framed
        (lines.dropWhile continuesItem) := by
  induction lines generalizing item with
  | nil => simp [ItemLines.extend]
  | cons line lines ih =>
      cases continues : continuesItem line with
      | false => simp [continues, ItemLines.extend]
      | true =>
          obtain ⟨filled, no_item⟩ := continuesItem_iff.mp continues
          have taken : (Stream.mk blocks (.item item)).feed framed line =
              .ok ⟨blocks, .item (item.extend [line])⟩ := by
            simp [feed_item, filled, ItemLines.start?_eq_none no_item]
          rw [endingAfter_cons, taken, List.takeWhile_cons_of_pos continues,
            List.dropWhile_cons_of_pos continues]
          simpa [ItemLines.extend, Except.bind] using ih (item.extend [line])

/-- An open item ends after the lines that continue it. -/
theorem endingAfter_item (blocks : List Block) (item : ItemLines) (lines : List Text) :
    (Stream.mk blocks (.item item)).endingAfter framed lines =
      (item.extend (lines.takeWhile continuesItem)).item.bind fun block =>
        (Stream.mk (blocks ++ [.item block]) .idle).endingAfter framed
          (lines.dropWhile continuesItem) := by
  have complete : (lines.dropWhile continuesItem).head?.any continuesItem = false := by
    have stops := List.head?_dropWhile_not continuesItem lines
    cases next : (lines.dropWhile continuesItem).head? with
    | none => rfl
    | some line => simpa [next] using stops
  rw [endingAfter_continued_item, endingAfter_complete_item _ _ complete]

/-- Reading a list line by line gives the items into which its lines are divided. -/
theorem endingAfter_takeItems (blocks : List Block) (kind : ListKind) (lines : List Text) :
    (Stream.mk blocks .idle).endingAfter framed lines =
      (ItemLines.blocks (takeItems kind lines).1).bind fun items =>
        (Stream.mk (blocks ++ items) .idle).endingAfter framed (takeItems kind lines).2 := by
  fun_induction takeItems kind lines generalizing blocks with
  | case1 => simp [ItemLines.blocks, Except.bind]
  | case2 line rest starts items remaining step ih =>
      rw [endingAfter_cons, feed_idle_of_itemKind? _ (itemKind?_eq_some_iff.mpr starts)]
      simp only [Except.bind]
      rw [endingAfter_item, ItemLines.extend, List.nil_append, ItemLines.blocks]
      rw [step] at ih
      cases ItemLines.item ⟨kind, line, rest.takeWhile continuesItem, starts⟩ with
      | error error => rfl
      | ok block =>
          simp only [Except.bind]
          rw [ih (blocks ++ [Block.item block])]
          cases ItemLines.blocks items with
          | error error => rfl
          | ok added => simp [Except.map, Except.bind]
  | case3 line rest _ gap ih =>
      -- The blank line only decides where the list ends, and an idle stream does not notice.
      have blank : isBlankText line = true := (Bool.and_eq_true_iff.mp gap).1
      rw [endingAfter_cons, feed_idle_of_isBlankText _ blank]
      exact ih blocks
  | case4 line rest => simp [ItemLines.blocks, Except.bind]

/-! ## What a line does -/

/-- What a line does to the open part. -/
inductive Effect where
  /-- A part ends, blocks come behind it, and another part is open. -/
  | turn (closing : Pending) (added : List Block) (next : Pending)
  /-- The open part goes on. -/
  | keep (next : Pending)

/-- The stream with the given blocks after a line that has the effect. -/
def Effect.apply (framed : Bool) (blocks : List Block) : Effect → Except Numeral.TooLong Stream
  | turn closing added next => (Stream.mk blocks closing).turn framed added next
  | keep next => .ok ⟨blocks, next⟩

/-- What a line does outside fences and items. `runs` are those of the open paragraph. -/
inductive TextStep (line : Text) (runs : List Run) : Effect → Prop
  | fence (marks : Reply.isFence (trim line) = true) :
      TextStep line runs (.turn (.text runs) [] (.fence []))
  | item {kind : ListKind} (found : itemKind? line = some kind) :
      TextStep line runs
        (.turn (.text runs) [] (.item ⟨kind, line, [], starts_of_itemKind? found⟩))
  | header {text : Text} (found : header? line = some text) :
      TextStep line runs (.turn (.text runs) [.header text] .idle)
  | separator (found : isSeparator line = true) :
      TextStep line runs (.turn (.text runs) [.separator] .idle)
  | blank (blank : isBlankText line = true) : TextStep line runs (.turn (.text runs) [] .idle)
  | text (no_fence : Reply.isFence (trim line) = false) (no_item : itemKind? line = none)
      (no_header : header? line = none) (no_separator : isSeparator line = false)
      (filled : isBlankText line = false) :
      TextStep line runs (.keep (.text (runs ++ Run.ofLine line)))

/-- What a line does to each open part. -/
inductive Step (line : Text) : Pending → Effect → Prop
  | idle {effect : Effect} (step : TextStep line [] effect) : Step line .idle effect
  | text {runs : List Run} {effect : Effect} (step : TextStep line (joined runs line) effect) :
      Step line (.text runs) effect
  | itemEnds {item : ItemLines} (blank : isBlankText line = true) :
      Step line (.item item) (.turn (.item item) [] .idle)
  | itemFollows {item : ItemLines} {kind : ListKind} (found : itemKind? line = some kind) :
      Step line (.item item)
        (.turn (.item item) [] (.item ⟨kind, line, [], starts_of_itemKind? found⟩))
  | itemGoesOn {item : ItemLines} (continues : continuesItem line = true) :
      Step line (.item item) (.keep (.item (item.extend [line])))
  | fenceEnds {code : List Text} (marks : Reply.isFence (trim line) = true) :
      Step line (.fence code) (.turn (.fence code) [] .idle)
  | fenceGoesOn {code : List Text} (inside : Reply.isFence (trim line) = false) :
      Step line (.fence code) (.keep (.fence (code ++ [line])))

theorem exists_textStep (line : Text) (runs : List Run) :
    ∃ effect, TextStep line runs effect ∧ ∀ framed (stream : Stream),
      stream.feedText framed runs line = effect.apply framed stream.blocks := by
  cases fence : Reply.isFence (trim line) with
  | true => exact ⟨_, .fence fence, fun framed stream => by simp [feedText, fence, Effect.apply]⟩
  | false =>
      cases item : itemKind? line with
      | some kind =>
          refine ⟨_, .item item, fun framed stream => ?_⟩
          exact feedText_of_itemKind? stream runs item
      | none =>
          have no_item := ItemLines.start?_eq_none item
          cases header : header? line with
          | some text =>
              refine ⟨_, .header header, fun framed stream => ?_⟩
              simp [feedText, fence, no_item, header, Effect.apply]
          | none =>
              cases separator : isSeparator line with
              | true =>
                  refine ⟨_, .separator separator, fun framed stream => ?_⟩
                  simp [feedText, fence, no_item, header, separator, Effect.apply]
              | false =>
                  cases blank : isBlankText line with
                  | true =>
                      refine ⟨_, .blank blank, fun framed stream => ?_⟩
                      exact feedText_of_isBlankText stream runs blank
                  | false =>
                      refine ⟨_, .text fence item header separator blank, fun framed stream => ?_⟩
                      simp [feedText, fence, no_item, header, separator, blank, Effect.apply,
                        continueWith]

/-- A line has one effect, whatever blocks stand before it and whether code is framed. -/
theorem exists_step (line : Text) (pending : Pending) :
    ∃ effect, Step line pending effect ∧ ∀ framed blocks,
      (Stream.mk blocks pending).feed framed line = effect.apply framed blocks := by
  cases pending with
  | idle =>
      obtain ⟨effect, step, fed⟩ := exists_textStep line []
      exact ⟨effect, .idle step, fun framed blocks => fed framed ⟨blocks, .idle⟩⟩
  | text runs =>
      obtain ⟨effect, step, fed⟩ := exists_textStep line (joined runs line)
      exact ⟨effect, .text step, fun framed blocks => fed framed ⟨blocks, .text runs⟩⟩
  | item item =>
      cases blank : isBlankText line with
      | true =>
          refine ⟨_, .itemEnds blank, fun framed blocks => ?_⟩
          simp [feed_item, blank, Effect.apply]
      | false =>
          cases found : itemKind? line with
          | some kind =>
              refine ⟨_, .itemFollows found, fun framed blocks => ?_⟩
              simp [feed_item, blank, ItemLines.start?_eq_some found, Effect.apply]
          | none =>
              have continues := continuesItem_iff.mpr ⟨blank, found⟩
              refine ⟨_, .itemGoesOn continues, fun framed blocks => ?_⟩
              simp [feed_item, blank, ItemLines.start?_eq_none found, Effect.apply]
  | fence code =>
      cases marks : Reply.isFence (trim line) with
      | true =>
          refine ⟨_, .fenceEnds marks, fun framed blocks => ?_⟩
          simp [feed_fence, marks, Effect.apply]
      | false =>
          refine ⟨_, .fenceGoesOn marks, fun framed blocks => ?_⟩
          simp [feed_fence, marks, Effect.apply]

/-! ## Blocks from before -/

/-- The stream with further blocks in front of its own. -/
def after (front : List Block) (stream : Stream) : Stream :=
  { stream with blocks := front ++ stream.blocks }

theorem Effect.apply_append (effect : Effect) (front blocks : List Block) :
    effect.apply framed (front ++ blocks) = (effect.apply framed blocks).map (after front) := by
  cases effect with
  | keep next => rfl
  | turn closing added next =>
      simp only [apply, Stream.turn]
      cases closing.close framed with
      | error error => rfl
      | ok closed => simp [Except.map, after]

/-- Reading a line does not look at the blocks from before. -/
theorem feed_after (front : List Block) (stream : Stream) (line : Text) :
    (stream.after front).feed framed line = (stream.feed framed line).map (after front) := by
  obtain ⟨effect, -, fed⟩ := exists_step line stream.pending
  calc (stream.after front).feed framed line
      = effect.apply framed (front ++ stream.blocks) := fed framed _
    _ = (effect.apply framed stream.blocks).map (after front) := effect.apply_append front _
    _ = (stream.feed framed line).map (after front) := by rw [← fed framed stream.blocks]

theorem ending_after (front : List Block) (stream : Stream) :
    (stream.after front).ending framed = (stream.ending framed).map (Ending.after front) := by
  simp only [ending, finish, after]
  cases stream.pending.close framed with
  | error error => rfl
  | ok closed => simp [Except.map, Ending.after]

/-- The blocks from before stand in front of all that a stream goes on to find. -/
theorem endingAfter_after (front : List Block) (stream : Stream) (lines : List Text) :
    (stream.after front).endingAfter framed lines =
      (stream.endingAfter framed lines).map (Ending.after front) := by
  induction lines generalizing stream with
  | nil => exact ending_after front stream
  | cons line lines ih =>
      rw [endingAfter_cons, endingAfter_cons, feed_after]
      cases stream.feed framed line with
      | error error => rfl
      | ok next => exact ih next

end Stream
end Reply
end ChatReply
