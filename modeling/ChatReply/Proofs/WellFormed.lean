import ChatReply.Proofs.DelimitedRun
import ChatReply.Proofs.Lossless
import ChatReply.Proofs.Simulation

/-!
# Well-formed documents

What holds of every block of a parsed reply: no run is empty or broken over lines, no paragraph is
without runs, headers and code are trimmed. It holds of what is open between two lines, each line
keeps it, and so the whole reply does. Framing is a mark on the code blocks and nothing else.
-/

namespace ChatReply

/-! ## Blocks -/

/-- The run has characters and stands in one line. -/
def Run.WellFormed (run : Run) : Prop :=
  run.text ≠ [] ∧ IsOneLine run.text

/-- A numbered item has some text, and its number is not negative. No further line is empty. -/
structure Item.WellFormed (item : Item) : Prop where
  /-- The runs of the first line. -/
  runs : ∀ run ∈ item.runs, run.WellFormed
  /-- The runs of the further lines. -/
  continuation : ∀ runs ∈ item.continuation, runs ≠ [] ∧ ∀ run ∈ runs, run.WellFormed
  /-- The number of a numbered item. -/
  numbered : ∀ number, item.marker = .number number → 0 ≤ number ∧ item.runs ≠ []

/-- The tokens are those of the code, which is trimmed, has unified breaks and is framed or not. -/
structure CodeBlock.WellFormed (framed : Bool) (block : CodeBlock) : Prop where
  framed_eq : block.framed = framed
  no_return : '\r' ∉ block.text
  trimmed : Trimmed block.text
  tokens_eq : block.tokens = Code.tokenize block.text

/-- What holds of the blocks of a parsed reply, whose code blocks are framed or not. -/
def Block.WellFormed (framed : Bool) : Block → Prop
  | paragraph runs => runs ≠ [] ∧ ∀ run ∈ runs, run.WellFormed
  | header text => text ≠ [] ∧ Trimmed text ∧ IsOneLine text
  | separator => True
  | code block => block.WellFormed framed
  | item entry => entry.WellFormed

/-- The block with its code framed or not. -/
def Block.reframe (framed : Bool) : Block → Block
  | code block => code { block with framed }
  | block => block

theorem Run.wellFormed_of_mem_ofLine {text : Text} (single : IsOneLine text) {run : Run}
    (member : run ∈ ofLine text) : run.WellFormed :=
  have reading := reading_ofLine text
  ⟨(reading.resolved run member).1, single.of_infix (reading.infix_of_mem member)⟩

theorem CodeBlock.wellFormed_ofCode {text : Text} (no_return : '\r' ∉ text) (trimmed : Trimmed text)
    (framed : Bool) : (CodeBlock.ofCode text framed).WellFormed framed := by
  have text_eq : (CodeBlock.ofCode text framed).text = text :=
    (Code.tokenize_cut text).plainText_eq
  refine ⟨rfl, ?_, ?_, ?_⟩
  · rwa [text_eq]
  · rwa [text_eq]
  · rw [text_eq]
    rfl

namespace Reply

/-! ## Lines -/

/-- The lines stand in one line each, and none that continues the item is blank. -/
def ItemLines.WellFormed (lines : ItemLines) : Prop :=
  IsOneLine lines.first ∧
    ∀ line ∈ lines.continuation, IsOneLine line ∧ isBlankText line = false

theorem ItemLines.wellFormed_item {lines : ItemLines} (formed : lines.WellFormed) {item : Item}
    (is_item : lines.item = .ok item) : item.WellFormed := by
  obtain ⟨single, further⟩ := formed
  have continuation : ∀ runs ∈ lines.continuationRuns,
      runs ≠ [] ∧ ∀ run ∈ runs, run.WellFormed := by
    intro runs member
    obtain ⟨line, line_mem, rfl⟩ := List.mem_map.mp member
    obtain ⟨line_single, filled⟩ := further line line_mem
    have text_ne : trim line ≠ [] := by simp [trim_eq_nil_iff, filled]
    exact ⟨(Run.reading_ofLine _).ne_nil text_ne, fun run =>
      Run.wellFormed_of_mem_ofLine (line_single.of_infix (trim_isInfix line))⟩
  obtain ⟨kind, first, lines, starts⟩ := lines
  cases kind with
  | ordered =>
      obtain ⟨⟨digits, text⟩, parts⟩ := Option.isSome_iff_exists.mp starts
      obtain ⟨text_ne, -, inside⟩ := trimmed_of_orderedItem? parts
      rw [ItemLines.item_of_orderedItem? lines starts parts] at is_item
      obtain ⟨number, read, rfl⟩ := map_eq_ok_iff.mp is_item
      refine ⟨fun run => Run.wellFormed_of_mem_ofLine (single.of_infix inside), continuation, ?_⟩
      rintro _ ⟨⟩
      exact ⟨Int.natCast_nonneg number, (Run.reading_ofLine text).ne_nil text_ne⟩
  | bullet =>
      obtain rfl := Except.ok.inj is_item
      have inside : bulletText first <:+: first :=
        (trim_isInfix _).trans ((List.drop_suffix 2 _).isInfix.trans (trim_isInfix _))
      refine ⟨fun run => Run.wellFormed_of_mem_ofLine (single.of_infix inside), continuation, ?_⟩
      rintro number ⟨⟩

/-! ## Streams -/

namespace Stream

variable {framed : Bool}

/-- What is open makes a well-formed block or none, if it ends. -/
def Pending.WellFormed : Pending → Prop
  | idle => True
  | text runs => ∀ run ∈ runs, run.WellFormed
  | item lines => lines.WellFormed
  | fence code => ∀ line ∈ code, IsOneLine line

theorem Pending.wellFormed_close {pending : Pending} (formed : pending.WellFormed)
    {closed : List Block} (closes : pending.close framed = .ok closed) :
    ∀ block ∈ closed, block.WellFormed framed := by
  cases pending with
  | idle =>
      obtain rfl := Except.ok.inj closes
      simp
  | text runs =>
      obtain rfl := Except.ok.inj closes
      split
      · simp
      · rename_i runs_ne
        exact List.forall_mem_singleton.mpr ⟨runs_ne, formed⟩
  | item lines =>
      obtain ⟨item, is_item, rfl⟩ := map_eq_ok_iff.mp closes
      exact List.forall_mem_singleton.mpr (lines.wellFormed_item formed is_item)
  | fence code =>
      obtain rfl := Except.ok.inj closes
      split
      · simp
      · have no_return : '\r' ∉ trim (joinLines code) := by
          intro member
          rcases mem_joinLines ((trim_isInfix _).subset member) with newline | ⟨line, owner, inside⟩
          · exact absurd newline (by decide)
          · exact absurd (formed line owner _ inside) (by decide)
        exact List.forall_mem_singleton.mpr
          (CodeBlock.wellFormed_ofCode no_return (trimmed_trim _) framed)

/-- The parts and blocks of an effect are well formed, the blocks however code is framed. -/
def Effect.WellFormed : Effect → Prop
  | turn closing added next =>
      closing.WellFormed ∧ (∀ framed, ∀ block ∈ added, block.WellFormed framed) ∧ next.WellFormed
  | keep next => next.WellFormed

theorem TextStep.wellFormed {line : Text} {runs : List Run} {effect : Effect}
    (step : TextStep line runs effect) (single : IsOneLine line)
    (formed : ∀ run ∈ runs, run.WellFormed) : effect.WellFormed := by
  have unadded : ∀ framed, ∀ block ∈ ([] : List Block), block.WellFormed framed := by simp
  cases step with
  | fence marks => exact ⟨formed, unadded, List.forall_mem_nil _⟩
  | item found => exact ⟨formed, unadded, single, List.forall_mem_nil _⟩
  | header found =>
      obtain ⟨text_ne, trimmed, inside⟩ := trimmed_of_header? found
      refine ⟨formed, fun framed => List.forall_mem_singleton.mpr ?_, trivial⟩
      exact ⟨text_ne, trimmed, single.of_infix inside⟩
  | separator found =>
      exact ⟨formed, fun framed => List.forall_mem_singleton.mpr trivial, trivial⟩
  | blank blank => exact ⟨formed, unadded, trivial⟩
  | text =>
      exact List.forall_mem_append.mpr ⟨formed, fun run => Run.wellFormed_of_mem_ofLine single⟩

theorem wellFormed_of_mem_joined {runs : List Run} (formed : ∀ run ∈ runs, run.WellFormed)
    (line : Text) : ∀ run ∈ joined runs line, run.WellFormed := by
  have joint : Run.WellFormed ⟨[' '], .plain⟩ := by simp [Run.WellFormed, IsOneLine, isBreak]
  unfold joined
  split
  · exact formed
  · exact List.forall_mem_append.mpr ⟨formed, List.forall_mem_singleton.mpr joint⟩

/-- A line keeps what is open well formed. -/
theorem Step.wellFormed {line : Text} {pending : Pending} {effect : Effect}
    (step : Step line pending effect) (single : IsOneLine line) (formed : pending.WellFormed) :
    effect.WellFormed := by
  have unadded : ∀ framed, ∀ block ∈ ([] : List Block), block.WellFormed framed := by simp
  cases step with
  | idle step => exact step.wellFormed single (List.forall_mem_nil _)
  | text step => exact step.wellFormed single (wellFormed_of_mem_joined formed line)
  | itemEnds blank => exact ⟨formed, unadded, trivial⟩
  | itemFollows found => exact ⟨formed, unadded, single, List.forall_mem_nil _⟩
  | itemGoesOn continues =>
      obtain ⟨filled, -⟩ := continuesItem_iff.mp continues
      obtain ⟨first, further⟩ := formed
      refine ⟨first, List.forall_mem_append.mpr ⟨further, ?_⟩⟩
      exact List.forall_mem_singleton.mpr ⟨single, filled⟩
  | fenceEnds marks => exact ⟨formed, unadded, trivial⟩
  | fenceGoesOn inside =>
      exact List.forall_mem_append.mpr ⟨formed, List.forall_mem_singleton.mpr single⟩

/-- The blocks of the stream and its open part are well formed. -/
structure WellFormed (framed : Bool) (stream : Stream) : Prop where
  blocks : ∀ block ∈ stream.blocks, block.WellFormed framed
  pending : stream.pending.WellFormed

theorem Effect.wellFormed_apply {effect : Effect} (formed : effect.WellFormed)
    {blocks : List Block} (blocks_formed : ∀ block ∈ blocks, block.WellFormed framed)
    {next : Stream} (applied : effect.apply framed blocks = .ok next) :
    next.WellFormed framed := by
  cases effect with
  | turn closing added pending =>
      obtain ⟨closing_formed, added_formed, next_formed⟩ := formed
      obtain ⟨closed, closes, rfl⟩ := map_eq_ok_iff.mp applied
      have closed_formed := Pending.wellFormed_close closing_formed closes
      refine ⟨?_, next_formed⟩
      exact List.forall_mem_append.mpr
        ⟨List.forall_mem_append.mpr ⟨blocks_formed, closed_formed⟩, added_formed framed⟩
  | keep pending =>
      obtain rfl := Except.ok.inj applied
      exact ⟨blocks_formed, formed⟩

theorem wellFormed_feed {stream next : Stream} {line : Text} (formed : stream.WellFormed framed)
    (single : IsOneLine line) (fed : stream.feed framed line = .ok next) :
    next.WellFormed framed := by
  obtain ⟨effect, step, fed_eq⟩ := exists_step line stream.pending
  exact Effect.wellFormed_apply (step.wellFormed single formed.pending) formed.blocks
    ((fed_eq framed stream.blocks).symm.trans fed)

theorem wellFormed_feedAll {stream next : Stream} {lines : List Text}
    (formed : stream.WellFormed framed) (single : ∀ line ∈ lines, IsOneLine line)
    (fed : stream.feedAll framed lines = .ok next) : next.WellFormed framed := by
  induction lines generalizing stream with
  | nil =>
      obtain rfl := Except.ok.inj fed
      exact formed
  | cons line lines ih =>
      obtain ⟨line_single, later_single⟩ := List.forall_mem_cons.mp single
      rw [feedAll] at fed
      split at fed
      · simp at fed
      · rename_i middle first
        exact ih (wellFormed_feed formed line_single first) later_single fed

/-! ## Framing -/

/-- The stream with the code of its blocks framed or not. -/
def reframe (framed : Bool) (stream : Stream) : Stream :=
  { stream with blocks := stream.blocks.map (Block.reframe framed) }

theorem Pending.close_reframe (framed other : Bool) (pending : Pending) :
    pending.close other = (pending.close framed).map (List.map (Block.reframe other)) := by
  cases pending with
  | idle => rfl
  | text runs =>
      simp only [close, Except.map]
      split <;> rfl
  | item lines =>
      simp only [close]
      cases lines.item <;> rfl
  | fence code =>
      simp only [close, Except.map]
      split <;> rfl

theorem TextStep.reframe_added {line : Text} {runs : List Run} {closing next : Pending}
    {added : List Block} (step : TextStep line runs (.turn closing added next)) (framed : Bool) :
    added.map (Block.reframe framed) = added := by
  cases step <;> rfl

/-- No line adds a block of code itself: such a block comes of what is open. -/
theorem Step.reframe_added {line : Text} {pending closing next : Pending} {added : List Block}
    (step : Step line pending (.turn closing added next)) (framed : Bool) :
    added.map (Block.reframe framed) = added := by
  cases step with
  | idle step | text step => exact step.reframe_added framed
  | itemEnds | itemFollows | fenceEnds => rfl

theorem feed_reframe (framed other : Bool) (stream : Stream) (line : Text) :
    (stream.reframe other).feed other line = (stream.feed framed line).map (reframe other) := by
  obtain ⟨blocks, pending⟩ := stream
  obtain ⟨effect, step, fed⟩ := exists_step line pending
  rw [reframe, fed other, fed framed]
  cases effect with
  | keep next => rfl
  | turn closing added next =>
      simp only [Effect.apply, turn, closing.close_reframe framed other]
      cases closing.close framed with
      | error error => rfl
      | ok closed => simp [Except.map, reframe, step.reframe_added other]

theorem feedAll_reframe (framed other : Bool) (stream : Stream) (lines : List Text) :
    (stream.reframe other).feedAll other lines =
      (stream.feedAll framed lines).map (reframe other) := by
  induction lines generalizing stream with
  | nil => rfl
  | cons line lines ih =>
      rw [feedAll, feedAll, feed_reframe framed other]
      cases stream.feed framed line with
      | error error => rfl
      | ok next => exact ih next

theorem finish_reframe (framed other : Bool) (stream : Stream) :
    (stream.reframe other).finish other =
      (stream.finish framed).map (List.map (Block.reframe other)) := by
  rw [finish, finish, reframe, stream.pending.close_reframe framed other]
  cases stream.pending.close framed with
  | error error => rfl
  | ok closed => simp [Except.map]

end Stream

/-- Every block of a parsed reply is well formed, and whether code is framed makes no difference but
for the mark on its blocks. -/
theorem parse_wellFormed (framed : Bool) (text : Text) :
    (∀ document, parse framed text = .ok document →
      ∀ block ∈ document, block.WellFormed framed) ∧
    ∀ other, parse other text = (parse framed text).map (List.map (Block.reframe other)) := by
  refine ⟨?_, ?_⟩
  · intro document parsed
    rw [parse_eq_bind_finish] at parsed
    obtain ⟨stream, fed, finished⟩ := bind_eq_ok_iff.mp parsed
    have start : Stream.WellFormed framed ⟨[], .idle⟩ := ⟨List.forall_mem_nil _, trivial⟩
    have formed := Stream.wellFormed_feedAll start (fun line => isOneLine_of_mem_lines) fed
    obtain ⟨closed, closes, rfl⟩ := map_eq_ok_iff.mp finished
    exact List.forall_mem_append.mpr
      ⟨formed.blocks, Stream.Pending.wellFormed_close formed.pending closes⟩
  · intro other
    have read : Stream.feedAll other ⟨[], .idle⟩ (lines text) =
        (Stream.feedAll framed ⟨[], .idle⟩ (lines text)).map (Stream.reframe other) :=
      Stream.feedAll_reframe framed other ⟨[], .idle⟩ (lines text)
    rw [parse_eq_bind_finish, parse_eq_bind_finish, read]
    cases Stream.feedAll framed ⟨[], .idle⟩ (lines text) with
    | error error => rfl
    | ok stream => exact stream.finish_reframe framed other

/-- A header, some code and an item of two lines. -/
def mixed (framed : Bool) : Document :=
  [.header ['a'], .code (.ofCode ['i', 'f'] framed),
    .item ⟨.number 1, [⟨['b'], .bold⟩, ⟨[' ', 'c'], .plain⟩], [[⟨['d'], .plain⟩]]⟩]

theorem parse_wellFormed_mixed :
    parse true "### a\n\x60\x60\x60\nif\n\x60\x60\x60\n1. **b** c\n  d".toList = .ok (mixed true) ∧
      (∀ block ∈ mixed true, block.WellFormed true) ∧
      parse false "### a\n\x60\x60\x60\nif\n\x60\x60\x60\n1. **b** c\n  d".toList =
        .ok (mixed false) := by
  have parsed : parse true "### a\n\x60\x60\x60\nif\n\x60\x60\x60\n1. **b** c\n  d".toList =
      .ok (mixed true) := by decide +kernel
  obtain ⟨formed, reframed⟩ :=
    parse_wellFormed true "### a\n\x60\x60\x60\nif\n\x60\x60\x60\n1. **b** c\n  d".toList
  refine ⟨parsed, formed _ parsed, ?_⟩
  rw [reframed false, parsed]
  rfl

end Reply
end ChatReply
