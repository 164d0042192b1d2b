import ChatReply.Proofs.ItemNumber
import ChatReply.Proofs.ReplySource

/-!
# What breaks a run off

A run of the command ends by itself with status 0, or with status 1 or 2, a message and nothing
printed, unless it breaks off. What breaks it off is an operand that cannot be resolved, a candidate
for the settings that cannot be looked at or read, a standard input that is not UTF-8, the number of
an item, or a frame that cannot be drawn; each does so only where nothing before it has ended the
run.
-/

namespace ChatReply
namespace Command

/-! ## Ends -/

/-- The text says what is wrong, perhaps after a hint. -/
def IsComplaint (text : Text) : Prop :=
  ∃ hint message : String, text = (hint ++ "Error: " ++ message ++ "\n").toList

/-- A run has ended by itself: it is done, or it has printed nothing and says what is wrong. -/
inductive Outcome.IsEnd (world : World) : Outcome → Prop
  | done (output errors : Text) : IsEnd world (.ended 0 output errors)
  | refused {status : Nat} (failed : status = 1 ∨ status = 2) (reported : Text) {complaint : Text}
      (complains : IsComplaint complaint) :
      IsEnd world (.ended status [] (reported ++ shown world.terminal complaint))

theorem isEnd_or_broken_of_failure (world : World) (reported : Text) (failure : Failure) :
    (failure.outcome world reported).IsEnd world ∨
      ∃ error, failure.outcome world reported = .broken error := by
  cases failure with
  | usage error =>
      refine .inl (.refused (.inr rfl) reported ?_)
      exact ⟨_, error.message, rfl⟩
  | refusal message =>
      refine .inl (.refused (.inl rfl) reported ?_)
      exact ⟨"", message, by simp⟩
  | breakdown error => exact .inr ⟨error, rfl⟩

theorem isEnd_or_broken (world : World) (arguments : List String) :
    (run world arguments).IsEnd world ∨ ∃ error, run world arguments = .broken error := by
  rw [run]
  cases Invocation.ofArguments arguments with
  | error error => exact isEnd_or_broken_of_failure world [] (.usage error)
  | ok invocation =>
      simp only
      cases invocation.notice with
      | some notice => cases notice <;> exact .inl (.done _ _)
      | none =>
          cases invocation.source world with
          | error error => exact isEnd_or_broken_of_failure world [] error
          | ok source =>
              simp only
              cases (steps world invocation source).2 with
              | error error => exact isEnd_or_broken_of_failure world _ error
              | ok printed => exact .inl (.done _ _)

/-- A run ends by itself just if nothing breaks it off. -/
theorem isEnd_iff (world : World) (arguments : List String) :
    (run world arguments).IsEnd world ↔ ∀ error, run world arguments ≠ .broken error := by
  constructor
  · intro ends error broken
    rw [broken] at ends
    cases ends
  · intro unbroken
    refine (isEnd_or_broken world arguments).resolve_right ?_
    rintro ⟨error, broken⟩
    exact unbroken error broken

theorem eq_broken_iff {outcome : Outcome} {error : Breakdown} :
    outcome = .broken error ↔ outcome.visible = .error error := by
  cases outcome <;> simp [Outcome.visible]

theorem visibleOf_eq_error_iff {result : Except Failure (Text × Text)} {error : Breakdown} :
    visibleOf result = .error error ↔ result = .error (.breakdown error) := by
  cases result with
  | error failure => cases failure <;> simp [visibleOf, Failure.visible]
  | ok printed => simp [visibleOf]

/-! ## What may break a run off -/

/-- What breaks the search for settings off at a place. -/
inductive BreaksAt (tree : Tree) (place : Path) : Breakdown → Prop
  /-- It cannot be told whether a file is there. -/
  | inaccessible {fault : Tree.Fault} (unseen : tree.fileBytes place = .error (.unseen fault)) :
      BreaksAt tree place (.inaccessible place fault)
  /-- The file is not UTF-8. -/
  | decoding {bytes : List UInt8} {error : Utf8.Error}
      (held : tree.fileBytes place = .ok (some bytes))
      (undecoded : Utf8.decode bytes = .error error) :
      BreaksAt tree place (.decoding error)
  /-- The file holds an integer with too many digits. -/
  | numeral {bytes : List UInt8} {text : Text} {error : Numeral.TooLong}
      (held : tree.fileBytes place = .ok (some bytes)) (decoded : Utf8.decode bytes = .ok text)
      (refused : Toml.read text = .error (.numeral error)) :
      BreaksAt tree place (.numeral error)
  /-- The file holds values that are nested too deep. -/
  | nesting {bytes : List UInt8} {text : Text}
      (held : tree.fileBytes place = .ok (some bytes)) (decoded : Utf8.decode bytes = .ok text)
      (refused : Toml.read text = .error .nesting) :
      BreaksAt tree place .nesting

/-- The options of a run with the limit that applies. -/
def settled (world : World) (invocation : Invocation) (source : Source) : Except Failure Options :=
  (options world invocation source).2.bind (limited world)

/-- What breaks off the run of an invocation. -/
inductive Breaks (world : World) (invocation : Invocation) : Breakdown → Prop
  /-- The operand holds a null character. -/
  | null {path : String} {rest : List String}
      (known : ∀ name ∈ invocation.format, (OutputFormat.ofName? name).isSome = true)
      (operands : invocation.operands = path :: rest) (named : path ≠ "-")
      (null : WrittenPath.holdsNull path = true) :
      Breaks world invocation (.resolving .nullCharacter)
  /-- The place at which the search for settings starts cannot be resolved. -/
  | place {source : Source} {error : Tree.ResolveError}
      (found : invocation.source world = .ok source)
      (unresolved : source.searchPlace world = .error error) :
      Breaks world invocation (.resolving error)
  /-- The search for settings breaks off at a candidate behind others without an answer. -/
  | settings {source : Source} {place : Path} {before after : List Settings.Candidate}
      {candidate : Settings.Candidate} {error : Breakdown}
      (found : invocation.source world = .ok source)
      (start : source.searchPlace world = .ok place)
      (split : Settings.candidates place = before ++ candidate :: after)
      (silent : ∀ earlier ∈ before, earlier.answer? world.tree = none)
      (breaks : BreaksAt world.tree candidate.place error) :
      Breaks world invocation error
  /-- The standard input is read and is not UTF-8. -/
  | input {options : Options} {error : Utf8.Error} (found : invocation.source world = .ok .input)
      (settles : settled world invocation .input = .ok options)
      (undecoded : Utf8.decode world.input = .error error) :
      Breaks world invocation (.decoding error)
  /-- A line outside code fences starts an item with too long a number. -/
  | number {source : Source} {options : Options} {text : Text} {error : Numeral.TooLong}
      (found : invocation.source world = .ok source)
      (settles : settled world invocation source = .ok options)
      (read : source.read world options.limit = .ok text)
      (long : (Reply.unfencedLines text).findSome? Reply.longNumber? = some error) :
      Breaks world invocation (.numeral error)
  /-- A frame cannot be drawn, and it is the first such frame. -/
  | frame {source : Source} {options : Options} {text : Text} {before after : Document}
      {block : CodeBlock} {error : Render.ExtentError}
      (found : invocation.source world = .ok source)
      (settles : settled world invocation source = .ok options)
      (read : source.read world options.limit = .ok text)
      (parsed : Reply.parse options.framed text = .ok (before ++ .code block :: after))
      (styled : options.format = .styled) (framed : block.framed = true)
      (drawn : Render.checkFrames options.padding before = .ok ())
      (wide : Render.checkFrame options.padding block = .error error) :
      Breaks world invocation (.extent error)

/-! ## Frames -/

section

variable {padding : Int} {error : Render.ExtentError}

theorem checkFrames_cons (first : Block) (document : Document) :
    Render.checkFrames padding (first :: document) =
      (Render.checkFrames padding [first]).bind fun _ => Render.checkFrames padding document := by
  cases first with
  | code block =>
      simp only [Render.checkFrames]
      split
      · cases Render.checkFrame padding block <;> rfl
      · rfl
  | paragraph | header | separator | item => rfl

theorem checkFrames_singleton_eq_error_iff {block : Block} :
    Render.checkFrames padding [block] = .error error ↔
      ∃ code, block = .code code ∧ code.framed = true ∧
        Render.checkFrame padding code = .error error := by
  cases block with
  | code code =>
      cases framed : code.framed with
      | true =>
          cases drawn : Render.checkFrame padding code <;>
            simp [Render.checkFrames, framed, drawn]
      | false => simp [Render.checkFrames, framed]
  | paragraph | header | separator | item => simp [Render.checkFrames]

/-- A document is refused for the first frame that cannot be drawn. -/
theorem checkFrames_eq_error_iff {document : Document} :
    Render.checkFrames padding document = .error error ↔
      ∃ before code after, document = before ++ .code code :: after ∧
        Render.checkFrames padding before = .ok () ∧ code.framed = true ∧
        Render.checkFrame padding code = .error error := by
  induction document with
  | nil => simp [Render.checkFrames]
  | cons first document ih =>
      rw [checkFrames_cons, bind_eq_error_iff]
      constructor
      · rintro (refused | ⟨_, drawn, later⟩)
        · obtain ⟨code, rfl, framed, wide⟩ := checkFrames_singleton_eq_error_iff.mp refused
          exact ⟨[], code, document, rfl, rfl, framed, wide⟩
        · obtain ⟨before, code, after, rfl, all_drawn, framed, wide⟩ := ih.mp later
          refine ⟨first :: before, code, after, rfl, ?_, framed, wide⟩
          rw [checkFrames_cons, drawn]
          exact all_drawn
      · rintro ⟨before, code, after, split, drawn, framed, wide⟩
        cases before with
        | nil =>
            obtain ⟨rfl, rfl⟩ := List.cons.inj split
            exact .inl (checkFrames_singleton_eq_error_iff.mpr ⟨code, rfl, framed, wide⟩)
        | cons other before =>
            obtain ⟨rfl, rfl⟩ := List.cons.inj split
            rw [checkFrames_cons] at drawn
            obtain ⟨_, first_drawn, all_drawn⟩ := bind_eq_ok_iff.mp drawn
            exact .inr ⟨_, first_drawn, ih.mpr ⟨before, code, after, rfl, all_drawn, framed, wide⟩⟩

end

/-! ## Stages of a run -/

section

variable {world : World} {invocation : Invocation} {source : Source} {error : Breakdown}

theorem source_eq_breakdown_iff :
    invocation.source world = .error (.breakdown error) ↔
      ∃ path rest, (∀ name ∈ invocation.format, (OutputFormat.ofName? name).isSome = true) ∧
        invocation.operands = path :: rest ∧ path ≠ "-" ∧ WrittenPath.holdsNull path = true ∧
        .resolving .nullCharacter = error := by
  have known_iff :
      (invocation.format.filter fun name => (OutputFormat.ofName? name).isNone) = none ↔
        ∀ name ∈ invocation.format, (OutputFormat.ofName? name).isSome = true := by
    simp [Option.filter_eq_none_iff, Option.isSome_iff_ne_none]
  rw [Invocation.source, ← known_iff]
  cases invocation.format.filter fun name => (OutputFormat.ofName? name).isNone with
  | some name => simp
  | none =>
      cases invocation.operands with
      | nil => simp
      | cons path rest =>
          by_cases dash : path = "-"
          · cases rest <;> simp [dash]
          · cases null : WrittenPath.holdsNull path with
            | true => simp [dash, null]
            | false =>
                simp only [dash, null, Bool.false_eq_true, if_false]
                split
                · simp [null]
                · simp [null]
                · simp [null]
                · cases rest <;> simp [null]

/-- Looking into a candidate breaks off just for the reasons above. -/
theorem inspect_eq_breakdown_iff {tree : Tree} {candidate : Settings.Candidate} :
    (∃ cause, Settings.inspect tree candidate = .error cause ∧
        failureOfBuild (.load cause) = .breakdown error) ↔
      BreaksAt tree candidate.place error := by
  constructor
  · rintro ⟨cause, fails, broken⟩
    rw [Settings.inspect] at fails
    cases held : tree.fileBytes candidate.place with
    | error fault =>
        cases fault with
        | unopened fault => simp [held] at fails
        | unseen fault =>
            obtain rfl := Except.error.inj (held ▸ fails)
            obtain rfl := Failure.breakdown.inj broken
            exact .inaccessible held
    | ok bytes? =>
        cases bytes? with
        | none => simp [held] at fails
        | some bytes =>
            simp only [held] at fails
            cases decoded : Utf8.decode bytes with
            | error fault =>
                obtain rfl := Except.error.inj (decoded ▸ fails)
                obtain rfl := Failure.breakdown.inj broken
                exact .decoding held decoded
            | ok text =>
                simp only [decoded] at fails
                cases read : Toml.read text with
                | ok value => simp [read] at fails
                | error refusal =>
                    cases refusal with
                    | fault cause rest => simp [read] at fails
                    | numeral fault =>
                        obtain rfl := Except.error.inj (read ▸ fails)
                        obtain rfl := Failure.breakdown.inj broken
                        exact .numeral held decoded read
                    | nesting =>
                        obtain rfl := Except.error.inj (read ▸ fails)
                        obtain rfl := Failure.breakdown.inj broken
                        exact .nesting held decoded read
  · intro breaks
    cases breaks with
    | @inaccessible fault unseen =>
        exact ⟨.inaccessible candidate.place fault, by rw [Settings.inspect, unseen], rfl⟩
    | @decoding bytes fault held undecoded =>
        exact ⟨.decoding fault, by simp [Settings.inspect, held, undecoded], rfl⟩
    | @numeral bytes text fault held decoded refused =>
        exact ⟨.numeral fault, by simp [Settings.inspect, held, decoded, refused], rfl⟩
    | nesting held decoded refused =>
        exact ⟨.nesting, by simp [Settings.inspect, held, decoded, refused], rfl⟩

/-- A candidate breaks the search off just for these reasons, as a faulty table is an error of
usage. -/
theorem answer?_eq_breakdown_iff {tree : Tree} {candidate : Settings.Candidate} :
    (∃ cause, candidate.answer? tree = some (.error cause) ∧
        failureOfBuild (.load cause) = .breakdown error) ↔
      BreaksAt tree candidate.place error := by
  rw [← inspect_eq_breakdown_iff]
  refine exists_congr fun cause => and_congr_left fun broken => ?_
  rw [Settings.Candidate.answer?_eq_error_iff]
  refine or_iff_left ?_
  rintro ⟨table, value, fault, -, -, rfl⟩
  cases broken

theorem loadAt_eq_breakdown_iff {tree : Tree} {place : Path} :
    (∃ cause, (Settings.loadAt tree place).2 = .error cause ∧
        failureOfBuild (.load cause) = .breakdown error) ↔
      ∃ before candidate after, Settings.candidates place = before ++ candidate :: after ∧
        (∀ earlier ∈ before, earlier.answer? tree = none) ∧
        BreaksAt tree candidate.place error := by
  simp only [Settings.loadAt, Settings.search_eq_error_iff, ← answer?_eq_breakdown_iff]
  constructor
  · rintro ⟨cause, ⟨before, candidate, after, split, answered, silent⟩, broken⟩
    exact ⟨before, candidate, after, split, silent, cause, answered, broken⟩
  · rintro ⟨before, candidate, after, split, silent, cause, answered, broken⟩
    exact ⟨cause, ⟨before, candidate, after, split, answered, silent⟩, broken⟩

/-- Putting settings together breaks off only where loading them does. -/
theorem complete_eq_breakdown_iff (loaded : Except Settings.LoadError Settings)
    (overrides : List (String × Value)) :
    (Settings.complete loaded overrides).mapError failureOfBuild = .error (.breakdown error) ↔
      ∃ cause, loaded = .error cause ∧ failureOfBuild (.load cause) = .breakdown error := by
  cases loaded with
  | error cause => simp [Settings.complete, Except.mapError]
  | ok settings =>
      rw [Settings.complete]
      cases settings.override overrides with
      | error cause => simp [failureOfBuild, Except.mapError]
      | ok settings =>
          cases checked : settings.check <;> simp [checked, failureOfBuild, Except.mapError]

theorem options_eq_breakdown_iff :
    (options world invocation source).2 = .error (.breakdown error) ↔
      (∃ cause, source.searchPlace world = .error cause ∧ error = .resolving cause) ∨
      ∃ place, source.searchPlace world = .ok place ∧
        ∃ before candidate after, Settings.candidates place = before ++ candidate :: after ∧
          (∀ earlier ∈ before, earlier.answer? world.tree = none) ∧
          BreaksAt world.tree candidate.place error := by
  rw [options]
  cases source.searchPlace world with
  | error cause => simp [eq_comm]
  | ok place =>
      simp only [reduceCtorEq, false_and, exists_false, false_or, Except.ok.injEq,
        exists_eq_left', ← loadAt_eq_breakdown_iff,
        ← complete_eq_breakdown_iff _ invocation.overrides]
      cases Settings.complete (Settings.loadAt world.tree place).2 invocation.overrides <;>
        simp [Except.mapError]

theorem settled_eq_breakdown_iff :
    settled world invocation source = .error (.breakdown error) ↔
      (options world invocation source).2 = .error (.breakdown error) := by
  rw [settled, bind_eq_error_iff]
  refine or_iff_left ?_
  rintro ⟨options, -, unlimited⟩
  unfold limited at unlimited
  split at unlimited
  · simp at unlimited
  · split at unlimited <;> simp at unlimited

theorem read_eq_breakdown_iff {limit : Nat} :
    source.read world limit = .error (.breakdown error) ↔
      source = .input ∧ ∃ cause, Utf8.decode world.input = .error cause ∧
        error = .decoding cause := by
  cases source with
  | input =>
      rw [Source.read, readInput]
      cases Utf8.decode world.input with
      | error cause => simp [eq_comm]
      | ok text => cases checked : Limit.checkContent (unifyBreaks text) limit <;> simp [checked]
  | file path =>
      rw [Source.read, readFile]
      cases ReplyFile.checkSize world.tree world.here path limit with
      | error fault => simp
      | ok _ => cases ReplyFile.readWithin world.tree world.here path limit <;> simp

theorem deliver_eq_breakdown_iff {options : Options} {document : Document} :
    (deliver world invocation options document).2 = .error (.breakdown error) ↔
      options.format = .styled ∧
        ∃ cause, Render.checkFrames options.padding document = .error cause ∧
          error = .extent cause := by
  by_cases empty : document = []
  · simp [deliver, empty, Render.checkFrames]
  · simp only [deliver, empty, if_false, render]
    cases options.format with
    | styled =>
        cases Render.checkFrames options.padding document <;> simp [Except.map, eq_comm]
    | plain => simp
    | json => simp

theorem printed_eq_breakdown_iff {options : Options} {text : Text} :
    printed world invocation options text = .error (.breakdown error) ↔
      (∃ cause, (Reply.unfencedLines text).findSome? Reply.longNumber? = some cause ∧
        error = .numeral cause) ∨
      ∃ document, Reply.parse options.framed text = .ok document ∧
        (deliver world invocation options document).2 = .error (.breakdown error) := by
  rw [printed, ← Reply.refusal?_parse options.framed]
  cases Reply.parse options.framed text with
  | error cause => simp [Reply.refusal?, eq_comm]
  | ok document => simp [Reply.refusal?]

theorem steps_eq_bind_settled (world : World) (invocation : Invocation) (source : Source) :
    (steps world invocation source).2 =
      (settled world invocation source).bind fun options =>
        (source.read world options.limit).bind (printed world invocation options) :=
  steps_result world invocation source

/-- The stages of a run fail at the first one that does. -/
theorem stages_eq_error_iff {failure : Failure} :
    ((invocation.source world).bind fun source => (steps world invocation source).2) =
        .error failure ↔
      invocation.source world = .error failure ∨
      ∃ source, invocation.source world = .ok source ∧
        (settled world invocation source = .error failure ∨
        ∃ options, settled world invocation source = .ok options ∧
          (source.read world options.limit = .error failure ∨
          ∃ text, source.read world options.limit = .ok text ∧
            printed world invocation options text = .error failure)) := by
  simp only [steps_eq_bind_settled, bind_eq_error_iff]

/-- The stages of a run break off just for the reasons above. -/
theorem stages_eq_breakdown_iff :
    ((invocation.source world).bind fun source => (steps world invocation source).2) =
        .error (.breakdown error) ↔
      Breaks world invocation error := by
  rw [stages_eq_error_iff]
  constructor
  · rintro (unnamed |
      ⟨source, found, unsettled | ⟨options, settles, unread | ⟨text, read, unprinted⟩⟩⟩)
    · obtain ⟨path, rest, known, operands, named, null, rfl⟩ := source_eq_breakdown_iff.mp unnamed
      exact .null known operands named null
    · rcases options_eq_breakdown_iff.mp (settled_eq_breakdown_iff.mp unsettled) with
        ⟨cause, unresolved, rfl⟩ | ⟨place, start, before, candidate, after, split, silent, breaks⟩
      · exact .place found unresolved
      · exact .settings found start split silent breaks
    · obtain ⟨rfl, cause, undecoded, rfl⟩ := read_eq_breakdown_iff.mp unread
      exact .input found settles undecoded
    · rcases printed_eq_breakdown_iff.mp unprinted with
        ⟨cause, long, rfl⟩ | ⟨document, parsed, undelivered⟩
      · exact .number found settles read long
      · obtain ⟨styled, cause, unfit, rfl⟩ := deliver_eq_breakdown_iff.mp undelivered
        obtain ⟨before, block, after, rfl, drawn, framed, wide⟩ := checkFrames_eq_error_iff.mp unfit
        exact .frame found settles read parsed styled framed drawn wide
  · intro breaks
    cases breaks with
    | null known operands named null =>
        exact .inl (source_eq_breakdown_iff.mpr ⟨_, _, known, operands, named, null, rfl⟩)
    | @place source cause found unresolved =>
        exact .inr ⟨source, found, .inl (settled_eq_breakdown_iff.mpr
          (options_eq_breakdown_iff.mpr (.inl ⟨cause, unresolved, rfl⟩)))⟩
    | @settings source place before after candidate _ found start split silent breaks =>
        exact .inr ⟨source, found, .inl (settled_eq_breakdown_iff.mpr
          (options_eq_breakdown_iff.mpr
            (.inr ⟨place, start, before, candidate, after, split, silent, breaks⟩)))⟩
    | @input options cause found settles undecoded =>
        exact .inr ⟨.input, found, .inr ⟨options, settles,
          .inl (read_eq_breakdown_iff.mpr ⟨rfl, cause, undecoded, rfl⟩)⟩⟩
    | @number source options text cause found settles read long =>
        exact .inr ⟨source, found, .inr ⟨options, settles, .inr ⟨text, read,
          printed_eq_breakdown_iff.mpr (.inl ⟨cause, long, rfl⟩)⟩⟩⟩
    | @frame source options text before after block cause found settles read parsed styled framed
        drawn wide =>
        have unfit := checkFrames_eq_error_iff.mpr ⟨before, block, after, rfl, drawn, framed, wide⟩
        exact .inr ⟨source, found, .inr ⟨options, settles, .inr ⟨text, read,
          printed_eq_breakdown_iff.mpr (.inr ⟨_, parsed,
            deliver_eq_breakdown_iff.mpr ⟨styled, cause, unfit, rfl⟩⟩)⟩⟩⟩

/-- A run breaks off just for the reasons above. -/
theorem run_eq_broken_iff {arguments : List String} :
    run world arguments = .broken error ↔
      ∃ invocation, Invocation.ofArguments arguments = .ok invocation ∧
        invocation.notice = none ∧ Breaks world invocation error := by
  rw [eq_broken_iff]
  cases parsed : Invocation.ofArguments arguments with
  | error error => simp [run, parsed, visible_outcome, Failure.visible]
  | ok invocation =>
      cases noticed : invocation.notice with
      | some notice => simp [visible_run_of_notice parsed noticed, noticed]
      | none =>
          rw [visible_run parsed noticed, visibleOf_eq_error_iff, stages_eq_breakdown_iff]
          simp [noticed]

end

/-- A run ends by itself just if nothing breaks it off, and it breaks off with what does. -/
theorem run_isEnd_iff (world : World) (arguments : List String) :
    ((run world arguments).IsEnd world ↔
      ∀ invocation, Invocation.ofArguments arguments = .ok invocation →
        invocation.notice = none → ∀ error, ¬Breaks world invocation error) ∧
    ∀ error, run world arguments = .broken error ↔
      ∃ invocation, Invocation.ofArguments arguments = .ok invocation ∧
        invocation.notice = none ∧ Breaks world invocation error := by
  refine ⟨?_, fun error => run_eq_broken_iff⟩
  rw [isEnd_iff]
  constructor
  · intro unbroken invocation parsed noticed error breaks
    exact unbroken error (run_eq_broken_iff.mpr ⟨invocation, parsed, noticed, breaks⟩)
  · intro unbreakable error broken
    obtain ⟨invocation, parsed, noticed, breaks⟩ := run_eq_broken_iff.mp broken
    exact unbreakable invocation parsed noticed error breaks

/-- A world without files whose standard input is a byte that starts no character. -/
def strayWorld : World where
  tree := {}
  here := []
  input := [0xFF]

/-- A byte that starts no character breaks a run off that reads it. -/
theorem run_strayWorld :
    run strayWorld [] = .broken (.decoding ⟨0, 0xFF, 0, .invalidStart⟩) ∧
      ¬(run strayWorld []).IsEnd strayWorld := by
  have loaded : Settings.loadAt strayWorld.tree strayWorld.here = ([], .ok {}) :=
    Settings.loadAt_root_of_missing (by decide)
  have settles : ∃ options, settled strayWorld {} .input = .ok options := by
    simp only [settled, options, Source.searchPlace, loaded]
    exact ⟨_, rfl⟩
  obtain ⟨options, settles⟩ := settles
  have broken : run strayWorld [] = .broken (.decoding ⟨0, 0xFF, 0, .invalidStart⟩) :=
    run_eq_broken_iff.mpr ⟨{}, rfl, rfl, .input rfl settles (by decide +kernel)⟩
  refine ⟨broken, fun ends => ?_⟩
  rw [broken] at ends
  cases ends

end Command
end ChatReply
