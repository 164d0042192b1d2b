import ChatReply.Proofs.Prose
import Mathlib.Data.List.Chain

/-!
# Steps of a scan

A scan is changed by steps of six kinds. In whatever order they are taken, a step leaves the blocks
alone or adds one behind them, a refused step changes nothing, fences are opened and closed in turn,
and the runs of the paragraphs, followed by those of the open paragraph, are all runs that were ever
added. The scan of a reply takes its steps so that no paragraph is open inside a fence and no line
of code is held outside one.
-/

namespace ChatReply
namespace Reply
namespace Scan

/-! ## Single steps -/

/-- A step of a scan. -/
inductive Action where
  /-- Opens a fence at a line. -/
  | openFence (line : Text)
  /-- Closes the open fence at a line. -/
  | closeFence (framed : Bool) (line : Text)
  /-- Ends the open paragraph. -/
  | flush
  /-- Makes a block of the lines of the open fence. -/
  | emitCode (framed : Bool)
  /-- Adds runs to the open paragraph. -/
  | addRuns (runs : List Run)
  /-- Adds a line to the open fence. -/
  | addCode (line : Text)
deriving DecidableEq, Repr

/-- Takes a step. Tells whether it is taken or refused, and the scan after it. Only the steps that
open or close a fence are ever refused. -/
def attempt (scan : Scan) : Action → Bool × Scan
  | .openFence line => scan.openFence line
  | .closeFence framed line => scan.closeFence framed line
  | .flush => (true, scan.flush)
  | .emitCode framed => (true, scan.emitCode framed)
  | .addRuns runs => (true, scan.addRuns runs)
  | .addCode line => (true, scan.addCode line)

/-- The scan after a step, taken or refused. -/
def perform (scan : Scan) (action : Action) : Scan :=
  (scan.attempt action).2

/-- The scan after some steps. -/
def performAll (scan : Scan) (actions : List Action) : Scan :=
  actions.foldl perform scan

theorem performAll_cons (scan : Scan) (action : Action) (rest : List Action) :
    scan.performAll (action :: rest) = (scan.perform action).performAll rest := rfl

/-- A fence is refused at a line that is none, and where the fence is open or closed already. -/
def Refuses (scan : Scan) : Action → Prop
  | .openFence line => isFence line = false ∨ scan.fenced = true
  | .closeFence _ line => isFence line = false ∨ scan.fenced = false
  | _ => False

theorem openFence_fst (scan : Scan) (line : Text) :
    (scan.openFence line).1 = (isFence line && !scan.fenced) := by
  rw [openFence_eq]
  split <;> simp_all

theorem closeFence_fst (framed : Bool) (scan : Scan) (line : Text) :
    (scan.closeFence framed line).1 = (isFence line && scan.fenced) := by
  rw [closeFence_eq]
  split <;> simp_all

/-- Exactly the fences that are out of place are refused. -/
theorem attempt_eq_false_iff {scan : Scan} {action : Action} :
    (scan.attempt action).1 = false ↔ scan.Refuses action := by
  cases action with
  | openFence line =>
      rw [attempt, openFence_fst, Bool.and_eq_false_iff, Bool.not_eq_false', Refuses]
  | closeFence framed line => rw [attempt, closeFence_fst, Bool.and_eq_false_iff, Refuses]
  | _ => simp [attempt, Refuses]

/-- A refused step leaves the scan as it is. -/
theorem perform_of_refuses {scan : Scan} {action : Action} (refused : scan.Refuses action) :
    scan.perform action = scan := by
  have untaken := attempt_eq_false_iff.mpr refused
  cases action with
  | openFence line => exact (eq_of_openFence (Prod.ext untaken rfl)).symm
  | closeFence framed line => exact (eq_of_closeFence (Prod.ext untaken rfl)).symm
  | _ => exact refused.elim

/-! ## Blocks -/

/-- The block that a step completes, if it completes one. -/
def completed (scan : Scan) (action : Action) : List Block :=
  match action, (scan.attempt action).1 with
  | .openFence _, true => paragraphBlocks scan.paragraph
  | .closeFence framed _, true => codeBlocks framed scan.code
  | .flush, _ => paragraphBlocks scan.paragraph
  | .emitCode framed, _ => codeBlocks framed scan.code
  | _, _ => []

theorem blocks_perform (scan : Scan) (action : Action) :
    (scan.perform action).blocks = scan.blocks ++ scan.completed action := by
  cases action with
  | openFence line =>
      simp only [perform, completed, attempt, openFence_eq]
      split <;> simp
  | closeFence framed line =>
      simp only [perform, completed, attempt, closeFence_eq]
      split <;> simp
  | flush => simp [perform, completed, attempt, flush_eq]
  | emitCode framed => simp [perform, completed, attempt, emitCode_eq]
  | addRuns runs => simp [perform, completed, attempt, Scan.addRuns]
  | addCode line => simp [perform, completed, attempt, Scan.addCode]

theorem length_paragraphBlocks_le (paragraph : List Run) :
    (paragraphBlocks paragraph).length ≤ 1 := by
  unfold paragraphBlocks
  split <;> simp

theorem length_codeBlocks_le (framed : Bool) (code : List Text) :
    (codeBlocks framed code).length ≤ 1 := by
  unfold codeBlocks
  split <;> simp

theorem length_completed_le (scan : Scan) (action : Action) :
    (scan.completed action).length ≤ 1 := by
  unfold completed
  split
  · exact length_paragraphBlocks_le _
  · exact length_codeBlocks_le _ _
  · exact length_paragraphBlocks_le _
  · exact length_codeBlocks_le _ _
  · exact Nat.zero_le 1

/-! ## Fences -/

/-- What a step does to the fence, if anything: it opens it (`true`) or closes it (`false`). -/
def toggle? (scan : Scan) (action : Action) : Option Bool :=
  match action, (scan.attempt action).1 with
  | .openFence _, true => some true
  | .closeFence _ _, true => some false
  | _, _ => none

/-- The openings (`true`) and closings (`false`) of a fence by some steps, in order. -/
def toggles (scan : Scan) : List Action → List Bool
  | [] => []
  | action :: rest => (scan.toggle? action).toList ++ (scan.perform action).toggles rest

theorem fenced_perform (scan : Scan) (action : Action) :
    (scan.perform action).fenced = (scan.toggle? action).getD scan.fenced := by
  cases action with
  | openFence line =>
      simp only [perform, toggle?, attempt, openFence_eq]
      split <;> simp
  | closeFence framed line =>
      simp only [perform, toggle?, attempt, closeFence_eq]
      split <;> simp
  | flush => simp [perform, toggle?, attempt, flush_eq]
  | emitCode framed => simp [perform, toggle?, attempt, emitCode_eq]
  | addRuns runs => rfl
  | addCode line => rfl

/-- Only a closed fence is opened and only an open one closed. -/
theorem toggle?_ne (scan : Scan) (action : Action) : scan.toggle? action ≠ some scan.fenced := by
  cases action with
  | openFence line =>
      have taken := openFence_fst scan line
      cases opens : (scan.openFence line).1 with
      | false => simp [toggle?, attempt, opens]
      | true =>
          rw [opens, eq_comm, Bool.and_eq_true] at taken
          simpa [toggle?, attempt, opens] using taken.2
  | closeFence framed line =>
      have taken := closeFence_fst framed scan line
      cases closes : (scan.closeFence framed line).1 with
      | false => simp [toggle?, attempt, closes]
      | true =>
          rw [closes, eq_comm, Bool.and_eq_true] at taken
          simp [toggle?, attempt, closes, taken.2]
  | _ => simp [toggle?]

/-- From a scan on, openings and closings of a fence take turns. -/
theorem isChain_toggles (scan : Scan) (actions : List Action) :
    List.IsChain (· ≠ ·) (scan.fenced :: scan.toggles actions) := by
  induction actions generalizing scan with
  | nil => exact List.isChain_singleton _
  | cons action rest ih =>
      have later := ih (scan.perform action)
      have changes := toggle?_ne scan action
      rw [fenced_perform] at later
      rw [toggles]
      cases toggled : scan.toggle? action with
      | none => simpa [toggled] using later
      | some fenced =>
          rw [toggled, Option.getD_some] at later
          rw [toggled] at changes
          have changed : scan.fenced ≠ fenced := fun same => changes (congrArg some same.symm)
          exact List.isChain_cons_cons.mpr ⟨changed, later⟩

/-- The fence is as the last opening or closing has left it. -/
theorem fenced_performAll (scan : Scan) (actions : List Action) :
    (scan.performAll actions).fenced = (scan.toggles actions).getLastD scan.fenced := by
  induction actions generalizing scan with
  | nil => rfl
  | cons action rest ih =>
      have later := ih (scan.perform action)
      rw [fenced_perform] at later
      rw [performAll_cons, toggles]
      cases toggled : scan.toggle? action with
      | none => simpa [toggled] using later
      | some fenced =>
          rw [toggled, Option.getD_some] at later
          rw [Option.toList_some, List.singleton_append, List.getLastD_cons]
          exact later

/-! ## Runs -/

/-- The runs of the paragraphs among some blocks. -/
def paragraphRuns (blocks : List Block) : List Run :=
  blocks.flatMap fun
    | .paragraph runs => runs
    | _ => []

/-- The runs that some steps add to paragraphs. -/
def addedRuns (actions : List Action) : List Run :=
  actions.flatMap fun
    | .addRuns runs => runs
    | _ => []

/-- The runs of all paragraphs of a scan, the open one included. -/
def allRuns (scan : Scan) : List Run :=
  paragraphRuns scan.blocks ++ scan.paragraph

theorem paragraphRuns_paragraphBlocks (paragraph : List Run) :
    paragraphRuns (paragraphBlocks paragraph) = paragraph := by
  unfold paragraphBlocks
  split <;> simp_all [paragraphRuns]

theorem paragraphRuns_codeBlocks (framed : Bool) (code : List Text) :
    paragraphRuns (codeBlocks framed code) = [] := by
  unfold codeBlocks
  split <;> rfl

theorem paragraphRuns_append (first second : List Block) :
    paragraphRuns (first ++ second) = paragraphRuns first ++ paragraphRuns second :=
  List.flatMap_append

/-- A step loses no run and moves none before another one. -/
theorem allRuns_perform (scan : Scan) (action : Action) :
    (scan.perform action).allRuns = scan.allRuns ++ addedRuns [action] := by
  cases action with
  | openFence line =>
      simp only [perform, attempt, openFence_eq]
      split <;> simp [allRuns, addedRuns, paragraphRuns_append, paragraphRuns_paragraphBlocks]
  | closeFence framed line =>
      simp only [perform, attempt, closeFence_eq]
      split <;> simp [allRuns, addedRuns, paragraphRuns_append, paragraphRuns_codeBlocks]
  | flush =>
      simp [perform, attempt, flush_eq, allRuns, addedRuns, paragraphRuns_append,
        paragraphRuns_paragraphBlocks]
  | emitCode framed =>
      simp [perform, attempt, emitCode_eq, allRuns, addedRuns, paragraphRuns_append,
        paragraphRuns_codeBlocks]
  | addRuns runs => simp [perform, attempt, Scan.addRuns, allRuns, addedRuns]
  | addCode line => simp [perform, attempt, Scan.addCode, allRuns, addedRuns]

theorem allRuns_performAll (scan : Scan) (actions : List Action) :
    (scan.performAll actions).allRuns = scan.allRuns ++ addedRuns actions := by
  induction actions generalizing scan with
  | nil => simp [performAll, addedRuns]
  | cons action rest ih =>
      calc (scan.performAll (action :: rest)).allRuns
          = (scan.perform action).allRuns ++ addedRuns rest := ih (scan.perform action)
        _ = scan.allRuns ++ addedRuns [action] ++ addedRuns rest := by rw [allRuns_perform]
        _ = scan.allRuns ++ addedRuns (action :: rest) := by simp [addedRuns]

/-! ## The scan of a reply -/

/-- The scan of a reply comes to a state, with some lines still to be read. -/
inductive Comes (framed : Bool) (text : Text) : Scan → List Text → Prop where
  | start (filled : isBlankText text = false) : Comes framed text {} (lines text)
  | fenced {scan : Scan} {line : Text} {rest : List Text}
      (before : Comes framed text scan (line :: rest)) (fenced : scan.fenced = true) :
      Comes framed text (scan.fencedLine framed line) rest
  | opened {scan next : Scan} {line : Text} {rest : List Text}
      (before : Comes framed text scan (line :: rest))
      (opens : scan.openFence (trim line) = (true, next)) : Comes framed text next rest
  | items {scan : Scan} {line : Text} {rest : List Text} {kind : ListKind} {blocks : List Block}
      (before : Comes framed text scan (line :: rest)) (unfenced : scan.fenced = false)
      (no_fence : (scan.openFence (trim line)).1 = false) (found : itemKind? line = some kind)
      (items : ItemLines.blocks (takeItems kind (line :: rest)).1 = .ok blocks) :
      Comes framed text (scan.flush.push blocks) (takeItems kind (line :: rest)).2
  | plain {scan : Scan} {line : Text} {rest : List Text}
      (before : Comes framed text scan (line :: rest)) (unfenced : scan.fenced = false)
      (no_fence : (scan.openFence (trim line)).1 = false) (no_item : itemKind? line = none) :
      Comes framed text (scan.plainLine line rest) rest

variable {framed : Bool} {text : Text} {scan : Scan} {left : List Text}

/-- From a state that it comes to, the scan of a reply goes on with the lines that are left. -/
theorem Comes.scan_eq (comes : Comes framed text scan left) :
    Reply.scan framed text = run framed scan left := by
  induction comes with
  | start filled => simp [Reply.scan, filled]
  | fenced before fenced ih => rw [ih, run, if_pos fenced]
  | opened before opens ih =>
      rw [ih, run, if_neg (Bool.eq_false_iff.mp (opens_iff.mp opens).2.1)]
      split <;> simp_all
  | items before unfenced no_fence found items ih =>
      rw [ih, run, if_neg (Bool.eq_false_iff.mp unfenced)]
      split
      · simp_all
      · rename_i same other refused found'
        obtain rfl := eq_of_openFence refused
        obtain rfl : _ = other := Option.some.inj (found.symm.trans found')
        simp only [items]
      · simp_all
  | plain before unfenced no_fence no_item ih =>
      rw [ih, run, if_neg (Bool.eq_false_iff.mp unfenced)]
      split
      · simp_all
      · simp_all
      · rename_i same refused no_item'
        rw [eq_of_openFence refused]

/-- The scan comes to its end, if it does not fail. -/
theorem Comes.of_run {final : Scan} (comes : Comes framed text scan left)
    (ends : run framed scan left = .ok final) : Comes framed text final [] := by
  fun_induction run framed scan left with
  | case1 scan =>
      obtain rfl := Except.ok.inj ends
      exact comes
  | case2 scan line rest fenced ih => exact ih (.fenced comes fenced) ends
  | case3 scan line rest unfenced opened opens ih => exact ih (.opened comes opens) ends
  | case4 scan line rest unfenced same kind found no_fence error refused => simp at ends
  | case5 scan line rest unfenced same kind found no_fence blocks items ih =>
      obtain rfl := eq_of_openFence no_fence
      exact ih (.items comes (Bool.eq_false_iff.mpr unfenced) (congrArg Prod.fst no_fence) found
        items) ends
  | case6 scan line rest unfenced same no_item no_fence ih =>
      obtain rfl := eq_of_openFence no_fence
      exact ih (.plain comes (Bool.eq_false_iff.mpr unfenced) (congrArg Prod.fst no_fence)
        no_item) ends

/-- The states at which the scan of a reply ends are those in which no line is left. -/
theorem comes_nil_iff (filled : isBlankText text = false) :
    Comes framed text scan [] ↔ Reply.scan framed text = .ok scan := by
  constructor
  · intro comes
    rw [comes.scan_eq, run]
  · intro ends
    have start : Comes framed text {} (lines text) := .start filled
    exact start.of_run (start.scan_eq ▸ ends)

/-- The scan of a reply passes through a state, between two lines or while it reads one. -/
inductive Passes (framed : Bool) (text : Text) : Scan → Prop where
  | between {scan : Scan} {left : List Text} (comes : Comes framed text scan left) :
      Passes framed text scan
  /-- The next line is not plain and has just ended the open paragraph. -/
  | flushed {scan : Scan} {line : Text} {rest : List Text}
      (comes : Comes framed text scan (line :: rest)) (unfenced : scan.fenced = false)
      (special : ¬IsPlain line) : Passes framed text scan.flush
  /-- The next line has opened a fence whose lines are not set yet. -/
  | opening {scan : Scan} {line : Text} {rest : List Text}
      (comes : Comes framed text scan (line :: rest)) (unfenced : scan.fenced = false)
      (marks : isFence (trim line) = true) : Passes framed text { scan.flush with fenced := true }
  /-- The next line is plain and not yet joined to the one behind it. -/
  | unjoined {scan : Scan} {line : Text} {rest : List Text}
      (comes : Comes framed text scan (line :: rest)) (unfenced : scan.fenced = false)
      (plain : IsPlain line) : Passes framed text (scan.addRuns (Run.ofLine line))
  /-- The block of a fence is made, by the line that closes it or at the end of the reply. -/
  | emitted {scan : Scan} {left : List Text} (comes : Comes framed text scan left)
      (fenced : scan.fenced = true) (closes : ∀ line ∈ left.head?, isFence (trim line) = true) :
      Passes framed text (scan.emitCode framed)
  /-- The fence that was left open is closed at the end of the reply. -/
  | closed {scan : Scan} (comes : Comes framed text scan []) (fenced : scan.fenced = true) :
      Passes framed text { scan.emitCode framed with fenced := false }
  | finished {scan : Scan} (comes : Comes framed text scan []) :
      Passes framed text (scan.finish framed)

/-- No paragraph is open inside a fence, and no line of code is held outside one. -/
structure Exclusive (scan : Scan) : Prop where
  no_paragraph : scan.fenced = true → scan.paragraph = []
  no_code : scan.fenced = false → scan.code = []

theorem Exclusive.flush (exclusive : scan.Exclusive) : scan.flush.Exclusive := by
  rw [flush_eq]
  exact ⟨fun _ => rfl, exclusive.no_code⟩

theorem Exclusive.push (exclusive : scan.Exclusive) (blocks : List Block) :
    (scan.push blocks).Exclusive :=
  ⟨exclusive.no_paragraph, exclusive.no_code⟩

theorem Exclusive.addRuns (exclusive : scan.Exclusive) (unfenced : scan.fenced = false)
    (runs : List Run) : (scan.addRuns runs).Exclusive where
  no_paragraph fenced := by
    have still : scan.fenced = true := fenced
    simp [unfenced] at still
  no_code := exclusive.no_code

theorem Exclusive.plainLine (exclusive : scan.Exclusive) (unfenced : scan.fenced = false)
    (line : Text) (rest : List Text) : (scan.plainLine line rest).Exclusive := by
  unfold Scan.plainLine
  split
  · exact exclusive.flush.push _
  · split
    · exact exclusive.flush.push _
    · split
      · exact exclusive.flush
      · exact exclusive.addRuns unfenced _

theorem Exclusive.emitCode (exclusive : scan.Exclusive) :
    (scan.emitCode framed).Exclusive := by
  rw [emitCode_eq]
  exact ⟨exclusive.no_paragraph, fun _ => rfl⟩

/-- Where a fence is closed, no paragraph was open inside it. -/
theorem Exclusive.close (exclusive : scan.Exclusive) (fenced : scan.fenced = true) :
    { scan.emitCode framed with fenced := false }.Exclusive := by
  rw [emitCode_eq]
  exact ⟨fun _ => exclusive.no_paragraph fenced, fun _ => rfl⟩

theorem Exclusive.finish (exclusive : scan.Exclusive) : (scan.finish framed).Exclusive := by
  unfold Scan.finish
  split
  · rename_i fenced
    exact (exclusive.close fenced).flush
  · exact exclusive.flush

/-- Reading lines keeps open paragraphs and open fences apart. -/
theorem Comes.exclusive (comes : Comes framed text scan left) : scan.Exclusive := by
  induction comes with
  | start filled => exact ⟨fun _ => rfl, fun _ => rfl⟩
  | @fenced scan line rest before fenced ih =>
      rw [fencedLine, closeFence_eq]
      split_ifs
      · exact ⟨fun _ => ih.no_paragraph fenced, fun _ => rfl⟩
      · exact ⟨ih.no_paragraph, fun unfenced => by simp [Scan.addCode, fenced] at unfenced⟩
  | opened before opens ih =>
      obtain ⟨-, -, rfl⟩ := opens_iff.mp opens
      exact ⟨fun _ => rfl, fun _ => rfl⟩
  | items before unfenced no_fence found items ih => exact ih.flush.push _
  | plain before unfenced no_fence no_item ih => exact ih.plainLine unfenced _ _

theorem Passes.exclusive (passes : Passes framed text scan) : scan.Exclusive := by
  cases passes with
  | between comes => exact comes.exclusive
  | flushed comes unfenced special => exact comes.exclusive.flush
  | opening comes unfenced marks =>
      rw [flush_eq]
      exact ⟨fun _ => rfl, fun still => by simp at still⟩
  | unjoined comes unfenced plain => exact comes.exclusive.addRuns unfenced _
  | emitted comes fenced closes => exact comes.exclusive.emitCode
  | closed comes fenced => exact comes.exclusive.close fenced
  | finished comes => exact comes.exclusive.finish

/-- Steps in any order never touch a block, lose or move a run, or change anything when they are
refused, and fences are opened and closed in turn. In the scan of a reply no paragraph is open
inside a fence, and no line of code is held outside one. -/
theorem performAll_conserves (actions : List Action) :
    let scan : Scan := performAll {} actions
    (∀ action, scan.blocks <+: (scan.perform action).blocks ∧
      (scan.perform action).blocks.length ≤ scan.blocks.length + 1) ∧
    (∀ action, ((scan.attempt action).1 = false ↔ scan.Refuses action) ∧
      ((scan.attempt action).1 = false → scan.perform action = scan)) ∧
    List.IsChain (· ≠ ·) (false :: toggles {} actions) ∧
    (scan.fenced = true ↔ (toggles {} actions).getLast? = some true) ∧
    paragraphRuns scan.blocks ++ scan.paragraph = addedRuns actions ∧
    ∀ framed text,
      (∀ final, isBlankText text = false →
        (Reply.scan framed text = .ok final ↔ Comes framed text final [])) ∧
      ∀ state, Passes framed text state →
        (state.fenced = true → state.paragraph = []) ∧
        (state.fenced = false → state.code = []) := by
  intro scan
  refine ⟨fun action => ?_, fun action => ⟨attempt_eq_false_iff, fun refused => ?_⟩,
    isChain_toggles {} actions, ?_, ?_, fun framed text => ⟨fun final filled => ?_, ?_⟩⟩
  · rw [blocks_perform, List.length_append]
    exact ⟨List.prefix_append _ _, Nat.add_le_add_left (length_completed_le scan action) _⟩
  · exact perform_of_refuses (attempt_eq_false_iff.mp refused)
  · rw [fenced_performAll, List.getLastD_eq_getLast?]
    cases (toggles {} actions).getLast? <;> simp
  · exact allRuns_performAll {} actions
  · exact (comes_nil_iff filled).symm
  · intro state passes
    exact ⟨passes.exclusive.no_paragraph, passes.exclusive.no_code⟩

/-- A fence that is open cannot be opened again, and the paragraph before it is complete. -/
theorem performAll_conserves_openFence :
    let opened := performAll {} [.addRuns [⟨['a'], .plain⟩], .openFence fenceMarks]
    let state : Scan := ⟨[.paragraph [⟨['a'], .plain⟩, ⟨[' '], .plain⟩]], true, [], [['b']]⟩
    (opened.attempt (.openFence fenceMarks)).1 = false ∧
    opened.perform (.openFence fenceMarks) = opened ∧
    Passes true "a\n```\nb".toList state ∧
    (state.fenced = true → state.paragraph = []) := by
  intro opened state
  have refused : (opened.attempt (.openFence fenceMarks)).1 = false := by decide +kernel
  have scanned : Reply.scan true "a\n```\nb".toList = .ok state := by decide +kernel
  obtain ⟨-, unchanged, -, -, -, reply⟩ :=
    performAll_conserves [.addRuns [⟨['a'], .plain⟩], .openFence fenceMarks]
  obtain ⟨reached, exclusive⟩ := reply true "a\n```\nb".toList
  have passes : Passes true "a\n```\nb".toList state :=
    .between ((reached state (by decide)).mp scanned)
  exact ⟨refused, (unchanged _).2 refused, passes, (exclusive state passes).1⟩

end Scan
end Reply
end ChatReply
