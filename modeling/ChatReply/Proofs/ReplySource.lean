import ChatReply.Command.Run
import ChatReply.Proofs.MeasuredFile
import ChatReply.Proofs.SettingsSearch
import ChatReply.Proofs.UnifiedBreaks

/-!
# Sources of a reply

A reply gives the same output whether it is read from a file or from the standard input, with one
exception. The standard input is measured with a line feed for every line break, and a file as it
is, so a limit between the two sizes refuses the file alone.
-/

namespace ChatReply
namespace Command

open WrittenPath (IsEntryName)

/-! ## Outcomes -/

/-- The status and the output of a run, or what it breaks off with. -/
def Outcome.visible : Outcome → Except Breakdown (Nat × Text)
  | ended status output _ => .ok (status, output)
  | broken error => .error error

/-- The status and the output of a failure, or what it breaks off with. -/
def Failure.visible : Failure → Except Breakdown (Nat × Text)
  | usage _ => .ok (2, [])
  | refusal _ => .ok (1, [])
  | breakdown error => .error error

/-- The status and the output of what the steps of a run give, or what they break off with. -/
def visibleOf : Except Failure (Text × Text) → Except Breakdown (Nat × Text)
  | .error error => error.visible
  | .ok (output, _) => .ok (0, output)

theorem visible_outcome (world : World) (reported : Text) (failure : Failure) :
    (failure.outcome world reported).visible = failure.visible := by
  cases failure <;> rfl

/-- A run that is asked for no notice shows what its steps give. -/
theorem visible_run {world : World} {arguments : List String} {invocation : Invocation}
    (parsed : Invocation.ofArguments arguments = .ok invocation)
    (unnoticed : invocation.notice = none) :
    (run world arguments).visible =
      visibleOf ((invocation.source world).bind fun source =>
        (steps world invocation source).2) := by
  rw [run, parsed]
  simp only [unnoticed]
  cases invocation.source world with
  | error error => exact visible_outcome world [] error
  | ok source =>
      simp only [Except.bind]
      cases (steps world invocation source).2 with
      | error error => exact visible_outcome world _ error
      | ok printed => rfl

/-- What is printed for a notice. -/
def noticeText : Notice → String
  | .version => versionText
  | .help => helpText

theorem visible_run_of_notice {world : World} {arguments : List String} {invocation : Invocation}
    (parsed : Invocation.ofArguments arguments = .ok invocation) {notice : Notice}
    (noticed : invocation.notice = some notice) :
    (run world arguments).visible = .ok (0, (noticeText notice).toList) := by
  rw [run, parsed]
  simp only [noticed]
  cases notice <;> rfl

/-- What a run prints of a reply, without what is reported on the way. -/
def printed (world : World) (invocation : Invocation) (options : Options) (text : Text) :
    Except Failure (Text × Text) :=
  match Reply.parse options.framed text with
  | .error error => .error (.breakdown (.numeral error))
  | .ok document => (deliver world invocation options document).2

theorem steps_result (world : World) (invocation : Invocation) (source : Source) :
    (steps world invocation source).2 =
      ((options world invocation source).2.bind (limited world)).bind fun options =>
        (source.read world options.limit).bind (printed world invocation options) := by
  simp only [steps]
  cases (options world invocation source).2.bind (limited world) with
  | error error => rfl
  | ok options =>
      simp only [document, Except.bind]
      cases source.read world options.limit with
      | error error => rfl
      | ok text =>
          simp only [printed]
          cases Reply.parse options.framed text <;> rfl

theorem printed_unifyBreaks (world : World) (invocation : Invocation) (options : Options)
    (text : Text) :
    printed world invocation options (unifyBreaks text) =
      printed world invocation options text := by
  rw [printed, printed, Reply.parse_unifyBreaks]

/-- A reply that is small enough is not refused. -/
theorem visibleOf_printed_ne (world : World) (invocation : Invocation) (options : Options)
    (text output : Text) : visibleOf (printed world invocation options text) ≠ .ok (1, output) := by
  unfold printed
  split
  · simp [visibleOf, Failure.visible]
  · simp only [deliver]
    split
    · simp [visibleOf]
    · split
      · simp [visibleOf, Failure.visible]
      · simp [visibleOf]

/-! ## Arguments -/

namespace Invocation

/-- The invocation with one more operand. -/
def withOperand (invocation : Invocation) (name : String) : Invocation :=
  { invocation with operands := invocation.operands ++ [name] }

/-- Whether an option takes a value does not depend on the value. -/
theorem isSome_valued? (option value other : String) (invocation : Invocation) :
    (invocation.valued? option value).isSome = (invocation.valued? option other).isSome := by
  unfold valued?
  split <;> rfl

/-- An operand may stand behind all other arguments, unless the last one lacks its value. -/
theorem addArguments_append {name : String} (operand : name.toList.head? ≠ some '-')
    {invocation : Invocation} {arguments : List String}
    (complete : ∀ option, invocation.addArguments arguments ≠ .error (.valueMissing option)) :
    invocation.addArguments (arguments ++ [name]) =
      (invocation.addArguments arguments).map (·.withOperand name) := by
  fun_induction addArguments invocation arguments with
  | case1 invocation =>
      have no_option : isOption name.toList = false := by simp [isOption, operand]
      have no_end : name ≠ "--" := by
        rintro rfl
        exact operand rfl
      simp [addArguments, no_option, no_end, Except.map, withOperand]
  | case2 invocation rest => simp [addArguments, Except.map, withOperand]
  | case3 invocation argument rest no_end no_option ih =>
      rw [List.cons_append, addArguments, if_neg no_end, if_pos no_option]
      exact ih complete
  | case4 invocation argument rest no_end option joint error failed =>
      rw [List.cons_append, addArguments, if_neg no_end, if_neg option, if_pos joint, failed]
      rfl
  | case5 invocation argument rest no_end option joint changed joined_eq ih =>
      rw [List.cons_append, addArguments, if_neg no_end, if_neg option, if_pos joint, joined_eq]
      exact ih complete
  | case6 invocation argument rest no_end option separate changed flag_eq ih =>
      simp only [List.cons_append, addArguments, if_neg no_end, if_neg option, if_neg separate,
        flag_eq]
      exact ih complete
  | case7 invocation argument => exact (complete argument rfl).elim
  | case8 invocation argument no_end option separate unknown no_flag no_value =>
      rw [isSome_valued? argument "" name, Option.not_isSome_iff_eq_none] at no_value
      simp only [List.cons_append, List.nil_append, addArguments, if_neg no_end, if_neg option,
        if_neg separate, no_flag, no_value]
      rfl
  | case9 invocation argument no_end option separate no_flag value rest changed valued_eq ih =>
      simp only [List.cons_append, addArguments, if_neg no_end, if_neg option, if_neg separate,
        no_flag, valued_eq]
      exact ih complete
  | case10 invocation argument no_end option separate unknown no_flag value rest no_value =>
      simp only [List.cons_append, addArguments, if_neg no_end, if_neg option, if_neg separate,
        no_flag, no_value]
      rfl

end Invocation

/-! ## Two sources of the same bytes -/

/-- The size limit that a source is checked against, if it comes to that. -/
def Source.limit? (world : World) (invocation : Invocation) (source : Source) : Option Nat :=
  match (options world invocation source).2.bind (limited world) with
  | .error _ => none
  | .ok options => some options.limit

/-- The size limit that a run checks its reply against, if it comes to that. -/
def limit? (world : World) (arguments : List String) : Option Nat :=
  match Invocation.ofArguments arguments with
  | .error _ => none
  | .ok invocation =>
    match invocation.notice, invocation.source world with
    | none, .ok source => source.limit? world invocation
    | _, _ => none

theorem eq_input_of_source {world : World} {invocation : Invocation} {source : Source}
    (unnamed : invocation.operands = []) (found : invocation.source world = .ok source) :
    source = .input := by
  simp only [Invocation.source, unnamed] at found
  split at found
  · simp at found
  · exact (Except.ok.inj found).symm

section

variable {world : World} {name : String} {bytes : List UInt8} {text : Text}
variable {arguments : List String}
variable (directory : world.tree.HasDirectory world.here) (entry : IsEntryName name)
variable (file : world.tree.entry? (world.here ++ [name]) = some (.file bytes))
variable (decoded : Utf8.decode bytes = .ok text)
variable (operand : name.toList.head? ≠ some '-')
variable (complete : ∀ option, Invocation.ofArguments arguments ≠ .error (.valueMissing option))
variable (unnamed : ∀ invocation, Invocation.ofArguments arguments = .ok invocation →
  invocation.operands = [])

include entry

include operand in
theorem source_withOperand
    (status : world.tree.status world.here name = .ok (.file bytes)) {invocation : Invocation}
    (unnamed : invocation.operands = []) :
    (invocation.withOperand name).source world =
      (invocation.source world).map fun _ => .file name := by
  have no_dash : name ≠ "-" := by
    rintro rfl
    exact operand rfl
  have operands : (invocation.withOperand name).operands = [name] := by
    simp [Invocation.withOperand, unnamed]
  have format : (invocation.withOperand name).format = invocation.format := rfl
  simp only [Invocation.source, format, operands, unnamed]
  cases invocation.format.filter fun name => (OutputFormat.ofName? name).isNone with
  | some unknown => rfl
  | none => simp [no_dash, entry.no_null, status, Except.map]

include directory file

theorem options_withOperand (invocation : Invocation) :
    options world (invocation.withOperand name) (.file name) = options world invocation .input := by
  have place : Source.searchPlace world (.file name) = .ok world.here := by
    simp [Source.searchPlace, Tree.resolve_file directory entry file, Except.map, Path.parent]
  rw [options, options, place]
  rfl

include decoded

theorem readFile_eq (limit : Nat) :
    readFile world name limit =
      if limit < bytes.length then
        .error (.refusal (ReplyFile.FileError.tooLarge name limit).message)
      else .ok text := by
  have here := directory.directories world.here List.prefix_rfl
  have leads := ReplyFile.leadsTo_name here entry file
  rw [readFile, ReplyFile.checkSize_of_leadsTo leads,
    ReplyFile.readWithin_of_encode leads (Utf8.decode_eq_ok_iff.mp decoded), entry.tidy_eq]
  by_cases large : limit < bytes.length
  · simp [large]
  · simp [large]

omit directory file entry in
theorem readInput_eq (limit : Nat) :
    readInput { world with input := bytes } limit =
      if limit < Utf8.encodedSize (unifyBreaks text) then
        .error (.refusal (Limit.TooLarge.message ⟨Utf8.encodedSize (unifyBreaks text), limit⟩))
      else .ok (unifyBreaks text) := by
  simp only [readInput, decoded, Limit.checkContent, Int.ofNat_lt]
  by_cases large : limit < Utf8.encodedSize (unifyBreaks text)
  · simp [large]
  · simp [large]

/-- What the two sources of the same bytes lead to differs only in the size that is checked. -/
theorem visibleOf_steps_iff (invocation : Invocation) :
    visibleOf (steps world (invocation.withOperand name) (.file name)).2 =
        visibleOf (steps { world with input := bytes } invocation .input).2 ↔
      ∀ limit ∈ Source.limit? world invocation .input,
        Utf8.encodedSize (unifyBreaks text) ≤ limit → bytes.length ≤ limit := by
  have same_options :
      (options { world with input := bytes } invocation .input).2.bind
          (limited { world with input := bytes }) =
        (options world invocation .input).2.bind (limited world) := rfl
  have shrinks := encodedSize_unifyBreaks_le text
  rw [Utf8.encodedSize_of_decode decoded] at shrinks
  rw [steps_result, steps_result, options_withOperand directory entry file, same_options,
    Source.limit?]
  cases (options world invocation .input).2.bind (limited world) with
  | error error => simp [Except.bind]
  | ok found =>
      have same_printed (text : Text) :
          printed world (invocation.withOperand name) found text =
            printed { world with input := bytes } invocation found text := rfl
      simp only [Except.bind, Source.read, readFile_eq directory entry file decoded,
        readInput_eq decoded, Option.mem_some, forall_eq']
      by_cases fits : bytes.length ≤ found.limit
      · -- Both sources are small enough.
        rw [if_neg (by omega), if_neg (by omega)]
        simp only [printed_unifyBreaks, same_printed, fits, implies_true]
      · by_cases unified_fits : Utf8.encodedSize (unifyBreaks text) ≤ found.limit
        · -- The file alone is refused.
          rw [if_pos (by omega), if_neg (by omega)]
          refine iff_of_false (fun same => ?_) (fun agree => fits (agree unified_fits))
          exact visibleOf_printed_ne _ _ _ _ _ same.symm
        · -- Both sources are refused.
          rw [if_pos (by omega), if_pos (by omega)]
          exact iff_of_true rfl fun small => absurd small unified_fits

include operand complete unnamed

theorem visible_run_append_iff :
    (run world (arguments ++ [name])).visible =
        (run { world with input := bytes } arguments).visible ↔
      ∀ limit ∈ limit? world arguments,
        Utf8.encodedSize (unifyBreaks text) ≤ limit → bytes.length ≤ limit := by
  have both : Invocation.ofArguments (arguments ++ [name]) =
      (Invocation.ofArguments arguments).map (·.withOperand name) :=
    Invocation.addArguments_append operand complete
  have here := directory.directories world.here List.prefix_rfl
  cases parsed : Invocation.ofArguments arguments with
  | error error =>
      rw [parsed] at both
      simp [run, both, parsed, limit?, Except.map, visible_outcome]
  | ok invocation =>
      rw [parsed] at both
      cases noticed : invocation.notice with
      | some notice =>
          have with_file : (invocation.withOperand name).notice = some notice := noticed
          rw [visible_run_of_notice both with_file, visible_run_of_notice parsed noticed]
          simp [limit?, parsed, noticed]
      | none =>
          have with_file : (invocation.withOperand name).notice = none := noticed
          have same_source :
              invocation.source { world with input := bytes } = invocation.source world := rfl
          rw [visible_run both with_file, visible_run parsed noticed, same_source,
            source_withOperand entry operand (Tree.status_file here entry file)
              (unnamed invocation parsed)]
          cases sourced : invocation.source world with
          | error error => simp [limit?, parsed, noticed, sourced, Except.bind, Except.map]
          | ok source =>
              obtain rfl := eq_input_of_source (unnamed invocation parsed) sourced
              simp only [Except.bind, Except.map, limit?, parsed, noticed, sourced]
              exact visibleOf_steps_iff directory entry file decoded invocation

end

/-- A reply is treated alike whether it stands in a file of the working directory or comes from the
standard input, unless it is within the limit with a line feed for every line break and beyond it as
it is. So the two never differ on a reply without breaks of two characters. -/
theorem visible_run_file_iff (world : World) (name : String) (bytes : List UInt8) (text : Text)
    (arguments : List String) (directory : world.tree.HasDirectory world.here)
    (entry : IsEntryName name) (operand : name.toList.head? ≠ some '-')
    (file : world.tree.entry? (world.here ++ [name]) = some (.file bytes))
    (decoded : Utf8.decode bytes = .ok text)
    (complete : ∀ option, Invocation.ofArguments arguments ≠ .error (.valueMissing option))
    (unnamed : ∀ invocation, Invocation.ofArguments arguments = .ok invocation →
      invocation.operands = []) :
    ((run world (arguments ++ [name])).visible =
        (run { world with input := bytes } arguments).visible ↔
      ∀ limit ∈ limit? world arguments,
        Utf8.encodedSize (unifyBreaks text) ≤ limit → bytes.length ≤ limit) ∧
    (¬['\r', '\n'] <:+: text →
      (run world (arguments ++ [name])).visible =
        (run { world with input := bytes } arguments).visible) := by
  have same_iff := visible_run_append_iff directory entry file decoded operand complete unnamed
  refine ⟨same_iff, fun single => same_iff.mpr fun limit _ small => ?_⟩
  rwa [encodedSize_unifyBreaks single, Utf8.encodedSize_of_decode decoded] at small

/-- A world in which a directory holds one file, the standard input has the same bytes and an
environment variable gives a limit. The bytes are a letter and a break of two characters. -/
def breakWorld (limit : Text) : World where
  tree := ⟨[(["r.md"], .file [0x61, 0x0D, 0x0A])]⟩
  here := []
  input := [0x61, 0x0D, 0x0A]
  limitVariable := some limit

theorem hasDirectory_breakWorld (limit : Text) :
    (breakWorld limit).tree.HasDirectory (breakWorld limit).here where
  named := List.forall_mem_nil _
  directories above front := by
    obtain rfl := List.prefix_nil.mp front
    rfl

theorem isEntryName_reply : IsEntryName "r.md" := by
  decide

/-- No settings are found, as none of the files that may hold them is there. -/
theorem loadAt_breakWorld (limit : Text) :
    Settings.loadAt (breakWorld limit).tree (breakWorld limit).here = ([], .ok {}) := by
  have missing : ∀ source ∈ Settings.sources,
      Tree.entry? ⟨[(["r.md"], .file [0x61, 0x0D, 0x0A])]⟩ [source.1] = none := by
    decide
  exact Settings.loadAt_root_of_missing missing

theorem ofArguments_plain :
    Invocation.ofArguments ["--format", "plain"] = .ok { format := some "plain" } := by
  decide +kernel

theorem visible_run_file_iff_break :
    (run (breakWorld ['3']) ["--format", "plain", "r.md"]).visible =
      (run (breakWorld ['3']) ["--format", "plain"]).visible ∧
    (run (breakWorld ['2']) ["--format", "plain", "r.md"]).visible ≠
      (run (breakWorld ['2']) ["--format", "plain"]).visible := by
  have same_iff (limit : Text) :
      (run (breakWorld limit) ["--format", "plain", "r.md"]).visible =
          (run (breakWorld limit) ["--format", "plain"]).visible ↔
        ∀ found ∈ Source.limit? (breakWorld limit) { format := some "plain" } .input,
          Utf8.encodedSize ['a', '\n'] ≤ found → 3 ≤ found := by
    have same_iff := (visible_run_file_iff (breakWorld limit) "r.md" [0x61, 0x0D, 0x0A]
      ['a', '\r', '\n'] ["--format", "plain"] (hasDirectory_breakWorld limit) isEntryName_reply
      (by decide) rfl (by decide +kernel) (by simp [ofArguments_plain])
      (by simp [ofArguments_plain])).1
    have limit_eq : limit? (breakWorld limit) ["--format", "plain"] =
        Source.limit? (breakWorld limit) { format := some "plain" } .input := by
      simp only [limit?, ofArguments_plain]
      rfl
    rw [limit_eq] at same_iff
    exact same_iff
  have limits : Source.limit? (breakWorld ['3']) { format := some "plain" } .input = some 3 ∧
      Source.limit? (breakWorld ['2']) { format := some "plain" } .input = some 2 := by
    simp only [Source.limit?, options, Source.searchPlace, loadAt_breakWorld]
    decide +kernel
  constructor
  · rw [same_iff, limits.1]
    simp
  · rw [Ne, same_iff, limits.2]
    decide +kernel

/-- The file is refused for its three bytes, and from the standard input the two that are left of
them are printed. -/
theorem run_breakWorld :
    (run (breakWorld ['2']) ["--format", "plain", "r.md"]).visible = .ok (1, []) ∧
    (run (breakWorld ['2']) ["--format", "plain"]).visible = .ok (0, ['a', '\n']) := by
  have directory := hasDirectory_breakWorld ['2']
  have file : (breakWorld ['2']).tree.entry? ((breakWorld ['2']).here ++ ["r.md"]) =
      some (.file [0x61, 0x0D, 0x0A]) := rfl
  have named : Invocation.ofArguments ["--format", "plain", "r.md"] =
      .ok ({ format := some "plain" : Invocation }.withOperand "r.md") := by decide +kernel
  have unnamed_source :
      Invocation.source (breakWorld ['2']) { format := some "plain" } = .ok .input := by decide
  have named_source :
      Invocation.source (breakWorld ['2'])
        ({ format := some "plain" : Invocation }.withOperand "r.md") = .ok (.file "r.md") := by
    rw [source_withOperand isEntryName_reply (by decide)
      (Tree.status_file rfl isEntryName_reply file) rfl, unnamed_source]
    rfl
  constructor
  · have decoded : Utf8.decode [0x61, 0x0D, 0x0A] = .ok ['a', '\r', '\n'] := by decide +kernel
    have bytes_read := readFile_eq directory isEntryName_reply file decoded
    rw [visible_run named rfl, named_source]
    simp only [Except.bind, steps_result, options_withOperand directory isEntryName_reply file]
    simp only [Source.read, bytes_read, options, Source.searchPlace, loadAt_breakWorld]
    decide +kernel
  · rw [visible_run ofArguments_plain rfl, unnamed_source]
    simp only [Except.bind, steps_result, options, Source.searchPlace, loadAt_breakWorld]
    decide +kernel

end Command
end ChatReply
