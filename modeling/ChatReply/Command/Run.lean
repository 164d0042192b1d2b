import ChatReply.Command.Invocation
import ChatReply.File.ReplyFile
import ChatReply.Json.Document
import ChatReply.Render.Extent
import ChatReply.Reply.Report
import ChatReply.Settings.Search

/-!
# Running the command

The command reads a reply from a file or from its standard input and prints the document in the form
that the settings ask for. Nearly everything that it finds wrong ends it with a message and a
status. Some faults break it off: bytes that are not UTF-8, numbers that are too long, paths that
cannot be looked at, values that are nested too deep and frames that are too wide.
-/

namespace ChatReply
namespace Command

/-- The world as the command finds it. -/
structure World where
  /-- The files. -/
  tree : Tree
  /-- The working directory. -/
  here : Path
  /-- The bytes of the standard input. -/
  input : List UInt8 := []
  /-- The value of the environment variable that limits the size of a reply. -/
  limitVariable : Option Text := none
  /-- Whether the output goes to a terminal. -/
  terminal : Bool := false

/-- What breaks the command off. -/
inductive Breakdown where
  /-- Bytes are not UTF-8. -/
  | decoding (error : Utf8.Error)
  /-- A number is too long. -/
  | numeral (error : Numeral.TooLong)
  /-- A path cannot be resolved. -/
  | resolving (error : Tree.ResolveError)
  /-- What is at a place cannot be told. -/
  | inaccessible (place : Path) (fault : Tree.Fault)
  /-- A configuration file holds values that are nested too deep. -/
  | nesting
  /-- The frame of a code block is too wide. -/
  | extent (error : Render.ExtentError)
deriving DecidableEq, Repr

/-- The wording of a breakdown. -/
def Breakdown.message : Breakdown → String
  | decoding error => error.message
  | numeral error => error.message
  | resolving error => error.message
  | inaccessible place fault => fault.message place.absoluteName
  | nesting => Toml.nestingMessage
  | extent error => error.message

/-- Why the command ends without a document. -/
inductive Failure where
  /-- The arguments or the settings make no sense. -/
  | usage (error : UsageError)
  /-- The reply cannot be had. -/
  | refusal (message : String)
  /-- The command breaks off. -/
  | breakdown (error : Breakdown)
deriving DecidableEq, Repr

/-- What a run of the command leaves behind. -/
inductive Outcome where
  /-- The command ends with a status, having written to its output and its error stream. -/
  | ended (status : Nat) (output errors : Text)
  /-- The command breaks off. -/
  | broken (error : Breakdown)
deriving DecidableEq, Repr

/-- The name of the command. -/
def commandName : String := "reply-markdown"

/-- What the command says about its version. -/
def versionText : String := commandName ++ ", version 0.1.0\n"

/-- How the command is used. -/
def usageText : String := "Usage: " ++ commandName ++ " [OPTIONS] [FILEPATH]\n"

/-- What the command says about its options. -/
def helpText : String :=
  usageText ++ "\n" ++
    "Options:\n" ++
    "  --version                       Show the version and exit.\n" ++
    "  --format [styled|plain|json]    Output format\n" ++
    "  --background / --no-background  Frame code blocks with a border and padding\n" ++
    "  --bullet-marker TEXT            Marker printed before bulleted list items\n" ++
    "  --color / --no-color            Force or disable ANSI colors\n" ++
    "  --verbose                       Log parsing details to stderr\n" ++
    "  --help                          Show this message and exit.\n"

/-- What the command says about a usage error. -/
def UsageError.text (error : UsageError) : String :=
  let hint :=
    if error.isBrief then ""
    else usageText ++ "Try '" ++ commandName ++ " --help' for help.\n\n"
  hint ++ "Error: " ++ error.message ++ "\n"

/-- Where the reply comes from. -/
inductive Source where
  /-- The standard input. -/
  | input
  /-- The file of a path. -/
  | file (path : String)
deriving DecidableEq, Repr

/-- The source that the operands name: a minus sign or nothing stands for the standard input. The
form of the output is looked at first, and the number of operands last. -/
def Invocation.source (world : World) (invocation : Invocation) : Except Failure Source :=
  match invocation.format.filter fun name => (OutputFormat.ofName? name).isNone with
  | some name => .error (.usage (.unknownFormat name))
  | none =>
    match invocation.operands with
    | [] => .ok .input
    | path :: rest =>
      let extra : Except Failure Source :=
        match rest with
        | [] => .ok (if path = "-" then .input else .file path)
        | first :: others => .error (.usage (.extraOperands first others))
      if path = "-" then extra
      else if WrittenPath.holdsNull path then .error (.breakdown (.resolving .nullCharacter))
      else
        match world.tree.status world.here path with
        | .error _ => .error (.usage (.fileMissing path))
        | .ok .directory => .error (.usage (.fileIsDirectory path))
        | .ok (.closed _ .permissionDenied) => .error (.usage (.fileUnreadable path))
        | .ok _ => extra

/-- The place at which the search for settings starts. -/
def Source.searchPlace (world : World) : Source → Except Tree.ResolveError Path
  | input => .ok world.here
  | file path => (world.tree.resolve world.here path).map Path.parent

/-- The failure that an error in putting settings together is. -/
def failureOfBuild : Settings.BuildError → Failure
  | .load (.decoding error) => .breakdown (.decoding error)
  | .load (.numeral error) => .breakdown (.numeral error)
  | .load .nesting => .breakdown .nesting
  | .load (.inaccessible place fault) => .breakdown (.inaccessible place fault)
  | .load (.resolving error) => .breakdown (.resolving error)
  | error => .usage (.settings error.message)

/-- The options of a run, with what is reported on the way. -/
def options (world : World) (invocation : Invocation) (source : Source) :
    List Log.Record × Except Failure Options :=
  match source.searchPlace world with
  | .error error => ([], .error (.breakdown (.resolving error)))
  | .ok place =>
    let (records, loaded) := Settings.loadAt world.tree place
    match Settings.complete loaded invocation.overrides with
    | .error error => (records, .error (failureOfBuild error))
    | .ok (_, options) => (records, .ok options)

/-- Options with the size limit that the environment variable gives. -/
def limited (world : World) (options : Options) : Except Failure Options :=
  match Limit.resolve world.limitVariable options.limit with
  | .error error => .error (.refusal error.message)
  | .ok limit =>
    if limit_pos : 0 < limit.toNat then .ok { options with limit := limit.toNat, limit_pos }
    else .ok options

/-- The text of the standard input with line feeds for all line breaks, if it is small enough. -/
def readInput (world : World) (limit : Nat) : Except Failure Text :=
  match Utf8.decode world.input with
  | .error error => .error (.breakdown (.decoding error))
  | .ok text =>
    match Limit.checkContent (unifyBreaks text) limit with
    | .error error => .error (.refusal error.message)
    | .ok () => .ok (unifyBreaks text)

/-- The text of a file, if it is small enough. -/
def readFile (world : World) (path : String) (limit : Nat) : Except Failure Text :=
  match ReplyFile.checkSize world.tree world.here path limit with
  | .error error => .error (.refusal error.message)
  | .ok () =>
    match ReplyFile.readWithin world.tree world.here path limit with
    | .error error => .error (.refusal error.message)
    | .ok text => .ok text

/-- The text of a reply. -/
def Source.read (world : World) (limit : Nat) : Source → Except Failure Text
  | input => readInput world limit
  | file path => readFile world path limit

/-- The document of a source, with what is reported on the way. -/
def document (world : World) (options : Options) (source : Source) :
    List Log.Record × Except Failure Document :=
  match source.read world options.limit with
  | .error error => ([], .error error)
  | .ok text =>
    match Reply.parse options.framed text with
    | .error error => ([], .error (.breakdown (.numeral error)))
    | .ok document => (Reply.records options.framed text, .ok document)

/-- A document in the form that the options ask for, unless a frame would be too wide. -/
def render (options : Options) (document : Document) : Except Render.ExtentError Text :=
  match options.format with
  | .styled =>
    (Render.checkFrames options.padding document).map fun () => document.styled options.layout
  | .plain => .ok (document.plain options.layout)
  | .json => .ok (document.print (some 2))

/-- A text as it goes to an output: terminal codes are taken out where they are not wanted. -/
def shown (codes : Bool) (text : Text) : Text :=
  if codes then text else Paint.strip text

/-- Whether terminal codes are written to the output: styled text does as it is told, and for all
else a terminal decides. -/
def codesWanted (world : World) (invocation : Invocation) (options : Options) : Bool :=
  if options.format = .styled then invocation.color.getD world.terminal else world.terminal

/-- The part of the program that runs the command. -/
def sourceName : String := Log.sourceName "cli"

/-- What is said about an empty document. -/
def emptyWarning : Text := "Warning: the reply has no content to render\n".toList

/-- Prints a document. -/
def deliver (world : World) (invocation : Invocation) (options : Options) (document : Document) :
    List Log.Record × Except Failure (Text × Text) :=
  let record : Log.Record :=
    ⟨.debug, sourceName, s!"Rendering {document.length} blocks as {options.format.name}"⟩
  if document = [] then ([record], .ok ([], emptyWarning))
  else
    match render options document with
    | .error error => ([record], .error (.breakdown (.extent error)))
    | .ok text => ([record], .ok (shown (codesWanted world invocation options) text ++ ['\n'], []))

/-- The steps of a run that has a source: the options, the limit, the document and the output. -/
def steps (world : World) (invocation : Invocation) (source : Source) :
    List Log.Record × Except Failure (Text × Text) :=
  let (settingsRecords, found) := options world invocation source
  match found.bind (limited world) with
  | .error error => (settingsRecords, .error error)
  | .ok options =>
    let (replyRecords, parsed) := document world options source
    match parsed with
    | .error error => (settingsRecords ++ replyRecords, .error error)
    | .ok document =>
      let (lastRecords, delivered) := deliver world invocation options document
      (settingsRecords ++ replyRecords ++ lastRecords, delivered)

/-- What a failure leaves behind, after what has been reported. -/
def Failure.outcome (world : World) (reported : Text) : Failure → Outcome
  | usage error => .ended 2 [] (reported ++ shown world.terminal error.text.toList)
  | refusal message =>
    .ended 1 [] (reported ++ shown world.terminal ("Error: " ++ message ++ "\n").toList)
  | breakdown error => .broken error

/-- A run of the command. -/
def run (world : World) (arguments : List String) : Outcome :=
  match Invocation.ofArguments arguments with
  | .error error => Failure.outcome world [] (.usage error)
  | .ok invocation =>
    match invocation.notice, invocation.source world with
    | some .version, _ => .ended 0 versionText.toList []
    | some .help, _ => .ended 0 helpText.toList []
    | none, .error error => error.outcome world []
    | none, .ok source =>
      let (records, result) := steps world invocation source
      let reported := (Log.write invocation.verbose records).toList
      match result with
      | .error error => error.outcome world reported
      | .ok (output, warning) => .ended 0 output (reported ++ warning)

end Command
end ChatReply
