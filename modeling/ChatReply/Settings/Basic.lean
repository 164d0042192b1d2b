import ChatReply.File.Path
import ChatReply.Render.Page
import ChatReply.Settings.Value

/-!
# Settings

Settings are layered field by field: a value given on the spot wins over one from a file, which wins
over the default. They are checked last, so a faulty value that is covered by a good one does no
harm. A check turns settings into options, which hold only values that make sense.
-/

namespace ChatReply

/-- Settings that have not been checked yet. -/
structure Settings where
  /-- The form of the output. -/
  outputFormat : Value := .ofString "styled"
  /-- Whether code blocks are drawn inside a frame. -/
  codeBackground : Value := .boolean true
  /-- What stands in front of an item of an unordered list. -/
  bulletMarker : Value := .ofString "•"
  /-- The spaces between a frame and the code in it. -/
  codePadding : Value := .integer 1
  /-- The greatest size of a reply in bytes. -/
  maxFileSize : Value := .integer 10485760
deriving Repr

/-- The forms of output. -/
inductive OutputFormat where
  | styled | plain | json
deriving DecidableEq, Repr

namespace OutputFormat

/-- The name of a form of output. -/
def name : OutputFormat → String
  | styled => "styled"
  | plain => "plain"
  | json => "json"

/-- All forms of output. -/
def all : List OutputFormat :=
  [styled, plain, json]

/-- The form of output of a name. -/
def ofName? (name : String) : Option OutputFormat :=
  all.find? fun format => format.name == name

end OutputFormat

/-- Settings whose values make sense. -/
structure Options where
  /-- The form of the output. -/
  format : OutputFormat
  /-- Whether code blocks are drawn inside a frame. -/
  framed : Bool
  /-- What stands in front of an item of an unordered list. -/
  marker : Text
  /-- The spaces between a frame and the code in it. -/
  padding : Nat
  /-- The greatest size of a reply in bytes. -/
  limit : Nat
  /-- The marker can be seen. -/
  marker_ne : marker ≠ []
  /-- Some reply is small enough. -/
  limit_pos : 0 < limit

/-- The layout that options ask for. -/
def Options.layout (options : Options) : Layout :=
  ⟨options.marker, options.padding⟩

/-- What is wrong with settings. -/
inductive SettingsError where
  /-- A table of a file is no table, or has a key that is no setting. -/
  | invalidTable (table file : String)
  /-- The output format is unknown. -/
  | unknownFormat
  /-- The code background is neither true nor false. -/
  | backgroundNotBoolean
  /-- The bullet marker is empty or no string. -/
  | markerEmpty
  /-- The code padding is negative or no integer. -/
  | paddingNegative
  /-- The size limit is not positive or no integer. -/
  | limitNotPositive
deriving DecidableEq, Repr

/-- The wording of an error in settings. -/
def SettingsError.message : SettingsError → String
  | invalidTable table file => "Invalid \x60[" ++ table ++ "]\x60 settings in " ++ file
  | unknownFormat =>
    "\x60output_format\x60 must be one of: " ++
      String.intercalate ", " (OutputFormat.all.map OutputFormat.name)
  | backgroundNotBoolean => "\x60code_background\x60 must be a boolean"
  | markerEmpty => "\x60bullet_marker\x60 must not be empty"
  | paddingNegative => "\x60code_padding\x60 must be an integer >= 0"
  | limitNotPositive => "\x60max_file_size\x60 must be a positive integer"

/-- Why no value can be given for a name. -/
inductive NamingError where
  /-- No setting has the name. -/
  | unknown (name : String)
  /-- The name stands for the settings that are made. -/
  | made
  /-- The name stands for the settings that are changed. -/
  | changed
  /-- The name stands for the path where the search for settings starts. -/
  | start
deriving DecidableEq, Repr

namespace NamingError

/-- The error of a name that no setting has. -/
def ofName (name : String) : NamingError :=
  if name = "self" then made else unknown name

/-- The wording of the refusal of a name. -/
def message : NamingError → String
  | unknown name => "ReplyConfig.__init__() got an unexpected keyword argument '" ++ name ++ "'"
  | made => "ReplyConfig.__init__() got multiple values for argument 'self'"
  | changed => "apply_overrides() got multiple values for argument 'config'"
  | start => "build_config() got multiple values for argument 'search_path'"

end NamingError

namespace Settings

/-- Gives one setting a value. -/
def set? (settings : Settings) (name : String) (value : Value) : Option Settings :=
  match name with
  | "output_format" => some { settings with outputFormat := value }
  | "code_background" => some { settings with codeBackground := value }
  | "bullet_marker" => some { settings with bulletMarker := value }
  | "code_padding" => some { settings with codePadding := value }
  | "max_file_size" => some { settings with maxFileSize := value }
  | _ => none

/-- Gives settings their values one after the other, up to the first name that no setting has. -/
def assign (settings : Settings) : List (String × Value) → Except NamingError Settings
  | [] => .ok settings
  | (name, value) :: rest =>
    match settings.set? name value with
    | some settings => settings.assign rest
    | none => .error (.ofName name)

/-- The overrides that give a value. -/
def given (overrides : List (String × Value)) : List (String × Value) :=
  overrides.filter fun override => !override.2.isNull

/-- Settings with the overrides that give a value. -/
def override (settings : Settings) (overrides : List (String × Value)) :
    Except NamingError Settings :=
  if (overrides.lookup "config").isSome then .error .changed
  else settings.assign (given overrides)

/-- The settings of a table of a configuration file. -/
def ofTable (value : Value) (table file : String) : Except SettingsError Settings :=
  let invalid := SettingsError.invalidTable table (WrittenPath.tidy file)
  match value with
  | .table fields => (({} : Settings).assign fields).mapError fun _ => invalid
  | _ => .error invalid

/-- The form of output that a value names. -/
def format? : Value → Option OutputFormat
  | .string text => OutputFormat.ofName? (String.ofList text)
  | _ => none

/-- The options of settings, or the first thing that is wrong with them. -/
def check (settings : Settings) : Except SettingsError Options :=
  match format? settings.outputFormat with
  | none => .error .unknownFormat
  | some format =>
    match settings.codeBackground with
    | .boolean framed =>
      match settings.bulletMarker with
      | .string marker =>
        if marker_ne : marker ≠ [] then
          match settings.codePadding with
          | .integer (.ofNat padding) =>
            match settings.maxFileSize with
            | .integer (.ofNat limit) =>
              if limit_pos : 0 < limit then
                .ok ⟨format, framed, marker, padding, limit, marker_ne, limit_pos⟩
              else .error .limitNotPositive
            | _ => .error .limitNotPositive
          | _ => .error .paddingNegative
        else .error .markerEmpty
      | _ => .error .markerEmpty
    | _ => .error .backgroundNotBoolean

end Settings
end ChatReply
