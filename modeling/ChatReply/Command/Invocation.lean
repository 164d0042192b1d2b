import ChatReply.Command.Suggestion
import ChatReply.Settings.Basic

/-!
# Invocations

What the arguments of the command ask for. Options may stand before or after the operand, the last
occurrence of an option wins, and two minus signs end the options.
-/

namespace ChatReply
namespace Command

/-- A request that is answered before anything else is looked at. -/
inductive Notice where
  | version | help
deriving DecidableEq, Repr

/-- What the arguments ask for. -/
structure Invocation where
  /-- The form of the output, which may be no known one. -/
  format : Option String := none
  /-- Whether code blocks are drawn inside a frame. -/
  background : Option Bool := none
  /-- What stands in front of an item of an unordered list. -/
  marker : Option String := none
  /-- Whether terminal codes are written. -/
  color : Option Bool := none
  /-- Whether the work is reported in detail. -/
  verbose : Bool := false
  /-- The first request for a notice. -/
  notice : Option Notice := none
  /-- The arguments that are no options. -/
  operands : List String := []
deriving DecidableEq, Repr

/-- Arguments that do not make sense. -/
inductive UsageError where
  /-- An option stands last without the value that it needs. -/
  | valueMissing (option : String)
  /-- An option that needs no value has one. -/
  | valueUnexpected (option : String)
  /-- There is no such option, but there may be options that are close to it. -/
  | unknownOption (option : String) (close : List String)
  /-- There is no such form of output. -/
  | unknownFormat (name : String)
  /-- The operand leads to nothing. -/
  | fileMissing (path : String)
  /-- The operand leads to a directory. -/
  | fileIsDirectory (path : String)
  /-- The operand leads to a file that may not be read. -/
  | fileUnreadable (path : String)
  /-- There are more operands than one. -/
  | extraOperands (first : String) (rest : List String)
  /-- The settings make no sense. -/
  | settings (message : String)
deriving DecidableEq, Repr

namespace UsageError

/-- The wording of a usage error. -/
def message : UsageError → String
  | valueMissing option => "Option " ++ quotedString option ++ " requires an argument."
  | valueUnexpected option => "Option " ++ quotedString option ++ " does not take a value."
  | unknownOption option close => "No such option: " ++ option ++ hint close
  | unknownFormat name =>
    let known := OutputFormat.all.map fun format => quotedString format.name
    "Invalid value for '--format': " ++ quotedString name ++ " is not one of " ++
      String.intercalate ", " known ++ "."
  | fileMissing path =>
    "Invalid value for '[FILEPATH]': File " ++ quotedString path ++ " does not exist."
  | fileIsDirectory path =>
    "Invalid value for '[FILEPATH]': File " ++ quotedString path ++ " is a directory."
  | fileUnreadable path =>
    "Invalid value for '[FILEPATH]': File " ++ quotedString path ++ " is not readable."
  | extraOperands first [] => "Got unexpected extra argument (" ++ first ++ ")"
  | extraOperands first rest =>
    "Got unexpected extra arguments (" ++ String.intercalate " " (first :: rest) ++ ")"
  | settings text => "Invalid value: " ++ text

/-- The error is shown without the usage of the command. -/
def isBrief : UsageError → Bool
  | valueMissing _ => true
  | valueUnexpected _ => true
  | _ => false

end UsageError

namespace Invocation

/-- What an option without a value asks for. -/
def flag? (name : String) (invocation : Invocation) : Option Invocation :=
  match name with
  | "--background" => some { invocation with background := some true }
  | "--no-background" => some { invocation with background := some false }
  | "--color" => some { invocation with color := some true }
  | "--no-color" => some { invocation with color := some false }
  | "--verbose" => some { invocation with verbose := true }
  | "--version" =>
    some { invocation with notice := invocation.notice.orElse fun _ => some .version }
  | "--help" => some { invocation with notice := invocation.notice.orElse fun _ => some .help }
  | _ => none

/-- What an option with a value asks for. -/
def valued? (name value : String) (invocation : Invocation) : Option Invocation :=
  match name with
  | "--format" => some { invocation with format := some value }
  | "--bullet-marker" => some { invocation with marker := some value }
  | _ => none

/-- The argument is an option. -/
def isOption (argument : Text) : Bool :=
  argument.head? == some '-' && decide (1 < argument.length)

/-- The names of all options. -/
def optionNames : List String :=
  ["--version", "--format", "--background", "--no-background", "--bullet-marker", "--color",
    "--no-color", "--verbose", "--help"]

/-- The refusal of an option that is not known. An option that starts with a single minus sign is
taken for a letter, and nothing is suggested in its place. -/
def unknown (argument name : Text) : UsageError :=
  if argument.take 2 = ['-', '-'] then
    .unknownOption (String.ofList name) (closest optionNames (String.ofList name))
  else .unknownOption (String.ofList (argument.take 2)) []

/-- What an option asks for that is written with its value in one argument. -/
def joined (argument : Text) (invocation : Invocation) : Except UsageError Invocation :=
  let name := argument.takeWhile (· ≠ '=')
  let value := String.ofList (argument.drop (name.length + 1))
  match invocation.valued? (String.ofList name) value with
  | some invocation => .ok invocation
  | none =>
    match invocation.flag? (String.ofList name) with
    | some _ => .error (.valueUnexpected (String.ofList name))
    | none => .error (unknown argument name)

/-- Adds what arguments ask for. -/
def addArguments (invocation : Invocation) : List String → Except UsageError Invocation
  | [] => .ok invocation
  | argument :: rest =>
    if argument = "--" then
      .ok { invocation with operands := invocation.operands ++ rest }
    else if !isOption argument.toList then
      { invocation with operands := invocation.operands ++ [argument] }.addArguments rest
    else if argument.toList.contains '=' then
      match invocation.joined argument.toList with
      | .error error => .error error
      | .ok invocation => invocation.addArguments rest
    else
      let refusal := unknown argument.toList argument.toList
      match invocation.flag? argument with
      | some invocation => invocation.addArguments rest
      | none =>
        match rest with
        | [] =>
          if (invocation.valued? argument "").isSome then .error (.valueMissing argument)
          else .error refusal
        | value :: after =>
          match invocation.valued? argument value with
          | some invocation => invocation.addArguments after
          | none => .error refusal

/-- What arguments ask for. -/
def ofArguments (arguments : List String) : Except UsageError Invocation :=
  ({} : Invocation).addArguments arguments

/-- The settings that the arguments give. -/
def overrides (invocation : Invocation) : List (String × Value) :=
  [("output_format", (invocation.format.map Value.ofString).getD .null),
   ("code_background", (invocation.background.map Value.boolean).getD .null),
   ("bullet_marker", (invocation.marker.map Value.ofString).getD .null)]

end Invocation
end Command
end ChatReply
