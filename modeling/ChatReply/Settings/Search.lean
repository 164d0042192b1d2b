import ChatReply.File.Resolve
import ChatReply.Log
import ChatReply.Settings.Basic
import ChatReply.Text.Utf8
import ChatReply.Toml.Read

/-!
# Searching for settings

Settings are looked for in a directory and then in each directory above it. In each directory the
candidates are tried in a fixed order, and the first table that is found wins, faulty or not. A file
that cannot be opened or is no valid configuration file is passed over.
-/

namespace ChatReply
namespace Settings

/-- The files that may hold settings, in the order in which they are tried in a directory, each with
the paths of the tables to look for. -/
def sources : List (String × List (List String)) :=
  [("pyproject.toml", [["tool", "reply-markdown"]]),
   (".reply-markdown.toml", [["reply-markdown"], ["tool", "reply-markdown"]])]

/-- A file that may hold settings. -/
structure Candidate where
  /-- The place of the file. -/
  place : Path
  /-- The paths of the tables to look for, in order. -/
  tables : List (List String)
deriving DecidableEq, Repr

/-- The candidates for a directory, the nearest ones first. -/
def candidates (start : Path) : List Candidate :=
  start.upward.flatMap fun directory =>
    sources.map fun (name, tables) => ⟨directory ++ [name], tables⟩

/-- Why loading settings fails. -/
inductive LoadError where
  /-- A table was found, but its settings are faulty. -/
  | settings (error : SettingsError)
  /-- A file is not UTF-8. -/
  | decoding (error : Utf8.Error)
  /-- A file holds an integer with too many digits. -/
  | numeral (error : Numeral.TooLong)
  /-- A file holds values that are nested too deep. -/
  | nesting
  /-- What is at a place cannot be told. -/
  | inaccessible (place : Path) (fault : Tree.Fault)
  /-- The directory to start from cannot be resolved. -/
  | resolving (error : Tree.ResolveError)
deriving DecidableEq, Repr

/-- The wording of an error in loading settings. -/
def LoadError.message : LoadError → String
  | settings error => error.message
  | decoding error => error.message
  | numeral error => error.message
  | nesting => Toml.nestingMessage
  | inaccessible place fault => fault.message place.absoluteName
  | resolving error => error.message

/-- What a candidate has to offer. -/
inductive Finding where
  /-- There is no file, or it has none of the tables. -/
  | nothing
  /-- The file cannot be opened or is no valid configuration file; a message says why. -/
  | unreadable (reason : String)
  /-- The file has a table of the given name. -/
  | table (name : String) (value : Value)
deriving Repr

/-- The first of some tables that a value has. -/
def findTable (value : Value) : List (List String) → Finding
  | [] => .nothing
  | path :: paths =>
    match value.find? path with
    | some found => .table (String.intercalate "." path) found
    | none => findTable value paths

/-- Looks into a candidate. -/
def inspect (tree : Tree) (candidate : Candidate) : Except LoadError Finding :=
  match tree.fileBytes candidate.place with
  | .error (.unseen fault) => .error (.inaccessible candidate.place fault)
  | .error (.unopened fault) => .ok (.unreadable (fault.message candidate.place.absoluteName))
  | .ok none => .ok .nothing
  | .ok (some bytes) =>
    match Utf8.decode bytes with
    | .error error => .error (.decoding error)
    | .ok text =>
      match Toml.read text with
      | .error (.numeral error) => .error (.numeral error)
      | .error .nesting => .error .nesting
      | .error (.fault cause rest) => .ok (.unreadable (Toml.faultMessage text cause rest))
      | .ok value => .ok (findTable value candidate.tables)

/-- The part of the program that looks for settings. -/
def sourceName : String := Log.sourceName "config"

/-- The settings of the first of some candidates that has a table, or the default ones, with what is
reported on the way. -/
def search (tree : Tree) : List Candidate → List Log.Record × Except LoadError Settings
  | [] => ([], .ok {})
  | candidate :: rest =>
    let name := candidate.place.absoluteName
    match inspect tree candidate with
    | .error error => ([], .error error)
    | .ok .nothing => search tree rest
    | .ok (.unreadable reason) =>
      let record : Log.Record :=
        ⟨.debug, sourceName, "Skipping unreadable config file " ++ name ++ ": " ++ reason⟩
      let (records, result) := search tree rest
      (record :: records, result)
    | .ok (.table table value) =>
      match ofTable value table name with
      | .error error => ([], .error (.settings error))
      | .ok settings =>
        ([⟨.debug, sourceName, "Loaded configuration from " ++ name⟩], .ok settings)

/-- The settings for a place of a tree, with what is reported on the way. -/
def loadAt (tree : Tree) (start : Path) : List Log.Record × Except LoadError Settings :=
  search tree (candidates start)

/-- The settings for a path, seen from a working directory. -/
def load (tree : Tree) (here : Path) (path : String) :
    List Log.Record × Except LoadError Settings :=
  match tree.resolve here path with
  | .error error => ([], .error (.resolving error))
  | .ok start => loadAt tree start

/-- Why settings cannot be put together. -/
inductive BuildError where
  /-- Loading them fails. -/
  | load (error : LoadError)
  /-- A value is given for a name that takes none. -/
  | naming (error : NamingError)
  /-- The values together make no sense. -/
  | settings (error : SettingsError)
deriving DecidableEq, Repr

/-- The wording of an error in putting settings together. -/
def BuildError.message : BuildError → String
  | load error => error.message
  | naming error => error.message
  | settings error => error.message

/-- Settings with overrides, and the options that they are. -/
def complete (loaded : Except LoadError Settings) (overrides : List (String × Value)) :
    Except BuildError (Settings × Options) :=
  match loaded with
  | .error error => .error (.load error)
  | .ok settings =>
    match settings.override overrides with
    | .error error => .error (.naming error)
    | .ok settings =>
      match settings.check with
      | .error error => .error (.settings error)
      | .ok options => .ok (settings, options)

/-- The settings for a path, seen from a working directory, with overrides, and the options that
they are, with what is reported on the way. -/
def build (tree : Tree) (here : Path) (path : String) (overrides : List (String × Value)) :
    List Log.Record × Except BuildError (Settings × Options) :=
  if (overrides.lookup "search_path").isSome then ([], .error (.naming .start))
  else
    let (records, loaded) := load tree here path
    (records, complete loaded overrides)

end Settings
end ChatReply
