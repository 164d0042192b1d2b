import ChatReply.File.Tree
import ChatReply.Limit
import ChatReply.Reply.Parse
import ChatReply.Settings.Basic

/-!
# Reply files

Reading a reply from a file and parsing it, within the size that the options allow. Line breaks and
a byte order mark are read as they are.
-/

namespace ChatReply
namespace ReplyFile

/-- Why a file is refused before it is decoded. -/
inductive FileError where
  /-- The path holds a null character. -/
  | nullCharacter
  /-- There is nothing under the path, or nothing that can be opened. -/
  | inaccessible (path : String) (fault : Tree.Fault)
  /-- The path leads to a directory. -/
  | notRegular (path : String)
  /-- The file has more bytes than the limit allows. -/
  | tooLarge (path : String) (limit : Int)
deriving DecidableEq, Repr

/-- The wording of the refusal of a file. -/
def FileError.message : FileError → String
  | nullCharacter => WrittenPath.nullMessage
  | inaccessible path fault => "Error accessing " ++ path ++ ": " ++ fault.message path
  | notRegular path => path ++ " is not a regular file."
  | tooLarge path limit => s!"{path} exceeds the maximum allowed size of {limit} bytes."

/-- Refuses what is no file of at most so many bytes. -/
def checkSize (tree : Tree) (here : Path) (path : String) (limit : Int) : Except FileError Unit :=
  let name := WrittenPath.tidy path
  if WrittenPath.holdsNull path then .error .nullCharacter
  else
    match tree.status here name with
    | .error fault => .error (.inaccessible name fault)
    | .ok kind =>
      match kind.size? with
      | some size => if limit < size then .error (.tooLarge name limit) else .ok ()
      | none => .error (.notRegular name)

/-- Opens a file and gives its bytes. -/
def openBytes (tree : Tree) (here : Path) (path : String) : Except FileError (List UInt8) :=
  let name := WrittenPath.tidy path
  if WrittenPath.holdsNull path then .error .nullCharacter
  else
    match tree.status here name with
    | .error fault => .error (.inaccessible name fault)
    | .ok (.file bytes) => .ok bytes
    | .ok (.closed _ fault) => .error (.inaccessible name fault)
    | .ok _ => .error (.inaccessible name .isDirectory)

/-- Why a file cannot be parsed. -/
inductive ParseError where
  /-- The settings make no sense. -/
  | settings (error : SettingsError)
  /-- The file cannot be opened. -/
  | file (error : FileError)
  /-- The file is not UTF-8. -/
  | decoding (path : String) (error : Utf8.Error)
  /-- The reply is larger than the limit. -/
  | tooLarge (path : String) (error : Limit.TooLarge)
  /-- The number of an item is too long. -/
  | numeral (error : Numeral.TooLong)
deriving DecidableEq, Repr

/-- The wording of an error in parsing a file. -/
def ParseError.message : ParseError → String
  | settings error => error.message
  | file error => error.message
  | decoding path error => "Invalid UTF-8 sequence in " ++ path ++ ": " ++ error.message
  | tooLarge path error => path ++ ": " ++ error.message
  | numeral error => error.message

/-- The text of a file that is small enough. -/
def readWithin (tree : Tree) (here : Path) (path : String) (limit : Nat) :
    Except ParseError Text :=
  let name := WrittenPath.tidy path
  match openBytes tree here path with
  | .error error => .error (.file error)
  | .ok bytes =>
    match Utf8.decode bytes with
    | .error error => .error (.decoding name error)
    | .ok content =>
      match Limit.checkContent content limit with
      | .error error => .error (.tooLarge name error)
      | .ok () => .ok content

/-- The document of a file. -/
def parse (tree : Tree) (here : Path) (path : String) (options : Options) :
    Except ParseError Document :=
  match readWithin tree here path options.limit with
  | .error error => .error error
  | .ok content => (Reply.parse options.framed content).mapError .numeral

/-- The document of a file, with settings that have not been checked. -/
def parseChecked (tree : Tree) (here : Path) (path : String) (settings : Settings) :
    Except ParseError Document :=
  match settings.check with
  | .error error => .error (.settings error)
  | .ok options => parse tree here path options

end ReplyFile
end ChatReply
