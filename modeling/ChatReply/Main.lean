import ChatReply.Command.Run

/-!
# The command

The outermost layer: it looks at the part of the world that a run of the command can depend on, runs
the command, and writes what the run leaves behind.
-/

namespace ChatReply.Main

/-- The bytes that a stream still holds. -/
partial def readAll (stream : IO.FS.Stream) (before : ByteArray) : IO ByteArray := do
  let chunk ← stream.read 65536
  if chunk.isEmpty then return before
  readAll stream (before ++ chunk)

/-- The result of an action, if it succeeds. -/
def attempt {α : Type} (action : IO α) : IO (Option α) := do
  match ← action.toBaseIO with
  | .ok value => return some value
  | .error _ => return none

/-- The names that lead to an absolute path. -/
def namesOf (name : String) : Path :=
  (WrittenPath.ofString name).names.filter WrittenPath.isMove

/-- The place behind all links that a path leads to, if there is one. -/
def placeOf? (name : String) : IO (Option Path) := do
  return (← attempt (IO.FS.realPath name)).map fun path => namesOf s!"{path}"

/-- The fault for which a file cannot be opened. -/
def faultOf : IO.Error → Tree.Fault
  | .permissionDenied .. => .permissionDenied
  | _ => .inputOutput

/-- What a path leads to, links followed, if it leads to anything. -/
def entryOf? (name : String) : IO (Option FileEntry) := do
  match ← attempt (IO.FS.realPath name) with
  | none => return none
  | some path =>
    if ← path.isDir then return some .directory
    let reading := IO.FS.readBinFile path
    match ← reading.toBaseIO with
    | .ok bytes => return some (.file bytes.toList)
    | .error error =>
      let size := (← attempt path.metadata).elim 0 fun metadata => metadata.byteSize.toNat
      return some (.closed size (faultOf error))

/-- Adds to a tree what names lead to from a place, link by link, and gives the place reached. -/
def survey (tree : Tree) (place : Path) : List String → IO (Tree × Path)
  | [] => return (tree, place)
  | name :: rest => do
    if !WrittenPath.isMove name then survey tree place rest
    else if name = ".." then survey tree place.parent rest
    else
      let next := place ++ [name]
      match ← placeOf? next.absoluteName with
      | none => return (tree, next)
      | some real =>
        let tree ←
          if real = next then pure tree
          else pure (tree.put [] next.absoluteName (.link ⟨true, real⟩))
        match ← entryOf? real.absoluteName with
        | none => return (tree, real)
        | some entry => survey (tree.put [] real.absoluteName entry) real rest

/-- Adds the configuration files to a tree that a search from a place may look into. -/
def surveySettings (tree : Tree) : List Settings.Candidate → IO Tree
  | [] => return tree
  | candidate :: rest => do
    let name := candidate.place.absoluteName
    match ← entryOf? name with
    | some entry => surveySettings (tree.put [] name entry) rest
    | none => surveySettings tree rest

/-- The part of the world that a run with an operand, or without one, can depend on. -/
def surveyFor (world : Command.World) (operand : Option String) : IO Command.World := do
  match operand.filter (· ≠ "-") with
  | none =>
    let tree ← surveySettings world.tree (Settings.candidates world.here)
    let input ← readAll (← IO.getStdin) .empty
    return { world with tree, input := input.toList }
  | some path =>
    let written := WrittenPath.ofString path
    let start := if written.absolute then [] else world.here
    let (tree, place) ← survey world.tree start written.names
    let tree ← surveySettings tree (Settings.candidates place.parent)
    return { world with tree }

/-- The part of the world that a run of the command can depend on. -/
def lookAround (arguments : List String) : IO Command.World := do
  let here := namesOf s!"{← IO.currentDir}"
  let limit ← IO.getEnv Limit.variableName
  let world : Command.World :=
    { tree := ({} : Tree).put [] here.absoluteName .directory
      here
      limitVariable := limit.map String.toList
      terminal := ← (← IO.getStdout).isTty }
  match Command.Invocation.ofArguments arguments with
  | .error _ => return world
  | .ok invocation =>
    if invocation.notice.isSome then return world
    else surveyFor world invocation.operands.head?

end ChatReply.Main

open ChatReply

/-- Runs the command. -/
def main (arguments : List String) : IO UInt32 := do
  match Command.run (← Main.lookAround arguments) arguments with
  | .ended status output errors =>
    (← IO.getStderr).putStr (String.ofList errors)
    (← IO.getStdout).putStr (String.ofList output)
    return status.toUInt32
  | .broken error =>
    (← IO.getStderr).putStrLn error.message
    return 1
