import ChatReply.File.Path
import ChatReply.Text.Quoted

/-!
# Trees of files

A tree gives each of its places a directory, a file or a symbolic link. The root is always a
directory. A path is followed name by name; a link is replaced by its target. Names and paths are
limited in length, which is counted in bytes. A file may be closed: it can be seen and measured, but
not opened.
-/

namespace ChatReply

namespace Tree

/-- Why a path cannot be followed, or what it leads to cannot be opened. -/
inductive Fault where
  | notFound | inputOutput | permissionDenied | notDirectory | isDirectory | nameTooLong
  | tooManyLinks
deriving DecidableEq, Repr

/-- The number of a fault. -/
def Fault.number : Fault → Nat
  | notFound => 2
  | inputOutput => 5
  | permissionDenied => 13
  | notDirectory => 20
  | isDirectory => 21
  | nameTooLong => 36
  | tooManyLinks => 40

/-- The description of a fault. -/
def Fault.description : Fault → String
  | notFound => "No such file or directory"
  | inputOutput => "Input/output error"
  | permissionDenied => "Permission denied"
  | notDirectory => "Not a directory"
  | isDirectory => "Is a directory"
  | nameTooLong => "File name too long"
  | tooManyLinks => "Too many levels of symbolic links"

/-- The wording of a fault of a path. -/
def Fault.message (fault : Fault) (path : String) : String :=
  s!"[Errno {fault.number}] {fault.description}: " ++ quotedString path

/-- The fault means that there is nothing under the path. -/
def Fault.isAbsence : Fault → Bool
  | notFound => true
  | notDirectory => true
  | tooManyLinks => true
  | inputOutput => false
  | permissionDenied => false
  | isDirectory => false
  | nameTooLong => false

end Tree

/-- What is at a place of a tree. -/
inductive FileEntry where
  /-- A directory. Its names can always be looked up. -/
  | directory
  /-- A file and its bytes. -/
  | file (bytes : List UInt8)
  /-- A file that cannot be opened, its size, and the fault of opening it. -/
  | closed (size : Nat) (fault : Tree.Fault)
  /-- A symbolic link and its target. -/
  | link (target : WrittenPath)
deriving DecidableEq, Repr

/-- The size of a file, opened or not. -/
def FileEntry.size? : FileEntry → Option Nat
  | file bytes => some bytes.length
  | closed size _ => some size
  | directory => none
  | link _ => none

/-- The entry is a file. -/
def FileEntry.isFile (kind : FileEntry) : Bool :=
  kind.size?.isSome

/-- A tree of files, as the list of its places below the root. -/
structure Tree where
  /-- The places and what is there. -/
  entries : List (Path × FileEntry) := []
deriving DecidableEq, Repr

namespace Tree

/-- What is at a place. -/
def entry? (tree : Tree) (path : Path) : Option FileEntry :=
  if path = [] then some .directory else tree.entries.lookup path

/-- The tree without a place and everything below it. -/
def remove (tree : Tree) (path : Path) : Tree :=
  ⟨tree.entries.filter fun (place, _) => !path.isPrefixOf place⟩

/-- Puts an entry at a place in place of what was there. -/
def insert (tree : Tree) (path : Path) (kind : FileEntry) : Tree :=
  ⟨(path, kind) :: (tree.remove path).entries⟩

/-- The greatest number of bytes of a name. -/
def nameLimit : Nat := 255

/-- The greatest number of bytes of a path. -/
def pathLimit : Nat := 4095

/-- The greatest number of links that are followed on the way to one place. -/
def linkLimit : Nat := 40

/-- The place to which names lead from a place. At most `links` links are followed. -/
def follow (tree : Tree) (links : Nat) (place : Path) (names : List String) :
    Except Fault Path :=
  match names with
  | [] => .ok place
  | name :: rest =>
    if tree.entry? place ≠ some .directory then .error .notDirectory
    else if !WrittenPath.isMove name then tree.follow links place rest
    else if name = ".." then tree.follow links place.parent rest
    else if nameLimit < name.utf8ByteSize then .error .nameTooLong
    else
      match tree.entry? (place ++ [name]) with
      | none => .error .notFound
      | some (.link target) =>
        match links with
        | 0 => .error .tooManyLinks
        | links + 1 =>
          tree.follow links (if target.absolute then [] else place) (target.names ++ rest)
      | some _ => tree.follow links (place ++ [name]) rest
termination_by (links, names.length)

/-- The place to which a path leads from a working directory. The empty path leads nowhere. -/
def locate (tree : Tree) (here : Path) (path : String) : Except Fault Path :=
  let written := WrittenPath.ofString path
  if path = "" then .error .notFound
  else if pathLimit < path.utf8ByteSize then .error .nameTooLong
  else tree.follow linkLimit (if written.absolute then [] else here) written.names

/-- What a path leads to from a working directory, links followed. -/
def status (tree : Tree) (here : Path) (path : String) : Except Fault FileEntry :=
  (tree.locate here path).bind fun place =>
    match tree.entry? place with
    | some kind => .ok kind
    | none => .error .notFound

/-- The place that is reached from a place by following links. -/
def reach (tree : Tree) (place : Path) : Except Fault Path :=
  if pathLimit < place.absoluteName.utf8ByteSize then .error .nameTooLong
  else tree.follow linkLimit [] place

/-- Why the bytes under a path cannot be had. -/
inductive ReadFault where
  /-- What the path leads to cannot be told. -/
  | unseen (fault : Fault)
  /-- It leads to a file that cannot be opened. -/
  | unopened (fault : Fault)
deriving DecidableEq, Repr

/-- The bytes of the file at a place, links followed, if there is a file. -/
def fileBytes (tree : Tree) (place : Path) : Except ReadFault (Option (List UInt8)) :=
  match tree.reach place with
  | .error fault => if fault.isAbsence then .ok none else .error (.unseen fault)
  | .ok place =>
    match tree.entry? place with
    | some (.file bytes) => .ok (some bytes)
    | some (.closed _ fault) => .error (.unopened fault)
    | _ => .ok none

/-- The tree with a directory at each place on the way to a place, links followed. -/
def makeDirectories (tree : Tree) (place : Path) : List String → Tree × Path
  | [] => (tree, place)
  | name :: rest =>
    match tree.follow linkLimit place [name] with
    | .ok next => tree.makeDirectories next rest
    | .error _ => (tree.insert (place ++ [name]) .directory).makeDirectories (place ++ [name]) rest

/-- Puts an entry where a path leads to, with the directories on the way to it. An entry that is
there already is replaced, and a directory is kept where a directory is put. -/
def put (tree : Tree) (here : Path) (path : String) (kind : FileEntry) : Tree :=
  let moves := (WrittenPath.ofString path).names.filter WrittenPath.isMove
  let (tree, directory) := tree.makeDirectories here moves.dropLast
  match moves.getLast? with
  | none => tree
  | some name =>
    if kind = .directory ∧ tree.entry? (directory ++ [name]) = some .directory then tree
    else tree.insert (directory ++ [name]) kind

/-- Removes the entry where a path leads to; a link at its end is not followed. -/
def erase (tree : Tree) (here : Path) (path : String) : Tree :=
  let moves := (WrittenPath.ofString path).names.filter WrittenPath.isMove
  match moves.getLast?, tree.follow linkLimit here moves.dropLast with
  | some name, .ok directory => tree.remove (directory ++ [name])
  | _, _ => tree

end Tree
end ChatReply
