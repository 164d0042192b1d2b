/-!
# Paths

A place in a tree of files is the list of the names that lead to it from the root. A path that a
user writes may be relative, and may hold empty names, names of one point, which stay where they
are, and names of two points, which lead to the parent.
-/

namespace ChatReply

/-- A place in a tree: the names from the root to it. -/
abbrev Path := List String

namespace Path

/-- The directory that holds a place. The root holds itself. -/
def parent (path : Path) : Path :=
  path.dropLast

/-- A place and all the directories above it, from the nearest to the root. -/
def upward (path : Path) : List Path :=
  (List.range (path.length + 1)).map fun count => path.take (path.length - count)

/-- The absolute name of a place. -/
def absoluteName (path : Path) : String :=
  "/" ++ String.intercalate "/" path

end Path

/-- The names between the slashes of a written path, empty ones included. -/
def splitNames (text : List Char) : List String :=
  match _ : text.dropWhile (· ≠ '/') with
  | [] => [String.ofList text]
  | _ :: rest => String.ofList (text.takeWhile (· ≠ '/')) :: splitNames rest
termination_by text.length
decreasing_by
  have shorter := (List.dropWhile_suffix (· ≠ '/') (l := text)).length_le
  simp_all only [List.length_cons]
  omega

/-- A path as a user writes it. -/
structure WrittenPath where
  /-- Whether it starts at the root. -/
  absolute : Bool
  /-- The names to follow. -/
  names : List String
deriving DecidableEq, Repr

namespace WrittenPath

/-- Reads a path. -/
def ofString (text : String) : WrittenPath :=
  ⟨text.toList.head? == some '/', splitNames text.toList⟩

/-- The names are those of a path that starts with a slash: an empty name stands before it. -/
def startsAtRoot : List String → Bool
  | "" :: _ :: _ => true
  | _ => false

/-- The text holds the null character, which no path may hold. -/
def holdsNull (text : String) : Bool :=
  text.toList.contains '\x00'

/-- The wording of the refusal of a path with a null character. -/
def nullMessage : String := "embedded null byte"

/-- The name does not stay where it is. -/
def isMove (name : String) : Bool :=
  name != "" && name != "."

/-- The slashes at the start of a path in its tidy form: two if there are exactly two. -/
def rootText (text : List Char) : String :=
  match (text.takeWhile (· == '/')).length with
  | 0 => ""
  | 2 => "//"
  | _ => "/"

/-- A path without superfluous slashes and points. -/
def tidy (text : String) : String :=
  let moves := (ofString text).names.filter isMove
  let tidied := rootText text.toList ++ String.intercalate "/" moves
  if tidied = "" then "." else tidied

end WrittenPath
end ChatReply
