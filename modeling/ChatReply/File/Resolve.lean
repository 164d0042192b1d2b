import ChatReply.File.Tree

/-!
# Resolving paths

A resolved path goes through no links and holds no names of two points. Names that lead nowhere are
kept. A link that is met again on the same route while its own target is being resolved is kept too,
and all names after it are added unseen.
-/

namespace ChatReply

/-- A way to a place: names from the root, or from a directory at or above the working directory.
Different routes may lead to one place. -/
structure Route where
  /-- The directory at which a relative route starts. -/
  base : Option Path
  /-- The names from there. -/
  names : Path
deriving DecidableEq, Repr

namespace Route

/-- The route that stays at the root. -/
def root : Route := ⟨none, []⟩

/-- The relative route that stays in a working directory. -/
def here (directory : Path) : Route := ⟨some directory, []⟩

/-- The place to which a route leads. -/
def place (route : Route) : Path :=
  route.base.getD [] ++ route.names

/-- The route with one more name. -/
def down (route : Route) (name : String) : Route :=
  { route with names := route.names ++ [name] }

/-- The route to the parent. A relative route without names starts one directory higher. -/
def up (route : Route) : Route :=
  if route.names = [] then { route with base := route.base.map Path.parent }
  else { route with names := route.names.dropLast }

end Route

namespace Tree

/-- Adds names to a place without looking at what is there. -/
def addNames (place : Path) (names : List String) : Path :=
  names.foldl (fun place name =>
    if !WrittenPath.isMove name then place
    else if name = ".." then place.parent
    else place ++ [name]) place

/-- The place of the names that stand behind a place. Names that start with a slash, the second of
two in a row, lead from the root. -/
def placeBehind (place : Path) (names : List String) : Path :=
  addNames (if WrittenPath.startsAtRoot names then [] else place) names

/-- Why a path cannot be resolved. -/
inductive ResolveError where
  /-- A link on the way to the place leads back to itself. -/
  | linkLoop (place : Path)
  /-- Too many links are entered one within another. -/
  | nesting
  /-- The path holds a null character. -/
  | nullCharacter
deriving DecidableEq, Repr

/-- The wording of the refusal of a path. -/
def ResolveError.message : ResolveError → String
  | linkLoop place => "Symlink loop from " ++ quotedString place.absoluteName
  | nesting => "maximum recursion depth exceeded"
  | nullCharacter => WrittenPath.nullMessage

/-- The greatest number of links that are entered one within another. Each link takes one call;
calls may be a thousand deep, and the twenty that are missing here are those in which resolving
stands itself. -/
def linkRoom : Nat := 980

/-- The outcome of following names. -/
inductive Resolved where
  /-- The names lead along a route without links. -/
  | reached (route : Route)
  /-- A link leads back to itself. All names are added to its place. -/
  | stuck (place : Path)
deriving DecidableEq, Repr

/-- The place to which names lead. -/
def Resolved.place : Resolved → Path
  | reached route => route.place
  | stuck place => place

/-- Follows names along a route. The links in `active` are being resolved, and `room` more may be
entered one within another. -/
def resolveFrom (tree : Tree) (room : Nat) (active : List Route) (route : Route)
    (names : List String) : Except ResolveError Resolved :=
  match names with
  | [] => .ok (.reached route)
  | name :: rest =>
    if !WrittenPath.isMove name then tree.resolveFrom room active route rest
    else if name = ".." then tree.resolveFrom room active route.up rest
    else if WrittenPath.holdsNull name then .error .nullCharacter
    else
      let next := route.down name
      match tree.entry? next.place with
      | some (.link target) =>
        if active.contains next then .ok (.stuck (placeBehind next.place rest))
        else
          match room with
          | 0 => .error .nesting
          | room + 1 =>
            let start := if target.absolute then Route.root else route
            match tree.resolveFrom room (next :: active) start target.names with
            | .error error => .error error
            | .ok (.stuck place) => .ok (.stuck (placeBehind place rest))
            | .ok (.reached route) => tree.resolveFrom (room + 1) active route rest
      | _ => tree.resolveFrom room active next rest
termination_by (room, names.length)

/-- The place of a path, seen from a working directory. -/
def resolve (tree : Tree) (here : Path) (path : String) : Except ResolveError Path :=
  let written := WrittenPath.ofString path
  let start := if written.absolute then Route.root else Route.here here
  let moves := written.names.filter WrittenPath.isMove
  match tree.resolveFrom linkRoom [] start moves with
  | .error error => .error error
  | .ok resolved =>
    let place := resolved.place
    if place.any WrittenPath.holdsNull then .error .nullCharacter
    else
      match tree.reach place with
      | .error .tooManyLinks => .error (.linkLoop place)
      | _ => .ok place

end Tree
end ChatReply
