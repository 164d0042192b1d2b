import ChatReply.File.Resolve
import Mathlib.Data.List.TakeWhile

/-!
# Files of a directory

A file whose name is written without its directory is found in the working directory. No link is met
on the way to it where the working directory is a real one, so it is its own resolved place.
-/

namespace ChatReply

namespace WrittenPath

/-- The name is one that a directory can hold. -/
structure IsEntryName (name : String) : Prop where
  /-- The name leads to something in the directory. -/
  move : isMove name = true
  /-- The name leads no way up. -/
  not_up : name ≠ ".."
  /-- The name is a single one. -/
  no_slash : '/' ∉ name.toList
  no_null : holdsNull name = false
  short : name.utf8ByteSize ≤ Tree.nameLimit

instance (name : String) : Decidable (IsEntryName name) :=
  decidable_of_iff
    (isMove name = true ∧ name ≠ ".." ∧ '/' ∉ name.toList ∧ holdsNull name = false ∧
      name.utf8ByteSize ≤ Tree.nameLimit)
    ⟨fun ⟨move, not_up, no_slash, no_null, short⟩ => ⟨move, not_up, no_slash, no_null, short⟩,
      fun ⟨move, not_up, no_slash, no_null, short⟩ => ⟨move, not_up, no_slash, no_null, short⟩⟩

theorem splitNames_of_not_mem {text : List Char} (no_slash : '/' ∉ text) :
    splitNames text = [String.ofList text] := by
  have one_name : text.dropWhile (· ≠ '/') = [] := by
    rw [List.dropWhile_eq_nil_iff]
    intro c c_mem
    simpa using fun slash : c = '/' => no_slash (slash ▸ c_mem)
  unfold splitNames
  split
  · rfl
  · rename_i several
    rw [one_name] at several
    simp at several

namespace IsEntryName

variable {name : String}

theorem ne_empty (entry : IsEntryName name) : name ≠ "" := by
  rintro rfl
  exact absurd entry.move (by decide)

theorem head?_ne_slash (entry : IsEntryName name) : name.toList.head? ≠ some '/' :=
  fun slash => entry.no_slash (List.mem_of_head? slash)

theorem ofString_eq (entry : IsEntryName name) : ofString name = ⟨false, [name]⟩ := by
  rw [ofString, beq_false_of_ne entry.head?_ne_slash, splitNames_of_not_mem entry.no_slash,
    String.ofList_toList]

theorem tidy_eq (entry : IsEntryName name) : tidy name = name := by
  have relative : rootText name.toList = "" := by
    have start := entry.head?_ne_slash
    unfold rootText
    cases characters : name.toList with
    | nil => rfl
    | cons c rest =>
        have other : (c == '/') = false := beq_false_of_ne (by simpa [characters] using start)
        simp [other]
  have moves : [name].filter isMove = [name] := by simp [entry.move]
  simp only [tidy, entry.ofString_eq, moves, relative, String.intercalate_singleton,
    String.empty_append]
  exact if_neg entry.ne_empty

end IsEntryName
end WrittenPath

open WrittenPath (IsEntryName)

namespace Tree

/-- There is a directory at the place and at each place above it. -/
structure HasDirectory (tree : Tree) (place : Path) : Prop where
  named : ∀ name ∈ place, IsEntryName name
  directories : ∀ above, above <+: place → tree.entry? above = some .directory

variable {tree : Tree}

theorem hasDirectory_root (tree : Tree) : tree.HasDirectory [] := by
  refine ⟨List.forall_mem_nil _, fun above front => ?_⟩
  rw [List.prefix_nil.mp front]
  rfl

/-- Directories are followed one by one. -/
theorem follow_append (links : Nat) {place names : Path}
    (named : ∀ name ∈ names, IsEntryName name)
    (directories : ∀ front, front <+: names → tree.entry? (place ++ front) = some .directory)
    (rest : List String) :
    tree.follow links place (names ++ rest) = tree.follow links (place ++ names) rest := by
  induction names generalizing place with
  | nil => rw [List.nil_append, List.append_nil]
  | cons name names ih =>
      obtain ⟨entry, named⟩ := List.forall_mem_cons.mp named
      have start : tree.entry? place = some .directory := by
        simpa using directories [] List.nil_prefix
      have next : tree.entry? (place ++ [name]) = some .directory :=
        directories [name] ⟨names, rfl⟩
      have later : ∀ front, front <+: names →
          tree.entry? (place ++ [name] ++ front) = some .directory := by
        intro front front_prefix
        rw [List.append_assoc]
        exact directories (name :: front) (List.cons_prefix_cons.mpr ⟨rfl, front_prefix⟩)
      rw [List.cons_append, follow]
      simp only [start, entry.move, entry.not_up, Nat.not_lt.mpr entry.short, next]
      simpa using ih named later

theorem follow_file (links : Nat) {here : Path} {name : String} {bytes : List UInt8}
    (directory : tree.entry? here = some .directory) (entry : IsEntryName name)
    (file : tree.entry? (here ++ [name]) = some (.file bytes)) :
    tree.follow links here [name] = .ok (here ++ [name]) := by
  rw [follow]
  simp [directory, entry.move, entry.not_up, Nat.not_lt.mpr entry.short, file, follow]

theorem status_file {here : Path} {name : String} {bytes : List UInt8}
    (directory : tree.entry? here = some .directory) (entry : IsEntryName name)
    (file : tree.entry? (here ++ [name]) = some (.file bytes)) :
    tree.status here name = .ok (.file bytes) := by
  have fits : ¬pathLimit < name.utf8ByteSize := by
    have short := entry.short
    simp only [nameLimit, pathLimit] at short ⊢
    omega
  have located : tree.locate here name = .ok (here ++ [name]) := by
    simp only [locate, entry.ofString_eq, if_neg entry.ne_empty, if_neg fits]
    exact follow_file linkLimit directory entry file
  rw [status, located]
  simp [Except.bind, file]

theorem follow_to_file {here : Path} {name : String} {bytes : List UInt8}
    (directory : tree.HasDirectory here) (entry : IsEntryName name)
    (file : tree.entry? (here ++ [name]) = some (.file bytes)) :
    tree.follow linkLimit [] (here ++ [name]) = .ok (here ++ [name]) := by
  rw [follow_append linkLimit directory.named directory.directories, List.nil_append]
  exact follow_file linkLimit (directory.directories here List.prefix_rfl) entry file

/-- No link is met on the way to a file in a real directory. -/
theorem reach_file_ne {here : Path} {name : String} {bytes : List UInt8}
    (directory : tree.HasDirectory here) (entry : IsEntryName name)
    (file : tree.entry? (here ++ [name]) = some (.file bytes)) :
    tree.reach (here ++ [name]) ≠ .error .tooManyLinks := by
  have followed := follow_to_file directory entry file
  unfold reach
  split
  · simp
  · simp [followed]

theorem follow_missing (links : Nat) {here : Path} {name : String}
    (directory : tree.entry? here = some .directory) (entry : IsEntryName name)
    (missing : tree.entry? (here ++ [name]) = none) :
    tree.follow links here [name] = .error .notFound := by
  rw [follow]
  simp [directory, entry.move, entry.not_up, Nat.not_lt.mpr entry.short, missing]

/-- A file in a real directory is reached under its own place. -/
theorem reach_file {here : Path} {name : String} {bytes : List UInt8}
    (directory : tree.HasDirectory here) (entry : IsEntryName name)
    (file : tree.entry? (here ++ [name]) = some (.file bytes))
    (short : (Path.absoluteName (here ++ [name])).utf8ByteSize ≤ pathLimit) :
    tree.reach (here ++ [name]) = .ok (here ++ [name]) := by
  rw [reach, if_neg (Nat.not_lt.mpr short), follow_to_file directory entry file]

theorem fileBytes_file {here : Path} {name : String} {bytes : List UInt8}
    (directory : tree.HasDirectory here) (entry : IsEntryName name)
    (file : tree.entry? (here ++ [name]) = some (.file bytes))
    (short : (Path.absoluteName (here ++ [name])).utf8ByteSize ≤ pathLimit) :
    tree.fileBytes (here ++ [name]) = .ok (some bytes) := by
  simp only [fileBytes, reach_file directory entry file short, file]

/-- There are no bytes where a real directory holds nothing. -/
theorem fileBytes_missing {here : Path} {name : String} (directory : tree.HasDirectory here)
    (entry : IsEntryName name) (missing : tree.entry? (here ++ [name]) = none)
    (short : (Path.absoluteName (here ++ [name])).utf8ByteSize ≤ pathLimit) :
    tree.fileBytes (here ++ [name]) = .ok none := by
  have followed : tree.follow linkLimit [] (here ++ [name]) = .error .notFound := by
    rw [follow_append linkLimit directory.named directory.directories, List.nil_append]
    exact follow_missing linkLimit (directory.directories here List.prefix_rfl) entry missing
  rw [fileBytes, reach, if_neg (Nat.not_lt.mpr short), followed]
  rfl

/-- No link is met on the way to a real directory. -/
theorem reach_ne_of_hasDirectory {place : Path} (directory : tree.HasDirectory place) :
    tree.reach place ≠ .error .tooManyLinks := by
  have followed : tree.follow linkLimit [] place = .ok place := by
    simpa [follow] using
      @follow_append tree linkLimit [] place directory.named directory.directories []
  unfold reach
  split
  · simp
  · simp [followed]

theorem any_holdsNull_eq_false {here : Path} (directory : tree.HasDirectory here) :
    here.any WrittenPath.holdsNull = false := by
  rw [List.any_eq_false]
  intro name name_mem
  simp [(directory.named name name_mem).no_null]

/-- A working directory without links is its own resolved place. -/
theorem resolve_dot {here : Path} (directory : tree.HasDirectory here) :
    tree.resolve here "." = .ok here := by
  have written : WrittenPath.ofString "." = ⟨false, ["."]⟩ := by
    rw [WrittenPath.ofString, WrittenPath.splitNames_of_not_mem (by decide)]
    rfl
  have moves : ["."].filter WrittenPath.isMove = [] := rfl
  have place_eq : (Route.here here).place = here := List.append_nil here
  have no_loop := reach_ne_of_hasDirectory directory
  simp only [resolve, written, moves, Bool.false_eq_true, if_false, resolveFrom, Resolved.place,
    place_eq, any_holdsNull_eq_false directory]

/-- What a real directory holds is its own resolved place, unless it is a link. -/
theorem resolve_entry {here : Path} {name : String} {kind : FileEntry}
    (directory : tree.HasDirectory here) (entry : IsEntryName name)
    (stands : tree.entry? (here ++ [name]) = some kind) (no_link : ∀ target, kind ≠ .link target)
    (no_loop : tree.reach (here ++ [name]) ≠ .error .tooManyLinks) :
    tree.resolve here name = .ok (here ++ [name]) := by
  have moves : [name].filter WrittenPath.isMove = [name] := by simp [entry.move]
  have place_eq : ((Route.here here).down name).place = here ++ [name] := rfl
  have resolved : tree.resolveFrom linkRoom [] (Route.here here) [name] =
      .ok (.reached ((Route.here here).down name)) := by
    rw [resolveFrom]
    cases kind with
    | link target => exact absurd rfl (no_link target)
    | directory | file | closed =>
        simp [entry.move, entry.not_up, entry.no_null, place_eq, stands, resolveFrom]
  have no_null : (here ++ [name]).any WrittenPath.holdsNull = false := by
    simp [any_holdsNull_eq_false directory, entry.no_null]
  -- No loop is found at the place, so its own branch is the one that is taken.
  simp only [resolve, entry.ofString_eq, moves, Bool.false_eq_true, if_false, resolved,
    Resolved.place, place_eq, no_null]

/-- A file in a real directory is its own resolved place. -/
theorem resolve_file {here : Path} {name : String} {bytes : List UInt8}
    (directory : tree.HasDirectory here) (entry : IsEntryName name)
    (file : tree.entry? (here ++ [name]) = some (.file bytes)) :
    tree.resolve here name = .ok (here ++ [name]) :=
  resolve_entry directory entry file nofun (reach_file_ne directory entry file)

end Tree
end ChatReply
