import ChatReply.Proofs.LongInteger
import ChatReply.Proofs.SettingsSearch
import ChatReply.Proofs.TableSettings

/-!
# The nearest settings

Settings may stand in a table of a directory, or in one of a directory above it. The first table
that is found decides, even if it is faulty, and nothing behind it matters. A place with no file, a
file that cannot be opened, one that is no valid configuration file and one without the table are
passed over. The search breaks off at a place that cannot be looked at and at a file that is refused
before its tables are known.
-/

namespace ChatReply

namespace Tree

variable {tree : Tree} {place : Path}

/-- What a path leads to cannot be told where it is not reached and that is no absence. -/
theorem fileBytes_eq_unseen_iff {fault : Fault} :
    tree.fileBytes place = .error (.unseen fault) ↔
      tree.reach place = .error fault ∧ fault.isAbsence = false := by
  unfold fileBytes
  cases tree.reach place with
  | error cause =>
      by_cases absence : cause.isAbsence = true
      · simp only [absence, if_true, reduceCtorEq, Except.error.injEq, false_iff, not_and,
          Bool.not_eq_false]
        rintro rfl
        exact absence
      · simp only [if_neg absence, Except.error.injEq, ReadFault.unseen.injEq, iff_self_and]
        rintro rfl
        exact Bool.not_eq_true _ ▸ absence
  | ok target =>
      cases kind_eq : tree.entry? target with
      | none => simp [kind_eq]
      | some kind => cases kind <;> simp [kind_eq]

theorem fileBytes_eq_unopened_iff {fault : Fault} :
    tree.fileBytes place = .error (.unopened fault) ↔
      ∃ target size, tree.reach place = .ok target ∧
        tree.entry? target = some (.closed size fault) := by
  unfold fileBytes
  cases tree.reach place with
  | error cause => by_cases absence : cause.isAbsence = true <;> simp [absence]
  | ok target =>
      cases kind_eq : tree.entry? target with
      | none => simp [kind_eq]
      | some kind => cases kind <;> simp [kind_eq]

/-- There are no bytes where nothing is reached, or something that is no file. -/
theorem fileBytes_eq_none_iff :
    tree.fileBytes place = .ok none ↔
      (∃ fault, tree.reach place = .error fault ∧ fault.isAbsence = true) ∨
      ∃ target, tree.reach place = .ok target ∧
        ∀ kind, tree.entry? target = some kind → kind.isFile = false := by
  unfold fileBytes
  cases tree.reach place with
  | error cause => by_cases absence : cause.isAbsence = true <;> simp [absence]
  | ok target =>
      cases kind_eq : tree.entry? target with
      | none => simp [kind_eq]
      | some kind => cases kind <;> simp [kind_eq, FileEntry.isFile, FileEntry.size?]

theorem fileBytes_of_reach {file : Path} {bytes : List UInt8}
    (reached : tree.reach place = .ok file) (held : tree.entry? file = some (.file bytes)) :
    tree.fileBytes place = .ok (some bytes) := by
  simp only [fileBytes, reached, held]

end Tree

namespace Settings

/-- The bytes are the text of a configuration file, with the table that it is. -/
def Reads (bytes : List UInt8) (document : Value) : Prop :=
  ∃ text, Utf8.decode bytes = .ok text ∧ Toml.read text = .ok document

/-- The bytes are a text with something wrong at a place of it. -/
def IsMalformed (bytes : List UInt8) : Prop :=
  ∃ text cause rest, Utf8.decode bytes = .ok text ∧ Toml.read text = .error (.fault cause rest)

/-- The bytes are refused with an error at which a search breaks off. -/
inductive Refused (bytes : List UInt8) : LoadError → Prop where
  /-- They are no text. -/
  | decoding {error : Utf8.Error} (stray : Utf8.decode bytes = .error error) :
      Refused bytes (.decoding error)
  /-- They hold an integer with too many digits. -/
  | numeral {text : Text} {error : Numeral.TooLong} (decoded : Utf8.decode bytes = .ok text)
      (long : Toml.read text = .error (.numeral error)) : Refused bytes (.numeral error)
  /-- They hold values that are nested too deep. -/
  | nesting {text : Text} (decoded : Utf8.decode bytes = .ok text)
      (deep : Toml.read text = .error .nesting) : Refused bytes .nesting

/-- Refused bytes hold no table. -/
theorem Refused.not_reads {bytes : List UInt8} {error : LoadError} (refused : Refused bytes error)
    (document : Value) : ¬Reads bytes document := by
  rintro ⟨text, decoded, read⟩
  cases refused with
  | decoding stray =>
      rw [decoded] at stray
      cases stray
  | numeral other_decoded long =>
      cases decoded.symm.trans other_decoded
      rw [read] at long
      cases long
  | nesting other_decoded deep =>
      cases decoded.symm.trans other_decoded
      rw [read] at deep
      cases deep

/-- A table in which settings may stand. -/
structure Spot where
  /-- The place of the file. -/
  place : Path
  /-- The path of the table in the file. -/
  table : List String
deriving DecidableEq, Repr

namespace Spot

/-- The spots of a directory, in the order in which they are tried. -/
def inDirectory (directory : Path) : List Spot :=
  [⟨directory ++ ["pyproject.toml"], ["tool", "reply-markdown"]⟩,
   ⟨directory ++ [".reply-markdown.toml"], ["reply-markdown"]⟩,
   ⟨directory ++ [".reply-markdown.toml"], ["tool", "reply-markdown"]⟩]

/-- What is wrong with a spot that holds no settings. -/
def fault (spot : Spot) : SettingsError :=
  .invalidTable (String.intercalate "." spot.table) (WrittenPath.tidy spot.place.absoluteName)

/-- The search goes on behind a spot. -/
inductive Passed (tree : Tree) (spot : Spot) : Prop where
  | missing {fault : Tree.Fault} (lost : tree.reach spot.place = .error fault)
      (absence : fault.isAbsence = true)
  | irregular {target : Path} (reached : tree.reach spot.place = .ok target)
      (no_file : ∀ kind, tree.entry? target = some kind → kind.isFile = false)
  | closed {target : Path} {size : Nat} {fault : Tree.Fault}
      (reached : tree.reach spot.place = .ok target)
      (closed : tree.entry? target = some (.closed size fault))
  | malformed {bytes : List UInt8} (held : tree.fileBytes spot.place = .ok (some bytes))
      (malformed : IsMalformed bytes)
  | without {bytes : List UInt8} {document : Value}
      (held : tree.fileBytes spot.place = .ok (some bytes)) (reads : Reads bytes document)
      (absent : document.find? spot.table = none)

/-- The search ends at a spot, with an outcome. -/
inductive Decides (tree : Tree) (spot : Spot) : Except LoadError Settings → Prop where
  | found {bytes : List UInt8} {document : Value} {fields : List (String × Value)}
      {settings : Settings} (held : tree.fileBytes spot.place = .ok (some bytes))
      (reads : Reads bytes document) (stands : document.find? spot.table = some (.table fields))
      (given : GivenBy fields settings) : Decides tree spot (.ok settings)
  | faulty {bytes : List UInt8} {document value : Value}
      (held : tree.fileBytes spot.place = .ok (some bytes)) (reads : Reads bytes document)
      (stands : document.find? spot.table = some value) (faulty : IsFaultyTable value) :
      Decides tree spot (.error (.settings spot.fault))
  | hidden {fault : Tree.Fault} (lost : tree.reach spot.place = .error fault)
      (presence : fault.isAbsence = false) :
      Decides tree spot (.error (.inaccessible spot.place fault))
  | refused {bytes : List UInt8} {error : LoadError}
      (held : tree.fileBytes spot.place = .ok (some bytes)) (refused : Refused bytes error) :
      Decides tree spot (.error error)

/-- The answer of a spot, if the search ends there. -/
def answer? (tree : Tree) (spot : Spot) : Option (Except LoadError Settings) :=
  Candidate.answer? tree ⟨spot.place, [spot.table]⟩

variable {tree : Tree} {spot : Spot}

theorem answer?_of_passed (passed : spot.Passed tree) : spot.answer? tree = none := by
  unfold answer? Candidate.answer? inspect
  cases passed with
  | missing lost absence =>
      rw [Tree.fileBytes_eq_none_iff.mpr (.inl ⟨_, lost, absence⟩)]
  | irregular reached no_file =>
      rw [Tree.fileBytes_eq_none_iff.mpr (.inr ⟨_, reached, no_file⟩)]
  | closed reached closed =>
      rw [Tree.fileBytes_eq_unopened_iff.mpr ⟨_, _, reached, closed⟩]
  | malformed held malformed =>
      obtain ⟨text, cause, rest, decoded, wrong⟩ := malformed
      simp only [held, decoded, wrong]
  | without held reads absent =>
      obtain ⟨text, decoded, read⟩ := reads
      simp only [held, decoded, read, findTable, absent]

theorem answer?_of_decides {outcome : Except LoadError Settings}
    (decides : spot.Decides tree outcome) : spot.answer? tree = some outcome := by
  unfold answer? Candidate.answer? inspect
  cases decides with
  | found held reads stands given =>
      obtain ⟨text, decoded, read⟩ := reads
      have settled := @ofTable_eq_ok_iff _ (String.intercalate "." spot.table)
        spot.place.absoluteName _ |>.mpr ⟨_, rfl, given⟩
      simp only [held, decoded, read, findTable, stands, settled, Except.mapError]
  | faulty held reads stands faulty =>
      obtain ⟨text, decoded, read⟩ := reads
      have settled := @ofTable_eq_error_iff _ (String.intercalate "." spot.table)
        spot.place.absoluteName _ |>.mpr ⟨faulty, rfl⟩
      simp only [held, decoded, read, findTable, stands, settled, Except.mapError, fault]
  | hidden lost presence =>
      rw [Tree.fileBytes_eq_unseen_iff.mpr ⟨lost, presence⟩]
  | refused held refused =>
      cases refused with
      | decoding stray => simp only [held, stray]
      | numeral decoded long => simp only [held, decoded, long]
      | nesting decoded deep => simp only [held, decoded, deep]

theorem passed_of_missing (missing : tree.fileBytes spot.place = .ok none) : spot.Passed tree := by
  rcases Tree.fileBytes_eq_none_iff.mp missing with
    ⟨fault, lost, absence⟩ | ⟨target, reached, no_file⟩
  · exact .missing lost absence
  · exact .irregular reached no_file

/-- A file of given bytes is passed over or decides. -/
theorem passed_or_decides_of_file {bytes : List UInt8}
    (held : tree.fileBytes spot.place = .ok (some bytes)) :
    spot.Passed tree ∨ ∃ outcome, spot.Decides tree outcome := by
  cases decoded : Utf8.decode bytes with
  | error error => exact .inr ⟨_, .refused held (.decoding decoded)⟩
  | ok text =>
      cases read : Toml.read text with
      | error error =>
          cases error with
          | fault cause rest => exact .inl (.malformed held ⟨text, cause, rest, decoded, read⟩)
          | numeral error => exact .inr ⟨_, .refused held (.numeral decoded read)⟩
          | nesting => exact .inr ⟨_, .refused held (.nesting decoded read)⟩
      | ok document =>
          have reads : Reads bytes document := ⟨text, decoded, read⟩
          cases stands : document.find? spot.table with
          | none => exact .inl (.without held reads stands)
          | some value =>
              cases settled : ofTable value "" "" with
              | error error =>
                  exact .inr ⟨_, .faulty held reads stands (ofTable_eq_error_iff.mp settled).1⟩
              | ok settings =>
                  obtain ⟨fields, rfl, given⟩ := ofTable_eq_ok_iff.mp settled
                  exact .inr ⟨_, .found held reads stands given⟩

theorem passed_or_decides (tree : Tree) (spot : Spot) :
    spot.Passed tree ∨ ∃ outcome, spot.Decides tree outcome := by
  cases held : tree.fileBytes spot.place with
  | error fault =>
      cases fault with
      | unseen fault =>
          obtain ⟨lost, presence⟩ := Tree.fileBytes_eq_unseen_iff.mp held
          exact .inr ⟨_, .hidden lost presence⟩
      | unopened fault =>
          obtain ⟨target, size, reached, closed⟩ := Tree.fileBytes_eq_unopened_iff.mp held
          exact .inl (.closed reached closed)
  | ok content =>
      cases content with
      | none => exact .inl (passed_of_missing held)
      | some bytes => exact passed_or_decides_of_file held

theorem answer?_eq_none_iff : spot.answer? tree = none ↔ spot.Passed tree := by
  refine ⟨fun silent => ?_, answer?_of_passed⟩
  rcases passed_or_decides tree spot with passed | ⟨outcome, decides⟩
  · exact passed
  · rw [answer?_of_decides decides] at silent
    cases silent

theorem answer?_eq_some_iff {outcome : Except LoadError Settings} :
    spot.answer? tree = some outcome ↔ spot.Decides tree outcome := by
  refine ⟨fun answered => ?_, answer?_of_decides⟩
  rcases passed_or_decides tree spot with passed | ⟨other, decides⟩
  · rw [answer?_of_passed passed] at answered
    cases answered
  · rw [answer?_of_decides decides] at answered
    cases answered
    exact decides

theorem Decides.not_passed {outcome : Except LoadError Settings}
    (decides : spot.Decides tree outcome) : ¬spot.Passed tree := fun passed => by
  have answered := answer?_of_decides decides
  rw [answer?_of_passed passed] at answered
  cases answered

/-- A spot answers alike in two trees that hold the same under it. -/
theorem answer?_congr {other : Tree}
    (same : other.fileBytes spot.place = tree.fileBytes spot.place) :
    spot.answer? other = spot.answer? tree := by
  simp only [answer?, Candidate.answer?, inspect, same]

end Spot

/-- The spots for a directory, the nearest ones first. -/
def spots (start : Path) : List Spot :=
  start.upward.flatMap Spot.inDirectory

/-- The spots of a candidate, in the order in which they are tried. -/
def Candidate.spots (candidate : Candidate) : List Spot :=
  candidate.tables.map fun table => ⟨candidate.place, table⟩

theorem spots_eq_flatMap_candidates (start : Path) :
    spots start = (candidates start).flatMap Candidate.spots := by
  rw [spots, candidates, List.flatMap_assoc]
  rfl

theorem Candidate.answer?_cons (tree : Tree) (place : Path) (table : List String)
    (tables : List (List String)) :
    Candidate.answer? tree ⟨place, table :: tables⟩ =
      (Spot.answer? tree ⟨place, table⟩).or (Candidate.answer? tree ⟨place, tables⟩) := by
  unfold Spot.answer? Candidate.answer? inspect
  cases tree.fileBytes place with
  | error fault => cases fault <;> rfl
  | ok content =>
      cases content with
      | none => rfl
      | some bytes =>
          cases decoded : Utf8.decode bytes with
          | error error => simp only [decoded, Option.some_or]
          | ok text =>
              cases read : Toml.read text with
              | error error =>
                  cases error <;> simp only [decoded, read, Option.some_or, Option.none_or]
              | ok document =>
                  cases stands : document.find? table <;>
                    simp only [decoded, read, findTable, stands, Option.some_or, Option.none_or]

/-- A candidate answers as the first of its spots that does. -/
theorem Candidate.answer?_eq_findSome? (tree : Tree) {candidate : Candidate}
    (tables_ne : candidate.tables ≠ []) :
    candidate.answer? tree = candidate.spots.findSome? (Spot.answer? tree) := by
  obtain ⟨place, tables⟩ := candidate
  induction tables with
  | nil => exact absurd rfl tables_ne
  | cons table rest ih =>
      cases rest with
      | nil => simp [Candidate.spots, Spot.answer?]
      | cons next rest =>
          have split : Candidate.spots ⟨place, table :: next :: rest⟩ =
              ⟨place, table⟩ :: Candidate.spots ⟨place, next :: rest⟩ := rfl
          rw [answer?_cons, ih (List.cons_ne_nil next rest), split, List.findSome?_cons]
          cases Spot.answer? tree ⟨place, table⟩ <;> rfl

theorem Candidate.tables_ne {start : Path} {candidate : Candidate}
    (candidate_mem : candidate ∈ candidates start) : candidate.tables ≠ [] := by
  have tables_ne : ∀ source ∈ sources, source.2 ≠ [] := by decide
  obtain ⟨directory, -, inside⟩ := List.mem_flatMap.mp candidate_mem
  obtain ⟨source, source_mem, rfl⟩ := List.mem_map.mp inside
  exact tables_ne source source_mem

theorem Candidate.findSome?_answer?_eq (tree : Tree) {list : List Candidate}
    (tables_ne : ∀ candidate ∈ list, candidate.tables ≠ []) :
    list.findSome? (Candidate.answer? tree) =
      (list.flatMap Candidate.spots).findSome? (Spot.answer? tree) := by
  induction list with
  | nil => rfl
  | cons candidate rest ih =>
      obtain ⟨first_ne, later_ne⟩ := List.forall_mem_cons.mp tables_ne
      rw [List.findSome?_cons, List.flatMap_cons, List.findSome?_append,
        candidate.answer?_eq_findSome? tree first_ne, ih later_ne]
      cases candidate.spots.findSome? (Spot.answer? tree) <;> rfl

/-- The search for settings gives the first answer of a spot, or the default settings. -/
theorem loadAt_result (tree : Tree) (start : Path) :
    (loadAt tree start).2 = ((spots start).findSome? (Spot.answer? tree)).getD (.ok {}) := by
  rw [loadAt, search_result, spots_eq_flatMap_candidates,
    Candidate.findSome?_answer?_eq tree fun _ candidate_mem => Candidate.tables_ne candidate_mem]

/-- The outcome of a search over spots: that of the first one at which it ends, or the default
settings if there is none. -/
inductive Nearest (tree : Tree) (spots : List Spot) : Except LoadError Settings → Prop where
  | default (passed : ∀ spot ∈ spots, spot.Passed tree) : Nearest tree spots (.ok {})
  | hit {before after : List Spot} {spot : Spot} {outcome : Except LoadError Settings}
      (split : spots = before ++ spot :: after) (passed : ∀ earlier ∈ before, earlier.Passed tree)
      (decides : spot.Decides tree outcome) : Nearest tree spots outcome

theorem nearest_iff {tree : Tree} {spots : List Spot} {outcome : Except LoadError Settings} :
    Nearest tree spots outcome ↔
      (spots.findSome? (Spot.answer? tree)).getD (.ok {}) = outcome := by
  constructor
  · rintro (passed | ⟨split, passed, decides⟩)
    · have silent : spots.findSome? (Spot.answer? tree) = none :=
        List.findSome?_eq_none_iff.mpr fun spot spot_mem =>
          Spot.answer?_of_passed (passed spot spot_mem)
      rw [silent, Option.getD_none]
    · have answered : spots.findSome? (Spot.answer? tree) = some outcome :=
        List.findSome?_eq_some_iff.mpr ⟨_, _, _, split, Spot.answer?_of_decides decides,
          fun earlier earlier_mem => Spot.answer?_of_passed (passed earlier earlier_mem)⟩
      rw [answered, Option.getD_some]
  · rintro rfl
    cases answered : spots.findSome? (Spot.answer? tree) with
    | none =>
        exact .default fun spot spot_mem =>
          Spot.answer?_eq_none_iff.mp (List.findSome?_eq_none_iff.mp answered spot spot_mem)
    | some outcome =>
        obtain ⟨before, spot, after, split, decides, silent⟩ :=
          List.findSome?_eq_some_iff.mp answered
        exact .hit split (fun earlier earlier_mem =>
          Spot.answer?_eq_none_iff.mp (silent earlier earlier_mem))
          (Spot.answer?_eq_some_iff.mp decides)

section

variable {tree other : Tree} {seen : List Spot}
  (same : ∀ spot ∈ seen, other.fileBytes spot.place = tree.fileBytes spot.place)

include same

/-- The first answer is the same in two trees that hold the same under the spots. -/
theorem findSome?_answer?_congr :
    seen.findSome? (Spot.answer? other) = seen.findSome? (Spot.answer? tree) := by
  induction seen with
  | nil => rfl
  | cons spot rest ih =>
      obtain ⟨first_same, later_same⟩ := List.forall_mem_cons.mp same
      rw [List.findSome?_cons, List.findSome?_cons, Spot.answer?_congr first_same, ih later_same]

/-- Once the spots that two trees share hold a hit, what follows them does not matter. -/
theorem loadAt_result_congr {start : Path} (near : seen <+: spots start)
    (hit : ∃ spot ∈ seen, ¬spot.Passed tree) :
    (loadAt other start).2 = (loadAt tree start).2 := by
  obtain ⟨rest, split⟩ := near
  obtain ⟨spot, spot_mem, ends⟩ := hit
  have answered : seen.findSome? (Spot.answer? tree) ≠ none := fun silent =>
    ends (Spot.answer?_eq_none_iff.mp (List.findSome?_eq_none_iff.mp silent spot spot_mem))
  obtain ⟨outcome, answer_eq⟩ := Option.ne_none_iff_exists'.mp answered
  rw [loadAt_result, loadAt_result, ← split, List.findSome?_append, List.findSome?_append,
    findSome?_answer?_congr same, answer_eq]
  rfl

end

theorem load_of_resolve {tree : Tree} {here start : Path} {path : String}
    (resolved : tree.resolve here path = .ok start) : load tree here path = loadAt tree start := by
  rw [load, resolved]

/-- Settings are loaded from the first hit on the way up from the place of a path, and what two
trees hold behind a hit that they share does not matter. -/
theorem load_eq_nearest (tree : Tree) (here : Path) (path : String) :
    (∀ error, tree.resolve here path = .error error →
      (load tree here path).2 = .error (.resolving error)) ∧
    ∀ start, tree.resolve here path = .ok start →
      (∀ outcome, (load tree here path).2 = outcome ↔ Nearest tree (spots start) outcome) ∧
      ∀ (other : Tree) (seen : List Spot), other.resolve here path = .ok start →
        seen <+: spots start → (∃ spot ∈ seen, ¬spot.Passed tree) →
        (∀ spot ∈ seen, other.fileBytes spot.place = tree.fileBytes spot.place) →
        (load other here path).2 = (load tree here path).2 := by
  refine ⟨fun error lost => by rw [load, lost], fun start resolved => ⟨fun outcome => ?_, ?_⟩⟩
  · rw [nearest_iff, load_of_resolve resolved, loadAt_result]
  · intro other seen other_resolved near hit same
    rw [load_of_resolve resolved, load_of_resolve other_resolved]
    exact loadAt_result_congr same near hit

/-- A directory with files that hold no settings, in a root with a table of settings and some more
entries. -/
def layeredTree (more : List (Path × FileEntry)) : Tree where
  entries :=
    [(["a"], .directory),
     (["a", "pyproject.toml"], .file (Utf8.asciiBytes "x".toList)),
     (["a", ".reply-markdown.toml"], .file (Utf8.asciiBytes "x = 1".toList)),
     (["pyproject.toml"],
       .file (Utf8.asciiBytes "tool.reply-markdown.code_padding = 2".toList))] ++ more

theorem hasDirectory_layeredTree (more : List (Path × FileEntry)) :
    (layeredTree more).HasDirectory ["a"] := by
  refine ⟨by decide, fun above front => ?_⟩
  rcases List.prefix_cons_iff.mp front with rfl | ⟨rest, rfl, rest_front⟩
  · rfl
  · rw [List.prefix_nil.mp rest_front]
    rfl

theorem resolve_layeredTree (more : List (Path × FileEntry)) :
    (layeredTree more).resolve [] "a" = .ok ["a"] :=
  @Tree.resolve_entry _ [] _ .directory (Tree.hasDirectory_root _) (by decide) rfl nofun
    (Tree.reach_ne_of_hasDirectory (hasDirectory_layeredTree more))

theorem fileBytes_layeredTree (more : List (Path × FileEntry)) :
    (layeredTree more).fileBytes ["a", "pyproject.toml"] =
      .ok (some (Utf8.asciiBytes "x".toList)) ∧
    (layeredTree more).fileBytes ["a", ".reply-markdown.toml"] =
      .ok (some (Utf8.asciiBytes "x = 1".toList)) ∧
    (layeredTree more).fileBytes ["pyproject.toml"] =
      .ok (some (Utf8.asciiBytes "tool.reply-markdown.code_padding = 2".toList)) := by
  have inside := hasDirectory_layeredTree more
  have root := (layeredTree more).hasDirectory_root
  have project : WrittenPath.IsEntryName "pyproject.toml" := by decide
  have own : WrittenPath.IsEntryName ".reply-markdown.toml" := by decide
  exact ⟨@Tree.fileBytes_file _ ["a"] _ _ inside project rfl (by decide +kernel),
    @Tree.fileBytes_file _ ["a"] _ _ inside own rfl (by decide +kernel),
    @Tree.fileBytes_file _ [] _ _ root project rfl (by decide +kernel)⟩

/-- The settings of the root are found, whatever its other files are. -/
theorem load_eq_nearest_layeredTree :
    (load (layeredTree []) [] "a").2 = .ok { codePadding := .integer 2 } ∧
    (load (layeredTree [([".reply-markdown.toml"], .file [0xFF])]) [] "a").2 =
      (load (layeredTree []) [] "a").2 := by
  obtain ⟨project_held, own_held, root_held⟩ := fileBytes_layeredTree []
  have malformed : IsMalformed (Utf8.asciiBytes "x".toList) :=
    ⟨_, .expectedEquals, [], Utf8.decode_asciiBytes (by decide), by decide +kernel⟩
  have reads : Reads (Utf8.asciiBytes "x = 1".toList) (.table [("x", .integer 1)]) :=
    ⟨_, Utf8.decode_asciiBytes (by decide), by decide +kernel⟩
  have root_reads : Reads (Utf8.asciiBytes "tool.reply-markdown.code_padding = 2".toList)
      (.table [("tool", .table [("reply-markdown", .table [("code_padding", .integer 2)])])]) :=
    ⟨_, Utf8.decode_asciiBytes (by decide), by decide +kernel⟩
  have assigned : ({} : Settings).assign [("code_padding", .integer 2)] =
      .ok { codePadding := .integer 2 } := rfl
  have decides : Spot.Decides (layeredTree []) ⟨["pyproject.toml"], ["tool", "reply-markdown"]⟩
      (.ok { codePadding := .integer 2 }) :=
    .found root_held root_reads rfl (assign_eq_ok_iff.mp assigned)
  have before_passed : ∀ earlier ∈ Spot.inDirectory ["a"], earlier.Passed (layeredTree []) := by
    simp only [Spot.inDirectory, List.forall_mem_cons]
    exact ⟨.malformed project_held malformed, .without own_held reads rfl,
      .without own_held reads rfl, List.forall_mem_nil _⟩
  obtain ⟨outcomes, shared⟩ :=
    (load_eq_nearest (layeredTree []) [] "a").2 ["a"] (resolve_layeredTree [])
  refine ⟨(outcomes _).mpr (.hit rfl before_passed decides),
    shared _ (Spot.inDirectory ["a"] ++ [⟨["pyproject.toml"], ["tool", "reply-markdown"]⟩])
      (resolve_layeredTree _) ⟨_, rfl⟩
      ⟨_, List.mem_append_right _ List.mem_cons_self, decides.not_passed⟩ ?_⟩
  obtain ⟨project_same, own_same, root_same⟩ :=
    fileBytes_layeredTree [([".reply-markdown.toml"], .file [0xFF])]
  simp only [Spot.inDirectory, List.cons_append, List.nil_append, List.forall_mem_cons,
    project_same, own_same, root_same, project_held, own_held, root_held]
  exact ⟨trivial, trivial, trivial, trivial, List.forall_mem_nil _⟩

/-- The bytes of a file with a table that gives one setting. -/
def paddingBytes : List UInt8 :=
  Utf8.asciiBytes "reply-markdown.code_padding = 2".toList

theorem reads_paddingBytes :
    Reads paddingBytes (.table [("reply-markdown", .table [("code_padding", .integer 2)])]) :=
  ⟨_, Utf8.decode_asciiBytes (by decide), by decide +kernel⟩

theorem decides_of_paddingBytes {tree : Tree} {place : Path}
    (held : tree.fileBytes place = .ok (some paddingBytes)) :
    Spot.Decides tree ⟨place, ["reply-markdown"]⟩ (.ok { codePadding := .integer 2 }) := by
  have assigned : ({} : Settings).assign [("code_padding", .integer 2)] =
      .ok { codePadding := .integer 2 } := rfl
  exact .found held reads_paddingBytes rfl (assign_eq_ok_iff.mp assigned)

/-- A tree with a file of some bytes in front of one with settings. -/
def shadowedTree (bytes : List UInt8) : Tree where
  entries :=
    [(["pyproject.toml"], .file bytes), ([".reply-markdown.toml"], .file paddingBytes)]

theorem fileBytes_shadowedTree (bytes : List UInt8) :
    (shadowedTree bytes).fileBytes ["pyproject.toml"] = .ok (some bytes) ∧
    (shadowedTree bytes).fileBytes [".reply-markdown.toml"] = .ok (some paddingBytes) := by
  have root := (shadowedTree bytes).hasDirectory_root
  have project : WrittenPath.IsEntryName "pyproject.toml" := by decide
  have own : WrittenPath.IsEntryName ".reply-markdown.toml" := by decide
  exact ⟨@Tree.fileBytes_file _ [] _ _ root project rfl (by decide +kernel),
    @Tree.fileBytes_file _ [] _ _ root own rfl (by decide +kernel)⟩

theorem resolve_shadowedTree (bytes : List UInt8) :
    (shadowedTree bytes).resolve [] "." = .ok [] :=
  Tree.resolve_dot (Tree.hasDirectory_root _)

/-- The first file breaks the search off if its bytes are refused. -/
theorem load_shadowedTree {bytes : List UInt8} {error : LoadError} (refused : Refused bytes error) :
    (load (shadowedTree bytes) [] ".").2 = .error error := by
  have first : (⟨["pyproject.toml"], ["tool", "reply-markdown"]⟩ : Spot).answer?
      (shadowedTree bytes) = some (.error error) :=
    Spot.answer?_of_decides (.refused (fileBytes_shadowedTree bytes).1 refused)
  have spots_eq : spots [] = ⟨["pyproject.toml"], ["tool", "reply-markdown"]⟩ ::
    [⟨[".reply-markdown.toml"], ["reply-markdown"]⟩,
     ⟨[".reply-markdown.toml"], ["tool", "reply-markdown"]⟩] := rfl
  rw [load_of_resolve (resolve_shadowedTree bytes), loadAt_result, spots_eq, List.findSome?_cons,
    first, Option.getD_some]

/-- A line that gives a key an integer of so many digits. -/
def integerLine (count : Nat) : Text :=
  'n' :: '=' :: List.replicate count '1'

theorem decode_integerLine (count : Nat) :
    Utf8.decode (Utf8.asciiBytes (integerLine count)) = .ok (integerLine count) := by
  apply Utf8.decode_asciiBytes
  rw [integerLine, List.all_cons, List.all_cons, List.all_replicate]
  split <;> decide

theorem read_integerLine {count : Nat} (long : Numeral.digitLimit < count) :
    Toml.read (integerLine count) = .error (.numeral ⟨count⟩) := by
  have digits : ∀ c ∈ List.replicate count '1', c.isDigit = true := by
    intro c c_mem
    rw [List.eq_of_mem_replicate c_mem]
    decide
  have nonzero : (List.replicate count '1').head? ≠ some '0' := by
    rw [List.head?_replicate]
    split <;> simp
  have refused := Toml.read_of_longNumeral digits nonzero (by rwa [List.length_replicate])
  rwa [List.length_replicate] at refused

/-- A file with too long an integer is a text, but the settings behind it are not found. -/
theorem load_shadowedTree_integerLine :
    let bytes := Utf8.asciiBytes (integerLine 4301)
    (∃ text, Utf8.decode bytes = .ok text) ∧ (∀ document, ¬Reads bytes document) ∧
    Spot.Decides (shadowedTree bytes) ⟨[".reply-markdown.toml"], ["reply-markdown"]⟩
      (.ok { codePadding := .integer 2 }) ∧
    (load (shadowedTree bytes) [] ".").2 = .error (.numeral ⟨4301⟩) := by
  intro bytes
  have refused : Refused bytes (.numeral ⟨4301⟩) :=
    .numeral (decode_integerLine 4301) (read_integerLine (by decide))
  exact ⟨⟨_, decode_integerLine 4301⟩, refused.not_reads,
    decides_of_paddingBytes (fileBytes_shadowedTree bytes).2, load_shadowedTree refused⟩

end Settings
end ChatReply
