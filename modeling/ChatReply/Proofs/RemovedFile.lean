import ChatReply.Proofs.NearestSettings
import Mathlib.Data.List.Induction

/-!
# Removing a file from a search

A malformed file and one that cannot be opened are passed over, so the search for settings goes on
as if they were not there. A file that the search does not come to does not matter either, but one
that is refused breaks off every search that comes to it.
-/

namespace ChatReply
namespace Tree

/-- Whatever stands in the tree stands in a directory of it. -/
def IsRooted (tree : Tree) : Prop :=
  ∀ place, tree.entry? place ≠ none → tree.entry? place.parent = some .directory

/-- What following names gives in a tree with a file and in the one without it: the same, or nothing
in place of the file or of something below it. -/
inductive Alike (file : Path) : Except Fault Path → Except Fault Path → Prop where
  | same {outcome : Except Fault Path} (apart : outcome ≠ .ok file) : Alike file outcome outcome
  | found : Alike file (.ok file) (.error .notFound)
  | below : Alike file (.error .notDirectory) (.error .notFound)

theorem lookup_filter (keep : Path → Bool) (place : Path) (entries : List (Path × FileEntry)) :
    (entries.filter fun (place, _) => keep place).lookup place =
      if keep place then entries.lookup place else none := by
  induction entries with
  | nil => simp
  | cons entry entries ih =>
      obtain ⟨other, kind⟩ := entry
      by_cases same : place = other
      · subst same
        cases kept : keep place <;> simp [kept, ih]
      · have skipped : (place == other) = false := beq_false_of_ne same
        cases kept : keep other <;> simp [kept, List.lookup_cons, skipped, ih]

theorem entryAt_remove {tree : Tree} {file : Path} (file_ne : file ≠ []) (place : Path) :
    entry? (tree.remove file) place = if file <+: place then none else tree.entry? place := by
  unfold entry?
  by_cases root : place = []
  · have outside : ¬file <+: place := fun front => file_ne (List.prefix_nil.mp (root ▸ front))
    rw [if_pos root, if_pos root, if_neg outside]
  · rw [if_neg root, if_neg root]
    have filtered := lookup_filter (fun place => !file.isPrefixOf place) place tree.entries
    by_cases below : file <+: place
    · rw [List.isPrefixOf_iff_prefix.mpr below] at filtered
      rw [if_pos below]
      exact filtered
    · rw [Bool.eq_false_iff.mpr (mt List.isPrefixOf_iff_prefix.mp below)] at filtered
      rw [if_neg below]
      exact filtered

section

variable {tree : Tree} {file : Path} {kind : FileEntry} (rooted : tree.IsRooted)
  (held : tree.entry? file = some kind) (is_file : kind.isFile = true)

include held is_file

theorem entryAt_file_ne_directory : tree.entry? file ≠ some .directory := by
  rw [held]
  rintro ⟨⟩
  cases is_file

theorem entryAt_file_ne_link (target : WrittenPath) : tree.entry? file ≠ some (.link target) := by
  rw [held]
  rintro ⟨⟩
  cases is_file

theorem file_ne_nil : file ≠ [] := by
  rintro rfl
  exact entryAt_file_ne_directory held is_file rfl

include rooted

/-- Nothing stands below a file. -/
theorem entryAt_below {place : Path} (below : file <+: place) (place_ne : place ≠ file) :
    tree.entry? place = none := by
  induction place using List.reverseRecOn with
  | nil => exact absurd (List.prefix_nil.mp below).symm place_ne
  | append_singleton front name ih =>
      by_contra stands
      have directory := rooted _ stands
      rw [Path.parent, List.dropLast_concat] at directory
      rcases List.prefix_concat_iff.mp below with same | inside
      · exact place_ne same.symm
      by_cases front_eq : front = file
      · exact entryAt_file_ne_directory held is_file (front_eq ▸ directory)
      · rw [ih inside front_eq] at directory
        cases directory

/-- Only the file itself is missing without it. -/
theorem entryAt_remove_file (place : Path) :
    entry? (tree.remove file) place = if place = file then none else tree.entry? place := by
  rw [entryAt_remove (file_ne_nil held is_file)]
  by_cases same : place = file
  · rw [if_pos same, if_pos (same ▸ List.prefix_rfl)]
  · rw [if_neg same]
    split
    · next below => exact (entryAt_below rooted held is_file below same).symm
    · rfl

/-- Names are followed alike without a file, up to the place where it is missing. -/
theorem follow_remove (links : Nat) {place : Path} (place_ne : place ≠ file) (names : List String) :
    Alike file (tree.follow links place names) ((tree.remove file).follow links place names) := by
  have no_directory := entryAt_file_ne_directory held is_file
  have no_link := entryAt_file_ne_link held is_file
  have kept : ∀ {place}, place ≠ file → entry? (tree.remove file) place = tree.entry? place :=
    fun other => (entryAt_remove_file rooted held is_file _).trans (if_neg other)
  -- Whatever is followed on starts at another place than the file, until a name leads to it.
  fun_induction tree.follow links place names with
  | case1 links place =>
      rw [follow]
      exact .same fun found => place_ne (Except.ok.inj found)
  | case2 links place name rest no_directory =>
      rw [follow, if_pos (by rwa [kept place_ne])]
      exact .same (by simp)
  | case3 links place name rest directory stays ih =>
      rw [follow, if_neg (by rwa [kept place_ne]), if_pos stays]
      exact ih place_ne
  | case4 links place rest directory moves ih =>
      have above := rooted place (by simp [not_not.mp directory])
      rw [follow, if_neg (by rwa [kept place_ne]), if_neg moves, if_pos rfl]
      exact ih fun same => no_directory (same ▸ above)
  | case5 links place name rest directory moves down long =>
      rw [follow, if_neg (by rwa [kept place_ne]), if_neg moves, if_neg down, if_pos long]
      exact .same (by simp)
  | case6 links place name rest directory moves down short missing =>
      rw [follow, if_neg (by rwa [kept place_ne]), if_neg moves, if_neg down, if_neg short,
        kept (fun same => by simp [same, held] at missing), missing]
      exact .same (by simp)
  | case7 place name rest directory moves down short target linked =>
      rw [follow, if_neg (by rwa [kept place_ne]), if_neg moves, if_neg down, if_neg short,
        kept (fun same => no_link target (same ▸ linked)), linked]
      exact .same (by simp)
  | case8 place name rest directory moves down short target linked links ih =>
      have start_ne : (if target.absolute then [] else place) ≠ file := by
        split
        · exact (file_ne_nil held is_file).symm
        · exact place_ne
      have followed : (tree.remove file).follow (links + 1) place (name :: rest) =
          (tree.remove file).follow links (if target.absolute then [] else place)
            (target.names ++ rest) := by
        rw [follow, if_neg (by rwa [kept place_ne]), if_neg moves, if_neg down, if_neg short,
          kept (fun same => no_link target (same ▸ linked)), linked]
      rw [followed]
      exact ih start_ne
  | case9 links place name rest directory moves down short entry entry_ne_link stands ih =>
      rw [follow, if_neg (by rwa [kept place_ne]), if_neg moves, if_neg down, if_neg short]
      by_cases next_eq : place ++ [name] = file
      · -- The file is no directory, so it ends the way.
        rw [entryAt_remove_file rooted held is_file, if_pos next_eq, next_eq]
        cases rest with
        | nil =>
            rw [follow]
            exact .found
        | cons next rest =>
            rw [follow, if_pos no_directory]
            exact .below
      · rw [kept next_eq, stands]
        cases entry with
        | link target => exact absurd rfl (entry_ne_link target)
        | directory | file | closed => exact ih next_eq

theorem reach_remove (place : Path) :
    Alike file (tree.reach place) ((tree.remove file).reach place) := by
  unfold reach
  split
  · exact .same (by simp)
  · exact follow_remove rooted held is_file linkLimit (file_ne_nil held is_file).symm place

/-- Without a file the same bytes are found, unless its own are. -/
theorem fileBytes_remove (place : Path) :
    (tree.remove file).fileBytes place = tree.fileBytes place ∨
      tree.reach place = .ok file ∧ (tree.remove file).fileBytes place = .ok none := by
  have alike := reach_remove rooted held is_file place
  unfold fileBytes
  generalize tree.reach place = whole at *
  generalize (tree.remove file).reach place = bare at *
  cases alike with
  | found => exact .inr ⟨rfl, rfl⟩
  | below => exact .inl rfl
  | same apart =>
      cases whole with
      | error fault => exact .inl rfl
      | ok target =>
          have target_ne : target ≠ file := fun same => apart (congrArg _ same)
          simp only [entryAt_remove_file rooted held is_file, if_neg target_ne, true_or]

/-- Links are resolved alike without a file. -/
theorem resolveFrom_remove (room : Nat) (active : List Route) (route : Route)
    (names : List String) :
    (tree.remove file).resolveFrom room active route names =
      tree.resolveFrom room active route names := by
  have linked : ∀ place target, entry? (tree.remove file) place = some (.link target) ↔
      tree.entry? place = some (.link target) := by
    intro place target
    rw [entryAt_remove_file rooted held is_file]
    split
    · next same => simp [same, entryAt_file_ne_link held is_file target]
    · rfl
  fun_induction tree.resolveFrom room active route names with
  | case1 => rw [resolveFrom]
  | case2 room active route name rest stays ih => rw [resolveFrom, if_pos stays, ih]
  | case3 room active route rest moves ih => rw [resolveFrom, if_neg moves, if_pos rfl, ih]
  | case4 room active route name rest moves down null =>
      rw [resolveFrom, if_neg moves, if_neg down, if_pos null]
  | case5 room active route name rest moves down valid next target entered again =>
      rw [resolveFrom, if_neg moves, if_neg down, if_neg valid]
      simp only [(linked _ _).mpr entered, next, again, if_true]
  | case6 active route name rest moves down valid next target entered fresh =>
      rw [resolveFrom, if_neg moves, if_neg down, if_neg valid]
      simp only [(linked _ _).mpr entered, next, if_neg fresh]
  | case7 active route name rest moves down valid next target entered fresh room start error
      failed ih =>
      have bare_failed : (tree.remove file).resolveFrom room (next :: active)
          (if target.absolute then Route.root else route) target.names = .error error :=
        ih.trans failed
      rw [resolveFrom, if_neg moves, if_neg down, if_neg valid]
      simp only [(linked _ _).mpr entered, if_neg fresh, bare_failed, next]
  | case8 active route name rest moves down valid next target entered fresh room start place
      stuck ih =>
      have bare_stuck : (tree.remove file).resolveFrom room (next :: active)
          (if target.absolute then Route.root else route) target.names = .ok (.stuck place) :=
        ih.trans stuck
      rw [resolveFrom, if_neg moves, if_neg down, if_neg valid]
      simp only [(linked _ _).mpr entered, if_neg fresh, bare_stuck, next]
  | case9 active route name rest moves down valid next target entered fresh room start reached
      found target_ih ih =>
      have bare_found : (tree.remove file).resolveFrom room (next :: active)
          (if target.absolute then Route.root else route) target.names = .ok (.reached reached) :=
        target_ih.trans found
      rw [resolveFrom, if_neg moves, if_neg down, if_neg valid]
      simp only [(linked _ _).mpr entered, if_neg fresh, bare_found, next, ih]
  | case10 room active route name rest moves down valid next no_link ih =>
      rw [resolveFrom, if_neg moves, if_neg down, if_neg valid]
      cases entry_eq : entry? (tree.remove file) next.place with
      | none => simpa only [next, entry_eq] using ih
      | some entry =>
          cases entry with
          | link target => exact absurd ((linked _ _).mp entry_eq) (no_link target)
          | directory | file | closed => simpa only [next, entry_eq] using ih

/-- A path is resolved alike without a file. -/
theorem resolve_remove (here : Path) (path : String) :
    (tree.remove file).resolve here path = tree.resolve here path := by
  unfold resolve
  simp only [resolveFrom_remove rooted held is_file]
  split
  · rfl
  · next resolved _ =>
      have alike := reach_remove rooted held is_file resolved.place
      generalize tree.reach resolved.place = whole at *
      generalize (tree.remove file).reach resolved.place = bare at *
      cases alike <;> rfl

end
end Tree

namespace Settings

/-- The search for settings comes to a file before anything that ends it. -/
def Meets (tree : Tree) (here : Path) (path : String) (file : Path) : Prop :=
  ∃ start before spot after, tree.resolve here path = .ok start ∧
    spots start = before ++ spot :: after ∧ (∀ earlier ∈ before, earlier.Passed tree) ∧
    tree.reach spot.place = .ok file

/-- The search goes on behind a file: it cannot be opened, or it is a text with something wrong at a
place of it. -/
inductive IsUnusable : FileEntry → Prop where
  | closed (size : Nat) (fault : Tree.Fault) : IsUnusable (.closed size fault)
  | malformed {bytes : List UInt8} (malformed : IsMalformed bytes) : IsUnusable (.file bytes)

/-- A spot under which an unusable file stands is passed over. -/
theorem Spot.passed_of_isUnusable {tree : Tree} {file : Path} {kind : FileEntry} {spot : Spot}
    (held : tree.entry? file = some kind) (unusable : IsUnusable kind)
    (reached : tree.reach spot.place = .ok file) : spot.Passed tree := by
  cases unusable with
  | closed size fault => exact .closed reached held
  | malformed malformed => exact .malformed (Tree.fileBytes_of_reach reached held) malformed

section

variable {tree : Tree} {file : Path} {kind : FileEntry} (rooted : tree.IsRooted)
  (held : tree.entry? file = some kind) (is_file : kind.isFile = true)

include rooted held is_file

theorem Spot.answer?_remove (spot : Spot) :
    spot.answer? (tree.remove file) = spot.answer? tree ∨
      tree.reach spot.place = .ok file ∧ spot.answer? (tree.remove file) = none := by
  rcases Tree.fileBytes_remove rooted held is_file spot.place with same | ⟨reached, missing⟩
  · exact .inl (spot.answer?_congr same)
  · exact .inr ⟨reached, Spot.answer?_of_passed (Spot.passed_of_missing missing)⟩

/-- The first answer is the same without a file, unless the file is met. -/
theorem findSome?_answer?_remove (list : List Spot) :
    list.findSome? (Spot.answer? (tree.remove file)) = list.findSome? (Spot.answer? tree) ∨
      ∃ before spot after, list = before ++ spot :: after ∧
        (∀ earlier ∈ before, earlier.Passed tree) ∧ tree.reach spot.place = .ok file := by
  induction list with
  | nil => exact .inl rfl
  | cons spot rest ih =>
      rcases spot.answer?_remove rooted held is_file with same | ⟨reached, -⟩
      · rw [List.findSome?_cons, List.findSome?_cons, same]
        cases answered : spot.answer? tree with
        | some outcome => exact .inl rfl
        | none =>
            rcases ih with later_same | ⟨before, met, after, split, passed, reached⟩
            · exact .inl later_same
            · exact .inr ⟨spot :: before, met, after, by rw [split, List.cons_append],
                List.forall_mem_cons.mpr ⟨Spot.answer?_eq_none_iff.mp answered, passed⟩, reached⟩
      · exact .inr ⟨[], spot, rest, rfl, List.forall_mem_nil _, reached⟩

/-- An unusable file answers nothing, as if it were not there. -/
theorem Spot.answer?_remove_of_isUnusable (unusable : IsUnusable kind) (spot : Spot) :
    spot.answer? (tree.remove file) = spot.answer? tree := by
  rcases spot.answer?_remove rooted held is_file with same | ⟨reached, silent⟩
  · exact same
  · rw [silent, Spot.answer?_of_passed (Spot.passed_of_isUnusable held unusable reached)]

theorem load_remove_of_isUnusable (unusable : IsUnusable kind) (here : Path) (path : String) :
    (load (tree.remove file) here path).2 = (load tree here path).2 := by
  unfold load
  rw [Tree.resolve_remove rooted held is_file]
  cases tree.resolve here path with
  | error error => rfl
  | ok start =>
      have same := funext (Spot.answer?_remove_of_isUnusable rooted held is_file unusable)
      simp only [loadAt_result, same]

theorem load_remove_of_not_meets {here : Path} {path : String}
    (apart : ¬Meets tree here path file) :
    (load (tree.remove file) here path).2 = (load tree here path).2 := by
  unfold load
  rw [Tree.resolve_remove rooted held is_file]
  cases resolved : tree.resolve here path with
  | error error => rfl
  | ok start =>
      simp only [loadAt_result]
      rcases findSome?_answer?_remove rooted held is_file (spots start) with
        same | ⟨before, spot, after, split, passed, reached⟩
      · rw [same]
      · exact absurd ⟨start, before, spot, after, resolved, split, passed, reached⟩ apart

omit rooted is_file in
theorem load_of_meets {here : Path} {path : String} (meets : Meets tree here path file)
    {bytes : List UInt8} (kind_eq : kind = .file bytes) {error : LoadError}
    (refused : Refused bytes error) : (load tree here path).2 = .error error := by
  obtain ⟨start, before, spot, after, resolved, split, passed, reached⟩ := meets
  have bytes_held := Tree.fileBytes_of_reach reached (kind_eq ▸ held)
  rw [load_of_resolve resolved, loadAt_result]
  exact nearest_iff.mp (.hit split passed (.refused bytes_held refused))

/-- Removing a file from a tree does not change the settings that are loaded if it cannot be opened,
is malformed or is not met. If its bytes are refused, every search that meets it fails. -/
theorem load_remove (here : Path) (path : String) :
    (IsUnusable kind ∨ ¬Meets tree here path file →
      (load (tree.remove file) here path).2 = (load tree here path).2) ∧
    ∀ bytes error, kind = .file bytes → Refused bytes error → Meets tree here path file →
      (load tree here path).2 = .error error := by
  refine ⟨?_, fun bytes error kind_eq refused meets => load_of_meets held meets kind_eq refused⟩
  rintro (unusable | apart)
  · exact load_remove_of_isUnusable rooted held is_file unusable here path
  · exact load_remove_of_not_meets rooted held is_file apart

end

theorem isRooted_shadowedTree (bytes : List UInt8) : (shadowedTree bytes).IsRooted := by
  intro place stands
  by_cases root : place = []
  · rw [root]
    rfl
  have known : place = ["pyproject.toml"] ∨ place = [".reply-markdown.toml"] := by
    by_contra unknown
    obtain ⟨project_ne, own_ne⟩ := not_or.mp unknown
    exact stands (by simp [Tree.entry?, shadowedTree, List.lookup_cons, root,
      beq_false_of_ne project_ne, beq_false_of_ne own_ne])
  rcases known with rfl | rfl <;> rfl

/-- A byte that starts no character is no text. -/
theorem refused_strayByte : Refused [0xFF] (.decoding ⟨0, 0xFF, 0, .invalidStart⟩) := by
  refine .decoding ?_
  rw [Utf8.decode, Utf8.decodeFrom]
  rfl

/-- A malformed file does not matter, and one that is no text breaks off the search. -/
theorem load_remove_shadowedTree :
    (load ((shadowedTree [0x78]).remove ["pyproject.toml"]) [] ".").2 =
      (load (shadowedTree [0x78]) [] ".").2 ∧
    (load (shadowedTree [0xFF]) [] ".").2 = .error (.decoding ⟨0, 0xFF, 0, .invalidStart⟩) := by
  have malformed : IsMalformed [0x78] :=
    ⟨['x'], .expectedEquals, [], @Utf8.decode_asciiBytes ['x'] (by decide), by decide +kernel⟩
  have reached : (shadowedTree [0xFF]).reach ["pyproject.toml"] = .ok ["pyproject.toml"] :=
    @Tree.reach_file _ [] _ _ (Tree.hasDirectory_root _) (by decide) rfl (by decide +kernel)
  have meets : Meets (shadowedTree [0xFF]) [] "." ["pyproject.toml"] :=
    ⟨[], [], ⟨["pyproject.toml"], ["tool", "reply-markdown"]⟩, _, resolve_shadowedTree _, rfl,
      List.forall_mem_nil _, reached⟩
  exact ⟨(load_remove (isRooted_shadowedTree _) rfl rfl [] ".").1 (.inl (.malformed malformed)),
    (load_remove (isRooted_shadowedTree _) rfl rfl [] ".").2 _ _ rfl refused_strayByte meets⟩

/-- Without a file that is no text the settings behind it are found, but not with it. -/
theorem load_shadowedTree_stray :
    (load ((shadowedTree [0xFF]).remove ["pyproject.toml"]) [] ".").2 =
      .ok { codePadding := .integer 2 } ∧
    (load (shadowedTree [0xFF]) [] ".").2 = .error (.decoding ⟨0, 0xFF, 0, .invalidStart⟩) := by
  refine ⟨?_, load_shadowedTree refused_strayByte⟩
  generalize bare_eq : (shadowedTree [0xFF]).remove ["pyproject.toml"] = bare
  have root := bare.hasDirectory_root
  have missing := @Tree.fileBytes_missing _ [] "pyproject.toml" root (by decide)
    (by rw [← bare_eq]; rfl) (by decide +kernel)
  have held := @Tree.fileBytes_file _ [] ".reply-markdown.toml" paddingBytes root (by decide)
    (by rw [← bare_eq]; rfl) (by decide +kernel)
  have passed : ∀ earlier ∈ [(⟨["pyproject.toml"], ["tool", "reply-markdown"]⟩ : Spot)],
      earlier.Passed bare :=
    List.forall_mem_singleton.mpr (Spot.passed_of_missing missing)
  rw [load_of_resolve (Tree.resolve_dot root), loadAt_result]
  exact nearest_iff.mp (.hit rfl passed (decides_of_paddingBytes held))

end Settings
end ChatReply
