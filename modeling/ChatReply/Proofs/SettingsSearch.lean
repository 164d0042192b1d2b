import ChatReply.Proofs.DirectFile
import ChatReply.Settings.Search

/-!
# The first candidate with an answer

The search for settings ends at the first candidate that answers it: a file with one of the tables,
or one on which the search breaks off. What the candidates behind it hold does not matter.
-/

namespace ChatReply
namespace Settings

/-- The answer of a candidate, if the search ends there. -/
def Candidate.answer? (tree : Tree) (candidate : Candidate) :
    Option (Except LoadError Settings) :=
  match inspect tree candidate with
  | .error error => some (.error error)
  | .ok .nothing => none
  | .ok (.unreadable _) => none
  | .ok (.table table value) =>
    some ((ofTable value table candidate.place.absoluteName).mapError .settings)

/-- A candidate answers with an error if it cannot be looked into or has a faulty table. -/
theorem Candidate.answer?_eq_error_iff {tree : Tree} {candidate : Candidate} {error : LoadError} :
    candidate.answer? tree = some (.error error) ↔
      inspect tree candidate = .error error ∨
      ∃ table value fault, inspect tree candidate = .ok (.table table value) ∧
        ofTable value table candidate.place.absoluteName = .error fault ∧
        .settings fault = error := by
  rw [answer?]
  cases inspect tree candidate with
  | error cause => simp
  | ok finding =>
      cases finding with
      | nothing => simp
      | unreadable reason => simp
      | table table value =>
          simp only [reduceCtorEq, false_or, Option.some.injEq, Except.ok.injEq,
            Finding.table.injEq]
          constructor
          · intro faulty
            cases checked : ofTable value table candidate.place.absoluteName with
            | ok settings => simp [checked, Except.mapError] at faulty
            | error fault =>
                rw [checked] at faulty
                exact ⟨table, value, fault, ⟨rfl, rfl⟩, checked, Except.error.inj faulty⟩
          · rintro ⟨_, _, fault, ⟨rfl, rfl⟩, checked, rfl⟩
            rw [checked]
            rfl

/-- The search gives the first answer, or the default settings. -/
theorem search_result (tree : Tree) (candidates : List Candidate) :
    (search tree candidates).2 = (candidates.findSome? (Candidate.answer? tree)).getD (.ok {}) := by
  induction candidates with
  | nil => rfl
  | cons candidate rest ih =>
      rw [search, List.findSome?_cons, Candidate.answer?]
      cases inspect tree candidate with
      | error error => rfl
      | ok finding =>
          cases finding with
          | nothing => exact ih
          | unreadable reason => exact ih
          | table table value =>
              simp only
              cases ofTable value table candidate.place.absoluteName <;> rfl

/-- The search fails at the first candidate with an answer, if that fails. -/
theorem search_eq_error_iff {tree : Tree} {candidates : List Candidate} {error : LoadError} :
    (search tree candidates).2 = .error error ↔
      ∃ before candidate after, candidates = before ++ candidate :: after ∧
        candidate.answer? tree = some (.error error) ∧
        ∀ earlier ∈ before, earlier.answer? tree = none := by
  rw [search_result, ← List.findSome?_eq_some_iff]
  cases candidates.findSome? (Candidate.answer? tree) <;> simp

/-- Where no file holds anything, the default settings are found. -/
theorem search_of_nothing {tree : Tree} {candidates : List Candidate}
    (nothing : ∀ candidate ∈ candidates, inspect tree candidate = .ok .nothing) :
    search tree candidates = ([], .ok {}) := by
  induction candidates with
  | nil => rfl
  | cons candidate rest ih =>
      obtain ⟨first_nothing, later_nothing⟩ := List.forall_mem_cons.mp nothing
      rw [search, first_nothing]
      exact ih later_nothing

/-- At the root the default settings are found if it holds no file of the given names. -/
theorem loadAt_root_of_missing {tree : Tree}
    (missing : ∀ source ∈ sources, tree.entry? [source.1] = none) :
    loadAt tree [] = ([], .ok {}) := by
  have entry : ∀ source ∈ sources, WrittenPath.IsEntryName source.1 := by decide
  have short : ∀ source ∈ sources,
      (Path.absoluteName [source.1]).utf8ByteSize ≤ Tree.pathLimit := by
    decide +kernel
  have places : candidates [] = sources.map fun source => ⟨[source.1], source.2⟩ := rfl
  apply search_of_nothing
  rw [places, List.forall_mem_map]
  intro source source_mem
  have no_bytes := Tree.fileBytes_missing tree.hasDirectory_root (entry source source_mem)
    (missing source source_mem) (short source source_mem)
  rw [List.nil_append] at no_bytes
  rw [inspect, no_bytes]

end Settings
end ChatReply
