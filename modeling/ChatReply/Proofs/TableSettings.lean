import ChatReply.Settings.Basic
import Mathlib.Data.List.Basic

/-!
# The settings of a table

A table of a configuration file gives values to some settings, and the others keep their defaults.
It is faulty if it is no table at all or gives a value to a name that no setting has.
-/

namespace ChatReply
namespace Settings

/-- The names of the settings. -/
def names : List String :=
  ["output_format", "code_background", "bullet_marker", "code_padding", "max_file_size"]

/-- The value of the setting of a name. -/
def value? (settings : Settings) (name : String) : Option Value :=
  match name with
  | "output_format" => some settings.outputFormat
  | "code_background" => some settings.codeBackground
  | "bullet_marker" => some settings.bulletMarker
  | "code_padding" => some settings.codePadding
  | "max_file_size" => some settings.maxFileSize
  | _ => none

/-- Settings are known by the values of their names. -/
theorem ext_value? {first second : Settings}
    (same : ∀ name, first.value? name = second.value? name) : first = second := by
  obtain ⟨format, background, marker, padding, limit⟩ := first
  have format_eq := same "output_format"
  have background_eq := same "code_background"
  have marker_eq := same "bullet_marker"
  have padding_eq := same "code_padding"
  have limit_eq := same "max_file_size"
  simp only [value?, Option.some.injEq] at format_eq background_eq marker_eq padding_eq limit_eq
  rw [format_eq, background_eq, marker_eq, padding_eq, limit_eq]

theorem set?_eq_none_iff {settings : Settings} {name : String} {value : Value} :
    settings.set? name value = none ↔ name ∉ names := by
  unfold set?
  split <;> simp_all [names]

theorem mem_names_of_set? {settings next : Settings} {name : String} {value : Value}
    (given : settings.set? name value = some next) : name ∈ names := by
  by_contra unknown
  rw [set?_eq_none_iff.mpr unknown] at given
  cases given

/-- Giving a setting a value changes that one only. -/
theorem value?_of_set? {settings next : Settings} {name : String} {value : Value}
    (given : settings.set? name value = some next) (other : String) :
    next.value? other = (settings.value? other).map fun old =>
      if other = name then value else old := by
  unfold set? at given
  split at given
  all_goals first
    | cases given
      unfold value?
      split <;> simp_all
    | cases given

/-- Fields give settings their values: all of them have names of settings, and the last value that
is given to a name counts. -/
def GivenBy (fields : List (String × Value)) (settings : Settings) : Prop :=
  (∀ field ∈ fields, field.1 ∈ names) ∧
  ∀ name, settings.value? name =
    (({} : Settings).value? name).map fun default => (fields.reverse.lookup name).getD default

theorem assign_eq_ok_iff {base settings : Settings} {fields : List (String × Value)} :
    base.assign fields = .ok settings ↔
      (∀ field ∈ fields, field.1 ∈ names) ∧
      ∀ name, settings.value? name =
        (base.value? name).map fun old => (fields.reverse.lookup name).getD old := by
  induction fields generalizing base with
  | nil =>
      have same_iff : base = settings ↔ ∀ name, settings.value? name = base.value? name :=
        ⟨fun same name => same ▸ rfl, fun same => ext_value? fun name => (same name).symm⟩
      simpa [assign] using same_iff
  | cons field rest ih =>
      obtain ⟨name, value⟩ := field
      rw [assign, List.forall_mem_cons]
      cases given : base.set? name value with
      | none => simp [set?_eq_none_iff.mp given]
      | some next =>
          have known := mem_names_of_set? given
          -- A later value of the name covers this one.
          have covered : ∀ other old,
              (((name, value) :: rest).reverse.lookup other).getD old =
                (rest.reverse.lookup other).getD (if other = name then value else old) := by
            intro other old
            rw [List.reverse_cons, List.lookup_append]
            cases rest.reverse.lookup other with
            | some later => rfl
            | none =>
                by_cases same : other = name
                · simp [same]
                · simp [List.lookup_cons, same, beq_false_of_ne same]
          simp only [ih, value?_of_set? given, Option.map_map, Function.comp_def, covered, known,
            true_and]

/-- Fields cannot be assigned if one of them has a name that no setting has. -/
theorem assign_eq_error_iff {base : Settings} {fields : List (String × Value)} :
    (∃ error, base.assign fields = .error error) ↔ ∃ field ∈ fields, field.1 ∉ names := by
  induction fields generalizing base with
  | nil => simp [assign]
  | cons field rest ih =>
      rw [assign, List.exists_mem_cons_iff]
      cases given : base.set? field.1 field.2 with
      | none => simp [set?_eq_none_iff.mp given]
      | some next =>
          have known := mem_names_of_set? given
          simp [ih, known]

/-- A value is no table, or a table with a name that no setting has. -/
def IsFaultyTable (value : Value) : Prop :=
  ∀ fields, value = .table fields → ∃ field ∈ fields, field.1 ∉ names

theorem ofTable_eq_ok_iff {value : Value} {table file : String} {settings : Settings} :
    ofTable value table file = .ok settings ↔
      ∃ fields, value = .table fields ∧ GivenBy fields settings := by
  cases value with
  | table fields =>
      simp only [ofTable, Value.table.injEq, exists_eq_left', GivenBy, ← assign_eq_ok_iff]
      cases ({} : Settings).assign fields <;> simp [Except.mapError]
  | _ => simp [ofTable]

theorem ofTable_eq_error_iff {value : Value} {table file : String} {error : SettingsError} :
    ofTable value table file = .error error ↔
      IsFaultyTable value ∧ error = .invalidTable table (WrittenPath.tidy file) := by
  cases value with
  | table fields =>
      simp only [ofTable, IsFaultyTable, Value.table.injEq, forall_eq',
        ← @assign_eq_error_iff {}]
      cases ({} : Settings).assign fields <;> simp [Except.mapError, eq_comm]
  | _ => simp [ofTable, IsFaultyTable, eq_comm]

end Settings
end ChatReply
