import ChatReply.Settings.Basic
import Mathlib.Data.List.Basic

/-!
# Checked settings

Options are the settings that pass the check, and no information is lost in turning one into the
other. The check makes its demands in a fixed order, and the first one that is not met decides which
error is given.
-/

namespace ChatReply

/-- The settings that options stand for. -/
def Options.settings (options : Options) : Settings where
  outputFormat := .ofString options.format.name
  codeBackground := .boolean options.framed
  bulletMarker := .string options.marker
  codePadding := .integer options.padding
  maxFileSize := .integer options.limit

theorem OutputFormat.ofName?_eq_some_iff {name : String} {format : OutputFormat} :
    ofName? name = some format ↔ format.name = name := by
  constructor
  · intro found
    simpa using List.find?_some found
  · rintro rfl
    cases format <;> decide

namespace Settings

theorem format?_eq_some_iff {value : Value} {format : OutputFormat} :
    format? value = some format ↔ value = .ofString format.name := by
  cases value with
  | string text =>
      rw [format?, OutputFormat.ofName?_eq_some_iff, Value.ofString, Value.string.injEq,
        ← String.toList_inj, String.toList_ofList, eq_comm]
  | _ => simp [format?, Value.ofString]

/-! ## Demands -/

section

variable (settings : Settings)

/-- The output format is the name of one. -/
def HasFormat : Prop :=
  ∃ format : OutputFormat, settings.outputFormat = .ofString format.name

/-- The code background is true or false. -/
def HasBackground : Prop :=
  ∃ framed, settings.codeBackground = .boolean framed

/-- The bullet marker is a string that is not empty. -/
def HasMarker : Prop :=
  ∃ marker, settings.bulletMarker = .string marker ∧ marker ≠ []

/-- The code padding is an integer that is not negative. -/
def HasPadding : Prop :=
  ∃ padding, settings.codePadding = .integer padding ∧ 0 ≤ padding

/-- The size limit is a positive integer. -/
def HasLimit : Prop :=
  ∃ limit, settings.maxFileSize = .integer limit ∧ 0 < limit

end

/-- A check demands something of settings, and has an error for those that do not meet it. -/
structure Demand where
  /-- The error of settings that do not meet the demand. -/
  failure : SettingsError
  /-- What is demanded. -/
  Meets : Settings → Prop

/-- The demands of the check, in the order in which it makes them. -/
def demands : List Demand :=
  [⟨.unknownFormat, HasFormat⟩, ⟨.backgroundNotBoolean, HasBackground⟩, ⟨.markerEmpty, HasMarker⟩,
   ⟨.paddingNegative, HasPadding⟩, ⟨.limitNotPositive, HasLimit⟩]

/-- The settings meet every demand. -/
def IsValid (settings : Settings) : Prop :=
  ∀ demand ∈ demands, demand.Meets settings

/-- The error is that of the first demand which the settings do not meet. -/
def Fails (settings : Settings) (error : SettingsError) : Prop :=
  ∃ before demand after, demands = before ++ demand :: after ∧
    (∀ earlier ∈ before, earlier.Meets settings) ∧ ¬demand.Meets settings ∧ demand.failure = error

/-- Settings fail with one error only. -/
theorem Fails.unique {settings : Settings} {first second : SettingsError}
    (fails : settings.Fails first) (fails_too : settings.Fails second) : first = second := by
  classical
  have found : ∀ {error}, settings.Fails error →
      ∃ demand, demands.find? (fun demand => ¬demand.Meets settings) = some demand ∧
        demand.failure = error := by
    rintro error ⟨before, demand, after, split, met, unmet, failure_eq⟩
    refine ⟨demand, List.find?_eq_some_iff_append.mpr ⟨by simpa using unmet, before, after, split,
      fun earlier earlier_mem => by simpa using met earlier earlier_mem⟩, failure_eq⟩
  obtain ⟨demand, demand_eq, rfl⟩ := found fails
  obtain ⟨other, other_eq, rfl⟩ := found fails_too
  rw [Option.some.inj (demand_eq.symm.trans other_eq)]

theorem Fails.not_isValid {settings : Settings} {error : SettingsError}
    (fails : settings.Fails error) : ¬settings.IsValid := by
  obtain ⟨before, demand, after, split, -, unmet, -⟩ := fails
  exact fun valid => unmet (valid demand (split ▸ List.mem_append_right _ List.mem_cons_self))

/-! ## The check -/

theorem check_settings (options : Options) : options.settings.check = .ok options := by
  obtain ⟨format, framed, marker, padding, limit, marker_ne, limit_pos⟩ := options
  have format_eq : format? (.ofString format.name) = some format := format?_eq_some_iff.mpr rfl
  simp [check, Options.settings, format_eq, marker_ne, limit_pos]

theorem isValid_settings (options : Options) : options.settings.IsValid := by
  simp only [IsValid, demands, List.forall_mem_cons]
  exact ⟨⟨_, rfl⟩, ⟨_, rfl⟩, ⟨_, rfl, options.marker_ne⟩, ⟨_, rfl, Int.natCast_nonneg _⟩,
    ⟨_, rfl, Int.natCast_pos.mpr options.limit_pos⟩, List.forall_mem_nil _⟩

/-- The check gives options that stand for the settings, or the error with which they fail. -/
theorem check_cases (settings : Settings) :
    (∃ options, settings.check = .ok options ∧ options.settings = settings) ∨
      ∃ error, settings.check = .error error ∧ settings.Fails error := by
  have nil_met := List.forall_mem_nil fun earlier : Demand => earlier.Meets settings
  -- On the way to a branch the earlier demands are met, and it is left at the first that is not.
  fun_cases check settings with
  | case1 unknown =>
      refine .inr ⟨_, rfl, [], _, _, rfl, nil_met, ?_, rfl⟩
      rintro ⟨format, format_eq⟩
      rw [format?_eq_some_iff.mpr format_eq] at unknown
      cases unknown
  | case2 format named framed background_eq marker marker_eq marker_ne padding padding_eq limit
      limit_eq limit_pos =>
      refine .inl ⟨_, rfl, ?_⟩
      obtain ⟨outputFormat, codeBackground, bulletMarker, codePadding, maxFileSize⟩ := settings
      obtain rfl := format?_eq_some_iff.mp named
      obtain rfl := background_eq
      obtain rfl := marker_eq
      obtain rfl := padding_eq
      obtain rfl := limit_eq
      rfl
  | case3 format named framed background_eq marker marker_eq marker_ne padding padding_eq limit
      limit_eq not_pos =>
      refine .inr ⟨_, rfl, [_, _, _, _], _, _, rfl, ?_, ?_, rfl⟩
      · simp only [List.forall_mem_cons]
        exact ⟨⟨format, format?_eq_some_iff.mp named⟩, ⟨framed, background_eq⟩,
          ⟨marker, marker_eq, marker_ne⟩, ⟨padding, padding_eq, Int.natCast_nonneg padding⟩,
          nil_met⟩
      · rintro ⟨other, other_eq, other_pos⟩
        obtain rfl := Value.integer.inj (limit_eq.symm.trans other_eq)
        exact not_pos (Int.natCast_pos.mp other_pos)
  | case4 format named framed background_eq marker marker_eq marker_ne padding padding_eq unlike =>
      refine .inr ⟨_, rfl, [_, _, _, _], _, _, rfl, ?_, ?_, rfl⟩
      · simp only [List.forall_mem_cons]
        exact ⟨⟨format, format?_eq_some_iff.mp named⟩, ⟨framed, background_eq⟩,
          ⟨marker, marker_eq, marker_ne⟩, ⟨padding, padding_eq, Int.natCast_nonneg padding⟩,
          nil_met⟩
      · rintro ⟨limit, limit_eq, limit_pos⟩
        lift limit to Nat using Int.le_of_lt limit_pos
        exact unlike limit limit_eq
  | case5 format named framed background_eq marker marker_eq marker_ne unlike =>
      refine .inr ⟨_, rfl, [_, _, _], _, _, rfl, ?_, ?_, rfl⟩
      · simp only [List.forall_mem_cons]
        exact ⟨⟨format, format?_eq_some_iff.mp named⟩, ⟨framed, background_eq⟩,
          ⟨marker, marker_eq, marker_ne⟩, nil_met⟩
      · rintro ⟨padding, padding_eq, nonneg⟩
        lift padding to Nat using nonneg
        exact unlike padding padding_eq
  | case6 format named framed background_eq marker marker_eq empty =>
      refine .inr ⟨_, rfl, [_, _], _, _, rfl, ?_, ?_, rfl⟩
      · simp only [List.forall_mem_cons]
        exact ⟨⟨format, format?_eq_some_iff.mp named⟩, ⟨framed, background_eq⟩, nil_met⟩
      · rintro ⟨other, other_eq, other_ne⟩
        obtain rfl := Value.string.inj (marker_eq.symm.trans other_eq)
        exact empty other_ne
  | case7 format named framed background_eq unlike =>
      refine .inr ⟨_, rfl, [_, _], _, _, rfl, ?_, ?_, rfl⟩
      · simp only [List.forall_mem_cons]
        exact ⟨⟨format, format?_eq_some_iff.mp named⟩, ⟨framed, background_eq⟩, nil_met⟩
      · rintro ⟨marker, marker_eq, -⟩
        exact unlike marker marker_eq
  | case8 format named unlike =>
      refine .inr ⟨_, rfl, [_], _, _, rfl, ?_, ?_, rfl⟩
      · simp only [List.forall_mem_cons]
        exact ⟨⟨format, format?_eq_some_iff.mp named⟩, nil_met⟩
      · rintro ⟨framed, background_eq⟩
        exact unlike framed background_eq

theorem check_eq_ok_iff {settings : Settings} {options : Options} :
    settings.check = .ok options ↔ options.settings = settings := by
  constructor
  · intro checked
    rcases check_cases settings with ⟨found, found_eq, rfl⟩ | ⟨error, failed, -⟩
    · rw [Except.ok.inj (checked.symm.trans found_eq)]
    · cases checked.symm.trans failed
  · rintro rfl
    exact check_settings options

/-- The check fails with the error of the first demand that is not met. -/
theorem check_eq_error_iff {settings : Settings} {error : SettingsError} :
    settings.check = .error error ↔ settings.Fails error := by
  rcases check_cases settings with ⟨options, checked, rfl⟩ | ⟨found, failed, fails⟩
  · simp only [checked, reduceCtorEq, false_iff]
    exact fun fails => fails.not_isValid (isValid_settings options)
  · rw [failed, Except.error.injEq]
    exact ⟨fun same => same ▸ fails, fun other => fails.unique other⟩

theorem isValid_iff {settings : Settings} :
    settings.IsValid ↔ ∃ options : Options, options.settings = settings := by
  constructor
  · intro valid
    rcases check_cases settings with ⟨options, -, settings_eq⟩ | ⟨error, -, fails⟩
    · exact ⟨options, settings_eq⟩
    · exact absurd valid fails.not_isValid
  · rintro ⟨options, rfl⟩
    exact isValid_settings options

end Settings
end ChatReply
