import ChatReply.Command.Run
import ChatReply.Proofs.CheckedSettings
import ChatReply.Proofs.NearestSettings

/-!
# Layered settings

Settings are put together from the overrides, the first table that is found and the defaults, and
are checked only then. So an invalid value does no harm where another one covers it, and settings
that are given back always pass the check, also with the limit of the environment variable.
-/

namespace ChatReply

theorem Limit.pos_of_resolve {given : Option Text} {default limit : Int} (default_pos : 0 < default)
    (resolved : Limit.resolve given default = .ok limit) : 0 < limit := by
  revert resolved
  fun_cases Limit.resolve given default <;> intro resolved
  case case1 => rwa [← Except.ok.inj resolved]
  case case2 text found found_eq found_pos => rwa [← Except.ok.inj resolved]
  case case3 => cases resolved
  case case4 => cases resolved

namespace Settings

/-- The fields of the first table that is found, if it is not faulty, and none at all if no table is
found. -/
inductive FirstTable (tree : Tree) (spots : List Spot) : List (String × Value) → Prop where
  | none (passed : ∀ spot ∈ spots, spot.Passed tree) : FirstTable tree spots []
  | hit {before after : List Spot} {spot : Spot} {bytes : List UInt8} {document : Value}
      {fields : List (String × Value)} (split : spots = before ++ spot :: after)
      (passed : ∀ earlier ∈ before, earlier.Passed tree)
      (held : tree.fileBytes spot.place = .ok (some bytes)) (reads : Reads bytes document)
      (stands : document.find? spot.table = some (.table fields))
      (known : ∀ field ∈ fields, field.1 ∈ names) : FirstTable tree spots fields

/-- A setting has the value of its override, else that of the table, else the default. Overrides
that give no value do not count, and the last of several fields of one name does. -/
def Layered (fields overrides : List (String × Value)) (settings : Settings) : Prop :=
  ∀ name, settings.value? name = (({} : Settings).value? name).map fun default =>
    ((given overrides).reverse.lookup name).getD ((fields.reverse.lookup name).getD default)

/-- The outcome of putting settings together: what stops the search for a table, or the layered
settings if they are valid, or the error with which they fail. -/
inductive BuildsTo (tree : Tree) (here : Path) (path : String)
    (overrides : List (String × Value)) : Except BuildError Settings → Prop where
  | unresolved {error : Tree.ResolveError} (lost : tree.resolve here path = .error error) :
      BuildsTo tree here path overrides (.error (.load (.resolving error)))
  | stopped {start : Path} {error : LoadError} (resolved : tree.resolve here path = .ok start)
      (stops : Nearest tree (spots start) (.error error)) :
      BuildsTo tree here path overrides (.error (.load error))
  | valid {start : Path} {fields : List (String × Value)} {settings : Settings}
      (resolved : tree.resolve here path = .ok start)
      (first : FirstTable tree (spots start) fields) (layered : Layered fields overrides settings)
      (valid : settings.IsValid) : BuildsTo tree here path overrides (.ok settings)
  | invalid {start : Path} {fields : List (String × Value)} {settings : Settings}
      {error : SettingsError} (resolved : tree.resolve here path = .ok start)
      (first : FirstTable tree (spots start) fields) (layered : Layered fields overrides settings)
      (fails : settings.Fails error) :
      BuildsTo tree here path overrides (.error (.settings error))

/-! ## Layers -/

theorem givenBy_nil_iff {settings : Settings} : GivenBy [] settings ↔ settings = {} := by
  rw [GivenBy, ← assign_eq_ok_iff, assign, Except.ok.injEq, eq_comm]

theorem exists_givenBy {fields : List (String × Value)}
    (known : ∀ field ∈ fields, field.1 ∈ names) : ∃ settings, GivenBy fields settings := by
  cases assigned : ({} : Settings).assign fields with
  | ok settings => exact ⟨settings, assign_eq_ok_iff.mp assigned⟩
  | error error =>
      obtain ⟨field, field_mem, unknown⟩ := assign_eq_error_iff.mp ⟨error, assigned⟩
      exact absurd (known field field_mem) unknown

variable {tree : Tree} {here start : Path} {path : String}
variable {fields overrides : List (String × Value)} {loaded settings : Settings}

theorem FirstTable.known {spots : List Spot} (first : FirstTable tree spots fields) :
    ∀ field ∈ fields, field.1 ∈ names := by
  cases first with
  | none => exact List.forall_mem_nil _
  | hit split passed held reads stands known => exact known

/-- The search gives the settings of the first table. -/
theorem nearest_ok_iff {spots : List Spot} :
    Nearest tree spots (.ok loaded) ↔
      ∃ fields, FirstTable tree spots fields ∧ GivenBy fields loaded := by
  constructor
  · rintro (passed | ⟨split, passed, decides⟩)
    · exact ⟨[], .none passed, givenBy_nil_iff.mpr rfl⟩
    · cases decides with
      | found held reads stands given =>
          exact ⟨_, .hit split passed held reads stands given.1, given⟩
  · rintro ⟨fields, first, given⟩
    cases first with
    | none passed =>
        obtain rfl := givenBy_nil_iff.mp given
        exact .default passed
    | hit split passed held reads stands known =>
        exact .hit split passed (.found held reads stands given)

theorem load_result_iff (resolved : tree.resolve here path = .ok start)
    {outcome : Except LoadError Settings} :
    (load tree here path).2 = outcome ↔ Nearest tree (spots start) outcome := by
  rw [nearest_iff, load_of_resolve resolved, loadAt_result]

theorem lookup_eq_none (known : ∀ override ∈ overrides, override.1 ∈ names) {name : String}
    (other : name ∉ names) : overrides.lookup name = none := by
  rw [List.lookup_eq_none_iff]
  intro override override_mem
  rw [bne_iff_ne]
  rintro rfl
  exact other (known override override_mem)

theorem override_eq_assign (known : ∀ override ∈ overrides, override.1 ∈ names) :
    loaded.override overrides = loaded.assign (Settings.given overrides) := by
  rw [override, lookup_eq_none known (by decide)]
  rfl

theorem known_given (known : ∀ override ∈ overrides, override.1 ∈ names) :
    ∀ override ∈ Settings.given overrides, override.1 ∈ names :=
  fun override override_mem => known override (List.mem_of_mem_filter override_mem)

theorem override_eq_ok_iff (known : ∀ override ∈ overrides, override.1 ∈ names)
    (loaded_given : GivenBy fields loaded) :
    loaded.override overrides = .ok settings ↔ Layered fields overrides settings := by
  rw [override_eq_assign known, assign_eq_ok_iff, Layered, and_iff_right (known_given known)]
  simp only [loaded_given.2, Option.map_map, Function.comp_def]

theorem exists_override (known : ∀ override ∈ overrides, override.1 ∈ names) (loaded : Settings) :
    ∃ settings, loaded.override overrides = .ok settings := by
  rw [override_eq_assign known]
  cases assigned : loaded.assign (Settings.given overrides) with
  | ok settings => exact ⟨settings, rfl⟩
  | error error =>
      obtain ⟨override, override_mem, unknown⟩ := assign_eq_error_iff.mp ⟨error, assigned⟩
      exact absurd (known_given known override override_mem) unknown

/-! ## Outcomes -/

/-- What is checked in the end are the layered settings. -/
theorem complete_layered (known : ∀ override ∈ overrides, override.1 ∈ names)
    (loaded_given : GivenBy fields loaded) (layered : Layered fields overrides settings) :
    complete (.ok loaded) overrides =
      (settings.check.mapError .settings).map fun options => (settings, options) := by
  rw [complete]
  simp only [(override_eq_ok_iff known loaded_given).mpr layered]
  cases settings.check with
  | error error => rfl
  | ok options => rfl

theorem build_result (known : ∀ override ∈ overrides, override.1 ∈ names) :
    (build tree here path overrides).2 = complete (load tree here path).2 overrides := by
  rw [build, lookup_eq_none known (by decide)]
  rfl

theorem buildsTo_build (known : ∀ override ∈ overrides, override.1 ∈ names) :
    BuildsTo tree here path overrides ((build tree here path overrides).2.map Prod.fst) := by
  rw [build_result known]
  cases resolved : tree.resolve here path with
  | error error =>
      rw [load, resolved]
      exact .unresolved resolved
  | ok start =>
      cases load_eq : (load tree here path).2 with
      | error error => exact .stopped resolved ((load_result_iff resolved).mp load_eq)
      | ok loaded =>
          obtain ⟨fields, first, loaded_given⟩ :=
            nearest_ok_iff.mp ((load_result_iff resolved).mp load_eq)
          obtain ⟨settings, overridden⟩ := exists_override known loaded
          have layered := (override_eq_ok_iff known loaded_given).mp overridden
          rw [complete_layered known loaded_given layered]
          cases checked : settings.check with
          | error error =>
              exact .invalid resolved first layered (check_eq_error_iff.mp checked)
          | ok options =>
              exact .valid resolved first layered
                (isValid_iff.mpr ⟨options, check_eq_ok_iff.mp checked⟩)

/-- The options that settings are given back with are those of their check. -/
theorem check_of_build (known : ∀ override ∈ overrides, override.1 ∈ names) {options : Options}
    (built : (build tree here path overrides).2 = .ok (settings, options)) :
    settings.check = .ok options := by
  rw [build_result known] at built
  cases load_eq : (load tree here path).2 with
  | error error =>
      rw [load_eq] at built
      cases built
  | ok loaded =>
      obtain ⟨found, overridden⟩ := exists_override known loaded
      rw [load_eq, complete] at built
      simp only [overridden] at built
      cases checked : found.check with
      | error error => simp [checked] at built
      | ok found_options =>
          simp only [checked, Except.ok.injEq, Prod.mk.injEq] at built
          obtain ⟨rfl, rfl⟩ := built
          exact checked

theorem load_of_firstTable (resolved : tree.resolve here path = .ok start)
    (first : FirstTable tree (spots start) fields) :
    ∃ loaded, (load tree here path).2 = .ok loaded ∧ GivenBy fields loaded := by
  obtain ⟨loaded, loaded_given⟩ := exists_givenBy first.known
  exact ⟨loaded, (load_result_iff resolved).mpr (nearest_ok_iff.mpr ⟨fields, first, loaded_given⟩),
    loaded_given⟩

theorem build_of_buildsTo (known : ∀ override ∈ overrides, override.1 ∈ names)
    {outcome : Except BuildError Settings} (builds : BuildsTo tree here path overrides outcome) :
    (build tree here path overrides).2.map Prod.fst = outcome := by
  rw [build_result known]
  cases builds with
  | unresolved lost =>
      rw [load, lost]
      rfl
  | stopped resolved stops =>
      rw [(load_result_iff resolved).mpr stops]
      rfl
  | valid resolved first layered valid =>
      obtain ⟨loaded, load_eq, loaded_given⟩ := load_of_firstTable resolved first
      obtain ⟨options, settings_eq⟩ := isValid_iff.mp valid
      rw [load_eq, complete_layered known loaded_given layered, check_eq_ok_iff.mpr settings_eq]
      rfl
  | invalid resolved first layered fails =>
      obtain ⟨loaded, load_eq, loaded_given⟩ := load_of_firstTable resolved first
      rw [load_eq, complete_layered known loaded_given layered, check_eq_error_iff.mpr fails]
      rfl

/-! ## Limits -/

theorem IsValid.withLimit (valid : settings.IsValid) {limit : Int} (limit_pos : 0 < limit) :
    ({ settings with maxFileSize := .integer limit } : Settings).IsValid := by
  obtain ⟨options, rfl⟩ := isValid_iff.mp valid
  lift limit to Nat using Int.le_of_lt limit_pos
  exact isValid_iff.mpr
    ⟨{ options with limit := limit, limit_pos := Int.natCast_pos.mp limit_pos }, rfl⟩

/-- The command replaces the limit of the options and keeps everything else. -/
theorem settings_of_limited {world : Command.World} {options limited : Options}
    (limited_eq : Command.limited world options = .ok limited) :
    ∃ limit, Limit.resolve world.limitVariable options.limit = .ok limit ∧
      limited.settings = { options.settings with maxFileSize := .integer limit } := by
  rw [Command.limited] at limited_eq
  cases resolved : Limit.resolve world.limitVariable options.limit with
  | error error => simp [resolved] at limited_eq
  | ok limit =>
      have limit_pos := Limit.pos_of_resolve (Int.natCast_pos.mpr options.limit_pos) resolved
      lift limit to Nat using Int.le_of_lt limit_pos
      simp only [resolved, Int.toNat_natCast, Int.natCast_pos.mp limit_pos, dif_pos,
        Except.ok.injEq] at limited_eq
      subst limited_eq
      exact ⟨limit, rfl, rfl⟩

/-- Settings are put together from their layers and checked last. Those that are given back pass the
check again, and so do those with the limit of the environment variable, with which the command
parses a file. -/
theorem build_eq_iff_buildsTo (tree : Tree) (here : Path) (path : String)
    (overrides : List (String × Value)) (known : ∀ override ∈ overrides, override.1 ∈ names) :
    (∀ outcome, (build tree here path overrides).2.map Prod.fst = outcome ↔
      BuildsTo tree here path overrides outcome) ∧
    (∀ settings options, (build tree here path overrides).2 = .ok (settings, options) →
      settings.check = .ok options ∧ options.settings = settings ∧
      ∀ given default limit, 0 < default → Limit.resolve given default = .ok limit →
        ∃ limited, ({ settings with maxFileSize := .integer limit } : Settings).check =
          .ok limited) ∧
    ∀ world options limited, Command.limited world options = .ok limited →
      ∃ limit, Limit.resolve world.limitVariable options.limit = .ok limit ∧
        ({ options.settings with maxFileSize := .integer limit } : Settings).check = .ok limited ∧
        ∀ file, ReplyFile.parseChecked world.tree world.here file limited.settings =
          ReplyFile.parse world.tree world.here file limited := by
  refine ⟨fun outcome => ⟨?_, build_of_buildsTo known⟩, fun settings options built => ?_,
    fun world options limited limited_eq => ?_⟩
  · rintro rfl
    exact buildsTo_build known
  · have checked : settings.check = .ok options := check_of_build known built
    have settings_eq := check_eq_ok_iff.mp checked
    refine ⟨checked, settings_eq, fun given default limit default_pos resolved => ?_⟩
    have valid : settings.IsValid := isValid_iff.mpr ⟨options, settings_eq⟩
    obtain ⟨limited, limited_eq⟩ :=
      isValid_iff.mp (valid.withLimit (Limit.pos_of_resolve default_pos resolved))
    exact ⟨limited, check_eq_ok_iff.mpr limited_eq⟩
  · obtain ⟨limit, resolved, settings_eq⟩ := settings_of_limited limited_eq
    refine ⟨limit, resolved, check_eq_ok_iff.mpr settings_eq, fun file => ?_⟩
    rw [ReplyFile.parseChecked, check_settings]

/-- The bytes of a file with a table that gives one setting a value which it cannot have. -/
def booleanPaddingBytes : List UInt8 :=
  Utf8.asciiBytes "tool.reply-markdown.code_padding = true".toList

theorem firstTable_booleanPaddingBytes :
    FirstTable (shadowedTree booleanPaddingBytes) (spots []) [("code_padding", .boolean true)] := by
  have reads : Reads booleanPaddingBytes
      (.table [("tool", .table [("reply-markdown", .table [("code_padding", .boolean true)])])]) :=
    ⟨_, Utf8.decode_asciiBytes (by decide), by decide +kernel⟩
  exact @FirstTable.hit _ _ [] _ _ _ _ _ rfl (List.forall_mem_nil _)
    (fileBytes_shadowedTree booleanPaddingBytes).1 reads rfl (by simp [names])

/-- A truth value is no padding, but does no harm where an override covers it. An override may be
zero or false, and one that gives no value leaves the default in place. -/
theorem build_eq_iff_buildsTo_booleanPaddingBytes :
    let tree := shadowedTree booleanPaddingBytes
    let background : List (String × Value) :=
      [("code_background", .boolean false), ("output_format", .null)]
    (build tree [] "." (("code_padding", .integer 0) :: background)).2.map Prod.fst =
        .ok { codeBackground := .boolean false, codePadding := .integer 0 } ∧
      (build tree [] "." background).2.map Prod.fst = .error (.settings .paddingNegative) := by
  intro tree background
  have resolved := resolve_shadowedTree booleanPaddingBytes
  have loaded_given : GivenBy [("code_padding", .boolean true)]
      { codePadding := .boolean true } := assign_eq_ok_iff.mp rfl
  have known : ∀ override ∈ background, override.1 ∈ names := by simp [background, names]
  have covered_known : ∀ override ∈ ("code_padding", Value.integer 0) :: background,
      override.1 ∈ names := by simp [background, names]
  constructor
  · refine ((build_eq_iff_buildsTo tree [] "." _ covered_known).1 _).mpr
      (.valid resolved firstTable_booleanPaddingBytes
        ((override_eq_ok_iff covered_known loaded_given).mp rfl) ?_)
    exact isValid_iff.mpr ⟨⟨.styled, false, ['•'], 0, 10485760, by decide, by decide⟩, rfl⟩
  · refine ((build_eq_iff_buildsTo tree [] "." _ known).1 _).mpr
      (.invalid resolved firstTable_booleanPaddingBytes
        ((override_eq_ok_iff known loaded_given).mp rfl) ?_)
    exact check_eq_error_iff.mp rfl

/-- With too long an integer in front of the first table, neither valid layered settings nor an
error in settings come of it, although all files are texts. -/
theorem build_shadowedTree_integerLine :
    let bytes := Utf8.asciiBytes (integerLine 4301)
    let overrides : List (String × Value) := [("output_format", .ofString "plain")]
    let layered : Settings := { outputFormat := .ofString "plain", codePadding := .integer 2 }
    (∃ text, Utf8.decode bytes = .ok text) ∧ (∃ text, Utf8.decode paddingBytes = .ok text) ∧
    (∀ document, ¬Reads bytes document) ∧
    Reads paddingBytes (.table [("reply-markdown", .table [("code_padding", .integer 2)])]) ∧
    Layered [("code_padding", .integer 2)] overrides layered ∧ layered.IsValid ∧
    (build (shadowedTree bytes) [] "." overrides).2 = .error (.load (.numeral ⟨4301⟩)) := by
  intro bytes overrides layered
  have refused : Refused bytes (.numeral ⟨4301⟩) :=
    .numeral (decode_integerLine 4301) (read_integerLine (by decide))
  have known : ∀ override ∈ overrides, override.1 ∈ names := by simp [overrides, names]
  have loaded_given : GivenBy [("code_padding", .integer 2)] { codePadding := .integer 2 } :=
    assign_eq_ok_iff.mp rfl
  have valid : layered.IsValid :=
    isValid_iff.mpr ⟨⟨.plain, true, ['•'], 2, 10485760, by decide, by decide⟩, rfl⟩
  refine ⟨⟨_, decode_integerLine 4301⟩, ⟨_, Utf8.decode_asciiBytes (by decide)⟩,
    refused.not_reads, reads_paddingBytes, (override_eq_ok_iff known loaded_given).mp rfl, valid,
    ?_⟩
  rw [build_result known, load_shadowedTree refused]
  rfl

end Settings
end ChatReply
