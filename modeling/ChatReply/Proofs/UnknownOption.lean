import ChatReply.Command.Invocation

/-!
# Unknown options

An argument is refused as an unknown option only if no option has its name. What is suggested in its
place are options, each of which has most of its characters in common with it.
-/

namespace ChatReply
namespace Command

/-! ## Common blocks -/

theorem le_sharedLength {count : Nat} {first second : Text} (within : count ≤ first.length)
    (other_within : count ≤ second.length) (same : first.take count = second.take count) :
    count ≤ sharedLength first second := by
  fun_induction sharedLength first second generalizing count with
  | case1 first c second ih =>
      cases count with
      | zero => exact Nat.zero_le _
      | succ count =>
          have shorter : first.take count = second.take count := by simpa using same
          have below := ih (by simpa using within) (by simpa using other_within) shorter
          omega
  | case2 c first d second different =>
      cases count with
      | zero => exact Nat.zero_le _
      | succ count =>
          have heads : c = d := (List.cons.inj (by simpa using same)).1
          exact absurd heads different
  | case3 first second ended =>
      cases first with
      | nil => simpa using within
      | cons c first =>
          cases second with
          | nil => simpa using other_within
          | cons d second => exact absurd rfl (ended c first d second rfl)

namespace Overlap

variable {first second : Text}

theorem length_le_orLonger (found other : Overlap first second) :
    found.length ≤ (found.orLonger other).length ∧
      other.length ≤ (found.orLonger other).length := by
  unfold orLonger
  split <;> omega

theorem length_le_foldl_orLonger (found : Overlap first second)
    (others : List (Overlap first second)) :
    ∀ block ∈ found :: others, block.length ≤ (others.foldl orLonger found).length := by
  induction others generalizing found with
  | nil => simp
  | cons other others ih =>
      have kept := ih (found.orLonger other)
      have larger := length_le_orLonger found other
      have chosen := kept _ List.mem_cons_self
      simp only [List.forall_mem_cons] at kept ⊢
      exact ⟨Nat.le_trans larger.1 chosen, Nat.le_trans larger.2 chosen, kept.2⟩

/-- No block that stands in both texts is longer. -/
theorem length_le_longest (block : Overlap first second) :
    block.length ≤ (longest first second).length := by
  obtain ⟨place, otherPlace, length, within, other_within, same⟩ := block
  cases length with
  | zero => exact Nat.zero_le _
  | succ length =>
      -- A block is no longer than the one that is tried at its places.
      let tried : Overlap first second := startingAt ⟨place, by omega⟩ ⟨otherPlace, by omega⟩
      have below : length + 1 ≤ tried.length := by
        refine le_sharedLength ?_ ?_ same
        · simp only [List.length_drop]
          omega
        · simp only [List.length_drop]
          omega
      refine Nat.le_trans below (length_le_foldl_orLonger (empty first second) _ tried ?_)
      refine List.mem_cons_of_mem _ (List.mem_flatMap.mpr ⟨⟨place, by omega⟩, ?_⟩)
      exact ⟨List.mem_finRange _, List.mem_map.mpr ⟨_, List.mem_finRange _, rfl⟩⟩

end Overlap

/-- The characters that are counted stand in both texts, in one order. -/
theorem exists_common_sublist (first second : Text) :
    ∃ common : Text, common.Sublist first ∧ common.Sublist second ∧
      common.length = commonCount first second := by
  fun_induction commonCount first second with
  | case1 first second block no_block => exact ⟨[], by simp⟩
  | case2 first second block is_block before_ih behind_ih =>
      obtain ⟨before, before_first, before_second, before_length⟩ := before_ih
      obtain ⟨behind, behind_first, behind_second, behind_length⟩ := behind_ih
      let middle := (first.drop block.place).take block.length
      have middle_length : middle.length = block.length := by
        have := block.within
        simp only [middle, List.length_take, List.length_drop]
        omega
      have split (text : Text) (place : Nat) : text = text.take place ++
          ((text.drop place).take block.length ++ text.drop (place + block.length)) := by
        rw [← List.drop_drop, List.take_append_drop, List.take_append_drop]
      refine ⟨before ++ (middle ++ behind), ?_, ?_, ?_⟩
      · rw [split first block.place]
        exact before_first.append ((List.Sublist.refl _).append behind_first)
      · rw [split second block.otherPlace, ← block.same]
        exact before_second.append ((List.Sublist.refl _).append behind_second)
      · simp only [List.length_append, before_length, middle_length, behind_length]
        omega

/-! ## Suggestions -/

theorem mem_closest {known : List String} {given name : String}
    (suggested : name ∈ closest known given) :
    name ∈ known ∧ (KnownName.of given name).isClose = true := by
  obtain ⟨found, found_mem, rfl⟩ := List.mem_map.mp suggested
  have ranked := List.mem_mergeSort.mp (List.mem_of_mem_take found_mem)
  obtain ⟨known_mem, close⟩ := List.mem_filter.mp ranked
  obtain ⟨name, name_mem, rfl⟩ := List.mem_map.mp known_mem
  exact ⟨name_mem, close⟩

theorem length_closest_le (known : List String) (given : String) :
    (closest known given).length ≤ suggestionLimit := by
  simp only [closest, List.length_map, List.length_take]
  exact Nat.min_le_left _ _

namespace Invocation

/-- The listed options are those that are known with or without a value. -/
theorem mem_optionNames_iff (invocation : Invocation) (name value : String) :
    name ∈ optionNames ↔
      (invocation.flag? name).isSome = true ∨ (invocation.valued? name value).isSome = true := by
  unfold flag? valued? optionNames
  constructor
  · intro listed
    simp only [List.mem_cons, List.not_mem_nil, or_false] at listed
    rcases listed with rfl | rfl | rfl | rfl | rfl | rfl | rfl | rfl | rfl <;> simp
  · intro asked
    split at asked <;> split at asked <;> simp_all

theorem not_mem_optionNames {invocation : Invocation} {name value : String}
    (no_flag : invocation.flag? name = none) (no_value : invocation.valued? name value = none) :
    name ∉ optionNames := by
  rw [mem_optionNames_iff invocation name value, no_flag, no_value]
  simp

/-- What a refusal of an unknown option promises. -/
structure IsUnknown (option : String) (close : List String) : Prop where
  /-- There is no such option. -/
  not_known : option ∉ optionNames
  /-- Options are suggested, and only close ones. -/
  suggested : ∀ name ∈ close, name ∈ optionNames ∧ (KnownName.of option name).isClose = true
  few : close.length ≤ suggestionLimit

variable {invocation : Invocation} {option : String} {close : List String}

theorem isUnknown_of_unknown {argument name : Text} (not_known : String.ofList name ∉ optionNames)
    (refused : unknown argument name = .unknownOption option close) : IsUnknown option close := by
  unfold unknown at refused
  split at refused
  · obtain ⟨rfl, rfl⟩ := UsageError.unknownOption.inj refused
    exact ⟨not_known, fun _ => mem_closest, length_closest_le _ _⟩
  · obtain ⟨rfl, rfl⟩ := UsageError.unknownOption.inj refused
    -- A minus sign and a letter are too short for an option.
    have long : ∀ known ∈ optionNames, 2 < known.toList.length := by decide
    refine ⟨fun listed => ?_, List.forall_mem_nil _, Nat.zero_le _⟩
    have longer := long _ listed
    simp only [String.toList_ofList, List.length_take] at longer
    omega

theorem isUnknown_of_joined {argument : Text}
    (refused : invocation.joined argument = .error (.unknownOption option close)) :
    IsUnknown option close := by
  revert refused
  fun_cases joined argument invocation with
  | case1 => nofun
  | case2 => nofun
  | case3 name value no_value no_flag =>
      intro refused
      exact isUnknown_of_unknown (not_mem_optionNames no_flag no_value) (Except.error.inj refused)

theorem isUnknown_of_addArguments {arguments : List String}
    (refused : invocation.addArguments arguments = .error (.unknownOption option close)) :
    IsUnknown option close := by
  fun_induction addArguments invocation arguments with
  | case1 => cases refused
  | case2 => cases refused
  | case3 _ _ _ _ _ ih => exact ih refused
  | case4 _ _ _ _ _ _ _ joined_eq =>
      rw [Except.error.inj refused] at joined_eq
      exact isUnknown_of_joined joined_eq
  | case5 _ _ _ _ _ _ _ _ ih => exact ih refused
  | case6 _ _ _ _ _ _ _ _ ih => exact ih refused
  | case7 => cases refused
  | case8 invocation argument _ _ _ refusal no_flag no_value =>
      refine isUnknown_of_unknown ?_ (Except.error.inj refused)
      rw [String.ofList_toList]
      exact not_mem_optionNames no_flag (Option.not_isSome_iff_eq_none.mp no_value)
  | case9 _ _ _ _ _ _ _ _ _ _ ih => exact ih refused
  | case10 invocation argument _ _ _ refusal no_flag value rest no_value =>
      refine isUnknown_of_unknown ?_ (Except.error.inj refused)
      rw [String.ofList_toList]
      exact not_mem_optionNames no_flag no_value

/-- Options are refused as unknown only if they are not known, and known ones are suggested. -/
theorem isUnknown_of_ofArguments {arguments : List String}
    (refused : ofArguments arguments = .error (.unknownOption option close)) :
    IsUnknown option close :=
  isUnknown_of_addArguments refused

end Invocation
end Command
end ChatReply
