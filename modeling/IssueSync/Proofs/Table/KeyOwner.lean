import IssueSync.Table.ProjectTable

/-! # Who owns a project key

The table is filled configuration by configuration, and a key changes hands
whenever a further configuration claims it (`ProjectTable.entries_append`). So
a key belongs to the last configuration that claims it
(`ProjectTable.get?_eq_some_iff_isOwner`), and the keys are those that some
configuration claims.
-/

namespace IssueSync

namespace ProjectTable

variable {configurations before after : List Configuration} {key : String}

/-- The last configuration of the list that claims the key, with its position. -/
def IsOwner (configurations : List Configuration) (key : String) (placed : Placed) : Prop :=
  ∃ before after, configurations = before ++ placed.configuration :: after ∧
    placed.position = before.length ∧ key ∈ placed.configuration.projects ∧
    ∀ later ∈ after, key ∉ later.projects

/-- The configurations with their positions, counted from `first`. -/
def placedFrom (first : Nat) (configurations : List Configuration) : List Placed :=
  (configurations.zipIdx first).map fun (configuration, position) => ⟨position, configuration⟩

/-- Positions are given to the configurations in their order. -/
theorem map_configuration_placedFrom (first : Nat) (configurations : List Configuration) :
    (placedFrom first configurations).map Placed.configuration = configurations := by
  rw [placedFrom, List.map_map]
  exact List.zipIdx_map_fst first configurations

/-- The entries of a longer list are those of its front with the claims of the
other configurations on top. -/
theorem entries_append (before after : List Configuration) :
    (ofConfigurations (before ++ after)).entries =
      (placedFrom before.length after).foldl claim (ofConfigurations before).entries := by
  simp only [ofConfigurations, placedFrom, List.zipIdx_append, List.foldl_append, List.foldl_map,
    Nat.zero_add]

/-- Configurations without a project leave the one that has it. -/
theorem get?_foldl_claim_of_unclaimed (first : Nat) (entries : TextMap Placed)
    (unclaimed : ∀ later ∈ after, key ∉ later.projects) :
    ((placedFrom first after).foldl claim entries).get? key = entries.get? key := by
  have none : (placedFrom first after).reverse.find? (key ∈ ·.configuration.projects) = none := by
    rw [List.find?_eq_none]
    intro placed member claims
    have listed : placed.configuration ∈ after := by
      rw [← map_configuration_placedFrom first after]
      exact List.mem_map_of_mem (List.mem_reverse.mp member)
    exact unclaimed _ listed (of_decide_eq_true claims)
  rw [get?_foldl_claim, none, Option.none_or]

/-- The owner of a project is in effect for it. -/
theorem IsOwner.entries_get? {placed : Placed} (owner : IsOwner configurations key placed) :
    (ofConfigurations configurations).entries.get? key = some placed := by
  obtain ⟨before, after, rfl, position, claims, unclaimed⟩ := owner
  have claimed : placedFrom before.length [placed.configuration] = [placed] := by
    rw [← position]
    rfl
  rw [← List.singleton_append, ← List.append_assoc, entries_append,
    get?_foldl_claim_of_unclaimed _ _ unclaimed, entries_append, claimed, List.foldl_cons,
    List.foldl_nil, get?_claim, if_pos claims]

/-- Nothing is in effect for a project that no configuration lists. -/
theorem entries_get?_eq_none
    (unclaimed : ∀ configuration ∈ configurations, key ∉ configuration.projects) :
    (ofConfigurations configurations).entries.get? key = none := by
  have whole := entries_append [] configurations
  rw [List.nil_append] at whole
  rw [whole, get?_foldl_claim_of_unclaimed _ _ unclaimed]
  rfl

/-- A key that is claimed at all has an owner. -/
theorem exists_isOwner {configuration : Configuration} (listed : configuration ∈ configurations)
    (claims : key ∈ configuration.projects) : ∃ placed, IsOwner configurations key placed := by
  have found : ∃ last, configurations.reverse.find? (key ∈ ·.projects) = some last := by
    rw [← Option.isSome_iff_exists, List.find?_isSome]
    exact ⟨configuration, List.mem_reverse.mpr listed, decide_eq_true claims⟩
  obtain ⟨last, found⟩ := found
  obtain ⟨holds, after, before, split, others⟩ := List.find?_eq_some_iff_append.mp found
  refine ⟨⟨before.reverse.length, last⟩, before.reverse, after.reverse, ?_, rfl,
    of_decide_eq_true holds, ?_⟩
  · rw [← List.reverse_reverse configurations, split]
    simp
  · intro later member
    simpa using others later (List.mem_reverse.mp member)

/-- In effect for a project is its owner and nothing else. -/
theorem entries_get?_eq_some_iff {placed : Placed} :
    (ofConfigurations configurations).entries.get? key = some placed ↔
      IsOwner configurations key placed := by
  constructor
  · intro found
    by_cases claimed : ∃ configuration ∈ configurations, key ∈ configuration.projects
    · obtain ⟨configuration, listed, claims⟩ := claimed
      obtain ⟨owner, isOwner⟩ := exists_isOwner listed claims
      have same := isOwner.entries_get?
      rw [found] at same
      exact Option.some.inj same ▸ isOwner
    · have none := entries_get?_eq_none fun configuration listed claims =>
        claimed ⟨configuration, listed, claims⟩
      rw [found] at none
      cases none
  · exact IsOwner.entries_get?

/-- No configuration is found for a project exactly when none lists it. -/
theorem get?_eq_none_iff : (ofConfigurations configurations).get? key = none ↔
    ∀ configuration ∈ configurations, key ∉ configuration.projects := by
  constructor
  · intro none configuration listed claims
    obtain ⟨owner, isOwner⟩ := exists_isOwner listed claims
    rw [get?, isOwner.entries_get?] at none
    cases none
  · intro unclaimed
    rw [get?, entries_get?_eq_none unclaimed]
    rfl

/-- The projects of a table are those that its configurations list. -/
theorem mem_keys_iff : key ∈ (ofConfigurations configurations).keys ↔
    ∃ configuration ∈ configurations, key ∈ configuration.projects := by
  rw [keys, TextMap.mem_keys_iff]
  constructor
  · rintro ⟨placed, found⟩
    obtain ⟨before, after, rfl, -, claims, -⟩ := entries_get?_eq_some_iff.mp found
    exact ⟨placed.configuration, List.mem_append_right _ List.mem_cons_self, claims⟩
  · rintro ⟨configuration, listed, claims⟩
    obtain ⟨owner, isOwner⟩ := exists_isOwner listed claims
    exact ⟨owner, isOwner.entries_get?⟩

theorem keys_eq_nil_iff {table : ProjectTable} : table.keys = [] ↔ table.isEmpty = true := by
  rw [keys, TextMap.keys, List.map_eq_nil_iff, isEmpty, TextMap.isEmpty, List.isEmpty_iff]

/-- **The last claim counts.** A key leads to the last configuration that claims
it, at its position in the document, and to none when there is no claim. The
keys are those that are claimed, in increasing order and counted by the size,
and the configurations are those of the list, also the ones that own no key. -/
theorem get?_eq_some_iff_isOwner (configurations : List Configuration) :
    (∀ key configuration, (ofConfigurations configurations).get? key = some configuration ↔
        ∃ before after, configurations = before ++ configuration :: after ∧
          key ∈ configuration.projects ∧ ∀ later ∈ after, key ∉ later.projects) ∧
      (∀ key position, (ofConfigurations configurations).position? key = some position ↔
        ∃ configuration, IsOwner configurations key ⟨position, configuration⟩) ∧
      (∀ key, (ofConfigurations configurations).get? key = none ↔
        ∀ configuration ∈ configurations, key ∉ configuration.projects) ∧
      (ofConfigurations configurations).keys.Pairwise (· < ·) ∧
      (∀ key, key ∈ (ofConfigurations configurations).keys ↔
        ∃ configuration ∈ configurations, key ∈ configuration.projects) ∧
      (ofConfigurations configurations).size = (ofConfigurations configurations).keys.length ∧
      ((ofConfigurations configurations).isEmpty = true ↔
        ∀ key, ∀ configuration ∈ configurations, key ∉ configuration.projects) ∧
      (ofConfigurations configurations).configurations = configurations := by
  refine ⟨?_, ?_, fun key => get?_eq_none_iff, (ofConfigurations configurations).entries.increasing,
    fun key => mem_keys_iff, ?_, ?_, rfl⟩
  · intro key configuration
    rw [get?, Option.map_eq_some_iff]
    constructor
    · rintro ⟨placed, found, rfl⟩
      obtain ⟨before, after, split, -, claims, unclaimed⟩ := entries_get?_eq_some_iff.mp found
      exact ⟨before, after, split, claims, unclaimed⟩
    · rintro ⟨before, after, split, claims, unclaimed⟩
      exact ⟨⟨before.length, configuration⟩, entries_get?_eq_some_iff.mpr
        ⟨before, after, split, rfl, claims, unclaimed⟩, rfl⟩
  · intro key position
    rw [position?, Option.map_eq_some_iff]
    constructor
    · rintro ⟨placed, found, rfl⟩
      exact ⟨placed.configuration, entries_get?_eq_some_iff.mp found⟩
    · rintro ⟨configuration, owner⟩
      exact ⟨_, owner.entries_get?, rfl⟩
  · rw [size, TextMap.size, keys, TextMap.keys, List.length_map]
  · rw [← keys_eq_nil_iff, List.eq_nil_iff_forall_not_mem]
    simp only [mem_keys_iff, not_exists, not_and]

/-- The second of two claims on a key counts, and a configuration without keys
is kept. -/
example :
    let first : Configuration := { projects := TextSet.ofList ["B", "A"] }
    let second : Configuration := { projects := TextSet.ofList ["B"], errorLogName := "log" }
    let table := ofConfigurations [first, second, {}]
    table.keys = ["A", "B"] ∧ table.position? "B" = some 1 ∧ table.get? "A" = some first ∧
      table.configurations.length = 3 := by
  decide

end ProjectTable

end IssueSync
