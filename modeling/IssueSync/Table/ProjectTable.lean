import IssueSync.Rule.Configuration

/-! # The project table

The table leads from project keys to configurations. A key that several
configurations claim belongs to the last of them, and a configuration without
any key stays in the list of configurations.
-/

namespace IssueSync

/-- A configuration with its position in the document. -/
structure Placed where
  position : Nat
  configuration : Configuration
  deriving DecidableEq, Inhabited

/-- The configurations of a document, and the one each project key leads to. -/
structure ProjectTable where
  entries : TextMap Placed := ∅
  /-- The configurations in document order. -/
  configurations : List Configuration := []
  deriving DecidableEq, Inhabited

namespace ProjectTable

/-- The entries after a configuration has claimed its projects. -/
def claim (entries : TextMap Placed) (placed : Placed) : TextMap Placed :=
  placed.configuration.projects.members.foldl (fun claimed key => claimed.insert key placed) entries

/-- The table of a list of configurations. -/
def ofConfigurations (configurations : List Configuration) : ProjectTable where
  entries :=
    configurations.zipIdx.foldl (fun entries (configuration, position) =>
      claim entries ⟨position, configuration⟩) ∅
  configurations := configurations

/-- The table with no configurations. -/
def empty : ProjectTable := {}

/-- The table with no configurations, written as an empty collection. -/
instance : EmptyCollection ProjectTable := ⟨empty⟩

/-- The configuration that is in effect for a project, if any. -/
def get? (table : ProjectTable) (key : String) : Option Configuration :=
  (table.entries.get? key).map Placed.configuration

/-- The position of the configuration of a project. -/
def position? (table : ProjectTable) (key : String) : Option Nat :=
  (table.entries.get? key).map Placed.position

/-- The project keys in increasing order. -/
def keys (table : ProjectTable) : List String :=
  table.entries.keys

/-- How many projects have a configuration. -/
def size (table : ProjectTable) : Nat :=
  table.entries.size

/-- Whether no project has a configuration. -/
def isEmpty (table : ProjectTable) : Bool :=
  table.entries.isEmpty

/-! ### Who gets a key -/

/-- A configuration takes over all its projects and no others. -/
theorem get?_claim (entries : TextMap Placed) (placed : Placed) (key : String) :
    (claim entries placed).get? key =
      if key ∈ placed.configuration.projects then some placed else entries.get? key := by
  have claimed : ∀ (members : List String) (entries : TextMap Placed),
      (members.foldl (fun claimed member => claimed.insert member placed) entries).get? key =
        if key ∈ members then some placed else entries.get? key := by
    intro members
    induction members with
    | nil => intro entries; simp
    | cons member rest ih =>
        intro entries
        rw [List.foldl_cons, ih, TextMap.get?_insert]
        by_cases later : key ∈ rest
        · simp [later]
        · by_cases same : key = member
          · simp [same]
          · simp [later, same]
  exact claimed placed.configuration.projects.members entries

/-- Of several configurations that claim a key the last one gets it. -/
theorem get?_foldl_claim (placed : List Placed) (entries : TextMap Placed) (key : String) :
    (placed.foldl claim entries).get? key =
      (placed.reverse.find? (key ∈ ·.configuration.projects)).or (entries.get? key) := by
  induction placed generalizing entries with
  | nil => rfl
  | cons first rest ih =>
      rw [List.foldl_cons, ih, get?_claim, List.reverse_cons, List.find?_append, Option.or_assoc]
      congr 1
      by_cases claims : key ∈ first.configuration.projects
      · simp [claims]
      · simp [claims]

/-- The last configuration that lists a project is in effect for it. -/
theorem get?_ofConfigurations (configurations : List Configuration) (key : String) :
    (ofConfigurations configurations).get? key =
      configurations.reverse.find? (key ∈ ·.projects) := by
  let place : Configuration × Nat → Placed := fun (configuration, position) =>
    ⟨position, configuration⟩
  have entries : (ofConfigurations configurations).entries =
      (configurations.zipIdx.map place).foldl claim ∅ := by
    rw [List.foldl_map]
    rfl
  have back : (configurations.zipIdx.map place).reverse.map Placed.configuration =
      configurations.reverse := by
    rw [List.map_reverse, List.map_map]
    exact congrArg List.reverse (List.zipIdx_map_fst 0 configurations)
  rw [get?, entries, get?_foldl_claim, TextMap.get?_empty, Option.or_none, ← back, List.find?_map]
  rfl

end ProjectTable

end IssueSync
