import IssueSync.Json.Rules
import IssueSync.Proofs.Json.PrettyText

/-! # What the JSON text of a configuration shows

Two configurations have the same JSON text exactly when they are equal except
for the passwords of their mappings (`Configuration.pretty_toJson_eq_iff`). One
half says that a text shows no password, the other that it shows everything
else: each setting has an entry of its own, and a missing one is told from an
empty one.
-/

namespace IssueSync

open Json (optionalText)

/-! ### Without passwords -/

/-- The mapping without its password. -/
def Mapping.withoutPassword (mapping : Mapping) : Mapping :=
  { mapping with password := none }

/-- The configuration with the passwords of all its mappings left out. -/
def Configuration.withoutPasswords (configuration : Configuration) : Configuration :=
  { configuration with
    inboundMappings := configuration.inboundMappings.map Mapping.withoutPassword
    outboundMappings := configuration.outboundMappings.map Mapping.withoutPassword }

/-! ### Settings -/

theorem optionalText_inj {first second : Option String} :
    optionalText first = optionalText second ↔ first = second := by
  cases first <;> cases second <;> simp [optionalText]

theorem Action.name_inj {first second : Action} : first.name = second.name ↔ first = second := by
  cases first <;> cases second <;> decide

theorem Direction.word_inj {first second : Direction} :
    first.word = second.word ↔ first = second := by
  cases first <;> cases second <;> decide

theorem TextSet.toJson_inj {first second : TextSet} :
    first.toJson = second.toJson ↔ first = second := by
  cases first
  cases second
  simp [TextSet.toJson, List.map_inj_right fun _ _ => Json.text.inj]

theorem TextMap.toJson_inj {first second : TextMap String} :
    first.toJson = second.toJson ↔ first = second := by
  cases first
  cases second
  rw [TextMap.toJson, TextMap.toJson, Json.record.injEq, List.map_inj_right, TextMap.mk.injEq]
  rintro ⟨firstKey, firstValue⟩ ⟨secondKey, secondValue⟩ same
  simpa using same

/-- A missing value mapping is told from an empty one. -/
theorem optionalMap_inj {first second : Option (TextMap String)} :
    (first.map TextMap.toJson).getD .null = (second.map TextMap.toJson).getD .null ↔
      first = second := by
  cases first with
  | none => cases second <;> simp [TextMap.toJson]
  | some map =>
      cases second with
      | none => simp [TextMap.toJson]
      | some other => simp [TextMap.toJson_inj]

/-! ### Rules -/

theorem Correspondence.jsonEntries_inj {first second : Correspondence} :
    first.jsonEntries = second.jsonEntries ↔ first = second := by
  have actions := (Option.map_injective fun _ _ => Action.name_inj.mp).eq_iff
    (a := first.action) (b := second.action)
  cases first
  cases second
  simp_all [jsonEntries, optionalText_inj, optionalMap_inj]

/-- The shared entries come first, and there are as many for every rule. -/
theorem Correspondence.jsonEntries_append_inj {first second : Correspondence}
    {rest other : List (String × Json)} :
    first.jsonEntries ++ rest = second.jsonEntries ++ other ↔ first = second ∧ rest = other := by
  have size : first.jsonEntries.length = second.jsonEntries.length := rfl
  rw [List.append_eq_append_iff_of_size_eq_left size, jsonEntries_inj]

theorem Field.toJson_inj {first second : Field} :
    first.toJson = second.toJson ↔ first = second := by
  cases first
  cases second
  simp [toJson, Correspondence.jsonEntries_append_inj, optionalText_inj]

theorem FieldGroup.toJson_inj {first second : FieldGroup} :
    first.toJson = second.toJson ↔ first = second := by
  cases first
  cases second
  simp [toJson, optionalText_inj, List.map_inj_right fun _ _ => Field.toJson_inj.mp]

theorem Template.toJson_inj {first second : Template} :
    first.toJson = second.toJson ↔ first = second := by
  cases first
  cases second
  simp [toJson, Correspondence.jsonEntries_append_inj, optionalText_inj]

/-! ### Mappings and configurations -/

/-- Mappings are told apart by everything but their passwords. -/
theorem Mapping.toJson_inj {first second : Mapping} :
    first.toJson = second.toJson ↔ first.withoutPassword = second.withoutPassword := by
  cases first
  cases second
  simp [toJson, withoutPassword, Direction.word_inj, TextMap.toJson_inj, TextSet.toJson_inj,
    optionalText_inj, List.map_inj_right fun _ _ => Field.toJson_inj.mp,
    List.map_inj_right fun _ _ => FieldGroup.toJson_inj.mp,
    List.map_inj_right fun _ _ => Template.toJson_inj.mp]

theorem map_toJson_inj {first second : List Mapping} :
    first.map Mapping.toJson = second.map Mapping.toJson ↔
      first.map Mapping.withoutPassword = second.map Mapping.withoutPassword := by
  induction first generalizing second with
  | nil => cases second <;> simp
  | cons mapping rest ih => cases second <;> simp [Mapping.toJson_inj, ih]

/-- Configurations are told apart by everything but passwords. -/
theorem Configuration.toJson_inj {first second : Configuration} :
    first.toJson = second.toJson ↔ first.withoutPasswords = second.withoutPasswords := by
  cases first
  cases second
  simp [toJson, withoutPasswords, TextSet.toJson_inj, optionalText_inj, map_toJson_inj]

/-- **Nothing but passwords is left out.** The JSON texts of two configurations
are the same if and only if the configurations are equal except for the
passwords of their mappings. -/
theorem Configuration.pretty_toJson_eq_iff (first second : Configuration) :
    first.toJson.pretty = second.toJson.pretty ↔
      first.withoutPasswords = second.withoutPasswords := by
  constructor
  · intro same
    exact toJson_inj.mp (Json.pretty_inj same)
  · intro equal
    exact congrArg Json.pretty (toJson_inj.mpr equal)

end IssueSync
