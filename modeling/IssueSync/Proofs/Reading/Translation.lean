import Mathlib.Data.List.Forall2
import IssueSync.Proofs.Reading.MappingPlaces

/-! # What the values of a rule become

A field or template translates values by the entries of all its `maps` and by
its first `default` (`Translates`). Every rule that is read from a document
translates by its own element (`translate_eq_iff_of_mappings`).
-/

namespace IssueSync

open Xml (Document Place)

namespace Xml.Place

/-- The entries that tell what values become, from all `maps` of a rule. -/
def translations (rule : Place) : List Place :=
  rule.grandchildren "maps" "map"

/-- The value that an entry translates. -/
def translated (entry : Place) : String :=
  (entry.node.attribute? "key").getD ""

/-- What an entry translates its value to. -/
def translation (entry : Place) : String :=
  (entry.node.attribute? "value").getD ""

/-- The translations that are listed at a place. The last one of a value counts. -/
def translationTable (rule : Place) : TextMap String :=
  TextMap.ofList (rule.translations.map fun entry => (entry.translated, entry.translation))

variable {rule : Place} {value text : String}

/-- The last of the entries for a value counts. -/
theorem get?_translationTable_eq_some_iff :
    rule.translationTable.get? value = some text ↔
      ∃ before entry after, rule.translations = before ++ entry :: after ∧
        entry.translated = value ∧ entry.translation = text ∧
        ∀ later ∈ after, later.translated ≠ value := by
  rw [translationTable, ← List.filterMap_eq_map, TextMap.get?_ofList_filterMap_eq_some_iff]
  simp [and_assoc]

/-- A value has no translation when no entry lists it. -/
theorem get?_translationTable_eq_none_iff :
    rule.translationTable.get? value = none ↔
      ∀ entry ∈ rule.translations, entry.translated ≠ value := by
  rw [translationTable, ← List.filterMap_eq_map, TextMap.get?_ofList_filterMap_eq_none_iff]
  simp

end Xml.Place

/-- What a value becomes by a rule: what the last of the entries with this value
says, without one what the first `default` says, and without that the value
itself. -/
inductive Translates (rule : Place) (value : String) : String → Prop
  | listed {before after : List Place} {entry : Place}
      (entries : rule.translations = before ++ entry :: after) (key : entry.translated = value)
      (last : ∀ later ∈ after, later.translated ≠ value) :
      Translates rule value entry.translation
  | default {first : Place} {text : String}
      (unlisted : ∀ entry ∈ rule.translations, entry.translated ≠ value)
      (found : rule.child? "default" = some first)
      (given : first.node.attribute? "value" = some text) : Translates rule value text
  | unchanged (unlisted : ∀ entry ∈ rule.translations, entry.translated ≠ value)
      (none : ∀ first, rule.child? "default" = some first →
        first.node.attribute? "value" = none) : Translates rule value value

section Rule

variable {rule : Place} {value result : String}

/-- The default value comes after the value mapping, and the value itself comes last. -/
theorem Correspondence.translate_eq_getD (rule : Correspondence) (value : String) :
    rule.translate value = (rule.valueMapping.bind fun mapping => mapping.get? value).getD
      (rule.defaultValue.getD value) := by
  unfold translate
  split
  · next mapped found => rw [found, Option.getD_some]
  · next none => rw [none, Option.getD_none]

/-- Whether there are any `maps` does not matter for a single value. -/
theorem bind_readValueMapping (rule : Place) (value : String) :
    ((readValueMapping rule).bind fun mapping => mapping.get? value) =
      rule.translationTable.get? value := by
  unfold readValueMapping
  split
  · next none =>
      have empty : rule.translations = [] := by
        rw [Place.translations, Place.grandchildren, List.isEmpty_iff.mp none]
        rfl
      rw [Place.translationTable, empty]
      rfl
  · rfl

/-- How a rule that was read translates, by what stands at its place. -/
theorem translate_readCorrespondence (rule : Place) (value : String) :
    (readCorrespondence rule).translate value =
      (rule.translationTable.get? value).getD
        (((rule.child? "default").bind (·.node.attribute? "value")).getD value) := by
  rw [Correspondence.translate_eq_getD, ← bind_readValueMapping]
  rfl

/-- Without an entry for the value the default decides. -/
theorem translate_of_unlisted (unlisted : ∀ entry ∈ rule.translations, entry.translated ≠ value) :
    (readCorrespondence rule).translate value =
      ((rule.child? "default").bind (·.node.attribute? "value")).getD value := by
  rw [translate_readCorrespondence, Place.get?_translationTable_eq_none_iff.mpr unlisted,
    Option.getD_none]

/-- A value becomes what the document says of it. -/
theorem Translates.translate_eq (translates : Translates rule value result) :
    (readCorrespondence rule).translate value = result := by
  cases translates with
  | @listed before after entry entries key last =>
      have mapped : rule.translationTable.get? value = some entry.translation :=
        Place.get?_translationTable_eq_some_iff.mpr
          ⟨before, entry, after, entries, key, rfl, last⟩
      rw [translate_readCorrespondence, mapped, Option.getD_some]
  | default unlisted found given =>
      rw [translate_of_unlisted unlisted, found, Option.bind_some, given, Option.getD_some]
  | unchanged unlisted none =>
      rw [translate_of_unlisted unlisted, Option.bind_eq_none_iff.mpr none, Option.getD_none]

/-- Every value becomes something by a rule. -/
theorem exists_translates (rule : Place) (value : String) :
    ∃ result, Translates rule value result := by
  cases found : rule.translationTable.get? value with
  | some text =>
      obtain ⟨before, entry, after, entries, key, -, last⟩ :=
        Place.get?_translationTable_eq_some_iff.mp found
      exact ⟨entry.translation, .listed entries key last⟩
  | none =>
      have unlisted := Place.get?_translationTable_eq_none_iff.mp found
      cases given : (rule.child? "default").bind (·.node.attribute? "value") with
      | none => exact ⟨value, .unchanged unlisted (Option.bind_eq_none_iff.mp given)⟩
      | some text =>
          obtain ⟨first, found, text⟩ := Option.bind_eq_some_iff.mp given
          exact ⟨_, .default unlisted found text⟩

/-- A value becomes what the document says of it and nothing else. -/
theorem translate_eq_iff :
    (readCorrespondence rule).translate value = result ↔ Translates rule value result := by
  constructor
  · rintro rfl
    obtain ⟨result, translates⟩ := exists_translates rule value
    rw [translates.translate_eq]
    exact translates
  · exact Translates.translate_eq

end Rule

/-- The rule translates every value by the element. -/
def TranslatesBy (element : Place) (rule : Correspondence) : Prop :=
  ∀ value result, rule.translate value = result ↔ Translates element value result

/-- Each rule translates as the element does that it was read from. -/
theorem forall₂_translatesBy (elements : List Place) {Rule : Type} (read : Place → Rule)
    (common : Rule → Correspondence)
    (same : ∀ place, common (read place) = readCorrespondence place) :
    List.Forall₂ (fun element rule => TranslatesBy element (common rule)) elements
      (elements.map read) := by
  rw [List.forall₂_map_right_iff, List.forall₂_same]
  intro element _ value result
  rw [same]
  exact translate_eq_iff

/-- **Rules translate by their elements.** The mappings that are read from a
document stand at its mapping elements, and of each the fields, on their own and
in groups, and the templates translate every value by the entries and the default
of their own elements, in document order. -/
theorem translate_eq_iff_of_mappings (document : Document) (direction : Direction) :
    List.Forall₂ (fun element mapping =>
        List.Forall₂ (fun element rule => TranslatesBy element rule.toCorrespondence)
            element.fields (Mapping.allFields mapping) ∧
          List.Forall₂ (fun element rule => TranslatesBy element rule.toCorrespondence)
            element.templateFields mapping.templates)
      (document.mappings direction)
      ((readConfigurations document).flatMap (·.mappings direction)) := by
  rw [readConfigurations_mappings, List.forall₂_map_right_iff, List.forall₂_same]
  intro element _
  rw [allFields_readMapping]
  constructor
  · exact forall₂_translatesBy _ readField Field.toCorrespondence fun _ => rfl
  · exact forall₂_translatesBy _ readTemplate Template.toCorrespondence fun _ => rfl

/-- An entry without a value replaces an earlier one, an entry without a key
translates the empty text, and an empty default is a default. -/
example :
    let entry (attributes : List (String × String)) := Xml.Node.element ⟨none, "map"⟩ []
      (attributes.map fun (name, value) => ⟨⟨none, name⟩, value⟩) []
    let maps (entries : List Xml.Node) := Xml.Node.element ⟨none, "maps"⟩ [] [] entries
    let default := Xml.Node.element ⟨none, "default"⟩ [] [⟨⟨none, "value"⟩, ""⟩] []
    let field := readField ⟨[], .element ⟨none, "field"⟩ [] []
      [maps [entry [("key", "a"), ("value", "1")]], default,
        maps [entry [("key", "a")], entry [("value", "2")]]]⟩
    field.translate "a" = "" ∧ field.translate "" = "2" ∧ field.translate "b" = "" := by
  decide +kernel

end IssueSync
