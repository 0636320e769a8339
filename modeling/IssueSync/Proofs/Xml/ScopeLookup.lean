import IssueSync.Proofs.Xml.ReadEscaped

/-! # Looking up labels in a scope

The namespace of a label inside an element is that of the element's own
declaration, and without one that of its parent (`Scope.uriOf?_extend`). In a
scope where every label is bound once, the label that is written for a namespace
stands for it (`Scope.uriOf?_labelOf?`). The declarations that are written for an
element are only those that its parent does not have, and still every label
means what it meant before, up to the white space in namespaces
(`Scope.ReadAs.extend`).
-/

namespace IssueSync.Xml

/-- The binding as it is read again. -/
def Binding.again (binding : Binding) : Binding :=
  { binding with uri := valueAgain binding.uri }

namespace Scope

variable {outer own scope read : Scope} {binding : Binding} {label : Option String} {uri : String}

/-- No label is bound twice. -/
def Distinct (scope : Scope) : Prop :=
  (scope.map Binding.label).Nodup

/-- The bindings as they are read again. -/
def again (scope : Scope) : Scope :=
  scope.map Binding.again

theorem distinct_nil : Distinct [] :=
  List.nodup_nil

/-- A label is looked up in the first declarations, and then in the others. -/
theorem uriOf?_append (first second : Scope) (label : Option String) :
    uriOf? (first ++ second) label = (first.uriOf? label).or (second.uriOf? label) := by
  rw [uriOf?, List.find?_append, Option.map_or]
  rfl

theorem uriOf?_singleton (binding : Binding) (label : Option String) :
    uriOf? [binding] label = if binding.label = label then some binding.uri else none := by
  by_cases same : binding.label = label
  · simp [uriOf?, same]
  · simp [uriOf?, same]

/-- A label is bound when a namespace is found for it. -/
theorem binds_iff : scope.binds label = true ↔ ∃ uri, scope.uriOf? label = some uri := by
  rw [← Option.isSome_iff_exists, uriOf?, Option.isSome_map, List.find?_isSome, binds,
    List.any_eq_true]

/-- A declaration that is added binds its label if nothing did. -/
theorem uriOf?_addMissing (scope : Scope) (binding : Binding) (label : Option String) :
    (scope.addMissing binding).uriOf? label =
      (scope.uriOf? label).or (uriOf? [binding] label) := by
  rw [addMissing]
  split
  · next bound =>
      obtain ⟨uri, found⟩ := binds_iff.mp bound
      rw [uriOf?_singleton]
      split
      · next same => rw [← same, found, Option.some_or]
      · rw [Option.or_none]
  · rw [uriOf?_append]

/-- An element's own declarations come first. -/
theorem uriOf?_extend (outer own : Scope) (label : Option String) :
    (outer.extend own).uriOf? label = (own.uriOf? label).or (outer.uriOf? label) := by
  have added : ∀ rest start : Scope,
      (rest.foldl addMissing start).uriOf? label =
        (start.uriOf? label).or (rest.uriOf? label) := by
    intro rest
    induction rest with
    | nil => intro start; exact (Option.or_none).symm
    | cons first others ih =>
        intro start
        rw [List.foldl_cons, ih, uriOf?_addMissing, Option.or_assoc, ← uriOf?_append,
          List.singleton_append]
  rw [extend]
  split
  · next none => rw [List.isEmpty_iff.mp none]; rfl
  · exact added outer own

/-- Each declaration in force is an own one or one from around. -/
theorem mem_extend (member : binding ∈ outer.extend own) : binding ∈ own ∨ binding ∈ outer := by
  have added : ∀ rest start : Scope, binding ∈ rest.foldl addMissing start →
      binding ∈ start ∨ binding ∈ rest := by
    intro rest
    induction rest with
    | nil => exact fun start found => .inl found
    | cons first others ih =>
        intro start found
        rcases ih _ found with earlier | later
        · rw [addMissing] at earlier
          split at earlier
          · exact .inl earlier
          · rcases List.mem_append.mp earlier with before | single
            · exact .inl before
            · exact .inr (List.mem_singleton.mp single ▸ List.mem_cons_self)
        · exact .inr (List.mem_cons_of_mem _ later)
  rw [extend] at member
  split at member
  · exact .inr member
  · exact added outer own member

/-- Adding a missing declaration keeps them distinct. -/
theorem Distinct.addMissing (distinct : scope.Distinct) (binding : Binding) :
    (scope.addMissing binding).Distinct := by
  rw [Scope.addMissing]
  split
  · exact distinct
  · next unbound =>
      rw [Distinct, List.map_append, List.nodup_append]
      refine ⟨distinct, List.pairwise_singleton _ _, ?_⟩
      intro first listed second single same
      obtain ⟨earlier, member, rfl⟩ := List.mem_map.mp listed
      refine unbound (List.any_eq_true.mpr ⟨earlier, member, ?_⟩)
      simpa [same] using single

/-- Distinct declarations inside distinct ones are distinct together. -/
theorem Distinct.extend (outerDistinct : outer.Distinct) (ownDistinct : own.Distinct) :
    (outer.extend own).Distinct := by
  rw [Scope.extend]
  split
  · exact outerDistinct
  · exact List.foldlRecOn outer Scope.addMissing ownDistinct
      fun scope distinct binding _ => distinct.addMissing binding

/-- What is found for a label was declared. -/
theorem mem_of_uriOf? (found : scope.uriOf? label = some uri) : ⟨label, uri⟩ ∈ scope := by
  obtain ⟨binding, first, rfl⟩ := Option.map_eq_some_iff.mp found
  have labelled : binding.label = label := by
    simpa using List.find?_some first
  exact labelled ▸ List.mem_of_find?_eq_some first

/-- Of distinct declarations each one is found. -/
theorem Distinct.uriOf?_of_mem (distinct : scope.Distinct) (member : binding ∈ scope) :
    scope.uriOf? binding.label = some binding.uri := by
  induction scope with
  | nil => cases member
  | cons first rest ih =>
      rw [Distinct, List.map_cons, List.nodup_cons] at distinct
      rw [← List.singleton_append, uriOf?_append, uriOf?_singleton]
      rcases List.mem_cons.mp member with rfl | later
      · rw [if_pos rfl, Option.some_or]
      · have different : first.label ≠ binding.label := fun same =>
          distinct.1 (same ▸ List.mem_map_of_mem later)
        rw [if_neg different, Option.none_or]
        exact ih distinct.2 later

/-- Distinct declarations are those that are found. -/
theorem Distinct.mem_iff (distinct : scope.Distinct) :
    ⟨label, uri⟩ ∈ scope ↔ scope.uriOf? label = some uri :=
  ⟨distinct.uriOf?_of_mem, mem_of_uriOf?⟩

/-- The first binding to a namespace has a label that stands for it. -/
theorem Distinct.uriOf?_labelOf? (distinct : scope.Distinct)
    (bound : scope.uriOf? label = some uri) : scope.uriOf? (scope.labelOf? uri) = some uri := by
  have found : ∃ binding, scope.find? (fun binding => binding.uri = uri) = some binding := by
    rw [← Option.isSome_iff_exists, List.find?_isSome]
    exact ⟨_, mem_of_uriOf? bound, decide_eq_true rfl⟩
  obtain ⟨binding, first⟩ := found
  have same : binding.uri = uri := by
    simpa using List.find?_some first
  have labelled : scope.labelOf? uri = binding.label := by
    rw [labelOf?, first, Option.bind_some]
  rw [labelled, ← same]
  exact distinct.uriOf?_of_mem (List.mem_of_find?_eq_some first)

/-! ### Scopes that are read again -/

/-- A tag introduces what is in force inside it but not around it. -/
theorem mem_introduced : binding ∈ outer.introduced scope ↔
    binding ∈ scope ∧ binding.uri ≠ xmlUri ∧ binding ∉ outer := by
  simp [introduced]

/-- What a tag introduces is distinct. -/
theorem Distinct.introduced (distinct : scope.Distinct) (outer : Scope) :
    (outer.introduced scope).Distinct :=
  distinct.sublist (List.filter_sublist.map _)

/-- What is not written for an element is bound alike outside. -/
theorem uriOf?_introduced (outerDistinct : outer.Distinct) (ownDistinct : own.Distinct)
    (ordinary : ∀ binding ∈ outer.extend own, binding.uri ≠ xmlUri) (label : Option String) :
    ((outer.introduced (outer.extend own)).uriOf? label).or (outer.uriOf? label) =
      (outer.extend own).uriOf? label := by
  have distinct := outerDistinct.extend ownDistinct
  have introducedDistinct := distinct.introduced outer
  cases found : (outer.introduced (outer.extend own)).uriOf? label with
  | some uri =>
      have member := (mem_introduced.mp (mem_of_uriOf? found)).1
      rw [Option.some_or, distinct.mem_iff.mp member]
  | none =>
      rw [Option.none_or]
      cases inside : (outer.extend own).uriOf? label with
      | none =>
          rw [uriOf?_extend, Option.or_eq_none_iff] at inside
          exact inside.2
      | some uri =>
          have member := mem_of_uriOf? inside
          by_cases outside : ⟨label, uri⟩ ∈ outer
          · exact outerDistinct.mem_iff.mp outside
          · have written := mem_introduced.mpr ⟨member, ordinary _ member, outside⟩
            rw [introducedDistinct.mem_iff.mp written] at found
            cases found

/-- A namespace that was read back is found under the same label. -/
theorem uriOf?_again (scope : Scope) (label : Option String) :
    scope.again.uriOf? label = (scope.uriOf? label).map valueAgain := by
  rw [again, uriOf?, List.find?_map, Option.map_map, uriOf?, Option.map_map]
  rfl

/-- Every label means the same in both scopes, up to the white space in
namespaces. -/
def ReadAs (scope read : Scope) : Prop :=
  ∀ label, read.uriOf? label = (scope.uriOf? label).map valueAgain

theorem readAs_nil : ReadAs [] [] :=
  fun _ => rfl

/-- The declarations that are written for an element restore its scope. -/
theorem ReadAs.extend (same : outer.ReadAs read) (outerDistinct : outer.Distinct)
    (ownDistinct : own.Distinct) (ordinary : ∀ binding ∈ outer.extend own, binding.uri ≠ xmlUri) :
    (outer.extend own).ReadAs (read.extend (outer.introduced (outer.extend own)).again) := by
  intro label
  rw [uriOf?_extend, uriOf?_again, same label, ← Option.map_or,
    uriOf?_introduced outerDistinct ownDistinct ordinary]

end Scope

end IssueSync.Xml
