import Mathlib.Data.List.Infix
import IssueSync.Rule.Mapping

/-! # Identifiers of more than one field

The identifiers of a mapping are noted field by field. What has been noted after
some fields is known from the places where these fields have the identifiers
(`noted`): an identifier is repeated once it has a second place, and later than
those that had theirs before. So the repeated identifiers stand in the order of
their second fields (`Mapping.duplicateIds_in_order_of_second_fields`), which need
not be the order of their first ones (`Mapping.not_firstSeenOrder_nestedFields`).
-/

namespace IssueSync

/-- The places of the fields that have an identifier. -/
def placesOf (fields : List Field) (id : String) : List Nat :=
  fields.findIdxs fun field => field.id = some id

/-- Of two identifiers, one has its field with this number before the other has
its own; fields of an identifier are numbered from zero. -/
def Precedes (fields : List Field) (number : Nat) (first second : String) : Prop :=
  ∃ place later, (placesOf fields first)[number]? = some place ∧
    (placesOf fields second)[number]? = some later ∧ place < later

section Places

variable {fields : List Field} {field : Field} {id other first second : String} {number : Nat}

theorem placesOf_append_singleton :
    placesOf (fields ++ [field]) id =
      placesOf fields id ++ if field.id = some id then [fields.length] else [] := by
  rw [placesOf, List.findIdxs_append, List.findIdxs_singleton, Nat.zero_add]
  simp only [decide_eq_true_eq]
  rfl

/-- Places are positions of fields. -/
theorem lt_of_mem_placesOf {place : Nat} (member : place ∈ placesOf fields id) :
    place < fields.length := by
  exact List.lt_add_of_mem_findIdxs place member

/-- Further fields leave the places of those before them. -/
theorem getElem?_placesOf_append {place : Nat}
    (found : (placesOf fields id)[number]? = some place) :
    (placesOf (fields ++ [field]) id)[number]? = some place := by
  rw [placesOf_append_singleton, List.getElem?_append_left, found]
  exact (List.getElem?_eq_some_iff.mp found).1

theorem Precedes.append (precedes : Precedes fields number first second) :
    Precedes (fields ++ [field]) number first second := by
  obtain ⟨place, later, firstPlace, secondPlace, before⟩ := precedes
  exact ⟨place, later, getElem?_placesOf_append firstPlace, getElem?_placesOf_append secondPlace,
    before⟩

/-- Of two identifiers only one precedes. -/
theorem Precedes.asymm (precedes : Precedes fields number first second) :
    ¬ Precedes fields number second first := by
  rintro ⟨other, earlier, secondPlace, firstPlace, after⟩
  obtain ⟨place, later, firstFound, secondFound, before⟩ := precedes
  cases firstPlace.symm.trans firstFound
  cases secondPlace.symm.trans secondFound
  omega

/-- No identifier precedes itself. -/
theorem Precedes.ne (precedes : Precedes fields number first second) : first ≠ second := by
  rintro rfl
  exact precedes.asymm precedes

end Places

/-! ### Noting identifiers -/

/-- An identifier that was met is remembered, and so are those before. -/
theorem mem_seen_noteRepeated {state : List String × List String} {id other : String} :
    other ∈ (noteRepeated state id).1 ↔ other = id ∨ other ∈ state.1 := by
  obtain ⟨seen, repeated⟩ := state
  rw [noteRepeated]
  split
  · next again =>
      constructor
      · exact .inr
      · rintro (rfl | before)
        · exact again
        · exact before
  · exact List.mem_cons

/-- An identifier is noted as repeated when it is met for the second time. -/
theorem repeated_noteRepeated (state : List String × List String) (id : String) :
    (noteRepeated state id).2 =
      if id ∈ state.1 ∧ id ∉ state.2 then state.2 ++ [id] else state.2 := by
  obtain ⟨seen, repeated⟩ := state
  rw [noteRepeated]
  by_cases again : id ∈ seen
  · by_cases noted : id ∈ repeated
    · simp [again, noted]
    · simp [again, noted]
  · simp [again]

/-- What has been noted after some fields: the identifiers with a place, and in the
order of their second places those that have two. -/
structure Noted (fields : List Field) (state : List String × List String) : Prop where
  seen : ∀ id, id ∈ state.1 ↔ 1 ≤ (placesOf fields id).length
  repeated : ∀ id, id ∈ state.2 ↔ 2 ≤ (placesOf fields id).length
  nodup : state.2.Nodup
  ordered : state.2.Pairwise (Precedes fields 1)

namespace Noted

variable {fields : List Field} {state : List String × List String} {field : Field} {id : String}

/-- A field without an identifier has no place among those that are noted. -/
theorem append_of_none (noted : Noted fields state) (unnamed : field.id = none) :
    Noted (fields ++ [field]) state where
  seen other := by rw [noted.seen, placesOf_append_singleton, unnamed]; simp
  repeated other := by rw [noted.repeated, placesOf_append_singleton, unnamed]; simp
  nodup := noted.nodup
  ordered := noted.ordered.imp Precedes.append

/-- At its second place an identifier is added to the repeated ones, all of which
had their second places before. -/
theorem append_of_some (noted : Noted fields state) (named : field.id = some id) :
    Noted (fields ++ [field]) (noteRepeated state id) := by
  have places (other : String) : (placesOf (fields ++ [field]) other).length =
      (placesOf fields other).length + if other = id then 1 else 0 := by
    rw [placesOf_append_singleton, named, List.length_append]
    by_cases same : other = id
    · simp [same]
    · simp [same, Ne.symm same]
  have second : id ∈ state.1 ∧ id ∉ state.2 ↔ (placesOf fields id).length = 1 := by
    rw [noted.seen, noted.repeated]
    omega
  have kept : state.2.Pairwise (Precedes (fields ++ [field]) 1) :=
    noted.ordered.imp Precedes.append
  refine ⟨fun other => ?_, fun other => ?_, ?_, ?_⟩
  · rw [mem_seen_noteRepeated, noted.seen, places]
    split
    · next same => simp [same]
    · next different => simp [different]
  · rw [repeated_noteRepeated, places]
    by_cases once : (placesOf fields id).length = 1
    · rw [if_pos (second.mpr once), List.mem_append, List.mem_singleton, noted.repeated]
      split
      · next same => simp [same, once]
      · next different => simp [different]
    · rw [if_neg (mt second.mp once), noted.repeated]
      split
      · next same => rw [same]; omega
      · rfl
  · rw [repeated_noteRepeated]
    split
    · next added =>
        refine List.nodup_append.mpr ⟨noted.nodup, List.pairwise_singleton _ _, ?_⟩
        rintro earlier listed last same rfl
        exact added.2 (List.mem_singleton.mp same ▸ listed)
    · exact noted.nodup
  · rw [repeated_noteRepeated]
    split
    · next added =>
        refine List.pairwise_append.mpr ⟨kept, List.pairwise_singleton _ _, ?_⟩
        intro earlier listed last same
        rw [List.mem_singleton.mp same]
        have found := List.getElem?_eq_getElem ((noted.repeated earlier).mp listed)
        refine ⟨_, fields.length, getElem?_placesOf_append found, ?_,
          lt_of_mem_placesOf (List.getElem_mem _)⟩
        rw [placesOf_append_singleton, if_pos named,
          List.getElem?_append_right (second.mp added).le, second.mp added]
        rfl
    · exact kept

end Noted

/-- What is noted of all fields, one after the other. -/
theorem noted (fields : List Field) :
    Noted fields ((fields.filterMap (·.id)).foldl noteRepeated ([], [])) := by
  induction fields using List.reverseRecOn with
  | nil => exact ⟨fun _ => by simp [placesOf], fun _ => by simp [placesOf], .nil, .nil⟩
  | append_singleton fields field ih =>
      rw [List.filterMap_append, List.foldl_append]
      cases named : field.id with
      | none =>
          rw [List.filterMap_cons_none named]
          exact ih.append_of_none named
      | some id =>
          rw [List.filterMap_cons_some named]
          exact ih.append_of_some named

/-- Two members of a list stand in it one before the other. -/
theorem sublist_or_sublist {Item : Type} {items : List Item} {first second : Item}
    (firstListed : first ∈ items) (secondListed : second ∈ items) (different : first ≠ second) :
    [first, second].Sublist items ∨ [second, first].Sublist items := by
  obtain ⟨before, after, rfl⟩ := List.append_of_mem firstListed
  rcases List.mem_append.mp secondListed with earlier | later
  · right
    exact (List.singleton_sublist.mpr earlier).append
      (List.singleton_sublist.mpr List.mem_cons_self)
  · left
    have behind := (List.mem_cons.mp later).resolve_left different.symm
    exact ((List.singleton_sublist.mpr behind).cons_cons first).trans
      (List.sublist_append_right _ _)

namespace Mapping

variable (mapping : Mapping)

/-- Repeated identifiers stand in the order of their second fields. -/
theorem sublist_duplicateIds_iff {first second : String}
    (firstListed : first ∈ mapping.duplicateIds) (secondListed : second ∈ mapping.duplicateIds) :
    [first, second].Sublist mapping.duplicateIds ↔ Precedes mapping.allFields 1 first second := by
  have order {earlier later : String}
      (inOrder : [earlier, later].Sublist mapping.duplicateIds) :
      Precedes mapping.allFields 1 earlier later :=
    List.pairwise_iff_forall_sublist.mp (noted mapping.allFields).ordered inOrder
  refine ⟨order, fun precedes => ?_⟩
  refine (sublist_or_sublist firstListed secondListed precedes.ne).resolve_right fun inOrder => ?_
  exact precedes.asymm (order inOrder)

/-- The repeated identifiers stand in the order of their first fields. -/
def FirstSeenOrder : Prop :=
  ∀ first ∈ mapping.duplicateIds, ∀ second ∈ mapping.duplicateIds,
    [first, second].Sublist mapping.duplicateIds ↔ Precedes mapping.allFields 0 first second

/-- **Identifiers of more than one field.** They are those that two fields have at
least, each is listed once, and they are listed in the order of their second
fields. So they are in the order of their first fields exactly when, of every two
of them, the one with the earlier second field has the earlier first field. -/
theorem duplicateIds_in_order_of_second_fields :
    (∀ id, id ∈ mapping.duplicateIds ↔
        2 ≤ mapping.allFields.countP fun field => field.id = some id) ∧
      mapping.duplicateIds.Nodup ∧
      (∀ first ∈ mapping.duplicateIds, ∀ second ∈ mapping.duplicateIds,
        [first, second].Sublist mapping.duplicateIds ↔ Precedes mapping.allFields 1 first second) ∧
      (mapping.FirstSeenOrder ↔
        ∀ first ∈ mapping.duplicateIds, ∀ second ∈ mapping.duplicateIds,
          Precedes mapping.allFields 1 first second →
            Precedes mapping.allFields 0 first second) := by
  have all := noted mapping.allFields
  refine ⟨fun id => ?_, all.nodup, fun first firstListed second secondListed =>
    mapping.sublist_duplicateIds_iff firstListed secondListed, ?_⟩
  · rw [← List.length_findIdxs]
    exact all.repeated id
  · constructor
    · intro ordered first firstListed second secondListed precedes
      exact (ordered first firstListed second secondListed).mp
        ((mapping.sublist_duplicateIds_iff firstListed secondListed).mpr precedes)
    · intro earlier first firstListed second secondListed
      rw [mapping.sublist_duplicateIds_iff firstListed secondListed]
      refine ⟨earlier first firstListed second secondListed, fun precedes => ?_⟩
      rcases sublist_or_sublist firstListed secondListed precedes.ne with inOrder | reversed
      · exact (mapping.sublist_duplicateIds_iff firstListed secondListed).mp inOrder
      · have behind := (mapping.sublist_duplicateIds_iff secondListed firstListed).mp reversed
        exact absurd (earlier second secondListed first firstListed behind) precedes.asymm

/-- Fields of which the outer two and the inner two share an identifier. -/
def nestedFields : Mapping where
  fields := [{ id := "a" }, { id := "b" }, { id := "b" }, { id := "a" }]

/-- The identifier that is seen first is listed last, because it comes up a second
time last. -/
theorem not_firstSeenOrder_nestedFields :
    nestedFields.duplicateIds = ["b", "a"] ∧ ¬ nestedFields.FirstSeenOrder := by
  have listed : nestedFields.duplicateIds = ["b", "a"] := by decide
  refine ⟨listed, fun ordered => ?_⟩
  have inOrder := (ordered "a" (by decide) "b" (by decide)).mpr ⟨0, 1, rfl, rfl, by decide⟩
  rw [listed] at inOrder
  revert inOrder
  decide

end Mapping

end IssueSync
