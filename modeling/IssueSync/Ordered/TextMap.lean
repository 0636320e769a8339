import IssueSync.Ordered.TextSet

/-! # Maps with string keys

A map keyed by strings is the list of its entries in strictly increasing order
of their keys, compared by code points. Storing a value under a key that is
already there replaces the old one.
-/

namespace IssueSync

/-- A finite map from strings to values. -/
structure TextMap (Value : Type) where
  /-- The entries in increasing order of their keys. -/
  entries : List (String × Value)
  increasing : (entries.map Prod.fst).Pairwise (· < ·)
  deriving DecidableEq

namespace TextMap

variable {Value : Type}

/-- The ordered `entries` with `value` stored under `key`. -/
def place (key : String) (value : Value) : List (String × Value) → List (String × Value)
  | [] => [(key, value)]
  | first :: rest =>
      if key < first.1 then (key, value) :: first :: rest
      else if key = first.1 then (key, value) :: rest
      else first :: place key value rest

/-- The keys after storing are those of the set of keys with `key` added. -/
theorem keys_place (key : String) (value : Value) (entries : List (String × Value)) :
    (place key value entries).map Prod.fst = TextSet.place key (entries.map Prod.fst) := by
  induction entries with
  | nil => rfl
  | cons first rest ih =>
      simp only [place, List.map_cons, TextSet.place]
      split
      · rfl
      · split
        · next same => simp [same]
        · simp [ih]

theorem increasing_nil : (([] : List (String × Value)).map Prod.fst).Pairwise (· < ·) :=
  .nil

/-- The map without entries. -/
def empty : TextMap Value := ⟨[], increasing_nil⟩

/-- The map with no entries. -/
instance : EmptyCollection (TextMap Value) := ⟨empty⟩

/-- The default map is the one with no entries. -/
instance : Inhabited (TextMap Value) := ⟨∅⟩

/-- The map with `value` stored under `key`. -/
def insert (map : TextMap Value) (key : String) (value : Value) : TextMap Value :=
  ⟨place key value map.entries,
    keys_place key value map.entries ▸ TextSet.place_increasing map.increasing⟩

/-- The map that holds each entry of a list; of two entries with one key the
later counts. -/
def ofList (entries : List (String × Value)) : TextMap Value :=
  entries.foldl (fun map entry => map.insert entry.1 entry.2) ∅

/-- The value stored under `key`. -/
def get? (map : TextMap Value) (key : String) : Option Value :=
  map.entries.lookup key

/-- The keys in increasing order. -/
def keys (map : TextMap Value) : List String :=
  map.entries.map Prod.fst

/-- How many keys there are. -/
def size (map : TextMap Value) : Nat :=
  map.entries.length

/-- Whether there are no keys. -/
def isEmpty (map : TextMap Value) : Bool :=
  map.entries.isEmpty

/-- The keys are those that have a value. -/
theorem mem_keys_iff {map : TextMap Value} {key : String} :
    key ∈ map.keys ↔ ∃ value, map.get? key = some value := by
  constructor
  · intro member
    obtain ⟨entry, listed, rfl⟩ := List.mem_map.mp member
    refine Option.ne_none_iff_exists'.mp fun absent => ?_
    have different := List.lookup_eq_none_iff.mp absent entry listed
    exact bne_iff_ne.mp different rfl
  · rintro ⟨value, found⟩
    obtain ⟨before, after, split, -⟩ := List.lookup_eq_some_iff.mp found
    have listed : (key, value) ∈ map.entries := by
      rw [split]
      exact List.mem_append_right _ List.mem_cons_self
    exact List.mem_map_of_mem listed

/-- Every entry is the one that its key leads to. -/
theorem get?_eq_some_of_mem {map : TextMap Value} {key : String} {value : Value}
    (listed : (key, value) ∈ map.entries) : map.get? key = some value := by
  obtain ⟨before, after, split⟩ := List.append_of_mem listed
  refine List.lookup_eq_some_iff.mpr ⟨before, after, split, fun entry earlier => ?_⟩
  have increasing := map.increasing
  rw [split, List.map_append, List.pairwise_append] at increasing
  have below : entry.1 < key :=
    increasing.2.2 _ (List.mem_map_of_mem earlier) _ List.mem_cons_self
  exact bne_iff_ne.mpr fun same => String.lt_irrefl key (same ▸ below)

/-- The first entry with a key counts. -/
theorem lookup_cons_if (key other : String) (value : Value) (entries : List (String × Value)) :
    ((key, value) :: entries).lookup other =
      if other = key then some value else entries.lookup other := by
  rw [List.lookup_cons]
  by_cases same : other = key
  · simp [same]
  · simp [same, beq_false_of_ne same]

/-- An entry that was put in its place has the value that it was given, and the
others keep theirs. -/
theorem lookup_place (key other : String) (value : Value) (entries : List (String × Value)) :
    (place key value entries).lookup other =
      if other = key then some value else entries.lookup other := by
  induction entries with
  | nil => rw [place, lookup_cons_if]
  | cons first rest ih =>
      obtain ⟨firstKey, firstValue⟩ := first
      simp only [place]
      split
      · rw [lookup_cons_if]
      · split
        · next same => rw [lookup_cons_if, lookup_cons_if, ← same]; split <;> rfl
        · next different =>
            rw [lookup_cons_if, lookup_cons_if, ih]
            by_cases found : other = firstKey
            · rw [if_pos found, if_pos found, if_neg (by rw [found]; exact Ne.symm different)]
            · rw [if_neg found, if_neg found]

/-- The value of a key is the one that it was given last. -/
@[simp]
theorem get?_insert (map : TextMap Value) (key other : String) (value : Value) :
    (map.insert key value).get? other = if other = key then some value else map.get? other :=
  lookup_place key other value map.entries

@[simp]
theorem get?_empty (key : String) : (∅ : TextMap Value).get? key = none := rfl

/-- Of entries inserted one after the other the last one with the key counts. -/
theorem get?_foldl_insert (entries : List (String × Value)) (map : TextMap Value) (key : String) :
    (entries.foldl (fun map entry => map.insert entry.1 entry.2) map).get? key =
      (entries.reverse.lookup key).or (map.get? key) := by
  induction entries generalizing map with
  | nil => rfl
  | cons entry rest ih =>
      have single : [entry].lookup key = if key = entry.1 then some entry.2 else none :=
        lookup_cons_if entry.1 key entry.2 []
      rw [List.foldl_cons, ih, get?_insert, List.reverse_cons, List.lookup_append, single,
        Option.or_assoc]
      split
      · rfl
      · rfl

/-- In a map that is made of a list of entries, the last entry of a key counts. -/
theorem get?_ofList (entries : List (String × Value)) (key : String) :
    (ofList entries).get? key = entries.reverse.lookup key := by
  rw [ofList, get?_foldl_insert, get?_empty, Option.or_none]

/-- A key of a map that is made of a list of entries comes from one of them. -/
theorem exists_of_mem_keys_ofList {entries : List (String × Value)} {key : String}
    (member : key ∈ (ofList entries).keys) : ∃ value, (key, value) ∈ entries := by
  obtain ⟨value, found⟩ := mem_keys_iff.mp member
  rw [get?_ofList, List.lookup_eq_some_iff] at found
  obtain ⟨before, after, split, -⟩ := found
  refine ⟨value, List.mem_reverse.mp ?_⟩
  rw [split]
  exact List.mem_append_right _ List.mem_cons_self

section Given

variable {Item : Type} {give : Item → Option (String × Value)} {items : List Item}
  {key : String} {value : Value}

/-- Where items give the entries, the last item that gives one for a key counts. -/
theorem get?_ofList_filterMap_eq_some_iff :
    (ofList (items.filterMap give)).get? key = some value ↔
      ∃ before item after, items = before ++ item :: after ∧ give item = some (key, value) ∧
        ∀ later ∈ after, ∀ other, give later ≠ some (key, other) := by
  rw [get?_ofList, List.lookup_eq_some_iff]
  constructor
  · rintro ⟨later, earlier, split, none⟩
    have entries := congrArg List.reverse split
    rw [List.reverse_reverse, List.reverse_append, List.reverse_cons, List.append_assoc,
      List.singleton_append, List.filterMap_eq_append_iff] at entries
    obtain ⟨before, rest, rfl, -, rest⟩ := entries
    obtain ⟨skipped, item, after, rfl, -, given, further⟩ := List.filterMap_eq_cons_iff.mp rest
    refine ⟨before ++ skipped, item, after, by simp, given, fun other member text found => ?_⟩
    have listed : (key, text) ∈ later.reverse :=
      further ▸ List.mem_filterMap.mpr ⟨other, member, found⟩
    exact bne_iff_ne.mp (none _ (List.mem_reverse.mp listed)) rfl
  · rintro ⟨before, item, after, rfl, given, last⟩
    refine ⟨(after.filterMap give).reverse, (before.filterMap give).reverse, ?_, ?_⟩
    · rw [List.filterMap_append, List.filterMap_cons_some given, List.reverse_append,
        List.reverse_cons, List.append_assoc, List.singleton_append]
    · rintro ⟨other, text⟩ member
      obtain ⟨later, listed, found⟩ := List.mem_filterMap.mp (List.mem_reverse.mp member)
      apply bne_iff_ne.mpr
      rintro rfl
      exact last later listed text found

/-- A key has no value when no item gives it one. -/
theorem get?_ofList_filterMap_eq_none_iff :
    (ofList (items.filterMap give)).get? key = none ↔
      ∀ item ∈ items, ∀ value, give item ≠ some (key, value) := by
  rw [get?_ofList, List.lookup_eq_none_iff]
  constructor
  · intro none item listed value given
    have member : (key, value) ∈ (items.filterMap give).reverse :=
      List.mem_reverse.mpr (List.mem_filterMap.mpr ⟨item, listed, given⟩)
    exact bne_iff_ne.mp (none _ member) rfl
  · rintro none ⟨other, value⟩ member
    obtain ⟨item, listed, given⟩ := List.mem_filterMap.mp (List.mem_reverse.mp member)
    apply bne_iff_ne.mpr
    rintro rfl
    exact none item listed value given

end Given

end TextMap

end IssueSync
