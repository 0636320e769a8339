/-! # Sets of strings

A set of strings is the list of its members in strictly increasing order of
code points, so that equal sets are equal lists and printing a set needs no
sorting.
-/

namespace IssueSync

/-- A finite set of strings. -/
structure TextSet where
  /-- The members in increasing order. -/
  members : List String
  increasing : members.Pairwise (· < ·)
  deriving DecidableEq

namespace TextSet

/-- The increasing list `members` with `member` at its place. -/
def place (member : String) : List String → List String
  | [] => [member]
  | first :: rest =>
      if member < first then member :: first :: rest
      else if member = first then first :: rest
      else first :: place member rest

/-- Putting a member in its place adds it and removes none. -/
@[simp]
theorem mem_place {member other : String} {members : List String} :
    other ∈ place member members ↔ other = member ∨ other ∈ members := by
  induction members with
  | nil => simp [place]
  | cons first rest ih =>
      simp only [place]
      split
      · simp
      · split
        · next same => subst same; simp
        · simp only [List.mem_cons, ih]
          constructor
          · rintro (h | h | h) <;> simp [h]
          · rintro (h | h | h) <;> simp [h]

/-- A member that is put in its place leaves the order intact. -/
theorem place_increasing {member : String} {members : List String}
    (increasing : members.Pairwise (· < ·)) : (place member members).Pairwise (· < ·) := by
  induction members with
  | nil => simp [place]
  | cons first rest ih =>
      rw [List.pairwise_cons] at increasing
      simp only [place]
      split
      · next below =>
          refine List.pairwise_cons.mpr ⟨?_, List.pairwise_cons.mpr increasing⟩
          intro other mem
          rcases List.mem_cons.mp mem with same | mem
          · exact same ▸ below
          · exact String.lt_trans below (increasing.1 other mem)
      · next notBelow =>
          split
          · exact List.pairwise_cons.mpr increasing
          · next different =>
              refine List.pairwise_cons.mpr ⟨?_, ih increasing.2⟩
              intro other mem
              rcases mem_place.mp mem with same | mem
              · subst same
                exact Decidable.byContradiction fun notAbove =>
                  different (String.le_antisymm (String.not_lt.mp notAbove)
                    (String.not_lt.mp notBelow))
              · exact increasing.1 other mem

/-- The set without members. -/
def empty : TextSet := ⟨[], .nil⟩

/-- The set with no members. -/
instance : EmptyCollection TextSet := ⟨empty⟩

/-- The default set is the one with no members. -/
instance : Inhabited TextSet := ⟨∅⟩

/-- What is a member is listed. -/
instance : Membership String TextSet := ⟨fun set member => member ∈ set.members⟩

instance (member : String) (set : TextSet) : Decidable (member ∈ set) :=
  inferInstanceAs (Decidable (member ∈ set.members))

/-- The set with one more member. -/
def insert (set : TextSet) (member : String) : TextSet :=
  ⟨place member set.members, place_increasing set.increasing⟩

/-- The set of the strings in a list. -/
def ofList (members : List String) : TextSet :=
  members.foldl insert ∅

/-- A set has the inserted member and those it had before. -/
@[simp]
theorem mem_insert {set : TextSet} {member other : String} :
    other ∈ set.insert member ↔ other = member ∨ other ∈ set :=
  mem_place

@[simp]
theorem not_mem_empty {member : String} : member ∉ (∅ : TextSet) :=
  List.not_mem_nil

/-- After several insertions a set has all the inserted members and those it had before. -/
theorem mem_foldl_insert {members : List String} {set : TextSet} {member : String} :
    member ∈ members.foldl insert set ↔ member ∈ set ∨ member ∈ members := by
  induction members generalizing set with
  | nil => simp
  | cons first rest ih =>
      simp only [List.foldl_cons, ih, mem_insert, List.mem_cons]
      constructor
      · rintro ((h | h) | h) <;> simp [h]
      · rintro (h | h | h) <;> simp [h]

/-- The set of a list has the same members, each once. -/
@[simp]
theorem mem_ofList {members : List String} {member : String} :
    member ∈ ofList members ↔ member ∈ members := by
  simp [ofList, mem_foldl_insert]

end TextSet

end IssueSync
