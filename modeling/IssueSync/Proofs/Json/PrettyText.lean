import IssueSync.Json.Value

/-! # What a pretty text stands for

A pretty text can be read in one way only. An escape never begins another one
(`escapeCharacter_append_inj`), so a string ends at its first quote that is not
escaped (`quote_append_inj`). The first character of a value tells its kind, and
what follows an item tells whether another one comes, so whatever stands behind
a value, the value is determined (`prettyAt_append_inj`).
-/

namespace IssueSync.Json

/-! ### Strings -/

/-- The characters that a string does not show as they are. -/
def escapedCharacters : List Char :=
  '"' :: '\\' :: (List.range 0x20).map Char.ofNat

/-- All control characters are written otherwise. -/
theorem mem_escapedCharacters_of_small {character : Char} (small : character.toNat < 0x20) :
    character ∈ escapedCharacters := by
  have listed : Char.ofNat character.toNat ∈ (List.range 0x20).map Char.ofNat :=
    List.mem_map_of_mem (List.mem_range.mpr small)
  rw [Char.ofNat_toNat] at listed
  exact List.mem_cons_of_mem _ (List.mem_cons_of_mem _ listed)

/-- Other characters stand for themselves. -/
theorem escapeCharacter_of_not_mem {character : Char}
    (plain : character ∉ escapedCharacters) : escapeCharacter character = [character] := by
  have large : ¬ character.toNat < 0x20 := fun small =>
    plain (mem_escapedCharacters_of_small small)
  have others : ∀ other ∈ escapedCharacters, character ≠ other := by
    rintro other member rfl
    exact plain member
  have notTiny : ¬ character.toNat < 0x10 := by omega
  unfold escapeCharacter
  rw [if_neg (others _ (by decide)), if_neg (others _ (by decide)), if_neg (others _ (by decide)),
    if_neg (others _ (by decide)), if_neg (others _ (by decide)), if_neg (others _ (by decide)),
    if_neg (others _ (by decide)), if_neg notTiny, if_neg large]

theorem head?_escapeCharacter :
    ∀ character ∈ escapedCharacters, (escapeCharacter character).head? = some '\\' := by
  have all : escapedCharacters.all
      fun character => (escapeCharacter character).head? = some '\\' := by decide
  exact fun character listed => of_decide_eq_true (List.all_eq_true.mp all character listed)

/-- No escape is the beginning of another one. -/
theorem escapeCharacter_prefixFree :
    ∀ first ∈ escapedCharacters, ∀ second ∈ escapedCharacters,
      escapeCharacter first <+: escapeCharacter second → first = second := by
  have all : escapedCharacters.all fun first => escapedCharacters.all fun second =>
      escapeCharacter first <+: escapeCharacter second → first = second := by decide +kernel
  intro first listed second listedToo
  exact of_decide_eq_true
    (List.all_eq_true.mp (List.all_eq_true.mp all first listed) second listedToo)

/-- No character is written with a quote at its beginning, and the first character tells
whether it was written otherwise. -/
theorem exists_escapeCharacter_eq (character : Char) :
    ∃ first rest, escapeCharacter character = first :: rest ∧ first ≠ '"' ∧
      (first = '\\' ↔ character ∈ escapedCharacters) := by
  by_cases escaped : character ∈ escapedCharacters
  · obtain ⟨rest, written⟩ := List.head?_eq_some_iff.mp (head?_escapeCharacter character escaped)
    exact ⟨'\\', rest, written, by decide, iff_of_true rfl escaped⟩
  · refine ⟨character, [], escapeCharacter_of_not_mem escaped, ?_, iff_of_false ?_ escaped⟩
    · rintro rfl
      exact escaped (by decide)
    · rintro rfl
      exact escaped (by decide)

/-- What a character is written as tells the character and where it ends. -/
theorem escapeCharacter_append_inj {first second : Char} {rest other : List Char}
    (same : escapeCharacter first ++ rest = escapeCharacter second ++ other) :
    first = second ∧ rest = other := by
  have equal : first = second := by
    obtain ⟨firstHead, firstTail, firstWritten, -, firstEscaped⟩ := exists_escapeCharacter_eq first
    obtain ⟨secondHead, secondTail, secondWritten, -, secondEscaped⟩ :=
      exists_escapeCharacter_eq second
    have heads : firstHead = secondHead := by
      rw [firstWritten, secondWritten, List.cons_append, List.cons_append] at same
      exact (List.cons.inj same).1
    rw [heads, secondEscaped] at firstEscaped
    by_cases escaped : first ∈ escapedCharacters
    · rcases List.prefix_or_prefix_of_prefix (List.prefix_append _ rest)
        (same ▸ List.prefix_append _ other) with before | before
      · exact escapeCharacter_prefixFree first escaped second (firstEscaped.mpr escaped) before
      · exact (escapeCharacter_prefixFree second (firstEscaped.mpr escaped) first escaped
          before).symm
    · have plain : second ∉ escapedCharacters := fun member => escaped (firstEscaped.mp member)
      rw [escapeCharacter_of_not_mem escaped, escapeCharacter_of_not_mem plain] at same
      exact (List.cons.inj same).1
  subst equal
  exact ⟨rfl, List.append_cancel_left same⟩

/-- A string ends at the first quote that is no escape. -/
theorem escaped_append_inj {first second rest other : List Char}
    (same : first.flatMap escapeCharacter ++ '"' :: rest =
      second.flatMap escapeCharacter ++ '"' :: other) : first = second ∧ rest = other := by
  induction first generalizing second with
  | nil =>
      cases second with
      | nil => exact ⟨rfl, (List.cons.inj same).2⟩
      | cons character _ =>
          obtain ⟨head, tail, written, notQuote, -⟩ := exists_escapeCharacter_eq character
          rw [List.flatMap_cons, written] at same
          exact absurd (List.cons.inj same).1.symm notQuote
  | cons character remaining ih =>
      cases second with
      | nil =>
          obtain ⟨head, tail, written, notQuote, -⟩ := exists_escapeCharacter_eq character
          rw [List.flatMap_cons, written] at same
          exact absurd (List.cons.inj same).1 notQuote
      | cons _ _ =>
          simp only [List.flatMap_cons, List.append_assoc] at same
          obtain ⟨rfl, after⟩ := escapeCharacter_append_inj same
          obtain ⟨rfl, rests⟩ := ih after
          exact ⟨rfl, rests⟩

/-- Where a text between quotes ends can be told from what is written: so it can be read
back, whatever follows it. -/
theorem quote_append_inj {first second : String} {rest other : List Char}
    (same : (quote first).toList ++ rest = (quote second).toList ++ other) :
    first = second ∧ rest = other := by
  simp only [quote, String.toList_append, String.toList_ofList, List.append_assoc] at same
  obtain ⟨texts, rests⟩ := escaped_append_inj (List.cons.inj same).2
  exact ⟨String.toList_inj.mp texts, rests⟩

/-! ### Lists and records -/

section Bracketed

variable {Item : Type}

/-- Whatever stands behind an item, the text tells which item it is and where it
ends. -/
def Unambiguous (write : Item → List Char) (item : Item) : Prop :=
  ∀ (other : Item) (rest after : List Char), write item ++ rest = write other ++ after →
    item = other ∧ rest = after

/-- The items after the first one, each on a line of its own. -/
def furtherItems (level : Nat) (write : Item → List Char) (items : List Item) : List Char :=
  items.flatMap fun item => ',' :: ((newLine level).toList ++ write item)

/-- Items between brackets, one a line, at a level of indentation. -/
def bracketed (level : Nat) (opening closing : Char) (write : Item → List Char) :
    List Item → List Char
  | [] => [opening, closing]
  | first :: rest =>
      opening :: ((newLine (level + 1)).toList ++ (write first ++
        (furtherItems (level + 1) write rest ++ ((newLine level).toList ++ [closing]))))

theorem toList_newLine (level : Nat) :
    (newLine level).toList = '\n' :: List.replicate (2 * level) ' ' := by
  rw [newLine, String.toList_ofList]

variable {level : Nat} {opening closing : Char} {write : Item → List Char}

/-- A comma tells that another item comes, and the end of a line that none does. -/
theorem furtherItems_append_inj {items others : List Item} {rest after : List Char}
    (readable : ∀ item ∈ items, Unambiguous write item)
    (same : furtherItems level write items ++ '\n' :: rest =
      furtherItems level write others ++ '\n' :: after) : items = others ∧ rest = after := by
  induction items generalizing others with
  | nil =>
      cases others with
      | nil => exact ⟨rfl, (List.cons.inj same).2⟩
      | cons _ _ => exact absurd (List.cons.inj same).1 (by decide)
  | cons item items ih =>
      cases others with
      | nil => exact absurd (List.cons.inj same).1 (by decide)
      | cons other others =>
          simp only [furtherItems, List.flatMap_cons, List.cons_append, List.append_assoc,
            List.cons.injEq, true_and, List.append_cancel_left_eq] at same
          obtain ⟨rfl, further⟩ := readable item List.mem_cons_self other _ _ same
          obtain ⟨rfl, rests⟩ :=
            ih (fun later member => readable later (List.mem_cons_of_mem _ member)) further
          exact ⟨rfl, rests⟩

/-- No bracket closes before the items that follow the end of a line. -/
theorem bracketed_append_inj {items others : List Item} {rest after : List Char}
    (bracket : closing ≠ '\n') (readable : ∀ item ∈ items, Unambiguous write item)
    (same : bracketed level opening closing write items ++ rest =
      bracketed level opening closing write others ++ after) : items = others ∧ rest = after := by
  cases items with
  | nil =>
      cases others with
      | nil => exact ⟨rfl, List.append_cancel_left same⟩
      | cons _ _ =>
          simp only [bracketed, toList_newLine, List.cons_append, List.cons.injEq] at same
          exact absurd same.2.1 bracket
  | cons item items =>
      cases others with
      | nil =>
          simp only [bracketed, toList_newLine, List.cons_append, List.cons.injEq] at same
          exact absurd same.2.1.symm bracket
      | cons other others =>
          simp only [bracketed, List.cons_append, List.append_assoc, List.cons.injEq, true_and,
            List.append_cancel_left_eq] at same
          obtain ⟨rfl, further⟩ := readable item List.mem_cons_self other _ _ same
          rw [toList_newLine, List.cons_append, List.cons_append] at further
          obtain ⟨rfl, closed⟩ := furtherItems_append_inj
            (fun later member => readable later (List.mem_cons_of_mem _ member)) further
          rw [List.append_cancel_left_eq] at closed
          exact ⟨rfl, (List.cons.inj closed).2⟩

end Bracketed

/-- An entry of a record. -/
def entryText (level : Nat) (entry : String × Json) : List Char :=
  (quote entry.1).toList ++ (':' :: ' ' :: (prettyAt level entry.2).toList)

theorem toList_prettyItems (level : Nat) (items : List Json) :
    (prettyItems level items).toList =
      furtherItems level (fun item => (prettyAt level item).toList) items := by
  induction items with
  | nil =>
      rw [prettyItems]
      rfl
  | cons item items ih =>
      rw [prettyItems, furtherItems, List.flatMap_cons, ← furtherItems, ← ih]
      simp only [String.toList_append, List.append_assoc, List.cons_append]
      rfl

theorem toList_prettyEntries (level : Nat) (entries : List (String × Json)) :
    (prettyEntries level entries).toList = furtherItems level (entryText level) entries := by
  induction entries with
  | nil =>
      rw [prettyEntries]
      rfl
  | cons entry entries ih =>
      rw [prettyEntries, furtherItems, List.flatMap_cons, ← furtherItems, ← ih, entryText]
      simp only [String.toList_append, List.append_assoc, List.cons_append]
      rfl

theorem toList_prettyAt_list (level : Nat) (items : List Json) :
    (prettyAt level (list items)).toList =
      bracketed level '[' ']' (fun item => (prettyAt (level + 1) item).toList) items := by
  cases items with
  | nil =>
      rw [prettyAt]
      rfl
  | cons item items =>
      rw [prettyAt, bracketed, ← toList_prettyItems]
      simp only [String.toList_append, List.append_assoc]
      rfl

theorem toList_prettyAt_record (level : Nat) (entries : List (String × Json)) :
    (prettyAt level (record entries)).toList =
      bracketed level '\x7b' '\x7d' (entryText (level + 1)) entries := by
  cases entries with
  | nil =>
      rw [prettyAt]
      rfl
  | cons entry entries =>
      rw [prettyAt, bracketed, ← toList_prettyEntries, entryText]
      simp only [String.toList_append, List.append_assoc]
      rfl

/-! ### Values -/

/-- The first character of a value, which tells its kind. -/
def initial : Json → Char
  | null => 'n'
  | flag true => 't'
  | flag false => 'f'
  | text _ => '"'
  | list _ => '['
  | record _ => '\x7b'

theorem head?_bracketed {Item : Type} (level : Nat) (opening closing : Char)
    (write : Item → List Char) (items : List Item) :
    (bracketed level opening closing write items).head? = some opening := by
  cases items with
  | nil => rfl
  | cons item items => rfl

/-- The first character written tells which kind of value follows. -/
theorem head?_prettyAt (level : Nat) (json : Json) :
    (prettyAt level json).toList.head? = some json.initial := by
  cases json with
  | null =>
      rw [prettyAt]
      rfl
  | flag value =>
      rw [prettyAt]
      cases value with
      | false => rfl
      | true => rfl
  | text value =>
      rw [prettyAt]
      simp only [quote, String.toList_append, List.append_assoc]
      rfl
  | list items => rw [toList_prettyAt_list, head?_bracketed]; rfl
  | record entries => rw [toList_prettyAt_record, head?_bracketed]; rfl

/-- Values whose texts begin texts that are the same are of one kind. -/
theorem initial_eq_of_append {level : Nat} {first second : Json} {rest other : List Char}
    (same : (prettyAt level first).toList ++ rest = (prettyAt level second).toList ++ other) :
    first.initial = second.initial := by
  obtain ⟨firstTail, firstWritten⟩ := List.head?_eq_some_iff.mp (head?_prettyAt level first)
  obtain ⟨secondTail, secondWritten⟩ := List.head?_eq_some_iff.mp (head?_prettyAt level second)
  rw [firstWritten, secondWritten] at same
  exact (List.cons.inj same).1

section Kinds

variable {json : Json}

theorem eq_null_of_initial (opening : 'n' = json.initial) : json = null := by
  rcases json with _ | (_ | _) | _ | _ | _ <;> simp_all [initial]

/-- The literals of the truth values differ in their first letters. -/
theorem eq_flag_of_initial {value : Bool} (opening : (flag value).initial = json.initial) :
    json = flag value := by
  cases value <;> rcases json with _ | (_ | _) | _ | _ | _ <;> simp_all [initial]

theorem exists_text_of_initial (opening : '"' = json.initial) : ∃ value, json = text value := by
  rcases json with _ | (_ | _) | _ | _ | _ <;> simp_all [initial]

theorem exists_list_of_initial (opening : '[' = json.initial) : ∃ items, json = list items := by
  rcases json with _ | (_ | _) | _ | _ | _ <;> simp_all [initial]

theorem exists_record_of_initial (opening : '\x7b' = json.initial) :
    ∃ entries, json = record entries := by
  rcases json with _ | (_ | _) | _ | _ | _ <;> simp_all [initial]

end Kinds

mutual

/-- Whatever stands behind a value, its text tells which value it is. -/
theorem prettyAt_unambiguous (level : Nat) :
    ∀ json, Unambiguous (fun value => (prettyAt level value).toList) json
  | null, second, _, _, same => by
      obtain rfl := eq_null_of_initial (initial_eq_of_append same)
      exact ⟨rfl, List.append_cancel_left same⟩
  | flag _, second, _, _, same => by
      obtain rfl := eq_flag_of_initial (initial_eq_of_append same)
      exact ⟨rfl, List.append_cancel_left same⟩
  | text _, second, _, _, same => by
      obtain ⟨other, rfl⟩ := exists_text_of_initial (initial_eq_of_append same)
      simp only [prettyAt] at same
      obtain ⟨rfl, rests⟩ := quote_append_inj same
      exact ⟨rfl, rests⟩
  | list items, second, _, _, same => by
      obtain ⟨others, rfl⟩ := exists_list_of_initial (initial_eq_of_append same)
      simp only [toList_prettyAt_list] at same
      obtain ⟨rfl, rests⟩ :=
        bracketed_append_inj (by decide) (items_unambiguous (level + 1) items) same
      exact ⟨rfl, rests⟩
  | record entries, second, _, _, same => by
      obtain ⟨others, rfl⟩ := exists_record_of_initial (initial_eq_of_append same)
      simp only [toList_prettyAt_record] at same
      obtain ⟨rfl, rests⟩ :=
        bracketed_append_inj (by decide) (entries_unambiguous (level + 1) entries) same
      exact ⟨rfl, rests⟩

/-- All items of a list can be told apart, since values can. -/
theorem items_unambiguous (level : Nat) :
    ∀ items : List Json, ∀ item ∈ items,
      Unambiguous (fun value => (prettyAt level value).toList) item
  | [], _, member => by cases member
  | first :: rest, item, member => by
      rcases List.mem_cons.mp member with same | later
      · rw [same]
        exact prettyAt_unambiguous level first
      · exact items_unambiguous level rest item later

/-- All entries of a record can be told apart, since keys and values can. -/
theorem entries_unambiguous (level : Nat) :
    ∀ entries : List (String × Json), ∀ entry ∈ entries, Unambiguous (entryText level) entry
  | [], _, member => by cases member
  | (key, value) :: rest, entry, member => by
      rcases List.mem_cons.mp member with same | later
      · rintro ⟨otherKey, otherValue⟩ behind after texts
        simp only [same, entryText, List.append_assoc] at texts
        obtain ⟨keys, values⟩ := quote_append_inj texts
        simp only [List.cons_append, List.cons.injEq, true_and] at values
        obtain ⟨found, rests⟩ := prettyAt_unambiguous level value otherValue _ _ values
        exact ⟨by rw [same, keys, found], rests⟩
      · exact entries_unambiguous level rest entry later

end

/-- Different values have different pretty texts. -/
theorem pretty_inj {first second : Json} (same : first.pretty = second.pretty) :
    first = second := by
  have texts := congrArg String.toList same
  exact (prettyAt_unambiguous 0 first second [] [] (congrArg (· ++ []) texts)).1

end IssueSync.Json
