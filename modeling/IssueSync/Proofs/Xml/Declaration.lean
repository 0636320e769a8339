import IssueSync.Proofs.Text.Occurrence
import IssueSync.Proofs.Xml.SoundPieces

/-! # The declaration of a document

No part of a declaration goes past an opening bracket (`Skips`), so what begins as
a declaration and ends before the next bracket is passed over up to that end, or
refused (`afterDeclaration?_of_ends`). What is left behind it does not depend on
what stands behind that bracket (`bounded_afterDeclaration?`).
-/

namespace IssueSync.Xml

open Text (splitFirst? afterStart? afterStart?_eq_some_iff afterStart?_eq_none_iff
  afterStart?_append_cons takeWhile_append_cons dropWhile_append_cons exists_of_dropWhile_eq_cons)

/-- The rest is what is left of the text behind characters among which there is
no opening bracket. -/
def Skips (text rest : List Char) : Prop :=
  ∃ front, text = front ++ rest ∧ '<' ∉ front

variable {text middle rest : List Char}

theorem Skips.refl (text : List Char) : Skips text text :=
  ⟨[], rfl, List.not_mem_nil⟩

theorem Skips.trans (first : Skips text middle) (second : Skips middle rest) : Skips text rest := by
  obtain ⟨front, rfl, clear⟩ := first
  obtain ⟨more, rfl, moreClear⟩ := second
  refine ⟨front ++ more, (List.append_assoc ..).symm, fun member => ?_⟩
  exact (List.mem_append.mp member).elim clear moreClear

theorem skips_of_dropWhile {p : Char → Bool} (other : p '<' = false)
    (drop : text.dropWhile p = rest) : Skips text rest := by
  refine ⟨text.takeWhile p, drop ▸ List.takeWhile_append_dropWhile.symm, fun member => ?_⟩
  rw [List.all_eq_true.mp List.all_takeWhile _ member] at other
  cases other

theorem skips_readName? {name : WrittenName} (read : readName? text = some (name, rest)) :
    Skips text rest := by
  obtain ⟨found, -, same⟩ := Option.map_eq_some_iff.mp read
  exact skips_of_dropWhile (by decide) (Prod.mk.inj same).2

/-- A name ends before a character that names do not have, whatever follows. -/
theorem readName?_append_cons {separator : Char} (other : isNameCharacter separator = false)
    (front rest : List Char) :
    readName? (front ++ separator :: rest) =
      (readName? front).map fun read => (read.1, read.2 ++ separator :: rest) := by
  unfold readName?
  rw [takeWhile_append_cons front rest other, dropWhile_append_cons front rest other,
    Option.map_map]
  rfl

/-- An attribute is read as it is, whatever follows. -/
theorem exists_of_readAttribute? {text rest : List Char} {item : WrittenName × List Char}
    (read : readAttribute? text = some (item, rest)) :
    ∃ used, text = used ++ rest ∧ '<' ∉ used ∧
      ∀ other, readAttribute? (used ++ other) = some (item, other) := by
  obtain ⟨name, raw⟩ := item
  obtain ⟨afterName, afterEquals, quote, nameRead, equals, opening, quoted⟩ :=
    readAttribute?_eq_some_iff.mp read
  obtain ⟨run, rfl, noBracket⟩ := skips_readName? nameRead
  obtain ⟨spaces, rfl, spacesAll, equalsAgain⟩ := exists_of_dropWhile_eq_cons equals
  obtain ⟨more, rfl, moreAll, openingAgain⟩ := exists_of_dropWhile_eq_cons opening
  have clear : ∀ run : List Char, (∀ character ∈ run, isSpace character = true) → '<' ∉ run := by
    intro run all member
    cases all _ member
  refine ⟨run ++ spaces ++ '=' :: (more ++ quote :: (raw ++ [quote])), ?_, ?_, fun other => ?_⟩
  · simp
  · simp [noBracket, clear spaces spacesAll, clear more moreAll, quoted.ne_bracket.symm,
      quoted.bracketAbsent]
  · apply readAttribute?_eq_some_iff.mpr
    refine ⟨spaces ++ '=' :: (more ++ quote :: (raw ++ quote :: other)), _, quote, ?_,
      equalsAgain _, openingAgain _, quoted⟩
    rw [← List.append_assoc, readName?_append_cons (by decide)] at nameRead
    obtain ⟨⟨found, left⟩, nameOnly, same⟩ := Option.map_eq_some_iff.mp nameRead
    obtain ⟨rfl, leftSame⟩ := Prod.mk.inj same
    have stopped : left = spaces := List.append_cancel_right leftSame
    rw [stopped] at nameOnly
    simp only [List.append_assoc, List.cons_append, List.nil_append]
    rw [← List.append_assoc, readName?_append_cons (by decide), nameOnly, Option.map_some]

/-- No bracket is left behind an attribute that was not there before. -/
theorem skips_readAttribute? {item : WrittenName × List Char}
    (read : readAttribute? text = some (item, rest)) : Skips text rest := by
  obtain ⟨used, whole, noBracket, -⟩ := exists_of_readAttribute? read
  exact ⟨used, whole, noBracket⟩

theorem skips_afterDeclarationSpace? (read : afterDeclarationSpace? text = some rest) :
    Skips text rest := by
  rw [afterDeclarationSpace?] at read
  split at read
  · exact skips_of_dropWhile (by decide) (Option.some.inj read)
  · split at read
    · cases read
      exact .refl text
    · cases read

theorem skips_afterDeclarationPart? {keyword : List Char}
    (read : afterDeclarationPart? keyword text = some rest) : Skips text rest := by
  rw [afterDeclarationPart?] at read
  split at read
  · obtain ⟨⟨item, after⟩, part, space⟩ := Option.bind_eq_some_iff.mp read
    exact (skips_readAttribute? part).trans (skips_afterDeclarationSpace? space)
  · cases read
    exact .refl text

/-- A declaration ends before any opening bracket. -/
theorem skips_afterDeclaration? {opened body : List Char}
    (read : afterDeclaration? (['<', '?', 'x', 'm', 'l', ' '] ++ opened) = some body) :
    Skips opened (['?', '>'] ++ body) := by
  have starts : afterStart? ['<', '?', 'x', 'm', 'l', ' ']
      (['<', '?', 'x', 'm', 'l', ' '] ++ opened) = some opened := afterStart?_eq_some_iff.mpr rfl
  rw [afterDeclaration?, starts] at read
  dsimp only at read
  split at read
  · obtain ⟨afterVersion, version, read⟩ := Option.bind_eq_some_iff.mp read
    obtain ⟨afterEncoding, encoding, read⟩ := Option.bind_eq_some_iff.mp read
    have finish : ∀ {last : List Char},
        afterStart? ['?', '>'] (last.dropWhile isSpace) = some body →
          Skips last (['?', '>'] ++ body) := fun found =>
      skips_of_dropWhile (by decide) (afterStart?_eq_some_iff.mp found)
    have standalone : Skips afterEncoding (['?', '>'] ++ body) := by
      split at read
      · obtain ⟨afterStandalone, part, ends⟩ := Option.bind_eq_some_iff.mp read
        obtain ⟨⟨item, after⟩, found, rfl⟩ := Option.map_eq_some_iff.mp part
        exact (skips_readAttribute? found).trans (finish ends)
      · exact finish read
    have spaces : Skips opened (opened.dropWhile isSpace) := skips_of_dropWhile (by decide) rfl
    exact ((spaces.trans (skips_afterDeclarationPart? version)).trans
      (skips_afterDeclarationPart? encoding)).trans standalone
  · cases read

/-- The content before the first occurrence is the shortest. -/
theorem length_le_of_splitFirst? {closing content after : List Char} (before rest : List Char)
    (found : splitFirst? closing (before ++ closing ++ rest) = some (content, after)) :
    content.length ≤ before.length := by
  induction before generalizing content with
  | nil =>
      rw [endsAt_nil closing rest] at found
      cases found
      exact Nat.le_refl 0
  | cons first more ih =>
      rw [List.cons_append, List.cons_append, splitFirst?] at found
      split at found
      · cases found
        exact Nat.zero_le _
      · obtain ⟨⟨inner, left⟩, step, same⟩ := Option.map_eq_some_iff.mp found
        obtain ⟨rfl, rfl⟩ := Prod.mk.inj same
        exact Nat.succ_le_succ (ih step)

/-- What ends where the next bracket stands is passed over up to that bracket. -/
theorem afterDeclaration?_of_ends {value more body : List Char} (ends : EndsAt ['?', '>'] value)
    (read : afterDeclaration? (['<', '?', 'x', 'm', 'l', ' '] ++
      (value ++ ['?', '>'] ++ '<' :: more)) = some body) : body = '<' :: more := by
  obtain ⟨front, whole, clear⟩ := skips_afterDeclaration? read
  rw [← List.append_assoc] at whole
  have shorter : value.length ≤ front.length :=
    length_le_of_splitFirst? front body (whole ▸ ends ('<' :: more))
  have sides : (value ++ ['?', '>']) ++ '<' :: more = (front ++ ['?', '>']) ++ body := whole
  rcases List.append_eq_append_iff.mp sides with ⟨between, longer, same⟩ | ⟨between, longer, same⟩
  · -- The declaration would hold the bracket behind the value.
    cases between with
    | nil => exact same.symm
    | cons first rest =>
        obtain ⟨rfl, -⟩ := List.cons.inj same
        have member : '<' ∈ front ++ ['?', '>'] := longer ▸ by simp
        simp [clear] at member
  · have lengths := congrArg List.length longer
    simp only [List.length_append, List.length_cons, List.length_nil] at lengths
    have none : between = [] := List.length_eq_zero_iff.mp (by omega)
    rw [same, none, List.nil_append]

/-! ### What follows a declaration -/

/-- What the reader leaves of a text does not depend on what stands behind an
opening bracket. -/
def Bounded (read : List Char → Option (List Char)) : Prop :=
  ∀ front, ∃ left : Option (List Char), ∀ rest,
    read (front ++ '<' :: rest) = left.map (· ++ '<' :: rest)

/-- What the test says does not depend on what stands behind an opening
bracket. -/
def Decided (test : List Char → Bool) : Prop :=
  ∀ front, ∃ answer, ∀ rest, test (front ++ '<' :: rest) = answer

namespace Bounded

variable {first second : List Char → Option (List Char)}

/-- Two bounded readers in a row are bounded. -/
theorem bind (firstBounded : Bounded first) (secondBounded : Bounded second) :
    Bounded fun text => (first text).bind second := by
  intro front
  obtain ⟨middle, readFirst⟩ := firstBounded front
  cases middle with
  | none =>
      refine ⟨none, fun rest => ?_⟩
      dsimp only
      rw [readFirst]
      rfl
  | some middle =>
      obtain ⟨left, readSecond⟩ := secondBounded middle
      refine ⟨left, fun rest => ?_⟩
      dsimp only
      rw [readFirst, Option.map_some, Option.bind_some, readSecond]

/-- A reader that chooses between bounded ones is bounded when the choice is. -/
theorem ite {test : List Char → Bool} (firstBounded : Bounded first)
    (decided : Decided test) (secondBounded : Bounded second) :
    Bounded fun text => if test text then first text else second text := by
  intro front
  obtain ⟨answer, same⟩ := decided front
  simp only [same]
  cases answer with
  | true => exact firstBounded front
  | false => exact secondBounded front

end Bounded

theorem bounded_some : Bounded some :=
  fun front => ⟨some front, fun _ => rfl⟩

theorem bounded_none : Bounded fun _ => none :=
  fun _ => ⟨none, fun _ => rfl⟩

theorem bounded_dropWhile {p : Char → Bool} (other : p '<' = false) :
    Bounded fun text => some (text.dropWhile p) :=
  fun front => ⟨some (front.dropWhile p), fun rest =>
    congrArg some (dropWhile_append_cons front rest other)⟩

theorem bounded_afterStart? {wanted : List Char} (absent : '<' ∉ wanted) :
    Bounded (afterStart? wanted) :=
  fun front => ⟨afterStart? wanted front, fun _ => afterStart?_append_cons absent⟩

/-- Whether a text has such a start is decided before a bracket. -/
theorem decided_afterStart? {wanted : List Char} (absent : '<' ∉ wanted) :
    Decided fun text => (afterStart? wanted text).isSome := by
  intro front
  refine ⟨(afterStart? wanted front).isSome, fun rest => ?_⟩
  dsimp only
  rw [afterStart?_append_cons absent, Option.isSome_map]

theorem bounded_readAttribute? : Bounded fun text => (readAttribute? text).map Prod.snd := by
  intro front
  by_cases readable : ∃ rest item left, readAttribute? (front ++ '<' :: rest) = some (item, left)
  · obtain ⟨rest, item, left, read⟩ := readable
    obtain ⟨used, whole, noBracket, again⟩ := exists_of_readAttribute? read
    obtain ⟨gap, rfl⟩ := (Text.prefix_append_cons_iff noBracket).mp ⟨left, whole.symm⟩
    refine ⟨some gap, fun other => ?_⟩
    dsimp only
    rw [List.append_assoc, again, Option.map_some, Option.map_some]
  · refine ⟨none, fun rest => ?_⟩
    rw [Option.map_none, Option.map_eq_none_iff, Option.eq_none_iff_forall_ne_some]
    rintro ⟨item, left⟩ read
    exact readable ⟨rest, item, left, read⟩

theorem bounded_afterDeclarationSpace? : Bounded afterDeclarationSpace? := by
  refine (bounded_dropWhile (by decide)).ite (fun front => ?_)
    (bounded_some.ite (fun front => ?_) bounded_none)
  · cases front with
    | nil => exact ⟨false, fun _ => rfl⟩
    | cons first more => exact ⟨isSpace first, fun _ => rfl⟩
  · have absent : '<' ∉ ['?', '>'] := by decide
    obtain ⟨answer, same⟩ := decided_afterStart? absent front
    refine ⟨answer, fun rest => ?_⟩
    rw [← same rest]
    simp

theorem bounded_afterDeclarationPart? {keyword : List Char} (absent : '<' ∉ keyword) :
    Bounded (afterDeclarationPart? keyword) := by
  have part := bounded_readAttribute?.bind bounded_afterDeclarationSpace?
  simp only [Option.bind_map] at part
  exact part.ite (decided_afterStart? absent) bounded_some

/-- The declaration of a document ends before any bracket behind its own. -/
theorem bounded_afterDeclaration? :
    Bounded fun opened => afterDeclaration? (['<', '?', 'x', 'm', 'l', ' '] ++ opened) := by
  have spaces : Bounded fun text => some (text.dropWhile isSpace) := bounded_dropWhile (by decide)
  have version : Bounded (afterDeclarationPart? "version".toList) :=
    bounded_afterDeclarationPart? (by decide)
  have encoding : Bounded (afterDeclarationPart? "encoding".toList) :=
    bounded_afterDeclarationPart? (by decide)
  have last : Bounded fun text => afterStart? ['?', '>'] (text.dropWhile isSpace) :=
    spaces.bind (bounded_afterStart? (by decide))
  have standalone : Decided fun text => (afterStart? "standalone".toList text).isSome :=
    decided_afterStart? (by decide)
  have named : Decided fun text => (afterStart? "version".toList text).isSome :=
    decided_afterStart? (by decide)
  have ending := (bounded_readAttribute?.bind last).ite standalone last
  have parts := version.bind (encoding.bind ending)
  exact spaces.bind (parts.ite named bounded_none)

end IssueSync.Xml
