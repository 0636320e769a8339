import IssueSync.Files.Directory

/-! # Directories that differ in one file

Writing opens a file and leaves in it what the file takes (`Directory.write_eq`). A
file that took everything is found again at its path, with what was written
(`Directory.read_of_write`): the folders on the way to it are still there. Where
two directories hold the same but at one location, where neither has a folder, a
path leads to the same place in both, or in both nowhere (`Directory.SameBut.locate`).
-/

namespace IssueSync.Files

namespace Conditions

variable {conditions : Conditions} {location : Location} {content : ByteArray}

/-- What is granted is not refused. -/
theorem grant_eq_ok_iff {Result : Type} {access : Access} {result given : Result} :
    conditions.grant access location result = .ok given ↔
      conditions.refuses? access location = none ∧ result = given := by
  rw [grant]
  cases conditions.refuses? access location with
  | some fault => simp
  | none => simp

/-- A file that takes content without fault takes all of it. -/
theorem take_of_ok (took : (conditions.take location content).1 = .ok ()) :
    conditions.take location content = (.ok (), content) := by
  rw [take] at took ⊢
  split at took
  · split at took
    · cases took
    · next fits => exact if_neg fits
  · rfl

end Conditions

namespace Directory

variable {directory after first second : Directory} {location other start : Location}
  {content : ByteArray} {path : Path} {segments : List SystemText}

/-! ### A file that was set -/

/-- The file that was set is there. -/
theorem kindAt?_setFile_self :
    (directory.setFile location content).kindAt? location = some (.file content) := by
  rw [kindAt?, setFile, List.lookup_cons, beq_self_eq_true]

/-- Taking away one file leaves the others to be found. -/
theorem lookup_filter_ne (files : List (Location × ByteArray)) (different : other ≠ location) :
    (files.filter fun file => file.1 ≠ location).lookup other = files.lookup other := by
  induction files with
  | nil => rfl
  | cons file rest ih =>
      obtain ⟨place, stored⟩ := file
      rw [List.filter_cons]
      by_cases replaced : place = location
      · have notOther : (other == place) = false := beq_false_of_ne (replaced ▸ different)
        rw [if_neg (by simp [replaced]), ih, List.lookup_cons, notOther]
      · rw [if_pos (by simp [replaced]), List.lookup_cons, List.lookup_cons, ih]

/-- Files that were replaced stand where the new one does. -/
theorem any_isBelow_setFile :
    (directory.setFile location content).files.any (fun file => file.1.isBelow other) =
      (location.isBelow other || directory.files.any fun file => file.1.isBelow other) := by
  rw [setFile, List.any_cons, Bool.eq_iff_iff, Bool.or_eq_true, Bool.or_eq_true, List.any_eq_true,
    List.any_eq_true]
  constructor
  · rintro (below | ⟨file, kept, below⟩)
    · exact .inl below
    · exact .inr ⟨file, (List.mem_filter.mp kept).1, below⟩
  · rintro (below | ⟨file, listed, below⟩)
    · exact .inl below
    · by_cases replaced : file.1 = location
      · exact .inl (replaced ▸ below)
      · exact .inr ⟨file, List.mem_filter.mpr ⟨listed, by simpa using replaced⟩, below⟩

/-- Elsewhere a new file changes nothing, when there were folders around it. -/
theorem kindAt?_setFile_of_ne (different : other ≠ location)
    (around : location.isBelow other = true → (directory.kindAt? other).isSome) :
    (directory.setFile location content).kindAt? other = directory.kindAt? other := by
  have lookup : (directory.setFile location content).files.lookup other =
      directory.files.lookup other := by
    rw [setFile, List.lookup_cons, beq_false_of_ne different]
    exact lookup_filter_ne directory.files different
  rw [kindAt?, kindAt?, lookup, any_isBelow_setFile]
  rw [kindAt?] at around
  cases found : directory.files.lookup other with
  | some stored => rfl
  | none =>
      rw [found] at around
      cases below : location.isBelow other with
      | false => rfl
      | true =>
          have there := around below
          dsimp only at there ⊢
          split at there
          · next holds =>
              rw [if_pos holds, if_pos]
              simp [setFile]
          · cases there

/-- A file that was set takes the place of one that was set before. -/
theorem setFile_setFile (directory : Directory) (location : Location)
    (first second : ByteArray) :
    (directory.setFile location first).setFile location second =
      directory.setFile location second := by
  simp [setFile, List.filter_filter]

/-- A walk that leads somewhere leads through folders. -/
theorem walk_cons_eq_ok {segment : SystemText} {target : Location}
    (leads : directory.walk start (segment :: segments) = .ok target) :
    directory.kindAt? start = some .folder ∧ ∃ next,
      directory.lookUp start segment = .ok next ∧ directory.walk next segments = .ok target := by
  rw [walk] at leads
  split at leads
  · cases leads
  · cases leads
  · next folder =>
      split at leads
      · cases leads
      · next found => exact ⟨folder, _, found, leads⟩

/-- From a folder the walk goes on where the next segment leads. -/
theorem walk_of_folder {segment : SystemText} {next : Location}
    (folder : directory.kindAt? start = some .folder)
    (found : directory.lookUp start segment = .ok next) :
    directory.walk start (segment :: segments) = directory.walk next segments := by
  rw [walk, folder]
  dsimp only
  rw [found]

/-- Only folders can be passed through. -/
theorem exists_error_of_walk {segment : SystemText}
    (noFolder : directory.kindAt? start ≠ some .folder) :
    ∃ fault, directory.walk start (segment :: segments) = .error fault := by
  cases outcome : directory.walk start (segment :: segments) with
  | error fault => exact ⟨fault, rfl⟩
  | ok target => exact absurd (walk_cons_eq_ok outcome).1 noFolder

/-- What a segment leads to depends on permission alone. -/
theorem lookUp_congr (same : first.conditions = second.conditions) (folder : Location)
    (segment : SystemText) : first.lookUp folder segment = second.lookUp folder segment := by
  rw [lookUp, lookUp, same]

/-- A name leads to the location that it is entered at. -/
theorem eq_enter_of_lookUp {folder next : Location} {segment : SystemText}
    (found : directory.lookUp folder segment = .ok next) : next = folder.enter segment := by
  rw [lookUp] at found
  split at found
  · next empty =>
      cases found
      rw [Location.enter, if_pos (.inl empty)]
  · split at found
    · cases found
    · split at found
      · cases found
      · cases found
        rfl

/-- A walk does not lead through the place of a file, so setting one there leaves it
as it was. -/
theorem walk_setFile {target : Location} (noFolder : directory.kindAt? location ≠ some .folder)
    (leads : directory.walk start segments = .ok target) :
    (directory.setFile location content).walk start segments = .ok target := by
  induction segments generalizing start with
  | nil => exact leads
  | cons segment rest ih =>
      obtain ⟨folder, next, found, onward⟩ := walk_cons_eq_ok leads
      have different : start ≠ location := fun same => noFolder (same ▸ folder)
      have kept : (directory.setFile location content).kindAt? start = some .folder := by
        rw [kindAt?_setFile_of_ne different fun _ => by rw [folder]; rfl, folder]
      rw [walk_of_folder kept found]
      exact ih onward

/-- A path that leads somewhere still does after a file was set where no folder was. -/
theorem locate_setFile {target : Location} (noFolder : directory.kindAt? location ≠ some .folder)
    (leads : directory.locate path = .ok target) :
    (directory.setFile location content).locate path = .ok target := by
  rw [locate] at leads ⊢
  split at leads
  · cases leads
  · exact walk_setFile noFolder leads

/-! ### Writing -/

/-- A file that can be written is looked up where it is written. -/
theorem locate_of_locateFile (leads : directory.locateFile path = .ok location) :
    directory.locate path = .ok location := by
  rw [locateFile] at leads
  split at leads
  · split at leads
    · cases leads
    · cases leads
  · exact leads

/-- A file is opened for writing where its path leads and no folder stands. -/
theorem locateFile_of_openFile (opens : directory.openFile path = .ok location) :
    directory.locateFile path = .ok location ∧ directory.kindAt? location ≠ some .folder := by
  rw [openFile] at opens
  cases leads : directory.locateFile path with
  | error fault =>
      rw [leads] at opens
      cases opens
  | ok target =>
      rw [leads] at opens
      dsimp only at opens
      split at opens
      · cases opens
      · next content holds =>
          obtain ⟨-, rfl⟩ := Conditions.grant_eq_ok_iff.mp opens
          exact ⟨rfl, by rw [holds]; nofun⟩
      · next missing =>
          obtain ⟨-, rfl⟩ := Conditions.grant_eq_ok_iff.mp opens
          exact ⟨rfl, by rw [missing]; nofun⟩

/-- **Writing.** Where a file cannot be opened nothing happens; one that was opened holds
what it took. -/
theorem write_eq (directory : Directory) (path : Path) (content : ByteArray) :
    directory.write path content =
      match directory.openFile path with
      | .error fault => (.error fault, directory)
      | .ok location =>
          ((directory.conditions.take location content).1,
            directory.setFile location (directory.conditions.take location content).2) := by
  rw [write]
  cases directory.openFile path with
  | error fault => rfl
  | ok location => simp only [setFile_setFile]

/-- Content was written when a file was opened and took everything. -/
theorem write_eq_ok_iff :
    directory.write path content = (.ok (), after) ↔
      ∃ location, directory.openFile path = .ok location ∧
        directory.conditions.take location content = (.ok (), content) ∧
        after = directory.setFile location content := by
  rw [write_eq]
  cases directory.openFile path with
  | error fault => simp
  | ok location =>
      simp only [Prod.mk.injEq, Except.ok.injEq, exists_eq_left']
      constructor
      · rintro ⟨took, rfl⟩
        have all := Conditions.take_of_ok took
        exact ⟨all, by rw [all]⟩
      · rintro ⟨took, rfl⟩
        rw [took]
        exact ⟨rfl, rfl⟩

/-- What was written is there, and is read unless reading is refused. -/
theorem read_of_write (written : directory.write path content = (.ok (), after))
    (readable : ∀ location, directory.openFile path = .ok location →
      directory.conditions.refuses? .read location = none) :
    after.has path = true ∧ after.read path = .ok content := by
  obtain ⟨location, opens, -, rfl⟩ := write_eq_ok_iff.mp written
  obtain ⟨leads, noFolder⟩ := locateFile_of_openFile opens
  have found : (directory.setFile location content).locate path = .ok location :=
    locate_setFile noFolder (locate_of_locateFile leads)
  have granted : (directory.setFile location content).conditions.refuses? .read location = none :=
    readable location opens
  rw [has, find?, read, found]
  dsimp only
  rw [kindAt?_setFile_self]
  exact ⟨rfl, Conditions.grant_eq_ok_iff.mpr ⟨granted, rfl⟩⟩

/-- A file that was read is where its path leads, and may be read. -/
theorem exists_kindAt?_of_read (found : directory.read path = .ok content) :
    ∃ location, directory.locate path = .ok location ∧
      directory.kindAt? location = some (.file content) ∧
      directory.conditions.refuses? .read location = none := by
  rw [read] at found
  cases leads : directory.locate path with
  | error fault =>
      rw [leads] at found
      cases found
  | ok location =>
      rw [leads] at found
      dsimp only at found
      split at found
      · cases found
      · next standing =>
          obtain ⟨readable, rfl⟩ := Conditions.grant_eq_ok_iff.mp found
          exact ⟨location, rfl, standing, readable⟩
      · split at found
        · cases found
        · cases found

/-- What can be read is a file. -/
theorem kindAt?_of_read (leads : directory.locate path = .ok location)
    (found : directory.read path = .ok content) :
    directory.kindAt? location = some (.file content) := by
  obtain ⟨other, otherLeads, holds, -⟩ := exists_kindAt?_of_read found
  cases leads.symm.trans otherLeads
  exact holds

/-! ### Two directories -/

/-- The directories can be used alike, and they hold the same everywhere but at one
location. -/
structure SameBut (location : Location) (first second : Directory) : Prop where
  working : first.working = second.working
  conditions : first.conditions = second.conditions
  kinds : ∀ other, other ≠ location → first.kindAt? other = second.kindAt? other

/-- Setting a file changes a directory at one location, when there were folders
around it. -/
theorem sameBut_setFile (around : ∀ other, location.isBelow other = true →
    (directory.kindAt? other).isSome) (content : ByteArray) :
    SameBut location (directory.setFile location content) directory :=
  ⟨rfl, rfl, fun other different => kindAt?_setFile_of_ne different (around other)⟩

/-- Either the outcomes are the same or both are errors. -/
def EqualOrFail {Error Result : Type} (first second : Except Error Result) : Prop :=
  first = second ∨ (∃ error, first = .error error) ∧ ∃ error, second = .error error

namespace SameBut

variable (same : SameBut location first second)
  (firstNoFolder : first.kindAt? location ≠ some .folder)
  (secondNoFolder : second.kindAt? location ≠ some .folder)

include same firstNoFolder secondNoFolder

/-- A walk that comes through the location fails there. -/
theorem walk (segments : List SystemText) (start : Location) :
    EqualOrFail (first.walk start segments) (second.walk start segments) := by
  induction segments generalizing start with
  | nil => exact .inl rfl
  | cons segment rest ih =>
      by_cases here : start = location
      · rw [here]
        exact .inr ⟨exists_error_of_walk firstNoFolder, exists_error_of_walk secondNoFolder⟩
      · rw [Directory.walk, Directory.walk, same.kinds start here,
          lookUp_congr same.conditions start segment]
        split
        · exact .inl rfl
        · exact .inl rfl
        · split
          · exact .inl rfl
          · exact ih _

/-- A path leads to the same location in both, or nowhere. -/
theorem locate (path : Path) : EqualOrFail (first.locate path) (second.locate path) := by
  rw [Directory.locate, Directory.locate, same.working]
  split
  · exact .inl rfl
  · exact same.walk firstNoFolder secondNoFolder _ _

/-- A file that is not read as the same in both is the one at the location. -/
theorem read (path : Path) :
    first.read path = second.read path ∨
      (∀ content, first.read path = .ok content →
          first.kindAt? location = some (.file content)) ∧
        ∀ content, second.read path = .ok content →
          second.kindAt? location = some (.file content) := by
  rcases same.locate firstNoFolder secondNoFolder path with
    leads | ⟨⟨fault, fails⟩, ⟨otherFault, otherFails⟩⟩
  · cases found : second.locate path with
    | error fault =>
        left
        rw [Directory.read, Directory.read, leads, found]
    | ok target =>
        rw [found] at leads
        by_cases here : target = location
        · right
          exact ⟨fun content => kindAt?_of_read (here ▸ leads),
            fun content => kindAt?_of_read (here ▸ found)⟩
        · left
          rw [Directory.read, Directory.read, leads, found]
          dsimp only
          rw [same.kinds target here, same.conditions]
  · right
    rw [Directory.read, Directory.read, fails, otherFails]
    exact ⟨nofun, nofun⟩

end SameBut

end Directory

end IssueSync.Files
