import DriverKit.Disk.Change
import DriverKit.Proofs.Outcome
import Mathlib.Data.List.Induction
import Mathlib.Tactic.ByContra

/-!
# Disks as trees

On a disk that is a tree everything lies in a directory. Making directories and putting files in
place keep it so, and they change nothing but the places that they are about: what else is on the
disk stays, and every path that led somewhere leads there still.
-/

namespace DriverKit

/-! ## Places -/

namespace Place

theorem directory_child (directory : Place) (name : String) :
    (directory.child name).directory = directory := by
  simp [Place.directory, child]

theorem directory_of_names_eq_append {place : Place} {names : List String} {name : String}
    (same : place.names = names ++ [name]) : place.directory = ⟨names⟩ := by
  rw [Place.directory, same, List.dropLast_concat]

theorem child_inj {directory other : Place} {name otherName : String} :
    directory.child name = other.child otherName ↔ directory = other ∧ name = otherName := by
  cases directory
  cases other
  simp [child]

/-- A place lies in a tree when its names lead on from those of the top. -/
theorem isWithin_iff {place top : Place} :
    place.isWithin top = true ↔ ∃ suffix, place = ⟨top.names ++ suffix⟩ := by
  obtain ⟨names⟩ := place
  rw [isWithin, List.isPrefixOf_iff_prefix]
  constructor
  · rintro ⟨suffix, sameNames⟩
    exact ⟨suffix, by rw [sameNames]⟩
  · rintro ⟨suffix, same⟩
    exact ⟨suffix, (congrArg Place.names same).symm⟩

/-- What lies in a tree lies in every tree around it. -/
theorem isWithin_directory {place top : Place} (within : place.isWithin top = true) :
    place.isWithin top.directory = true := by
  rw [isWithin, List.isPrefixOf_iff_prefix] at within ⊢
  exact (List.dropLast_prefix top.names).trans within

end Place

namespace Disk

/-! ## Trees -/

/-- Everything on the disk lies in a directory. -/
def IsTree (disk : Disk) : Prop :=
  ∀ place, disk.at? place ≠ none → disk.at? place.directory = some .directory

/-- The working directory is there, and so are the directories above it. -/
theorem at?_of_above {disk : Disk} {place : Place}
    (above : disk.workingDirectory.isWithin place = true) : disk.at? place = some .directory := by
  rw [at?, if_pos above]

theorem at?_of_not_above {disk : Disk} {place : Place}
    (notAbove : disk.workingDirectory.isWithin place = false) :
    disk.at? place = disk.entries.lookup place := by
  rw [at?, notAbove]
  rfl

theorem not_above {disk : Disk} {place : Place} (other : disk.at? place ≠ some .directory) :
    disk.workingDirectory.isWithin place = false :=
  Bool.eq_false_iff.mpr fun above => other (at?_of_above above)

theorem at?_start (disk : Disk) (anchor : Anchor) :
    disk.at? (.start disk.workingDirectory anchor) = some .directory := by
  apply at?_of_above
  cases anchor with
  | here => exact Place.isWithin_iff.mpr ⟨[], by simp [Place.start]⟩
  | root => rfl
  | doubleRoot => rfl

theorem mem_of_lookup {α β : Type} [BEq α] [LawfulBEq α] {entries : List (α × β)} {key : α}
    {value : β} (found : entries.lookup key = some value) : (key, value) ∈ entries := by
  obtain ⟨before, after, same, _⟩ := List.lookup_eq_some_iff.mp found
  rw [same]
  simp

/-- A disk is a tree if every one of its entries lies in a directory. -/
theorem isTree_of_entries {disk : Disk}
    (within : ∀ entry ∈ disk.entries, disk.at? entry.1.directory = some .directory) :
    disk.IsTree := by
  intro place present
  cases above : disk.workingDirectory.isWithin place with
  | true => exact at?_of_above (Place.isWithin_directory above)
  | false =>
      rw [at?_of_not_above above] at present
      obtain ⟨entry, found⟩ := Option.ne_none_iff_exists'.mp present
      exact within _ (mem_of_lookup found)

/-- On a tree there is something within a place only if a directory is there. -/
theorem at?_append {disk : Disk} (tree : disk.IsTree) {names : List String} :
    ∀ {suffix : List String},
      suffix ≠ [] → disk.at? ⟨names ++ suffix⟩ ≠ none → disk.at? ⟨names⟩ = some .directory := by
  intro suffix
  induction suffix using List.reverseRecOn with
  | nil => exact fun nonempty => absurd rfl nonempty
  | append_singleton front last inductionHypothesis =>
      intro _ present
      have lower : (⟨names ++ (front ++ [last])⟩ : Place).directory = ⟨names ++ front⟩ :=
        Place.directory_of_names_eq_append (List.append_assoc names front [last]).symm
      have above := tree _ present
      rw [lower] at above
      by_cases empty : front = []
      · simpa [empty] using above
      · exact inductionHypothesis empty (by simp [above])

/-- What is within a place where no directory is: nothing but the place itself. -/
theorem at?_of_isWithin {disk : Disk} (tree : disk.IsTree) {place other : Place}
    (notDirectory : disk.at? place ≠ some .directory) (within : other.isWithin place = true)
    (different : other ≠ place) : disk.at? other = none := by
  obtain ⟨suffix, same⟩ := Place.isWithin_iff.mp within
  by_contra present
  have nonempty : suffix ≠ [] := by
    rintro rfl
    exact different (by rw [same, List.append_nil])
  rw [same] at present
  exact notDirectory (at?_append tree nonempty present)

/-! ## Putting an entry in place -/

theorem lookup_filter {α β : Type} [BEq α] [LawfulBEq α] (keep : α → Bool) (key : α)
    (entries : List (α × β)) :
    (entries.filter fun entry => keep entry.1).lookup key
      = if keep key then entries.lookup key else none := by
  induction entries with
  | nil => simp
  | cons entry rest inductionHypothesis =>
      obtain ⟨other, value⟩ := entry
      by_cases same : key = other
      · subst same
        by_cases kept : keep key
        · simp [kept]
        · simp [kept, inductionHypothesis]
      · have different : (key == other) = false := beq_eq_false_iff_ne.mpr same
        by_cases kept : keep other
        · simp [List.lookup_cons, kept, different, inductionHypothesis]
        · simp [List.lookup_cons, kept, different, inductionHypothesis]

/-- Putting an entry in a place where no directory is changes what is there and nothing else. -/
theorem at?_put {disk : Disk} (tree : disk.IsTree) {place : Place} {entry : Entry}
    (notDirectory : disk.at? place ≠ some .directory) (other : Place) :
    (disk.put place entry).at? other = if other = place then some entry else disk.at? other := by
  have placeNotAbove := not_above notDirectory
  have putNotAbove {inner : Place} (notAbove : disk.workingDirectory.isWithin inner = false) :
      (disk.put place entry).at? inner = (disk.put place entry).entries.lookup inner :=
    at?_of_not_above notAbove
  cases above : disk.workingDirectory.isWithin other with
  | true =>
      have different : other ≠ place := by
        rintro rfl
        rw [placeNotAbove] at above
        cases above
      have stays : (disk.put place entry).at? other = some .directory := at?_of_above above
      rw [stays, if_neg different, at?_of_above above]
  | false =>
      by_cases same : other = place
      · rw [putNotAbove above, if_pos same, put, same, List.lookup_cons_self]
      · have notKey : (other == place) = false := beq_eq_false_iff_ne.mpr same
        have kept := lookup_filter (fun inner => !inner.isWithin place) other disk.entries
        rw [putNotAbove above, if_neg same, put, List.lookup_cons, notKey]
        simp only [kept]
        by_cases within : other.isWithin place = true
        · simp [within, at?_of_isWithin tree notDirectory within same]
        · simp [within, at?_of_not_above above]

theorem isTree_put {disk : Disk} (tree : disk.IsTree) {place : Place} {entry : Entry}
    (notDirectory : disk.at? place ≠ some .directory)
    (parent : disk.at? place.directory = some .directory) : (disk.put place entry).IsTree := by
  intro other present
  rw [at?_put tree notDirectory] at present ⊢
  have above : disk.at? other.directory = some .directory := by
    by_cases same : other = place
    · rw [same]
      exact parent
    · rw [if_neg same] at present
      exact tree other present
  have different : other.directory ≠ place := by
    intro same
    rw [same] at above
    exact notDirectory above
  rw [if_neg different, above]

/-! ## Paths on growing disks -/

/-- Every directory of a disk is one of another disk as well, and relative paths start from the same
one. -/
structure KeepsDirectories (before after : Disk) : Prop where
  workingDirectory : after.workingDirectory = before.workingDirectory
  directories : ∀ place, before.at? place = some .directory → after.at? place = some .directory

theorem keepsDirectories_put {disk : Disk} (tree : disk.IsTree) {place : Place} {entry : Entry}
    (notDirectory : disk.at? place ≠ some .directory) :
    disk.KeepsDirectories (disk.put place entry) where
  workingDirectory := rfl
  directories := by
    intro other isDirectory
    have different : other ≠ place := fun same => notDirectory (same ▸ isDirectory)
    rw [at?_put tree notDirectory, if_neg different, isDirectory]

theorem follow_cons_eq_ok_iff {disk : Disk} {start place : Place} {step : String}
    {rest : List String} :
    disk.follow start (step :: rest) = .ok place ↔
      disk.at? start = some .directory ∧ step.utf8ByteSize ≤ nameLimit ∧
        disk.follow (start.follow step) rest = .ok place := by
  rw [follow]
  constructor
  · intro followed
    split at followed
    · rename_i here
      split at followed
      · cases followed
      · exact ⟨here, by omega, followed⟩
    · cases followed
    · cases followed
  · rintro ⟨here, short, followed⟩
    have notOverlong : ¬ nameLimit < step.utf8ByteSize := by omega
    rw [here]
    simp only [notOverlong, if_false]
    exact followed

theorem place_eq_ok_iff {disk : Disk} {path : Path} {place : Place} :
    disk.place path = .ok place ↔
      path.isNameable = true ∧ path.text.utf8ByteSize ≤ pathLimit ∧
        disk.follow (.start disk.workingDirectory path.anchor) path.steps = .ok place := by
  unfold Disk.place
  constructor
  · intro found
    split at found
    · cases found
    · rename_i nameable
      split at found
      · cases found
      · exact ⟨by simpa using nameable, by omega, found⟩
  · rintro ⟨nameable, short, followed⟩
    have notOverlong : ¬ pathLimit < path.text.utf8ByteSize := by omega
    simp only [nameable, notOverlong, Bool.not_true, Bool.false_eq_true, if_false]
    exact followed

theorem follow_of_keepsDirectories {before after : Disk} (keeps : before.KeepsDirectories after) :
    ∀ {steps : List String} {start place : Place},
      before.follow start steps = .ok place → after.follow start steps = .ok place
  | [], _, _, followed => followed
  | _ :: _, start, _, followed => by
      obtain ⟨here, short, later⟩ := follow_cons_eq_ok_iff.mp followed
      have laterAfter := follow_of_keepsDirectories keeps later
      exact follow_cons_eq_ok_iff.mpr ⟨keeps.directories start here, short, laterAfter⟩

theorem place_of_keepsDirectories {before after : Disk} (keeps : before.KeepsDirectories after)
    {path : Path} {place : Place} (found : before.place path = .ok place) :
    after.place path = .ok place := by
  obtain ⟨nameable, short, followed⟩ := place_eq_ok_iff.mp found
  refine place_eq_ok_iff.mpr ⟨nameable, short, ?_⟩
  rw [keeps.workingDirectory]
  exact follow_of_keepsDirectories keeps followed

/-- The place that a path leads to if every one of its steps can be taken. -/
def destination (disk : Disk) (path : Path) : Place :=
  path.destination disk.workingDirectory

theorem KeepsDirectories.destination {before after : Disk} (keeps : before.KeepsDirectories after)
    (path : Path) : after.destination path = before.destination path := by
  rw [Disk.destination, Disk.destination, keeps.workingDirectory]

theorem eq_foldl_of_follow {disk : Disk} :
    ∀ {steps : List String} {start place : Place},
      disk.follow start steps = .ok place → place = steps.foldl Place.follow start
  | [], _, _, followed => by
      cases followed
      rfl
  | step :: rest, start, place, followed => by
      obtain ⟨_, _, later⟩ := follow_cons_eq_ok_iff.mp followed
      rw [List.foldl_cons]
      exact eq_foldl_of_follow later

theorem eq_destination_of_place {disk : Disk} {path : Path} {place : Place}
    (found : disk.place path = .ok place) : place = disk.destination path :=
  eq_foldl_of_follow (place_eq_ok_iff.mp found).2.2

/-- A step from a directory leads to a place that lies in a directory, or back to one. -/
theorem directory_of_step {disk : Disk} (tree : disk.IsTree) {start : Place}
    (here : disk.at? start = some .directory) (step : String) :
    disk.at? (start.follow step) = some .directory ∨
      disk.at? (start.follow step).directory = some .directory := by
  unfold Place.follow
  split
  · exact Or.inl (tree start (by simp [here]))
  · right
    rw [Place.directory_child]
    exact here

/-- What steps lead to is a directory, or lies in one. -/
theorem directory_of_follow {disk : Disk} (tree : disk.IsTree) :
    ∀ {steps : List String} {start place : Place},
      (disk.at? start = some .directory ∨ disk.at? start.directory = some .directory) →
        disk.follow start steps = .ok place →
          disk.at? place = some .directory ∨ disk.at? place.directory = some .directory
  | [], _, _, begun, followed => by
      cases followed
      exact begun
  | step :: rest, start, place, _, followed => by
      obtain ⟨here, _, later⟩ := follow_cons_eq_ok_iff.mp followed
      exact directory_of_follow tree (directory_of_step tree here step) later

/-- A place that a path leads to lies in a directory, unless it is one. -/
theorem directory_of_place {disk : Disk} (tree : disk.IsTree) {path : Path} {place : Place}
    (found : disk.place path = .ok place) (notDirectory : disk.at? place ≠ some .directory) :
    disk.at? place.directory = some .directory := by
  obtain ⟨_, _, followed⟩ := place_eq_ok_iff.mp found
  rcases directory_of_follow tree (Or.inl (at?_start disk path.anchor)) followed with isOne | above
  · exact absurd isOne notDirectory
  · exact above

/-! ## Asking for paths -/

theorem exists_of_entry {disk : Disk} {path : Path} {entry : Entry}
    (found : disk.entry? path = .ok (some entry)) :
    ∃ place, disk.place path = .ok place ∧ disk.at? place = some entry := by
  unfold entry? at found
  split at found
  · rename_i place leads
    exact ⟨place, leads, Except.ok.inj found⟩
  · cases found
  · cases found

theorem contains_of_entry {disk : Disk} {path : Path} {entry : Option Entry}
    (found : disk.entry? path = .ok entry) : disk.contains path = .ok entry.isSome := by
  rw [contains, found]
  rfl

theorem isDirectory_of_entry {disk : Disk} {path : Path} {entry : Option Entry}
    (found : disk.entry? path = .ok entry) :
    disk.isDirectory path = .ok (entry.any Entry.isDirectory) := by
  rw [isDirectory, found]
  rfl

theorem entry_of_place {disk : Disk} {path : Path} {place : Place}
    (leads : disk.place path = .ok place) : disk.entry? path = .ok (disk.at? place) := by
  simp only [leads, entry?]

theorem isDirectory_eq_true_iff {disk : Disk} {path : Path} :
    disk.isDirectory path = .ok true ↔
      ∃ place, disk.place path = .ok place ∧ disk.at? place = some .directory := by
  constructor
  · intro isThere
    cases asked : disk.entry? path with
    | error fault =>
        rw [isDirectory, asked] at isThere
        cases isThere
    | ok entry =>
        rw [isDirectory_of_entry asked] at isThere
        cases entry with
        | none => cases isThere
        | some entry =>
            cases entry with
            | directory => exact exists_of_entry asked
            | file bytes => cases isThere
  · rintro ⟨place, leads, here⟩
    rw [isDirectory_of_entry (entry_of_place leads), here]
    rfl

/-- The host refuses to be asked for a directory only where a name or the path is too long. -/
theorem entry_eq_error_iff {disk : Disk} {path : Path} {fault : HostFault} :
    disk.entry? path = .error fault ↔
      disk.place path = .error .overlong ∧ fault = .overlong path.text := by
  unfold entry?
  cases disk.place path with
  | ok place => simp
  | error obstacle => cases obstacle <;> simp [eq_comm]

theorem isDirectory_eq_error_iff {disk : Disk} {path : Path} {fault : HostFault} :
    disk.isDirectory path = .error fault ↔
      disk.place path = .error .overlong ∧ fault = .overlong path.text := by
  rw [isDirectory, map_eq_error_iff, entry_eq_error_iff]

theorem isFile_eq_error_iff {disk : Disk} {path : Path} {fault : HostFault} :
    disk.isFile path = .error fault ↔
      disk.place path = .error .overlong ∧ fault = .overlong path.text := by
  rw [isFile, map_eq_error_iff, entry_eq_error_iff]

theorem isDirectory_of_keepsDirectories {disk other : Disk} (keeps : disk.KeepsDirectories other)
    {path : Path} (isThere : disk.isDirectory path = .ok true) :
    other.isDirectory path = .ok true := by
  obtain ⟨place, found, here⟩ := isDirectory_eq_true_iff.mp isThere
  exact isDirectory_eq_true_iff.mpr
    ⟨place, place_of_keepsDirectories keeps found, keeps.directories _ here⟩

theorem exists_of_read {disk : Disk} {path : Path} {bytes : ByteArray}
    (found : disk.read path = .ok bytes) :
    ∃ place, disk.place path = .ok place ∧ disk.at? place = some (.file bytes) := by
  unfold read at found
  split at found
  · cases found
  · rename_i place leads
    split at found
    · rename_i isFile
      cases found
      exact ⟨place, leads, isFile⟩
    · cases found
    · cases found

end Disk

end DriverKit
