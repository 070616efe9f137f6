import DriverKit.Proofs.Discovery.Ending
import DriverKit.Proofs.Installation

/-!
# Searches on growing disks

Directories that are added to a disk hide nothing from a search: what was found before is found
still and in the same order, the newest installation does not become older, and a pin that was met
is met still. Only where a directory is added on the way to a root that was not there can it
happen that the host, which has answered that there is nothing, now refuses to answer.
-/

namespace DriverKit

theorem Disk.HasSubdirectory.of_keepsDirectories {disk other : Disk}
    (keeps : disk.KeepsDirectories other) {path : Path} {name : String}
    (within : disk.HasSubdirectory path name) : other.HasSubdirectory path name := by
  obtain ⟨named, place, found, here, isOne⟩ := within
  exact ⟨named, place, place_of_keepsDirectories keeps found, keeps.directories _ here,
    keeps.directories _ isOne⟩

namespace Discovery

/-! ## The order of precedence -/

/-- In a list without repetitions no two items stand in both orders. -/
theorem not_sublist_both {α : Type} {left right : α} :
    ∀ {items : List α}, items.Nodup →
      [left, right].Sublist items → ¬ [right, left].Sublist items
  | [], _, before, _ => by cases before
  | item :: rest, nodup, before, after => by
      obtain ⟨notInRest, restNodup⟩ := List.nodup_cons.mp nodup
      cases before with
      | cons _ before =>
          cases after with
          | cons _ after => exact not_sublist_both restNodup before after
          | cons_cons _ _ => exact notInRest (before.subset (by simp))
      | cons_cons _ rightLater =>
          cases after with
          | cons _ after => exact notInRest (after.subset (by simp))
          | cons_cons _ _ => exact notInRest (rightLater.subset (by simp))

theorem Finding.Precedes.asymm {roots : List Candidate} (nodup : roots.Nodup)
    {earlier later : Finding} (precedes : earlier.Precedes roots later) :
    ¬ later.Precedes roots earlier := by
  have olderIsLess : ∀ {newer older : Finding}, older.version.less newer.version = true →
      newer.version.rank ≠ older.version.rank := fun isLess =>
    (ne_of_lt (KitVersion.less_iff.mp isLess)).symm
  rintro (newer | ⟨equal, order⟩)
  · rcases precedes with older | ⟨equal, _⟩
    · exact lt_asymm (KitVersion.less_iff.mp newer) (KitVersion.less_iff.mp older)
    · exact olderIsLess newer (KitVersion.rank_eq_of_same equal).symm
  · rcases precedes with older | ⟨_, inOrder⟩
    · exact olderIsLess older (KitVersion.rank_eq_of_same equal).symm
    · have once : ∀ candidate : Candidate, ¬ [candidate, candidate].Sublist roots :=
        fun candidate twice => not_sublist_both nodup twice twice
      rcases inOrder with before | ⟨same, before⟩
      · rcases order with after | ⟨same, _⟩
        · exact not_sublist_both nodup before after
        · rw [same] at before
          exact once _ before
      · rcases order with after | ⟨_, after⟩
        · rw [same] at after
          exact once _ after
        · exact String.lt_asymm before after

/-- Findings that are all among others stand there in the same order. -/
theorem sublist_of_subset {roots : List Candidate} (rootsNodup : roots.Nodup)
    {findings others : List Finding} (nodup : findings.Nodup) (subset : findings ⊆ others)
    (inOrder : findings.Pairwise (Finding.Precedes roots))
    (othersInOrder : others.Pairwise (Finding.Precedes roots)) : findings.Sublist others := by
  have antisymm : Std.Antisymm (Finding.Precedes roots) :=
    ⟨fun _ _ precedes follows => absurd follows (precedes.asymm rootsNodup)⟩
  exact List.sublist_of_subperm_of_pairwise (List.subperm_of_subset nodup subset) inOrder
    othersInOrder

theorem haveFields_of_isOn {disk : Disk} {roots : List Candidate} {findings : List Finding}
    (areOn : ∀ finding ∈ findings, finding.IsOn disk roots) :
    Installation.HaveFields (findings.map Finding.installation) := by
  intro installation member
  obtain ⟨finding, inFindings, rfl⟩ := List.mem_map.mp member
  exact (KitVersion.isReadable_of_read (areOn finding inFindings).read).fields_ne_nil

end Discovery

/-! ## Selection among more installations -/

namespace Installation

variable {installations more : List Installation}

/-- Of more installations none is selected that is older. -/
theorem exists_newer_of_subset (hasFields : HaveFields more) (subset : installations ⊆ more)
    (nonempty : installations ≠ []) :
    ∃ chosen newest,
      select installations none = .ok chosen ∧ select more none = .ok newest ∧
        newest.version.greaterOrSame chosen.version = true := by
  have fewerFields : HaveFields installations := fun installation member =>
    hasFields installation (subset member)
  have moreNonempty : more ≠ [] := fun empty =>
    nonempty (List.subset_nil.mp (empty ▸ subset))
  obtain ⟨chosen, selected, isFirst⟩ := exists_select_none fewerFields nonempty
  obtain ⟨newest, newestSelected, newestIsFirst⟩ := exists_select_none hasFields moreNonempty
  refine ⟨chosen, newest, selected, newestSelected, ?_⟩
  rw [KitVersion.greaterOrSame_iff]
  exact newestIsFirst.newest chosen (subset isFirst.mem)

theorem mem_and_same_of_select {pin : KitVersion} {chosen : Installation}
    (selected : select installations (some pin) = .ok chosen) :
    chosen ∈ installations ∧ chosen.version.same pin = true := by
  have found := select_pin_eq_ok_iff.mp selected
  exact ⟨List.mem_of_find?_eq_some found, by simpa using List.find?_some found⟩

/-- Of more installations a pin that was met selects one of an equal version. -/
theorem exists_same_of_subset (subset : installations ⊆ more) {pin : KitVersion}
    {chosen : Installation} (selected : select installations (some pin) = .ok chosen) :
    ∃ still, select more (some pin) = .ok still ∧ still.version.same chosen.version = true := by
  obtain ⟨member, matchesPin⟩ := mem_and_same_of_select selected
  have isFound : (more.find? (·.version.same pin)).isSome = true :=
    List.find?_isSome.mpr ⟨chosen, subset member, matchesPin⟩
  obtain ⟨still, found⟩ := Option.isSome_iff_exists.mp isFound
  have stillSelected := select_pin_eq_ok_iff.mpr found
  refine ⟨still, stillSelected, ?_⟩
  exact KitVersion.same_equivalence.trans (mem_and_same_of_select stillSelected).2
    (KitVersion.same_equivalence.symm matchesPin)

end Installation

/-! ## Searches -/

namespace Discovery

/-- With more directories on the disk a search finds what it found before, in the same order, and
nothing older is selected from it, unless the path of a root that was not there is too long for the
host to be asked for it. -/
theorem discover_of_keepsDirectories {locator : Locator} {surroundings : Surroundings}
    {other : Disk} {all : List Candidate} {installations : List Installation}
    (chosen : (locator.candidates surroundings).outcome = .ok all)
    (found : (locator.discover surroundings).1.outcome = .ok installations)
    (keeps : surroundings.disk.KeepsDirectories other)
    (listable : ∀ root ∈ distinctRoots surroundings.disk all, IsListable other root) :
    let again := (locator.discover { surroundings with disk := other }).1.outcome
    (∃ more,
      again = .ok more ∧ installations.Sublist more ∧
        (∃ selected newest,
          Installation.select installations none = .ok selected ∧
            Installation.select more none = .ok newest ∧
            newest.version.greaterOrSame selected.version = true) ∧
        ∀ pin selected, Installation.select installations (some pin) = .ok selected →
          ∃ still,
            Installation.select more (some pin) = .ok still ∧
              still.version.same selected.version = true) ∨
      ∃ root ∈ distinctRoots surroundings.disk all,
        surroundings.disk.isDirectory (KitLayout.versionRoot root.path) = .ok false ∧
          EndsOverlong other root again := by
  intro again
  have sameRoots := distinctRoots_congr keeps.workingDirectory
  rw [← sameRoots] at listable ⊢
  have wasSearchable := canBeSearched_of_discover chosen found
  rw [← sameRoots] at wasSearchable
  rcases canBeSearched_or_endsOverlong chosen listable with searchable | ⟨root, inRoots, ends⟩
  · left
    obtain ⟨findings, nodup, nonempty, complete, inOrder, rfl⟩ :=
      exists_findings_of_discover chosen found
    rw [← sameRoots] at complete inOrder
    have staysOn : ∀ finding ∈ findings, finding.IsOn other (distinctRoots other all) := by
      intro finding member
      have isOn := (complete finding).mp member
      exact { isOn with within := isOn.within.of_keepsDirectories keeps }
    obtain ⟨first, inFindings⟩ := List.exists_mem_of_ne_nil findings nonempty
    obtain ⟨_, foundAgain, _⟩ := exists_of_isOn chosen searchable (staysOn first inFindings)
    obtain ⟨others, _, _, othersComplete, othersInOrder, rfl⟩ :=
      exists_findings_of_discover chosen foundAgain
    have subset : findings ⊆ others := fun finding member =>
      (othersComplete finding).mpr (staysOn finding member)
    have sublist := (sublist_of_subset (nodup_distinctRoots other all) nodup subset inOrder
      othersInOrder).map Finding.installation
    have hasFields := haveFields_of_isOn fun finding member => (othersComplete finding).mp member
    refine ⟨_, foundAgain, sublist, ?_, fun pin selected matched => ?_⟩
    · exact Installation.exists_newer_of_subset hasFields sublist.subset (by simpa using nonempty)
    · exact Installation.exists_same_of_subset sublist.subset matched
  · right
    refine ⟨root, inRoots, ?_, ends⟩
    rcases wasSearchable root inRoots with missing | ⟨isThere, _⟩
    · exact missing
    · have stillThere := Disk.isDirectory_of_keepsDirectories keeps isThere
      obtain ⟨place, found, _⟩ := Disk.isDirectory_eq_true_iff.mp stillThere
      rw [ends.overlong] at found
      cases found

/-- A first root is made that holds the version that is there with one zero more. -/
theorem discover_of_keepsDirectories_first_root :
    let made (places : List (List String)) : List (Place × Entry) :=
      places.map fun names => (⟨names⟩, .directory)
    let disk : Disk :=
      { Disk.empty with entries := made [["b"], ["b", "Lib"], ["b", "Lib", "10.0"]] }
    let other : Disk :=
      { disk with entries := disk.entries ++ made [["a"], ["a", "Lib"], ["a", "Lib", "10.0.0"]] }
    let surroundings : Surroundings := { disk, environment := [], store := .absent }
    let locator := Locator.ofStandard (["a", "b"].map Path.ofText)
    disk.KeepsDirectories other ∧
      ∃ installations more,
        (locator.discover surroundings).1.outcome = .ok installations ∧
          (locator.discover { surroundings with disk := other }).1.outcome = .ok more ∧
          installations.Sublist more ∧
          ∃ selected still,
            Installation.select installations (some ⟨[10]⟩) = .ok selected ∧
              Installation.select more (some ⟨[10]⟩) = .ok still ∧
              still.version.same selected.version = true := by
  intro made disk other surroundings locator
  let roots : List Candidate :=
    ["a", "b"].map fun text => ⟨Path.ofText text, "standard_location"⟩
  have chosen : (locator.candidates surroundings).outcome = .ok roots := rfl
  have keeps : disk.KeepsDirectories other := by
    refine ⟨rfl, fun place here => ?_⟩
    cases above : disk.workingDirectory.isWithin place with
    | true => exact Disk.at?_of_above above
    | false =>
        have otherLookup : other.at? place = other.entries.lookup place :=
          Disk.at?_of_not_above above
        rw [Disk.at?_of_not_above above] at here
        rw [otherLookup]
        simp only [other, List.lookup_append, here, Option.some_or]
  have asked : ∀ root ∈ distinctRoots disk roots,
      (other.place (KitLayout.versionRoot root.path)).toOption.isSome = true ∧
        (other.subdirectories (KitLayout.versionRoot root.path)).toOption.isSome = true := by
    decide +kernel
  have listable : ∀ root ∈ distinctRoots disk roots, IsListable other root :=
    fun root inRoots _ => exists_ok_of_isSome (asked root inRoots).2
  have searched :
      (locator.discover surroundings).1.outcome.toOption.any (fun installations =>
        (Installation.select installations (some ⟨[10]⟩)).toOption.isSome) = true := by
    decide +kernel
  cases found : (locator.discover surroundings).1.outcome with
  | error failure =>
      rw [found] at searched
      cases searched
  | ok installations =>
      rw [found] at searched
      obtain ⟨selected, matched⟩ := exists_ok_of_isSome searched
      refine ⟨keeps, installations, ?_⟩
      rcases discover_of_keepsDirectories chosen found keeps listable with
        ⟨more, foundAgain, sublist, _, pinned⟩ | ⟨root, inRoots, _, ends⟩
      · obtain ⟨still, stillMatched, same⟩ := pinned _ selected matched
        exact ⟨more, rfl, foundAgain, sublist, selected, still, matched, stillMatched, same⟩
      · have leads := (asked root inRoots).1
        rw [ends.overlong] at leads
        cases leads

end Discovery

end DriverKit
