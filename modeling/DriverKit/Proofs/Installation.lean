import DriverKit.Installation
import DriverKit.Proofs.Distinct
import DriverKit.Proofs.KitVersion.Sorting
import Mathlib.Data.List.Find

/-!
# Selection of an installation

Without a pin, going through the installations and putting the installations in order lead to the
same one: the first of the newest. Which one that is does not depend on how the list came about, as
long as installations of one version keep their order. With a pin it is the first of that version,
and the versions of a mismatch are those that are installed, each of them once.
-/

namespace DriverKit.Installation

open KitVersion (newestFirst pairwise_newestFirst filter_newestFirst newestFirst_perm)

/-- All installations of a list have a version that has fields, as every version that is read
does. -/
def HaveFields (installations : List Installation) : Prop :=
  ∀ installation ∈ installations, installation.version.fields ≠ []

theorem HaveFields.of_perm {installations reordered : List Installation}
    (hasFields : HaveFields installations) (permuted : reordered.Perm installations) :
    HaveFields reordered :=
  fun installation member => hasFields installation (permuted.mem_iff.mp member)

/-- The first of the newest installations of a list. -/
structure IsFirstNewest (installations : List Installation) (chosen : Installation) : Prop where
  newest : ∀ other ∈ installations, other.version.rank ≤ chosen.version.rank
  first : installations.find? (·.version.same chosen.version) = some chosen

theorem IsFirstNewest.mem {installations : List Installation} {chosen : Installation}
    (found : IsFirstNewest installations chosen) : chosen ∈ installations :=
  List.mem_of_find?_eq_some found.first

/-- The newest installation that comes after all older ones, and before no newer one. -/
theorem isFirstNewest_of_split {before after : List Installation} {chosen : Installation}
    (older : ∀ earlier ∈ before, earlier.version.rank < chosen.version.rank)
    (notNewer : ∀ later ∈ after, later.version.rank ≤ chosen.version.rank) :
    IsFirstNewest (before ++ chosen :: after) chosen := by
  constructor
  · intro other member
    rcases List.mem_append.mp member with early | late
    · exact le_of_lt (older other early)
    · rcases List.mem_cons.mp late with here | later
      · exact le_of_eq (by rw [here])
      · exact notNewer other later
  · apply List.find?_eq_some_iff_append.mpr
    refine ⟨beq_self_eq_true _, before, after, rfl, ?_⟩
    intro earlier member
    rw [Bool.not_eq_true', ← Bool.not_eq_true]
    intro equal
    exact absurd (KitVersion.rank_eq_of_same equal) (ne_of_lt (older earlier member))

theorem IsFirstNewest.exists_split {installations : List Installation} {chosen : Installation}
    (found : IsFirstNewest installations chosen) (hasFields : HaveFields installations) :
    ∃ before after, installations = before ++ chosen :: after ∧
      ∀ earlier ∈ before, earlier.version.rank < chosen.version.rank := by
  obtain ⟨_, before, after, split, others⟩ := List.find?_eq_some_iff_append.mp found.first
  refine ⟨before, after, split, fun earlier inBefore => ?_⟩
  have member : earlier ∈ installations := by
    rw [split]
    exact List.mem_append_left _ inBefore
  have different := others earlier inBefore
  rw [Bool.not_eq_true', KitVersion.same_eq_false_iff (hasFields earlier member)
    (hasFields chosen found.mem)] at different
  exact lt_of_le_of_ne (found.newest earlier member) different

/-- A list whose versions have fields has one first newest installation at most. -/
theorem IsFirstNewest.unique {installations : List Installation} {chosen other : Installation}
    (hasFields : HaveFields installations) (found : IsFirstNewest installations chosen)
    (otherFound : IsFirstNewest installations other) : chosen = other := by
  have sameRank : chosen.version.rank = other.version.rank :=
    le_antisymm (otherFound.newest chosen found.mem) (found.newest other otherFound.mem)
  have sameTest : ∀ installation ∈ installations,
      installation.version.same chosen.version = installation.version.same other.version := by
    intro installation member
    have fields := hasFields installation member
    rw [Bool.eq_iff_iff, KitVersion.same_iff fields (hasFields chosen found.mem),
      KitVersion.same_iff fields (hasFields other otherFound.mem), sameRank]
  have sameFind := List.find?_congr sameTest
  rw [found.first, otherFound.first] at sameFind
  exact Option.some.inj sameFind

/-- Sorting does not change which installation is the first of a version. -/
theorem find?_newestFirst {installations : List Installation} {version : KitVersion} :
    (newestFirst Installation.version installations).find? (·.version.same version)
      = installations.find? (·.version.same version) := by
  have oneRank : ∀ installation other : Installation,
      installation.version.same version = true → other.version.same version = true →
        installation.version.rank = other.version.rank := by
    intro installation other equal otherEqual
    exact (KitVersion.rank_eq_of_same equal).trans (KitVersion.rank_eq_of_same otherEqual).symm
  rw [← List.head?_filter, filter_newestFirst oneRank, List.head?_filter]

/-! ## Selection without a pin -/

/-- The newer of the first newest installation and one more is the first newest of them all. -/
theorem IsFirstNewest.concat {installations : List Installation} {chosen last : Installation}
    (found : IsFirstNewest installations chosen)
    (hasFields : HaveFields (installations ++ [last])) :
    IsFirstNewest (installations ++ [last]) (newer chosen last) := by
  have chosenFields := hasFields chosen (List.mem_append_left [last] found.mem)
  have lastFields :=
    hasFields last (List.mem_append_right installations (List.mem_singleton_self _))
  unfold newer
  split
  · rename_i isNewer
    have before := (KitVersion.greater_iff lastFields chosenFields).mp isNewer
    apply isFirstNewest_of_split
    · intro earlier member
      exact lt_of_le_of_lt (found.newest earlier member) before
    · simp
  · rename_i notNewer
    rw [Bool.not_eq_true, KitVersion.greater_eq_false_iff lastFields chosenFields] at notNewer
    constructor
    · intro other member
      rcases List.mem_append.mp member with early | late
      · exact found.newest other early
      · rw [List.mem_singleton.mp late]
        exact notNewer
    · rw [List.find?_append, found.first]
      rfl

/-- Going through installations leads to the first of the newest. -/
theorem isFirstNewest_foldl {first : Installation} {rest : List Installation} :
    HaveFields (first :: rest) → IsFirstNewest (first :: rest) (rest.foldl newer first) := by
  -- The last installation is compared with the choice among those before it.
  induction rest using List.reverseRecOn with
  | nil =>
      intro _
      exact @isFirstNewest_of_split [] [] first (by simp) (by simp)
  | append_singleton front last inductionHypothesis =>
      intro hasFields
      rw [← List.cons_append] at hasFields ⊢
      have frontFields : HaveFields (first :: front) := fun installation member =>
        hasFields installation (List.mem_append_left [last] member)
      rw [List.foldl_append]
      exact (inductionHypothesis frontFields).concat hasFields

/-- What is first when the newest installations come first is the first of the newest. -/
theorem isFirstNewest_head {installations : List Installation} {chosen : Installation}
    (head : (newestFirst Installation.version installations).head? = some chosen) :
    IsFirstNewest installations chosen := by
  obtain ⟨rest, sorted⟩ := List.head?_eq_some_iff.mp head
  have inOrder := pairwise_newestFirst Installation.version installations
  rw [sorted, List.pairwise_cons] at inOrder
  constructor
  · intro other member
    have inSorted := (newestFirst_perm Installation.version installations).mem_iff.mpr member
    rw [sorted] at inSorted
    rcases List.mem_cons.mp inSorted with here | later
    · exact le_of_eq (by rw [here])
    · exact inOrder.1 other later
  · rw [← find?_newestFirst, sorted]
    exact List.find?_cons_of_pos (beq_self_eq_true _)

/-- Without a pin there is a choice unless there is nothing to choose from. -/
theorem exists_select_none {installations : List Installation}
    (hasFields : HaveFields installations) (nonempty : installations ≠ []) :
    ∃ chosen, select installations none = .ok chosen ∧ IsFirstNewest installations chosen := by
  cases installations with
  | nil => exact absurd rfl nonempty
  | cons first rest => exact ⟨rest.foldl newer first, rfl, isFirstNewest_foldl hasFields⟩

/-! ## Selection with a pin -/

theorem select_pin_eq_ok_iff {installations : List Installation} {pin : KitVersion}
    {chosen : Installation} :
    select installations (some pin) = .ok chosen ↔
      installations.find? (·.version.same pin) = some chosen := by
  cases installations with
  | nil => simp [select]
  | cons first rest =>
      rw [select]
      cases (first :: rest).find? (·.version.same pin) with
      | none => simp
      | some found => simp

/-- There is a choice if there are installations, and one that suits the pin if there is a pin. -/
theorem exists_select {installations : List Installation} {pin : Option KitVersion}
    (nonempty : installations ≠ [])
    (matching : ∀ pinned, pin = some pinned →
      ∃ installation ∈ installations, installation.version.same pinned = true) :
    ∃ chosen, select installations pin = .ok chosen := by
  cases pin with
  | none =>
      cases installations with
      | nil => exact absurd rfl nonempty
      | cons first rest => exact ⟨_, rfl⟩
  | some pinned =>
      obtain ⟨installation, member, equal⟩ := matching pinned rfl
      have isFound : (installations.find? (·.version.same pinned)).isSome = true :=
        List.find?_isSome.mpr ⟨installation, member, equal⟩
      obtain ⟨chosen, found⟩ := Option.isSome_iff_exists.mp isFound
      exact ⟨chosen, select_pin_eq_ok_iff.mpr found⟩

theorem select_pin_eq_mismatch_iff {installations : List Installation} {pin pinned : KitVersion}
    {available : List KitVersion} :
    select installations (some pin) = .error (.versionMismatch pinned available) ↔
      installations ≠ [] ∧
        (∀ installation ∈ installations, installation.version.same pin = false) ∧
          pinned = pin ∧
            available = distinctBy KitVersion.same (installations.map Installation.version) := by
  have noneMatches :
      (∀ installation ∈ installations, installation.version.same pin = false) ↔
        installations.find? (·.version.same pin) = none := by
    simp [List.find?_eq_none]
  rw [noneMatches]
  cases installations with
  | nil => simp [select]
  | cons first rest =>
      rw [select]
      cases (first :: rest).find? (·.version.same pin) with
      | none => simp [eq_comm]
      | some found => simp

theorem select_eq_kitNotFound_iff {installations : List Installation} {pin : Option KitVersion} :
    (∃ attempted, select installations pin = .error (.kitNotFound attempted)) ↔
      installations = [] := by
  cases installations with
  | nil => simp [select]
  | cons first rest =>
      cases pin with
      | none => simp [select]
      | some pinned =>
          rw [select]
          cases (first :: rest).find? (·.version.same pinned) with
          | none => simp
          | some found => simp

/-! ## Selection from sorted installations -/

theorem IsFirstNewest.of_newestFirst {installations : List Installation} {chosen : Installation}
    (found : IsFirstNewest (newestFirst Installation.version installations) chosen) :
    IsFirstNewest installations chosen := by
  constructor
  · intro other member
    exact found.newest other
      ((newestFirst_perm Installation.version installations).mem_iff.mpr member)
  · rw [← find?_newestFirst]
    exact found.first

theorem IsFirstNewest.head?_newestFirst {installations : List Installation}
    {chosen : Installation} (found : IsFirstNewest installations chosen)
    (hasFields : HaveFields installations) :
    (newestFirst Installation.version installations).head? = some chosen := by
  cases head : (newestFirst Installation.version installations).head? with
  | none =>
      have empty := KitVersion.newestFirst_eq_nil_iff.mp (List.head?_eq_none_iff.mp head)
      have member := found.mem
      rw [empty] at member
      cases member
  | some other => rw [found.unique hasFields (isFirstNewest_head head)]

/-- Selection fails for want of installations exactly when there are none. Without a pin it gives
the first of the newest installations, which is what comes first when they are sorted, and in any
other order of the list an equally new one. With a pin it gives the first installation of that
version; a mismatch means that there is none, and names the installed versions, each where it is
first seen. Sorting the installations beforehand changes no choice. -/
theorem select_newest_or_pinned (installations : List Installation) :
    (∀ pin, (∃ attempted, select installations pin = .error (.kitNotFound attempted)) ↔
        installations = []) ∧
      (HaveFields installations → installations ≠ [] →
        ∃ before chosen after,
          installations = before ++ chosen :: after ∧
            select installations none = .ok chosen ∧
            (∀ other ∈ installations, chosen.version.greaterOrSame other.version = true) ∧
            (∀ earlier ∈ before, chosen.version.greater earlier.version = true) ∧
            (newestFirst Installation.version installations).head? = some chosen ∧
            (∀ reordered : List Installation, reordered.Perm installations →
              ∃ other, select reordered none = .ok other ∧
                other.version.same chosen.version = true) ∧
            select (newestFirst Installation.version installations) none = .ok chosen) ∧
      (∀ pin chosen, select installations (some pin) = .ok chosen ↔
        ∃ before after,
          installations = before ++ chosen :: after ∧ chosen.version.same pin = true ∧
            ∀ earlier ∈ before, earlier.version.same pin = false) ∧
      (∀ pin,
        (∃ pinned available,
            select installations (some pin) = .error (.versionMismatch pinned available)) ↔
          installations ≠ [] ∧
            ∀ installation ∈ installations, installation.version.same pin = false) ∧
      (∀ pin pinned available,
        select installations (some pin) = .error (.versionMismatch pinned available) →
          pinned = pin ∧
            (available.Pairwise fun earlier later => earlier.same later = false) ∧
            (∀ installation ∈ installations,
              ∃ version ∈ available, version.same installation.version = true) ∧
            available.Sublist (installations.map Installation.version) ∧
            ∀ version ∈ available,
              ∃ before after,
                installations.map Installation.version = before ++ version :: after ∧
                  ∀ earlier ∈ before, earlier.same version = false) ∧
      (∀ pin chosen,
        select (newestFirst Installation.version installations) (some pin) = .ok chosen ↔
          select installations (some pin) = .ok chosen) := by
  refine ⟨fun pin => select_eq_kitNotFound_iff, ?_, ?_, ?_, ?_, ?_⟩
  · intro hasFields nonempty
    obtain ⟨chosen, selected, isFirst⟩ := exists_select_none hasFields nonempty
    obtain ⟨before, after, split, older⟩ := isFirst.exists_split hasFields
    refine ⟨before, chosen, after, split, selected, ?_, ?_, isFirst.head?_newestFirst hasFields, ?_,
      ?_⟩
    · intro other member
      rw [KitVersion.greaterOrSame_iff]
      exact isFirst.newest other member
    · intro earlier inBefore
      have member : earlier ∈ installations := by
        rw [split]
        exact List.mem_append_left _ inBefore
      rw [KitVersion.greater_iff (hasFields chosen isFirst.mem) (hasFields earlier member)]
      exact older earlier inBefore
    · intro reordered permuted
      obtain ⟨other, otherSelected, otherIsFirst⟩ :=
        exists_select_none (hasFields.of_perm permuted)
          (fun empty => nonempty (List.nil_perm.mp (empty ▸ permuted)))
      have otherMember := permuted.mem_iff.mp otherIsFirst.mem
      have sameRank : other.version.rank = chosen.version.rank :=
        le_antisymm (isFirst.newest other otherMember)
          (otherIsFirst.newest chosen (permuted.mem_iff.mpr isFirst.mem))
      refine ⟨other, otherSelected, ?_⟩
      rw [KitVersion.same_iff (hasFields other otherMember) (hasFields chosen isFirst.mem)]
      exact sameRank
    · obtain ⟨other, otherSelected, otherIsFirst⟩ :=
        exists_select_none (hasFields.of_perm (newestFirst_perm Installation.version installations))
          (mt KitVersion.newestFirst_eq_nil_iff.mp nonempty)
      rw [otherSelected, otherIsFirst.of_newestFirst.unique hasFields isFirst]
  · intro pin chosen
    rw [select_pin_eq_ok_iff, List.find?_eq_some_iff_append]
    simp only [Bool.not_eq_true']
    constructor
    · rintro ⟨equal, before, after, split, others⟩
      exact ⟨before, after, split, equal, others⟩
    · rintro ⟨before, after, split, equal, others⟩
      exact ⟨equal, before, after, split, others⟩
  · intro pin
    simp only [select_pin_eq_mismatch_iff]
    constructor
    · rintro ⟨_, _, nonempty, noneMatches, _, _⟩
      exact ⟨nonempty, noneMatches⟩
    · rintro ⟨nonempty, noneMatches⟩
      exact ⟨pin, _, nonempty, noneMatches, rfl, rfl⟩
  · intro pin pinned available mismatch
    obtain ⟨_, _, rfl, rfl⟩ := select_pin_eq_mismatch_iff.mp mismatch
    refine ⟨rfl, pairwise_distinctBy, ?_, distinctBy_sublist, ?_⟩
    · intro installation member
      exact exists_same_of_mem KitVersion.same_equivalence (List.mem_map_of_mem member)
    · intro version kept
      exact exists_split_of_mem_distinctBy kept
  · intro pin chosen
    rw [select_pin_eq_ok_iff, select_pin_eq_ok_iff, find?_newestFirst]

/-- Of two equally new installations the first is selected, however their versions are written; a
pin with more zeros selects it as well, and one between the versions selects none. -/
theorem select_newest_or_pinned_tied :
    let older : Installation := ⟨.current, ⟨[10, 0, 22000]⟩, "registry"⟩
    let first : Installation := ⟨.current, ⟨[10, 0, 26100]⟩, "registry"⟩
    let second : Installation := ⟨.current, ⟨[10, 0, 26100, 0]⟩, "standard_location"⟩
    let installations := [older, first, second]
    HaveFields installations ∧
      select installations none = .ok first ∧
      (newestFirst Installation.version installations).head? = some first ∧
      select (newestFirst Installation.version installations) (some ⟨[10, 0, 26100, 0, 0]⟩)
        = .ok first ∧
      ∃ pinned available,
        select installations (some ⟨[10, 0, 22621]⟩)
          = .error (.versionMismatch pinned available) := by
  intro older first second installations
  have hasFields : HaveFields installations := by
    simp [HaveFields, installations, older, first, second]
  obtain ⟨_, choice, pinned, mismatch, _, sorted⟩ := select_newest_or_pinned installations
  obtain ⟨_, chosen, _, _, selected, _, _, head, _⟩ := choice hasFields (by simp [installations])
  have isFirst : select installations none = .ok first := rfl
  have same : chosen = first := Except.ok.inj (selected.symm.trans isFirst)
  refine ⟨hasFields, isFirst, same ▸ head, ?_, ?_⟩
  · exact (sorted _ _).mpr ((pinned _ _).mpr ⟨[older], [second], rfl, by decide, by decide⟩)
  · exact (mismatch _).mpr ⟨by simp [installations], by decide⟩

end DriverKit.Installation
