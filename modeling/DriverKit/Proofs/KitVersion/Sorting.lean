import DriverKit.Proofs.KitVersion.Order

/-!
# Items sorted by version

Items are sorted by the rank of their versions, the newest first. The sort is stable: of items of
one rank nothing is moved past another, so what is known about the order of all items is known
about those of one rank afterwards.
-/

namespace DriverKit.KitVersion

variable {α : Type} {version : α → KitVersion}

theorem newestFirst_perm (version : α → KitVersion) (items : List α) :
    (newestFirst version items).Perm items :=
  List.mergeSort_perm _ _

theorem newestFirst_eq_nil_iff {items : List α} : newestFirst version items = [] ↔ items = [] := by
  rw [← List.length_eq_zero_iff, (newestFirst_perm version items).length_eq,
    List.length_eq_zero_iff]

private theorem comparison_iff {newer older : α} :
    (!(version newer).less (version older)) = true ↔
      (version older).rank ≤ (version newer).rank := by
  rw [Bool.not_eq_true', less_eq_false_iff]

private theorem comparison_trans (first second third : α)
    (firstSecond : (!(version first).less (version second)) = true)
    (secondThird : (!(version second).less (version third)) = true) :
    (!(version first).less (version third)) = true := by
  rw [comparison_iff] at firstSecond secondThird ⊢
  exact le_trans secondThird firstSecond

private theorem comparison_total (first second : α) :
    ((!(version first).less (version second)) || !(version second).less (version first))
      = true := by
  rw [Bool.or_eq_true, comparison_iff, comparison_iff]
  exact le_total _ _

theorem pairwise_newestFirst (version : α → KitVersion) (items : List α) :
    (newestFirst version items).Pairwise fun newer older =>
      (version older).rank ≤ (version newer).rank :=
  (List.pairwise_mergeSort comparison_trans comparison_total items).imp comparison_iff.mp

/-- Items of one rank are left in their order. -/
theorem filter_newestFirst {keep : α → Bool}
    (oneRank : ∀ item other, keep item = true → keep other = true →
      (version item).rank = (version other).rank) (items : List α) :
    (newestFirst version items).filter keep = items.filter keep := by
  have inOrder : (items.filter keep).Pairwise fun newer older =>
      (!(version newer).less (version older)) = true := by
    apply List.pairwise_of_forall_mem_list
    intro newer newerMember older olderMember
    rw [comparison_iff]
    exact le_of_eq
      (oneRank older newer (List.mem_filter.mp olderMember).2 (List.mem_filter.mp newerMember).2)
  have kept : (items.filter keep).Sublist (newestFirst version items) :=
    List.sublist_mergeSort comparison_trans comparison_total inOrder List.filter_sublist
  have keptTwice := kept.filter keep
  rw [List.filter_filter] at keptTwice
  simp only [Bool.and_self] at keptTwice
  exact (keptTwice.eq_of_length ((newestFirst_perm version items).filter keep).length_eq.symm).symm

/-- What holds of every item and the ones after it holds of sorted items where neither is newer. -/
theorem pairwise_newestFirst_of_pairwise (version : α → KitVersion)
    {relation : α → α → Prop} {items : List α} (ordered : items.Pairwise relation) :
    (newestFirst version items).Pairwise fun newer older =>
      (version older).rank < (version newer).rank ∨
        ((version newer).rank = (version older).rank ∧ relation newer older) := by
  classical
  apply List.pairwise_iff_forall_sublist.mpr
  intro newer older inSorted
  have atMost := List.pairwise_iff_forall_sublist.mp (pairwise_newestFirst version items) inSorted
  rcases lt_or_eq_of_le atMost with before | equal
  · exact Or.inl before
  · refine Or.inr ⟨equal.symm, ?_⟩
    let keep (item : α) : Bool := decide ((version item).rank = (version newer).rank)
    have oneRank : ∀ item other, keep item = true → keep other = true →
        (version item).rank = (version other).rank := by
      intro item other itemKept otherKept
      exact (of_decide_eq_true itemKept).trans (of_decide_eq_true otherKept).symm
    have bothKept : [newer, older].filter keep = [newer, older] := by
      simp [keep, equal]
    have inItems := inSorted.filter keep
    rw [bothKept, filter_newestFirst oneRank] at inItems
    exact List.pairwise_iff_forall_sublist.mp ordered (inItems.trans List.filter_sublist)

end DriverKit.KitVersion
