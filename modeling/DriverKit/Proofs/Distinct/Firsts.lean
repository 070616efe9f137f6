import DriverKit.Proofs.Distinct
import DriverKit.Proofs.Outcome
import Mathlib.Data.List.Induction
import Mathlib.Data.List.Sort

/-!
# The first of every group of equals

Equal items need not be the same: of equal versions one may have more fields than the other, and
which of them is left can be seen. Distinct items are those at the positions where no equal item
stands before. As every item has its equal among them, this decides the whole list: there is no
other that keeps the firsts.
-/

namespace DriverKit

variable {Item : Type} [BEq Item]

/-- An item stands at a position of a list, and no equal item stands before. -/
structure IsFirstAt (items : List Item) (position : Nat) (item : Item) : Prop where
  stands : items[position]? = some item
  new : ∀ earlier ∈ items.take position, (earlier == item) = false

/-- What is kept of a list: of all items that equal each other the one that comes first, in the
order of the list. -/
structure KeepsFirsts (kept items : List Item) : Prop where
  apart : kept.Pairwise fun earlier later => (earlier == later) = false
  equal : ∀ item ∈ items, ∃ first ∈ kept, (first == item) = true
  sublist : kept.Sublist items
  placed : ∃ positions : List Nat,
    positions.Pairwise (· < ·) ∧ List.Forall₂ (IsFirstAt items) positions kept

/-! ## Positions -/

namespace IsFirstAt

variable {items : List Item} {position : Nat} {item : Item}

theorem lt_length (isFirst : IsFirstAt items position item) : position < items.length :=
  (List.getElem?_eq_some_iff.mp isFirst.stands).1

theorem append (isFirst : IsFirstAt items position item) (others : List Item) :
    IsFirstAt (items ++ others) position item := by
  have inside := isFirst.lt_length
  constructor
  · rw [List.getElem?_append_left inside]
    exact isFirst.stands
  · rw [List.take_append_of_le_length inside.le]
    exact isFirst.new

/-- No equal item stands before the first. -/
theorem le (isFirst : IsFirstAt items position item) {other : Item} {place : Nat}
    (stands : items[place]? = some other) (equal : (other == item) = true) : position ≤ place := by
  by_contra before
  rw [Nat.not_le] at before
  have isEarlier : other ∈ items.take position := by
    apply List.mem_of_getElem?
    rw [List.getElem?_take_of_lt before]
    exact stands
  rw [isFirst.new other isEarlier] at equal
  cases equal

theorem position_eq [EquivBEq Item] (isFirst : IsFirstAt items position item) {other : Item}
    {place : Nat} (otherIsFirst : IsFirstAt items place other) (equal : (item == other) = true) :
    position = place :=
  Nat.le_antisymm (isFirst.le otherIsFirst.stands (BEq.symm equal))
    (otherIsFirst.le isFirst.stands equal)

end IsFirstAt

variable [EquivBEq Item]

/-- A further item at the end is kept unless it has an equal. -/
theorem distinct_concat (items : List Item) (item : Item) :
    distinct (items ++ [item])
      = distinct items ++ if items.contains item then [] else [item] := by
  rw [distinct, distinctBy_append, ← List.any_beq']
  cases met : items.any (· == item) <;> simp [distinct, distinctBy, met]

theorem isFirstAt_length {front : List Item} {last : Item} (new : ¬ front.contains last = true) :
    IsFirstAt (front ++ [last]) front.length last := by
  constructor
  · exact List.getElem?_concat_length
  · rw [List.take_left]
    intro earlier member
    rw [← Bool.not_eq_true]
    intro equal
    exact new (List.contains_iff_exists_mem_beq.mpr ⟨earlier, member, BEq.symm equal⟩)

/-- The positions from which distinct items are taken. -/
theorem exists_positions (items : List Item) :
    ∃ positions : List Nat,
      positions.Pairwise (· < ·) ∧ List.Forall₂ (IsFirstAt items) positions (distinct items) := by
  -- From the end, since only what stands before an item decides whether it is a first.
  induction items using List.reverseRecOn with
  | nil => exact ⟨[], .nil, .nil⟩
  | append_singleton front last inductionHypothesis =>
      obtain ⟨positions, rising, placed⟩ := inductionHypothesis
      have stays : List.Forall₂ (IsFirstAt (front ++ [last])) positions (distinct front) :=
        placed.imp fun _ _ isFirst => isFirst.append [last]
      rw [distinct_concat]
      split
      · rw [List.append_nil]
        exact ⟨positions, rising, stays⟩
      · rename_i new
        have placedWithLast := List.rel_append stays (.cons (isFirstAt_length new) .nil)
        have inFront : ∀ position ∈ positions, position < front.length := by
          intro position member
          obtain ⟨_, _, isFirst⟩ := exists_of_forall₂ placed.flip member
          exact isFirst.lt_length
        refine ⟨positions ++ [front.length], ?_, placedWithLast⟩
        rw [List.pairwise_append]
        refine ⟨rising, List.pairwise_singleton _ _, ?_⟩
        intro position member _ isLength
        rw [List.mem_singleton.mp isLength]
        exact inFront position member

theorem keepsFirsts_distinct (items : List Item) : KeepsFirsts (distinct items) items where
  apart := pairwise_distinctBy
  equal _ member := exists_same_of_mem beq_equivalence member
  sublist := distinctBy_sublist
  placed := exists_positions items

/-! ## Uniqueness -/

namespace KeepsFirsts

variable {kept other items : List Item}

/-- Items are kept from all positions at which a first stands. -/
theorem mem_positions_iff (keeps : KeepsFirsts kept items) {positions : List Nat}
    (placed : List.Forall₂ (IsFirstAt items) positions kept) (position : Nat) :
    position ∈ positions ↔ ∃ item, IsFirstAt items position item := by
  constructor
  · intro member
    obtain ⟨item, _, isFirst⟩ := exists_of_forall₂ placed.flip member
    exact ⟨item, isFirst⟩
  · rintro ⟨item, isFirst⟩
    obtain ⟨first, inKept, equal⟩ := keeps.equal item (List.mem_of_getElem? isFirst.stands)
    obtain ⟨place, inPositions, firstIsFirst⟩ := exists_of_forall₂ placed inKept
    rw [isFirst.position_eq firstIsFirst (BEq.symm equal)]
    exact inPositions

theorem unique (keeps : KeepsFirsts kept items) (otherKeeps : KeepsFirsts other items) :
    kept = other := by
  obtain ⟨positions, rising, placed⟩ := keeps.placed
  obtain ⟨otherPositions, otherRising, otherPlaced⟩ := otherKeeps.placed
  have samePositions : positions = otherPositions := by
    apply rising.eq_of_mem_iff otherRising
    intro position
    rw [keeps.mem_positions_iff placed, otherKeeps.mem_positions_iff otherPlaced]
  have sameItem : Relator.RightUnique (IsFirstAt items) := fun position item another here there =>
    Option.some.inj (here.stands.symm.trans there.stands)
  rw [← samePositions] at otherPlaced
  exact List.right_unique_forall₂' sameItem placed otherPlaced

end KeepsFirsts

theorem keepsFirsts_iff {kept items : List Item} :
    KeepsFirsts kept items ↔ kept = distinct items := by
  constructor
  · exact fun keeps => keeps.unique (keepsFirsts_distinct items)
  · rintro rfl
    exact keepsFirsts_distinct items

end DriverKit
