import DriverKit.Distinct
import Mathlib.Data.List.Basic

/-!
# What distinct items are

Of items that equal each other only the first is left, in its place. That no two items are equal
and that each one is the first of its equals needs no law of equality; that every item has an equal
among those that are left needs that it is an equivalence. By the usual equality the items that are
left stand in the order in which they first occur.
-/

namespace DriverKit

variable {Item : Type} {same : Item → Item → Bool}

theorem distinctBy_sublist : ∀ {items : List Item}, (distinctBy same items).Sublist items
  | [] => List.Sublist.slnil
  | item :: rest => by
      have restKept : (distinctBy same rest).Sublist rest := distinctBy_sublist
      exact (List.filter_sublist.trans restKept).cons_cons item

theorem pairwise_distinctBy :
    ∀ {items : List Item},
      (distinctBy same items).Pairwise fun earlier later => same earlier later = false
  | [] => List.Pairwise.nil
  | item :: rest => by
      rw [distinctBy, List.pairwise_cons]
      constructor
      · intro later member
        have different := (List.mem_filter.mp member).2
        rwa [Bool.not_eq_true'] at different
      · exact pairwise_distinctBy.sublist List.filter_sublist

/-- An item that is left is the first of its equals. -/
theorem exists_split_of_mem_distinctBy {kept : Item} :
    ∀ {items : List Item}, kept ∈ distinctBy same items →
      ∃ before after, items = before ++ kept :: after ∧
        ∀ earlier ∈ before, same earlier kept = false
  | item :: rest, member => by
      rcases List.mem_cons.mp member with first | later
      · exact ⟨[], rest, by rw [first]; rfl, by simp⟩
      · obtain ⟨inRest, different⟩ := List.mem_filter.mp later
        obtain ⟨before, after, split, noneEarlier⟩ := exists_split_of_mem_distinctBy inRest
        refine ⟨item :: before, after, by rw [split]; rfl, ?_⟩
        intro earlier earlierMember
        rcases List.mem_cons.mp earlierMember with first | inBefore
        · rwa [first, ← Bool.not_eq_true']
        · exact noneEarlier earlier inBefore

/-- Every item has an equal among those that are left. -/
theorem exists_same_of_mem (lawful : Equivalence fun left right => same left right = true)
    {item : Item} :
    ∀ {items : List Item}, item ∈ items → ∃ kept ∈ distinctBy same items, same kept item = true
  | first :: rest, member => by
      rcases List.mem_cons.mp member with here | later
      · exact ⟨first, List.mem_cons_self, here ▸ lawful.refl first⟩
      · obtain ⟨kept, inRest, equal⟩ := exists_same_of_mem lawful later
        by_cases dropped : same first kept = true
        · exact ⟨first, List.mem_cons_self, lawful.trans dropped equal⟩
        · have stays : kept ∈ (distinctBy same rest).filter fun later => !same first later := by
            simp [inRest, dropped]
          exact ⟨kept, List.mem_cons_of_mem first stays, equal⟩

/-- The first equal of an item is left. -/
theorem mem_distinctBy_of_find? (lawful : Equivalence fun left right => same left right = true)
    {item kept : Item} :
    ∀ {items : List Item}, items.find? (same · item) = some kept → kept ∈ distinctBy same items
  | first :: rest, found => by
      rw [List.find?_cons] at found
      by_cases here : same first item = true
      · rw [here] at found
        cases found
        exact List.mem_cons_self
      · rw [Bool.not_eq_true] at here
        rw [here] at found
        have inRest := mem_distinctBy_of_find? lawful found
        have keptSame : same kept item = true := by simpa using List.find?_some found
        have different : ¬ same first kept = true := fun firstSame => by
          have firstEqual := lawful.trans firstSame keptSame
          rw [here] at firstEqual
          cases firstEqual
        exact List.mem_cons_of_mem first (List.mem_filter.mpr ⟨inRest, by simpa using different⟩)

/-- Items can be left out before or after equal ones are dropped, if equal items are left out
together. -/
theorem filter_distinctBy {keeps : Item → Bool}
    (respects : ∀ item other, same item other = true → keeps item = keeps other) :
    ∀ items : List Item,
      (distinctBy same items).filter keeps = distinctBy same (items.filter keeps)
  | [] => rfl
  | item :: rest => by
      have later := filter_distinctBy respects rest
      rw [distinctBy, List.filter_cons, List.filter_cons]
      cases kept : keeps item with
      | true =>
          rw [if_pos rfl, if_pos rfl, distinctBy, ← later, List.filter_filter, List.filter_filter]
          simp only [Bool.and_comm]
      | false =>
          rw [if_neg (by decide), if_neg (by decide), ← later, List.filter_filter]
          refine List.filter_congr fun other _ => ?_
          cases equal : same item other with
          | true => rw [← respects item other equal, kept, Bool.false_and]
          | false => rw [Bool.not_false, Bool.and_true]

/-- Of two lists one after the other, the first loses what it loses alone, and the second also what
has an equal in the first. -/
theorem distinctBy_append (others : List Item) :
    ∀ items : List Item,
      distinctBy same (items ++ others)
        = distinctBy same items
          ++ (distinctBy same others).filter fun later => !items.any (same · later)
  | [] => (List.filter_true _).symm
  | item :: rest => by
      rw [List.cons_append, distinctBy, distinctBy_append others rest, List.filter_append,
        List.filter_filter, distinctBy, List.cons_append]
      simp only [List.any_cons, Bool.not_or]

/-- Where no two items are equal none is dropped. -/
theorem distinctBy_eq_self :
    ∀ {items : List Item},
      (items.Pairwise fun earlier later => same earlier later = false) →
        distinctBy same items = items
  | [], _ => rfl
  | item :: rest, apart => by
      obtain ⟨different, restApart⟩ := List.pairwise_cons.mp apart
      rw [distinctBy, distinctBy_eq_self restApart, List.filter_eq_self.mpr]
      intro later member
      rw [different later member, Bool.not_false]

theorem distinctBy_distinctBy (items : List Item) :
    distinctBy same (distinctBy same items) = distinctBy same items :=
  distinctBy_eq_self pairwise_distinctBy

/-! ## The usual equality -/

theorem beq_equivalence [BEq Item] [EquivBEq Item] :
    Equivalence fun left right : Item => (left == right) = true :=
  ⟨fun _ => BEq.rfl, BEq.symm, BEq.trans⟩

theorem mem_distinct [BEq Item] [LawfulBEq Item] {item : Item} {items : List Item} :
    item ∈ distinct items ↔ item ∈ items := by
  constructor
  · exact fun kept => distinctBy_sublist.subset kept
  · intro member
    obtain ⟨kept, inDistinct, equal⟩ := exists_same_of_mem beq_equivalence member
    exact beq_iff_eq.mp equal ▸ inDistinct

theorem nodup_distinct [BEq Item] [LawfulBEq Item] {items : List Item} :
    (distinct items).Nodup :=
  pairwise_distinctBy.imp fun different => beq_eq_false_iff_ne.mp different

/-! ## The order of first occurrences -/

section Order

variable [BEq Item] [LawfulBEq Item]

/-- One list has the items of another, each of them once and where it occurs first. -/
structure FirstsOf (firsts items : List Item) : Prop where
  nodup : firsts.Nodup
  mem_iff : ∀ item, item ∈ firsts ↔ item ∈ items
  precedes_iff : ∀ item ∈ firsts, ∀ other ∈ firsts,
    firsts.idxOf item < firsts.idxOf other ↔ items.idxOf item < items.idxOf other

theorem pairwise_idxOf_distinct (items : List Item) :
    (distinct items).Pairwise fun earlier later =>
      items.idxOf earlier < items.idxOf later := by
  induction items with
  | nil => exact List.Pairwise.nil
  | cons first rest inductionHypothesis =>
      have moved : ∀ item, item ≠ first →
          (first :: rest).idxOf item = rest.idxOf item + 1 := by
        intro item different
        apply List.idxOf_cons_ne
        exact different.symm
      have others : ∀ item ∈ (distinctBy (· == ·) rest).filter fun later => !first == later,
          item ≠ first := by
        intro item member sameItem
        have different := (List.mem_filter.mp member).2
        simp [sameItem] at different
      rw [distinct, distinctBy, List.pairwise_cons]
      constructor
      · intro later member
        rw [List.idxOf_cons_self, moved later (others later member)]
        omega
      · apply (inductionHypothesis.sublist List.filter_sublist).imp_of_mem
        intro earlier later earlierMember laterMember before
        rw [moved earlier (others earlier earlierMember), moved later (others later laterMember)]
        omega

/-- Where a list is put in order by a rank that rises, an item is before another just if its rank
is lower. -/
theorem idxOf_lt_idxOf_iff {rank : Item → Nat} {items : List Item}
    (ordered : items.Pairwise fun earlier later => rank earlier < rank later) {item other : Item}
    (member : item ∈ items) (otherMember : other ∈ items) :
    items.idxOf item < items.idxOf other ↔ rank item < rank other := by
  induction items with
  | nil => cases member
  | cons first rest inductionHypothesis =>
      rw [List.pairwise_cons] at ordered
      by_cases isFirst : item = first
      · by_cases otherIsFirst : other = first
        · rw [isFirst, otherIsFirst]
          simp
        · have later := List.mem_of_ne_of_mem otherIsFirst otherMember
          have below := ordered.1 other later
          rw [isFirst, List.idxOf_cons_self, List.idxOf_cons_ne rest (Ne.symm otherIsFirst)]
          omega
      · have inRest := List.mem_of_ne_of_mem isFirst member
        rw [List.idxOf_cons_ne rest (Ne.symm isFirst)]
        by_cases otherIsFirst : other = first
        · have below := ordered.1 item inRest
          rw [otherIsFirst, List.idxOf_cons_self]
          omega
        · have otherInRest := List.mem_of_ne_of_mem otherIsFirst otherMember
          rw [List.idxOf_cons_ne rest (Ne.symm otherIsFirst), Nat.succ_lt_succ_iff]
          exact inductionHypothesis ordered.2 inRest otherInRest

theorem firstsOf_distinct (items : List Item) : FirstsOf (distinct items) items where
  nodup := nodup_distinct
  mem_iff _ := mem_distinct
  precedes_iff _ member _ otherMember :=
    idxOf_lt_idxOf_iff (pairwise_idxOf_distinct items) member otherMember

end Order
end DriverKit
