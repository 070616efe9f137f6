import DriverKit.Proofs.Distinct.Firsts

/-!
# One pass through items

Distinct items can be found in one pass, which keeps an item unless it has met an equal one before.
What it has met is looked up by hash. That finds an equal item however the two are written, since
equal items have one hash.
-/

namespace DriverKit

/-- How far a pass through items has come: what it has met, and what it has kept. -/
structure Pass (Item : Type) [BEq Item] [Hashable Item] where
  met : Std.HashSet Item
  kept : Array Item

namespace Pass

variable {Item : Type} [BEq Item] [Hashable Item]

/-- A pass that has met nothing. -/
def start : Pass Item := ⟨∅, #[]⟩

/-- Goes on to an item, which is kept unless an equal one was met before. -/
def visit (pass : Pass Item) (item : Item) : Pass Item :=
  if pass.met.contains item then pass else ⟨pass.met.insert item, pass.kept.push item⟩

/-- The pass over a whole list. -/
def through (items : List Item) : Pass Item :=
  items.foldl visit start

/-- A pass has come to the end of some items: it finds just what has an equal among them, and has
kept their firsts. -/
structure HasVisited (pass : Pass Item) (items : List Item) : Prop where
  met : ∀ item, pass.met.contains item = items.contains item
  kept : pass.kept.toList = distinct items

theorem hasVisited_start : (start : Pass Item).HasVisited [] where
  met _ := Std.HashSet.contains_empty
  kept := rfl

variable [EquivBEq Item] [LawfulHashable Item]

theorem contains_met_visit (pass : Pass Item) (item other : Item) :
    (pass.visit item).met.contains other = (pass.met.contains other || item == other) := by
  unfold visit
  split
  · rename_i known
    cases equal : item == other with
    | false => rw [Bool.or_false]
    | true => rw [← Std.HashSet.contains_congr equal, known, Bool.or_true]
  · rw [Std.HashSet.contains_insert, Bool.or_comm]

theorem HasVisited.visit {pass : Pass Item} {items : List Item}
    (hasVisited : pass.HasVisited items) (item : Item) :
    (pass.visit item).HasVisited (items ++ [item]) where
  met other := by
    rw [contains_met_visit, hasVisited.met, List.contains_append, List.contains_cons,
      List.contains_nil, Bool.or_false, BEq.comm]
  kept := by
    rw [distinct_concat, ← hasVisited.met, Pass.visit]
    split
    · rw [hasVisited.kept, List.append_nil]
    · rw [Array.toList_push, hasVisited.kept]

theorem hasVisited_through (items : List Item) : (through items).HasVisited items := by
  induction items using List.reverseRecOn with
  | nil => exact hasVisited_start
  | append_singleton front last inductionHypothesis =>
      rw [through, List.foldl_append]
      exact inductionHypothesis.visit last

end Pass

end DriverKit
