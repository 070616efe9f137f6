import DriverKit.KitVersion.Basic
import Mathlib.Data.List.DropRight
import Mathlib.Data.List.GetD
import Mathlib.Order.PiLex

/-!
# The order of versions

Equality looks at the fields without the zeros at their end, the order at the fields filled up with
zeros, and the hash at the former again. All three are about the same thing: the fields of a
version, going on with zeros without end. In the order of the first difference these runs of fields
are linearly ordered, and the order of versions is theirs. Only a version without any field falls
out of line: it equals none that has a field, not even where neither is before the other.
-/

namespace DriverKit.KitVersion

/-- The field at a position; a field that is missing counts as zero. -/
def field (version : KitVersion) (position : Nat) : Nat :=
  version.fields.getD position 0

/-- The fields of a version, going on with zeros, in the order of the first difference. -/
def rank (version : KitVersion) : Lex (Nat → Nat) := toLex version.field

theorem rank_inj {left right : KitVersion} :
    left.rank = right.rank ↔ ∀ position, left.field position = right.field position :=
  funext_iff

theorem rank_lt_iff {left right : KitVersion} :
    left.rank < right.rank ↔
      ∃ position, (∀ earlier < position, left.field earlier = right.field earlier) ∧
        left.field position < right.field position :=
  Iff.rfl

/-! ## Fields filled up with zeros -/

theorem getD_filled (width : Nat) (fields : List Nat) (position : Nat) :
    (filled width fields).getD position 0 = fields.getD position 0 := by
  simp only [filled, List.getD_eq_getElem?_getD, List.getElem?_append, List.getElem?_replicate]
  split
  · rfl
  · rename_i beyond
    rw [List.getElem?_eq_none (Nat.le_of_not_lt beyond)]
    split <;> rfl

theorem length_filled {width : Nat} {fields : List Nat} (fits : fields.length ≤ width) :
    (filled width fields).length = width := by
  simp [filled, fits]

/-- Lists of one length are equal when they have the same field at every position. -/
theorem eq_of_getD_eq {left right : List Nat} (sameLength : left.length = right.length)
    (sameFields : ∀ position, left.getD position 0 = right.getD position 0) : left = right := by
  apply List.ext_getElem sameLength
  intro position inLeft inRight
  have atPosition := sameFields position
  rwa [List.getD_eq_getElem left 0 inLeft, List.getD_eq_getElem right 0 inRight] at atPosition

theorem filled_eq_iff {left right : KitVersion} :
    let width := max left.fields.length right.fields.length
    filled width left.fields = filled width right.fields ↔ left.rank = right.rank := by
  intro width
  rw [rank_inj]
  constructor
  · intro same position
    rw [field, field, ← getD_filled width, same, getD_filled]
  · intro same
    apply eq_of_getD_eq
    · rw [length_filled (le_max_left _ _), length_filled (le_max_right _ _)]
    · intro position
      rw [getD_filled, getD_filled]
      exact same position

/-! ## Fields without zeros at their end -/

theorem significant_cons (first : Nat) (rest : List Nat) :
    significant (first :: rest) = first :: rest.rdropWhile (· == 0) := rfl

theorem getD_rdropWhile (fields : List Nat) (position : Nat) :
    (fields.rdropWhile (· == 0)).getD position 0 = fields.getD position 0 := by
  induction fields using List.reverseRecOn with
  | nil => rfl
  | append_singleton front last inductionHypothesis =>
      rw [List.rdropWhile_concat]
      split
      · rename_i isZero
        rw [inductionHypothesis, beq_iff_eq.mp isZero]
        exact (getD_filled (front.length + 1) front position).symm.trans (by simp [filled])
      · rfl

/-- Fields without a zero at their end are told apart by the fields alone. -/
theorem length_le_of_getD_eq {left right : List Nat}
    (noZero : ∀ nonempty : left ≠ [], left.getLast nonempty ≠ 0)
    (sameFields : ∀ position, left.getD position 0 = right.getD position 0) :
    left.length ≤ right.length := by
  by_contra longer
  have nonempty : left ≠ [] := by
    rintro rfl
    exact longer (Nat.zero_le _)
  apply noZero nonempty
  have atLast := sameFields (left.length - 1)
  have inLeft : left.length - 1 < left.length := by
    have positive := List.length_pos_of_ne_nil nonempty
    omega
  rwa [List.getD_eq_getElem left 0 inLeft, List.getD_eq_default right 0 (by omega),
    ← List.getLast_eq_getElem nonempty] at atLast

theorem rdropWhile_eq_iff {left right : List Nat} :
    left.rdropWhile (· == 0) = right.rdropWhile (· == 0) ↔
      ∀ position, left.getD position 0 = right.getD position 0 := by
  constructor
  · intro same position
    rw [← getD_rdropWhile, same, getD_rdropWhile]
  · intro same
    have sameKept : ∀ position,
        (left.rdropWhile (· == 0)).getD position 0
          = (right.rdropWhile (· == 0)).getD position 0 := by
      intro position
      rw [getD_rdropWhile, getD_rdropWhile, same]
    have noZero : ∀ (fields : List Nat) (nonempty : fields.rdropWhile (· == 0) ≠ []),
        (fields.rdropWhile (· == 0)).getLast nonempty ≠ 0 := by
      intro fields nonempty isZero
      exact List.rdropWhile_last_not _ fields nonempty (beq_iff_eq.mpr isZero)
    apply eq_of_getD_eq _ sameKept
    exact Nat.le_antisymm
      (length_le_of_getD_eq (noZero left) sameKept)
      (length_le_of_getD_eq (noZero right) fun position => (sameKept position).symm)

theorem same_equivalence : Equivalence fun left right : KitVersion => left.same right = true where
  refl _ := beq_self_eq_true _
  symm equal := beq_iff_eq.mpr (beq_iff_eq.mp equal).symm
  trans equal otherEqual := beq_iff_eq.mpr ((beq_iff_eq.mp equal).trans (beq_iff_eq.mp otherEqual))

/-- Versions that have fields are equal when they have the same rank. -/
theorem same_iff {left right : KitVersion} (hasFields : left.fields ≠ [])
    (otherHasFields : right.fields ≠ []) : left.same right = true ↔ left.rank = right.rank := by
  obtain ⟨leftFields⟩ := left
  obtain ⟨rightFields⟩ := right
  cases leftFields with
  | nil => exact absurd rfl hasFields
  | cons first rest =>
      cases rightFields with
      | nil => exact absurd rfl otherHasFields
      | cons other others =>
          rw [same, beq_iff_eq, significant_cons, significant_cons, List.cons.injEq,
            rdropWhile_eq_iff, rank_inj]
          constructor
          · rintro ⟨sameFirst, sameRest⟩ position
            cases position with
            | zero => exact sameFirst
            | succ position => exact sameRest position
          · intro sameFields
            exact ⟨sameFields 0, fun position => sameFields (position + 1)⟩

theorem same_eq_false_iff {left right : KitVersion} (hasFields : left.fields ≠ [])
    (otherHasFields : right.fields ≠ []) : left.same right = false ↔ left.rank ≠ right.rank := by
  rw [← Bool.not_eq_true, same_iff hasFields otherHasFields]

theorem fields_eq_nil_of_same {left right : KitVersion} (equal : left.same right = true)
    (noFields : left.fields = []) : right.fields = [] := by
  rw [same, beq_iff_eq, noFields] at equal
  cases found : right.fields with
  | nil => rfl
  | cons first rest =>
      rw [found] at equal
      cases equal

/-- Equal versions have the same rank, whether they have fields or not. -/
theorem rank_eq_of_same {left right : KitVersion} (equal : left.same right = true) :
    left.rank = right.rank := by
  by_cases noFields : left.fields = []
  · have otherNoFields := fields_eq_nil_of_same equal noFields
    rw [rank_inj]
    intro position
    rw [field, field, noFields, otherNoFields]
  · have otherHasFields : right.fields ≠ [] := fun otherNoFields =>
      noFields (fields_eq_nil_of_same (same_equivalence.symm equal) otherNoFields)
    exact (same_iff noFields otherHasFields).mp equal

/-! ## The strict order -/

/-- One list is before another of its length at the first position at which they differ. -/
theorem isBefore_iff :
    ∀ {left right : List Nat}, left.length = right.length →
      (isBefore left right = true ↔
        ∃ position, (∀ earlier < position, left.getD earlier 0 = right.getD earlier 0) ∧
          left.getD position 0 < right.getD position 0)
  | [], [], _ => by simp [isBefore]
  | first :: rest, other :: others, sameLength => by
      have inductionHypothesis := @isBefore_iff rest others (by simpa using sameLength)
      rw [isBefore, Bool.or_eq_true, Bool.and_eq_true, decide_eq_true_eq, beq_iff_eq,
        inductionHypothesis]
      constructor
      · rintro (smaller | ⟨same, position, agree, smaller⟩)
        · exact ⟨0, fun _ impossible => absurd impossible (Nat.not_lt_zero _), smaller⟩
        · refine ⟨position + 1, fun earlier before => ?_, smaller⟩
          cases earlier with
          | zero => exact same
          | succ earlier => exact agree earlier (by omega)
      · rintro ⟨position, agree, smaller⟩
        cases position with
        | zero => exact Or.inl smaller
        | succ position =>
            refine Or.inr ⟨agree 0 (Nat.zero_lt_succ _), position, ?_, smaller⟩
            intro earlier before
            exact agree (earlier + 1) (by omega)

/-- The order of versions is the order of their ranks. -/
theorem less_iff {left right : KitVersion} : left.less right = true ↔ left.rank < right.rank := by
  have sameLength :
      (filled (max left.fields.length right.fields.length) left.fields).length
        = (filled (max left.fields.length right.fields.length) right.fields).length := by
    rw [length_filled (le_max_left _ _), length_filled (le_max_right _ _)]
  rw [less, isBefore_iff sameLength, rank_lt_iff]
  simp only [getD_filled, field]

theorem less_eq_false_iff {left right : KitVersion} :
    left.less right = false ↔ right.rank ≤ left.rank := by
  rw [← Bool.not_eq_true, less_iff]
  exact not_lt

/-- The order does not tell versions of one rank apart. -/
theorem less_congr {left right leftOther rightOther : KitVersion}
    (sameLeft : left.rank = leftOther.rank) (sameRight : right.rank = rightOther.rank) :
    left.less right = leftOther.less rightOther := by
  rw [Bool.eq_iff_iff, less_iff, less_iff, sameLeft, sameRight]

/-! ## The other relations -/

theorem lessOrSame_iff {left right : KitVersion} :
    left.lessOrSame right = true ↔ left.less right = true ∨ left.same right = true := by
  rw [lessOrSame, Bool.or_eq_true]

theorem greaterOrSame_iff {left right : KitVersion} :
    left.greaterOrSame right = true ↔ right.rank ≤ left.rank := by
  rw [greaterOrSame, Bool.not_eq_true', less_eq_false_iff]

theorem greater_iff {left right : KitVersion} (hasFields : left.fields ≠ [])
    (otherHasFields : right.fields ≠ []) :
    left.greater right = true ↔ right.rank < left.rank := by
  rw [greater, Bool.and_eq_true, Bool.not_eq_true', Bool.not_eq_true', less_eq_false_iff,
    same_eq_false_iff hasFields otherHasFields]
  constructor
  · rintro ⟨atMost, notSame⟩
    exact lt_of_le_of_ne atMost (Ne.symm notSame)
  · intro smaller
    exact ⟨le_of_lt smaller, ne_of_gt smaller⟩

theorem greater_eq_false_iff {left right : KitVersion} (hasFields : left.fields ≠ [])
    (otherHasFields : right.fields ≠ []) :
    left.greater right = false ↔ left.rank ≤ right.rank := by
  rw [← Bool.not_eq_true, greater_iff hasFields otherHasFields]
  exact not_lt

theorem hash_eq_of_same {left right : KitVersion} (equal : left.same right = true) :
    hash left = hash right := by
  have sameKept : significant left.fields = significant right.fields := beq_iff_eq.mp equal
  show hash (significant left.fields) = hash (significant right.fields)
  rw [sameKept]

instance : EquivBEq KitVersion where
  rfl := same_equivalence.refl _
  symm := same_equivalence.symm
  trans := same_equivalence.trans

instance : LawfulHashable KitVersion := ⟨fun _ _ => hash_eq_of_same⟩

/-- Of two versions that have fields, one is before the other, or they are equal, and only one of
these holds. -/
theorem trichotomy {left right : KitVersion} (hasFields : left.fields ≠ [])
    (otherHasFields : right.fields ≠ []) :
    (left.less right = true ∧ left.same right = false ∧ right.less left = false) ∨
      (left.less right = false ∧ left.same right = true ∧ right.less left = false) ∨
        (left.less right = false ∧ left.same right = false ∧ right.less left = true) := by
  rw [less_iff, less_iff, less_eq_false_iff, less_eq_false_iff,
    same_iff hasFields otherHasFields, same_eq_false_iff hasFields otherHasFields]
  rcases lt_trichotomy left.rank right.rank with before | equal | after
  · exact Or.inl ⟨before, ne_of_lt before, le_of_lt before⟩
  · exact Or.inr (Or.inl ⟨le_of_eq equal.symm, equal, le_of_eq equal⟩)
  · exact Or.inr (Or.inr ⟨le_of_lt after, ne_of_gt after, after⟩)

/-- The versions that have fields are totally ordered by their fields filled up with zeros to one
length. Every relation between them goes by this order, and so do their hashes. -/
theorem consistent_order {left right other : KitVersion} (hasFields : left.fields ≠ [])
    (otherHasFields : right.fields ≠ []) :
    let width := max left.fields.length right.fields.length
    let leftFilled := filled width left.fields
    let rightFilled := filled width right.fields
    (left.same right = true ↔ leftFilled = rightFilled) ∧
      (left.less right = true ↔
        ∃ position,
          (∀ earlier < position, leftFilled.getD earlier 0 = rightFilled.getD earlier 0) ∧
            leftFilled.getD position 0 < rightFilled.getD position 0) ∧
      ((left.less right = true ∧ left.same right = false ∧ right.less left = false) ∨
        (left.less right = false ∧ left.same right = true ∧ right.less left = false) ∨
          (left.less right = false ∧ left.same right = false ∧ right.less left = true)) ∧
      (left.less right = true → right.less other = true → left.less other = true) ∧
      (left.same right = true →
        left.less other = right.less other ∧ other.less left = other.less right) ∧
      (left.same right = true → hash left = hash right) ∧
      (left.lessOrSame right = true ↔ left.less right = true ∨ left.same right = true) ∧
      (left.greater right = true ↔ right.less left = true) ∧
      (left.greaterOrSame right = true ↔ right.less left = true ∨ left.same right = true) := by
  intro width leftFilled rightFilled
  refine ⟨?_, ?_, trichotomy hasFields otherHasFields, ?_, ?_, hash_eq_of_same, lessOrSame_iff,
    ?_, ?_⟩
  · rw [same_iff hasFields otherHasFields]
    exact filled_eq_iff.symm
  · rw [less_iff, rank_lt_iff]
    simp only [leftFilled, rightFilled, getD_filled, field]
  · rw [less_iff, less_iff, less_iff]
    exact lt_trans
  · intro equal
    have sameRank := rank_eq_of_same equal
    exact ⟨less_congr sameRank rfl, less_congr rfl sameRank⟩
  · rw [greater_iff hasFields otherHasFields, less_iff]
  · rw [greaterOrSame_iff, less_iff, same_iff hasFields otherHasFields, le_iff_lt_or_eq]
    exact or_congr_right eq_comm

/-- A version stands where the same version with a zero more stands. -/
theorem consistent_order_padded :
    let short : KitVersion := ⟨[10, 0, 22000]⟩
    let long : KitVersion := ⟨[10, 0, 22000, 0]⟩
    let next : KitVersion := ⟨[10, 0, 26100]⟩
    short.fields ≠ [] ∧ long.fields ≠ [] ∧
      short.same long = true ∧ hash short = hash long ∧ long.less next = true ∧
        short.less next = long.less next ∧ short.greaterOrSame long = true := by
  intro short long next
  obtain ⟨equal, _, _, _, moved, hashed, _, _, atLeast⟩ :=
    @consistent_order short long next (by decide) (by decide)
  have same : short.same long = true := equal.mpr (by decide)
  exact ⟨by decide, by decide, same, hashed same, by decide, (moved same).1,
    atLeast.mpr (Or.inr same)⟩

end DriverKit.KitVersion
