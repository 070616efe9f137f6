import DriverKit.BuildConfig
import Mathlib.Data.List.Induction

/-!
# Definitions for the preprocessor

Of several definitions of one name the last one counts. Names have one entry each among the latest
definitions, and the entry is the last one that was given.
-/

namespace DriverKit.Define

/-! ## One entry for each name -/

theorem put_of_not_mem {name : String} {value : Option String} {defines : List Define}
    (absent : name ∉ defines.map Prod.fst) :
    put name value defines = defines ++ [(name, value)] := by
  induction defines with
  | nil => rfl
  | cons entry rest inductionHypothesis =>
      simp only [List.map_cons, List.mem_cons, not_or] at absent
      have different : (entry.1 == name) = false := by
        simpa using fun same => absent.1 (Eq.symm same)
      simp [put, different, inductionHypothesis absent.2]

theorem mem_names_put {name other : String} {value : Option String} {defines : List Define}
    (member : other ∈ (put name value defines).map Prod.fst) :
    other = name ∨ other ∈ defines.map Prod.fst := by
  induction defines with
  | nil => simpa [put] using member
  | cons entry rest inductionHypothesis =>
      by_cases same : entry.1 = name
      · simpa [put, same] using member
      · simp only [put, beq_eq_false_iff_ne.mpr same, Bool.false_eq_true, if_false, List.map_cons,
          List.mem_cons] at member ⊢
        rcases member with first | later
        · exact Or.inr (Or.inl first)
        · rcases inductionHypothesis later with added | kept
          · exact Or.inl added
          · exact Or.inr (Or.inr kept)

theorem nodup_names_put {name : String} {value : Option String} {defines : List Define}
    (nodup : (defines.map Prod.fst).Nodup) : ((put name value defines).map Prod.fst).Nodup := by
  induction defines with
  | nil => simp [put]
  | cons entry rest inductionHypothesis =>
      rw [List.map_cons, List.nodup_cons] at nodup
      by_cases same : entry.1 = name
      · have entered : put name value (entry :: rest) = (name, value) :: rest := by
          simp [put, same]
        rw [entered, List.map_cons, List.nodup_cons]
        exact same ▸ nodup
      · simp only [put, beq_eq_false_iff_ne.mpr same, Bool.false_eq_true, if_false, List.map_cons,
          List.nodup_cons]
        refine ⟨fun member => ?_, inductionHypothesis nodup.2⟩
        rcases mem_names_put member with added | kept
        · exact same added
        · exact nodup.1 kept

theorem nodup_names_foldl_put {defines : List Define} :
    ∀ {start : List Define}, (start.map Prod.fst).Nodup →
      ((defines.foldl (fun kept entry => put entry.1 entry.2 kept) start).map Prod.fst).Nodup := by
  induction defines with
  | nil => exact id
  | cons entry rest inductionHypothesis =>
      intro start nodup
      exact inductionHypothesis (nodup_names_put nodup)

/-- No name has two entries among the latest definitions. -/
theorem nodup_names_latest (defines : List Define) : ((latest defines).map Prod.fst).Nodup :=
  nodup_names_foldl_put List.nodup_nil

theorem foldl_put_of_nodup {defines : List Define} :
    ∀ {start : List Define}, ((start ++ defines).map Prod.fst).Nodup →
      defines.foldl (fun kept entry => put entry.1 entry.2 kept) start = start ++ defines := by
  induction defines with
  | nil =>
      intro start _
      exact (List.append_nil start).symm
  | cons entry rest inductionHypothesis =>
      intro start nodup
      have absent : entry.1 ∉ start.map Prod.fst := by
        rw [List.map_append, List.nodup_append] at nodup
        exact fun member => nodup.2.2 entry.1 member entry.1 (by simp) rfl
      have rejoined : start ++ entry :: rest = (start ++ [entry]) ++ rest := by simp
      rw [rejoined] at nodup ⊢
      rw [List.foldl_cons, put_of_not_mem absent]
      exact inductionHypothesis nodup

/-- Definitions of different names are their own latest ones, in the same order. -/
theorem latest_of_nodup {defines : List Define} (nodup : (defines.map Prod.fst).Nodup) :
    latest defines = defines :=
  foldl_put_of_nodup nodup

/-! ## Entries that count -/

theorem mem_put_iff {name other : String} {value otherValue : Option String}
    {defines : List Define} (nodup : (defines.map Prod.fst).Nodup) :
    (other, otherValue) ∈ put name value defines ↔
      if other = name then otherValue = value else (other, otherValue) ∈ defines := by
  induction defines with
  | nil =>
      by_cases same : other = name
      · simp [put, same]
      · simp [put, same]
  | cons entry rest inductionHypothesis =>
      obtain ⟨entryName, entryValue⟩ := entry
      rw [List.map_cons, List.nodup_cons] at nodup
      have onlyFirst : ∀ later, (entryName, later) ∉ rest := by
        intro later member
        exact nodup.1 (List.mem_map.mpr ⟨(entryName, later), member, rfl⟩)
      by_cases replaced : entryName = name
      · subst replaced
        by_cases same : other = entryName
        · subst same
          simp [put, onlyFirst]
        · simp [put, same]
      · have kept : put name value ((entryName, entryValue) :: rest)
            = (entryName, entryValue) :: put name value rest := by
          simp [put, replaced]
        rw [kept, List.mem_cons, inductionHypothesis nodup.2]
        by_cases same : other = name
        · subst same
          simp [Ne.symm replaced]
        · simp [same]

/-- The last definition of a name gives it this value. -/
def IsLast (name : String) (value : Option String) (defines : List Define) : Prop :=
  ∃ before after, defines = before ++ (name, value) :: after ∧ ∀ later ∈ after, later.1 ≠ name

theorem isLast_concat_iff {name other : String} {value otherValue : Option String}
    {defines : List Define} :
    IsLast other otherValue (defines ++ [(name, value)]) ↔
      if other = name then otherValue = value else IsLast other otherValue defines := by
  constructor
  · rintro ⟨before, after, split, noLater⟩
    induction after using List.reverseRecOn with
    | nil =>
        have ends := List.append_inj' split rfl
        simp only [List.cons.injEq, Prod.mk.injEq, and_true] at ends
        rw [if_pos ends.2.1.symm]
        exact ends.2.2.symm
    | append_singleton front ending _ =>
        have regrouped : defines ++ [(name, value)]
            = (before ++ (other, otherValue) :: front) ++ [ending] := by
          simpa using split
        have ends := List.append_inj' regrouped rfl
        have endingIs : ending = (name, value) := by simpa using ends.2.symm
        have different : other ≠ name := by
          have last := noLater ending (by simp)
          rw [endingIs] at last
          exact last.symm
        rw [if_neg different]
        exact ⟨before, front, ends.1, fun later member => noLater later (by simp [member])⟩
  · intro counts
    by_cases same : other = name
    · rw [if_pos same] at counts
      subst same
      subst counts
      exact ⟨defines, [], rfl, by simp⟩
    · rw [if_neg same] at counts
      obtain ⟨before, after, split, noLater⟩ := counts
      refine ⟨before, after ++ [(name, value)], by simp [split], ?_⟩
      intro later member
      rcases List.mem_append.mp member with earlier | last
      · exact noLater later earlier
      · rw [List.mem_singleton.mp last]
        exact Ne.symm same

/-- The entry for a name among the latest definitions is the last one that was given. -/
theorem mem_latest_iff {name : String} {value : Option String} {defines : List Define} :
    (name, value) ∈ latest defines ↔ IsLast name value defines := by
  -- The latest definitions are built up from the left, so the last one is taken off first.
  induction defines using List.reverseRecOn with
  | nil => simp [latest, IsLast]
  | append_singleton front entry inductionHypothesis =>
      obtain ⟨entryName, entryValue⟩ := entry
      have added : latest (front ++ [(entryName, entryValue)])
          = put entryName entryValue (latest front) := by
        simp [latest]
      rw [added, mem_put_iff (nodup_names_latest front), inductionHypothesis, isLast_concat_iff]

end DriverKit.Define
