import DriverKit.KitLayout
import DriverKit.Proofs.Outcome

/-!
# Faults of layouts

What can be wrong with a value that is read as a layout, from the whole value down to one tier. A
reading fails just with the first fault that it meets. Most faults are refused as a configuration
that makes no sense. Two are not: a group of tiers that is no map, and a name or template with a
number that has too many digits to be written.
-/

namespace DriverKit

theorem Datum.write_eq_error_iff {value : Datum} {failure : Failure} :
    value.write = .error failure ↔
      failure = .misuse .overlongNumeral ∧ value.isWritable = false := by
  unfold Datum.write
  cases value.isWritable with
  | true => simp
  | false => simp [eq_comm]

theorem DriverClass.read_eq_error_iff {text : String} {failure : Failure} :
    DriverClass.read text = .error failure ↔
      failure = .invalidConfig (.unknownClass text) [] ∧
        DriverClass.ofName? (Text.upperPlain (Text.trim text)) = none := by
  unfold DriverClass.read
  cases DriverClass.ofName? (Text.upperPlain (Text.trim text)) with
  | none => simp [eq_comm]
  | some driverClass => simp

namespace KitLayout

/-! ## Tiers -/

/-- A fault of what is to be a tier. -/
inductive TierFault (group className : String) (entry : Datum) : Failure → Prop where
  | withoutTemplate
      (absent : ∀ fields, entry.opened = .map fields → Datum.field? fields "template" = none) :
      TierFault group className entry (.invalidConfig (.tierWithoutTemplate group className) [])
  | overlong {fields : List (Scalar × Datum)} {template : Datum}
      (opened : entry.opened = .map fields) (found : Datum.field? fields "template" = some template)
      (unwritable : template.isWritable = false) :
      TierFault group className entry (.misuse .overlongNumeral)

theorem readTier_eq_error_iff {group className : String} {entry : Datum} {failure : Failure} :
    readTier group className entry = .error failure ↔ TierFault group className entry failure := by
  constructor
  · intro failed
    unfold readTier at failed
    cases opened : entry.opened with
    | map fields =>
        cases found : Datum.field? fields "template" with
        | none =>
            simp only [opened, found] at failed
            cases failed
            refine .withoutTemplate fun others sameMap => ?_
            rw [opened] at sameMap
            cases sameMap
            exact found
        | some template =>
            simp only [opened, found, bind_eq_error_iff] at failed
            rcases failed with unwritten | ⟨_, _, impossible⟩
            · obtain ⟨rfl, unwritable⟩ := Datum.write_eq_error_iff.mp unwritten
              exact .overlong opened found unwritable
            · cases impossible
    | _ =>
        simp only [opened] at failed
        cases failed
        refine .withoutTemplate fun fields sameMap => ?_
        rw [opened] at sameMap
        cases sameMap
  · intro fault
    unfold readTier
    cases fault with
    | withoutTemplate absent =>
        cases opened : entry.opened with
        | map fields => simp only [absent fields opened]
        | _ => rfl
    | overlong opened found unwritable =>
        simp only [opened, found, Datum.write_eq_error_iff.mpr ⟨rfl, unwritable⟩, error_bind]

/-! ## Classes -/

/-- A fault of what is to be the tiers of a class. -/
inductive TiersFault (group className : String) (entries : Datum) : Failure → Prop where
  | notList (noList : ∀ items, entries.opened ≠ .list items) :
      TiersFault group className entries (.invalidConfig (.tiersNotList group className) [])
  | tier {items : List Datum} {failure : Failure} (opened : entries.opened = .list items)
      (first : FirstFault (TierFault group className) items failure) :
      TiersFault group className entries failure

theorem readTiers_eq_error_iff {group className : String} {entries : Datum} {failure : Failure} :
    readTiers group className entries = .error failure ↔
      TiersFault group className entries failure := by
  unfold readTiers
  constructor
  · intro failed
    cases opened : entries.opened with
    | list items =>
        simp only [opened] at failed
        exact .tier opened ((mapM_eq_error_iff fun _ _ => readTier_eq_error_iff).mp failed)
    | _ =>
        simp only [opened] at failed
        cases failed
        refine .notList fun items sameList => ?_
        rw [opened] at sameList
        cases sameList
  · intro fault
    cases fault with
    | notList noList =>
        split
        · rename_i items opened
          exact absurd opened (noList items)
        · rfl
    | tier opened first =>
        simp only [opened]
        exact (mapM_eq_error_iff fun _ _ => readTier_eq_error_iff).mpr first

/-- A fault of an entry of a group: of its key, which is to name a class, or of its tiers. -/
inductive EntryFault (group : String) (key : Scalar) (tiers : Datum) : Failure → Prop where
  | overlong (unwritable : (Datum.scalar key).isWritable = false) :
      EntryFault group key tiers (.misuse .overlongNumeral)
  | unknownClass {className : String} (written : (Datum.scalar key).write = .ok className)
      (unknown : DriverClass.ofName? (Text.upperPlain (Text.trim className)) = none) :
      EntryFault group key tiers (.invalidConfig (.unknownClass className) [])
  | tiers {className : String} {driverClass : DriverClass} {failure : Failure}
      (written : (Datum.scalar key).write = .ok className)
      (named : DriverClass.read className = .ok driverClass)
      (fault : TiersFault group className tiers failure) : EntryFault group key tiers failure

/-- Reads an entry of a group. -/
def readEntry (group : String) (key : Scalar) (tiers : Datum) :
    Except Failure (DriverClass × List Tier) := do
  let className ← (Datum.scalar key).write
  let driverClass ← DriverClass.read className
  return (driverClass, ← readTiers group className tiers)

theorem readEntry_eq_error_iff {group : String} {key : Scalar} {tiers : Datum}
    {failure : Failure} :
    readEntry group key tiers = .error failure ↔ EntryFault group key tiers failure := by
  unfold readEntry
  constructor
  · intro failed
    rcases bind_eq_error_iff.mp failed with unwritten | ⟨className, written, failed⟩
    · obtain ⟨rfl, unwritable⟩ := Datum.write_eq_error_iff.mp unwritten
      exact .overlong unwritable
    rcases bind_eq_error_iff.mp failed with unread | ⟨driverClass, named, failed⟩
    · obtain ⟨rfl, unknown⟩ := DriverClass.read_eq_error_iff.mp unread
      exact .unknownClass written unknown
    rcases bind_eq_error_iff.mp failed with unread | ⟨_, _, impossible⟩
    · exact .tiers written named (readTiers_eq_error_iff.mp unread)
    · cases impossible
  · intro fault
    cases fault with
    | overlong unwritable =>
        rw [Datum.write_eq_error_iff.mpr ⟨rfl, unwritable⟩, error_bind]
    | unknownClass written unknown =>
        rw [written, ok_bind, DriverClass.read_eq_error_iff.mpr ⟨rfl, unknown⟩, error_bind]
    | tiers written named fault =>
        rw [written, ok_bind, named, ok_bind, readTiers_eq_error_iff.mpr fault, error_bind]

/-! ## Groups -/

/-- The value of a group in a layout; what counts as absent is none. -/
def group? (fields : List (Scalar × Datum)) (group : String) : Option Datum :=
  (Datum.field? fields group).filter Datum.isPresent

/-- A fault of what is to be a group of tiers. -/
inductive GroupFault (fields : List (Scalar × Datum)) (group : String) : Failure → Prop where
  | notMapping {value : Datum} (found : group? fields group = some value)
      (noMap : ∀ entries, value.opened ≠ .map entries) :
      GroupFault fields group (.misuse .notMapping)
  | entry {value : Datum} {entries : List (Scalar × Datum)} {failure : Failure}
      (found : group? fields group = some value) (opened : value.opened = .map entries)
      (first : FirstFault (fun entry => EntryFault group entry.1 entry.2) entries failure) :
      GroupFault fields group failure

theorem readGroup_eq (fields : List (Scalar × Datum)) (group : String) :
    readGroup fields group
      = match (group? fields group).map Datum.opened with
        | none => .ok []
        | some (.map entries) => entries.mapM fun entry => readEntry group entry.1 entry.2
        | some _ => .error (.misuse .notMapping) := by
  have present : (Datum.field? fields group).bind Datum.present? = group? fields group := by
    unfold group?
    cases Datum.field? fields group with
    | none => rfl
    | some value => simp [Datum.present?, Option.filter]
  rw [readGroup, present]
  rfl

theorem readGroup_eq_error_iff {fields : List (Scalar × Datum)} {group : String}
    {failure : Failure} :
    readGroup fields group = .error failure ↔ GroupFault fields group failure := by
  have entries_iff : ∀ entries : List (Scalar × Datum),
      (entries.mapM fun entry => readEntry group entry.1 entry.2) = .error failure ↔
        FirstFault (fun entry => EntryFault group entry.1 entry.2) entries failure :=
    fun _ => mapM_eq_error_iff fun _ _ => readEntry_eq_error_iff
  rw [readGroup_eq]
  constructor
  · intro failed
    cases found : group? fields group with
    | none =>
        rw [found] at failed
        cases failed
    | some value =>
        cases opened : value.opened with
        | map entries =>
            simp only [found, Option.map_some, opened] at failed
            exact .entry found opened ((entries_iff entries).mp failed)
        | _ =>
            simp only [found, Option.map_some, opened] at failed
            cases failed
            refine .notMapping found fun entries sameMap => ?_
            rw [opened] at sameMap
            cases sameMap
  · intro fault
    cases fault with
    | @notMapping value found noMap =>
        rw [found, Option.map_some]
        cases opened : value.opened with
        | map entries => exact absurd opened (noMap entries)
        | _ => rfl
    | entry found opened first =>
        rw [found, Option.map_some, opened]
        exact (entries_iff _).mpr first

/-! ## Layouts -/

/-- A fault of what is to be a layout. The groups are gone through one after the other. -/
inductive LayoutFault (value : Datum) : Failure → Prop where
  | notMapping (present : value.isPresent = true) (noMap : ∀ fields, value.opened ≠ .map fields) :
      LayoutFault value (.invalidConfig .layoutNotMapping [])
  | includeTiers {fields : List (Scalar × Datum)} {failure : Failure}
      (present : value.isPresent = true) (opened : value.opened = .map fields)
      (fault : GroupFault fields "include_tiers" failure) : LayoutFault value failure
  | libTiers {fields : List (Scalar × Datum)} {failure : Failure}
      (present : value.isPresent = true) (opened : value.opened = .map fields)
      (fine : ∀ other, ¬GroupFault fields "include_tiers" other)
      (fault : GroupFault fields "lib_tiers" failure) : LayoutFault value failure

theorem exists_readGroup_iff {fields : List (Scalar × Datum)} {group : String} :
    (∃ overrides, readGroup fields group = .ok overrides) ↔
      ∀ failure, ¬GroupFault fields group failure := by
  simp only [← readGroup_eq_error_iff]
  cases readGroup fields group with
  | error failure => simp
  | ok overrides => simp

/-- A value is read as a layout unless it has a fault, and then the fault is what is reported. -/
theorem ofDatum_eq_error_iff {host : Template.Parts} {value : Datum} {failure : Failure} :
    ofDatum host value = .error failure ↔ LayoutFault value failure := by
  unfold ofDatum Datum.present?
  cases present : value.isPresent with
  | false =>
      constructor
      · intro failed
        cases failed
      · intro fault
        cases fault with
        | notMapping isPresent _ => cases present.symm.trans isPresent
        | includeTiers isPresent _ _ => cases present.symm.trans isPresent
        | libTiers isPresent _ _ _ => cases present.symm.trans isPresent
  | true =>
      simp only [if_true, Option.map_some]
      cases opened : value.opened with
      | map fields =>
          simp only [bind_eq_error_iff]
          constructor
          · rintro (failed | ⟨includes, isRead, failed | ⟨libs, _, impossible⟩⟩)
            · exact .includeTiers present opened (readGroup_eq_error_iff.mp failed)
            · exact .libTiers present opened (exists_readGroup_iff.mp ⟨includes, isRead⟩)
                (readGroup_eq_error_iff.mp failed)
            · cases impossible
          · intro fault
            cases fault with
            | notMapping _ noMap => exact absurd opened (noMap fields)
            | includeTiers _ sameMap fault =>
                cases opened.symm.trans sameMap
                exact Or.inl (readGroup_eq_error_iff.mpr fault)
            | libTiers _ sameMap fine fault =>
                cases opened.symm.trans sameMap
                obtain ⟨includes, isRead⟩ := exists_readGroup_iff.mpr fine
                exact Or.inr ⟨includes, isRead, Or.inl (readGroup_eq_error_iff.mpr fault)⟩
      | _ =>
          constructor
          · intro failed
            cases failed
            refine .notMapping present fun fields sameMap => ?_
            rw [opened] at sameMap
            cases sameMap
          · intro fault
            cases fault with
            | notMapping _ _ => rfl
            | includeTiers _ sameMap _ => cases opened.symm.trans sameMap
            | libTiers _ sameMap _ _ => cases opened.symm.trans sameMap

/-! ## What is refused -/

theorem TierFault.cases {group className : String} {entry : Datum} {failure : Failure}
    (fault : TierFault group className entry failure) :
    (∃ refusal, failure = .invalidConfig refusal []) ∨ failure = .misuse .overlongNumeral := by
  cases fault with
  | withoutTemplate _ => exact Or.inl ⟨_, rfl⟩
  | overlong _ _ _ => exact Or.inr rfl

theorem TiersFault.cases {group className : String} {entries : Datum} {failure : Failure}
    (fault : TiersFault group className entries failure) :
    (∃ refusal, failure = .invalidConfig refusal []) ∨ failure = .misuse .overlongNumeral := by
  cases fault with
  | notList _ => exact Or.inl ⟨_, rfl⟩
  | tier _ first =>
      obtain ⟨_, _, _, _, _, fault⟩ := first
      exact fault.cases

theorem EntryFault.cases {group : String} {key : Scalar} {tiers : Datum} {failure : Failure}
    (fault : EntryFault group key tiers failure) :
    (∃ refusal, failure = .invalidConfig refusal []) ∨ failure = .misuse .overlongNumeral := by
  cases fault with
  | overlong _ => exact Or.inr rfl
  | unknownClass _ _ => exact Or.inl ⟨_, rfl⟩
  | tiers _ _ fault => exact fault.cases

theorem GroupFault.cases {fields : List (Scalar × Datum)} {group : String} {failure : Failure}
    (fault : GroupFault fields group failure) :
    (∃ refusal, failure = .invalidConfig refusal []) ∨
      failure = .misuse .notMapping ∨ failure = .misuse .overlongNumeral := by
  cases fault with
  | notMapping _ _ => exact Or.inr (Or.inl rfl)
  | entry _ _ first =>
      obtain ⟨_, _, _, _, _, fault⟩ := first
      rcases fault.cases with refused | overlong
      · exact Or.inl refused
      · exact Or.inr (Or.inr overlong)

/-- A fault of a layout is refused, or is one of the two that are not. -/
theorem LayoutFault.cases {value : Datum} {failure : Failure} (fault : LayoutFault value failure) :
    (∃ refusal, failure = .invalidConfig refusal []) ∨
      failure = .misuse .notMapping ∨ failure = .misuse .overlongNumeral := by
  cases fault with
  | notMapping _ _ => exact Or.inl ⟨_, rfl⟩
  | includeTiers _ _ fault => exact fault.cases
  | libTiers _ _ _ fault => exact fault.cases

/-- Whether a value is read as a layout does not depend on the host. -/
theorem exists_ofDatum_iff {host other : Template.Parts} {value : Datum} :
    (∃ layout, ofDatum host value = .ok layout) ↔ ∃ layout, ofDatum other value = .ok layout := by
  have acceptedUnless : ∀ {parts : Template.Parts},
      (∃ layout, ofDatum parts value = .ok layout) ↔ ∀ failure, ¬LayoutFault value failure := by
    intro parts
    simp only [← @ofDatum_eq_error_iff parts]
    cases ofDatum parts value with
    | error failure => simp
    | ok layout => simp
  rw [acceptedUnless, acceptedUnless]

/-- A value is read as a layout or refused as a configuration unless it has a fault that is not
refused. -/
theorem read_or_refused_iff {host : Template.Parts} {value : Datum} :
    ((∃ layout, ofDatum host value = .ok layout) ∨
        ∃ refusal, ofDatum host value = .error (.invalidConfig refusal [])) ↔
      ∀ cause, ¬LayoutFault value (.misuse cause) := by
  simp only [← @ofDatum_eq_error_iff host]
  constructor
  · rintro (⟨layout, isOk⟩ | ⟨refusal, refused⟩) cause escapes
    · cases isOk.symm.trans escapes
    · cases refused.symm.trans escapes
  · intro nothing
    cases isRead : ofDatum host value with
    | ok layout => exact Or.inl ⟨layout, rfl⟩
    | error failure =>
        rcases (ofDatum_eq_error_iff.mp isRead).cases with ⟨refusal, rfl⟩ | rfl | rfl
        · exact Or.inr ⟨refusal, rfl⟩
        · exact absurd isRead (nothing _)
        · exact absurd isRead (nothing _)

end KitLayout

end DriverKit
