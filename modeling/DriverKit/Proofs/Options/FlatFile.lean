import DriverKit.Proofs.Options.Sources
import DriverKit.Proofs.Yaml.Loader

/-!
# Options files of plain lines

An options file in which every line gives an option a plain word is a section. What it has for an
option is the value of the last line that gives it one.
-/

namespace DriverKit

/-! ## Fields put one after another -/

namespace Yaml

theorem forall_put {α : Type} {onKey : Scalar → Prop} {onValue : α → Prop} {key : Scalar}
    {value : α} (isKey : onKey key) (isValue : onValue value) {before : List (Scalar × α)}
    (each : ∀ entry ∈ before, onKey entry.1 ∧ onValue entry.2) :
    ∀ entry ∈ key.put value before, onKey entry.1 ∧ onValue entry.2 := by
  induction before with
  | nil => exact List.forall_mem_singleton.mpr ⟨isKey, isValue⟩
  | cons first rest ih =>
      obtain ⟨here, others⟩ := List.forall_mem_cons.mp each
      unfold Scalar.put
      split
      · exact List.forall_mem_cons.mpr ⟨⟨here.1, isValue⟩, others⟩
      · exact List.forall_mem_cons.mpr ⟨here, ih others⟩

/-- What holds of the keys and values of all fields still holds when they have been put. -/
theorem forall_putAll {α : Type} (onKey : Scalar → Prop) (onValue : α → Prop)
    {before fields : List (Scalar × α)} (first : ∀ entry ∈ before, onKey entry.1 ∧ onValue entry.2)
    (each : ∀ field ∈ fields, onKey field.1 ∧ onValue field.2) :
    ∀ entry ∈ putAll before fields, onKey entry.1 ∧ onValue entry.2 := by
  induction fields generalizing before with
  | nil => exact first
  | cons field rest ih =>
      obtain ⟨⟨isKey, isValue⟩, others⟩ := List.forall_mem_cons.mp each
      exact ih (forall_put isKey isValue first) others

/-- Fields with other names change nothing about a field. -/
theorem field?_putAll {name : String} {fields : List (Scalar × Datum)}
    (others : ∀ field ∈ fields, ∃ key, field.1 = .text key ∧ key ≠ name)
    (before : List (Scalar × Datum)) :
    Datum.field? (putAll before fields) name = Datum.field? before name := by
  induction fields generalizing before with
  | nil => rfl
  | cons field rest ih =>
      obtain ⟨⟨key, isText, different⟩, inRest⟩ := List.forall_mem_cons.mp others
      refine (ih inRest _).trans ?_
      show Datum.field? (field.1.put field.2 before) name = _
      rw [isText, Datum.field?_put, if_neg different]

/-- The last field with a name counts. -/
theorem field?_putAll_last {name : String} {value : Datum} {front back : List (Scalar × Datum)}
    (others : ∀ field ∈ back, ∃ key, field.1 = .text key ∧ key ≠ name) :
    Datum.field? (putAll [] (front ++ (.text name, value) :: back)) name = some value := by
  have split : putAll [] (front ++ (.text name, value) :: back)
      = putAll ((Scalar.text name).put value (putAll [] front)) back :=
    List.foldl_append
  rw [split, field?_putAll others, Datum.field?_put, if_pos rfl]

end Yaml

namespace Options

/-! ## Lines of options -/

/-- A line gives an option a word with a value that can be written. -/
structure GivesOption (line : Yaml.Line) : Prop where
  isName : ∃ setting : Setting, line.key = setting.name
  valueWord : Yaml.isWord line.value.toList = true
  hasValue : ∃ value, Yaml.ReadsWord line.value value ∧ value.isWritable = true

/-- The field that a line of options is read as. -/
def fieldOf (line : Yaml.Line) : Scalar × Scalar :=
  (.text line.key, (Yaml.readPlain line.value).toOption.getD .null)

theorem readsWord_name (setting : Setting) : Yaml.ReadsWord setting.name (.text setting.name) := by
  cases setting <;> exact ⟨eq_ok_of_toOption (by decide), nofun⟩

theorem GivesOption.isPlain {line : Yaml.Line} (gives : GivesOption line) : line.IsPlain := by
  obtain ⟨⟨setting, isName⟩, valueWord, _⟩ := gives
  refine ⟨?_, valueWord, ?_⟩ <;> rw [isName] <;> cases setting <;> decide

theorem fieldOf_of_readsWord {line : Yaml.Line} {value : Scalar}
    (reads : Yaml.ReadsWord line.value value) : fieldOf line = (.text line.key, value) := by
  rw [fieldOf, reads.isRead]
  rfl

theorem GivesOption.reads {line : Yaml.Line} (gives : GivesOption line) :
    line.Reads (fieldOf line) := by
  obtain ⟨⟨setting, isName⟩, _, value, reads, _⟩ := gives
  rw [fieldOf_of_readsWord reads]
  refine ⟨?_, reads⟩
  rw [isName]
  exact readsWord_name setting

/-- The fields of an options file of plain lines. -/
def flatFields (lines : List Yaml.Line) : Fields :=
  Yaml.putAll [] ((lines.map fieldOf).map (Yaml.mapValue .scalar))

section

variable {lines : List Yaml.Line} (gives : ∀ line ∈ lines, GivesOption line)

include gives

theorem forall_flatFields :
    ∀ field ∈ flatFields lines, (∃ setting : Setting, field.1 = .text setting.name) ∧
      ∃ value : Scalar, field.2 = .scalar value ∧ value.isWritable = true := by
  refine Yaml.forall_putAll (fun key => ∃ setting : Setting, key = .text setting.name)
    (fun datum : Datum => ∃ value : Scalar, datum = .scalar value ∧ value.isWritable = true)
    (List.forall_mem_nil _) ?_
  rw [List.map_map, List.forall_mem_map]
  intro line member
  obtain ⟨⟨setting, isName⟩, _, value, reads, writable⟩ := gives line member
  have field := fieldOf_of_readsWord reads
  exact ⟨⟨setting, isName ▸ congrArg Prod.fst field⟩, value,
    congrArg (fun field : Scalar × Scalar => Datum.scalar field.2) field, writable⟩

/-- A file of lines that give options is a section. -/
theorem isSection_of_flatText {loader : Yaml.Loader} (readsFlat : loader.ReadsFlat)
    (nonempty : lines ≠ []) {disk : Disk} {named : Option Path}
    (kept : disk.read (named.getD usualFile)
      = .ok (String.ofList (Yaml.flatText lines)).toUTF8) :
    IsSection loader disk named (flatFields lines) := by
  have plain : ∀ line ∈ lines, line.IsPlain := fun line member => (gives line member).isPlain
  have reads : List.Forall₂ Yaml.Line.Reads lines (lines.map fieldOf) := by
    rw [List.forall₂_map_right_iff, List.forall₂_same]
    exact fun line member => (gives line member).reads
  have each := forall_flatFields gives
  have unnested : nested (flatFields lines) = flatFields lines := by
    unfold nested
    split
    · rename_i inner found
      obtain ⟨datum, isField, opened⟩ := Option.map_eq_some_iff.mp found
      obtain ⟨entry, isEntry, rfl⟩ := Option.map_eq_some_iff.mp isField
      obtain ⟨_, value, isScalar, _⟩ := each entry (List.mem_of_find?_eq_some isEntry)
      rw [isScalar] at opened
      cases opened
    · rfl
  have known : IsKnown (nested (flatFields lines)) := by
    rw [unnested]
    intro key member
    obtain ⟨entry, inFields, rfl⟩ := List.mem_map.mp member
    exact (each entry inFields).1
  have holds := HoldsSection.written (readsFlat _ _ nonempty plain reads) rfl known
  exact unnested ▸ .inFile kept holds

/-- Whatever variables there are, all options can be written. -/
theorem areWritable_flatFields (environment : Environment) :
    AreWritable (Setting.winner? environment (flatFields lines)) := by
  have ofVariable : ∀ (setting : Setting) {winner : Datum},
      setting.fromVariable? environment = some winner → winner.isWritable = true := by
    intro setting winner set
    obtain ⟨text, _, rfl⟩ := Option.map_eq_some_iff.mp set
    rfl
  have ofSection : ∀ (setting : Setting) {winner : Datum},
      setting.fromSection? (flatFields lines) = some winner → winner.isWritable = true := by
    intro setting winner given
    obtain ⟨entry, isEntry, rfl⟩ := Option.map_eq_some_iff.mp (Option.filter_eq_some_iff.mp given).1
    obtain ⟨_, value, isScalar, writable⟩ :=
      forall_flatFields gives entry (List.mem_of_find?_eq_some isEntry)
    rw [isScalar]
    exact writable
  intro setting isText winner wins
  cases setting with
  | layout => exact absurd rfl isText
  | targetArch =>
      rcases Option.or_eq_some_iff.mp wins with set | ⟨_, wins⟩
      · exact ofVariable _ set
      rcases Option.or_eq_some_iff.mp wins with given | ⟨_, wins⟩
      · exact ofSection _ (Option.filter_eq_some_iff.mp given).1
      rcases Option.or_eq_some_iff.mp wins with built | ⟨_, given⟩
      · obtain ⟨text, _, rfl⟩ := Option.map_eq_some_iff.mp built
        rfl
      · exact ofSection _ given
  | driverClass | kmdfVersion | umdfVersion | pinnedVersion =>
      rcases Option.or_eq_some_iff.mp wins with set | ⟨_, given⟩
      · exact ofVariable _ set
      · exact ofSection _ given

end

/-- The last line that gives an option a value counts. -/
theorem field?_flatFields {front back : List Yaml.Line} {line : Yaml.Line} {value : Scalar}
    (reads : Yaml.ReadsWord line.value value) (others : ∀ other ∈ back, other.key ≠ line.key) :
    Datum.field? (flatFields (front ++ line :: back)) line.key = some (.scalar value) := by
  have split : ((front ++ line :: back).map fieldOf).map (Yaml.mapValue Datum.scalar)
      = (front.map fieldOf).map (Yaml.mapValue .scalar) ++ (.text line.key, .scalar value) ::
          (back.map fieldOf).map (Yaml.mapValue .scalar) := by
    simp only [List.map_append, List.map_cons, fieldOf_of_readsWord reads]
    rfl
  rw [flatFields, split]
  refine Yaml.field?_putAll_last ?_
  rw [List.map_map, List.forall_mem_map]
  exact fun other member => ⟨other.key, rfl, others other member⟩

end Options

end DriverKit
