import DriverKit.Options.Loading
import DriverKit.Proofs.Cache.File

/-!
# Options sections

A load of options reads the options section of a file: the map under a name of its own, or else the
whole document. The section gives settings by their names. What comes of a file is said here, up to
the section; what is made of the section is left to others.
-/

namespace DriverKit

/-! ## Fields -/

theorem Scalar.same_text_iff {key : Scalar} {name : String} :
    key.same (.text name) = true ↔ key = .text name := by
  cases key with
  | real value =>
      simp only [Scalar.same, Scalar.whole?]
      cases value.toInt? <;> simp
  | _ => simp [Scalar.same, Scalar.whole?]

theorem Datum.field?_put (key name : String) (value : Datum) :
    ∀ fields : List (Scalar × Datum),
      Datum.field? (Scalar.put (.text key) value fields) name
        = if key = name then some value else Datum.field? fields name
  | [] => Cache.field?_text_cons key name value []
  | (first, kept) :: rest => by
      have inRest := Datum.field?_put key name value rest
      unfold Scalar.put
      by_cases here : first.same (.text key) = true
      · rw [if_pos here, Scalar.same_text_iff.mp here, Cache.field?_text_cons,
          Cache.field?_text_cons]
        split <;> rfl
      · rw [if_neg here]
        by_cases found : first.same (.text name) = true
        · have isName := Scalar.same_text_iff.mp found
          have different : key ≠ name := fun same =>
            here (Scalar.same_text_iff.mpr (same ▸ isName))
          rw [if_neg different, isName, Cache.field?_text_cons, Cache.field?_text_cons,
            if_pos rfl, if_pos rfl]
        · have passes : ∀ fields : List (Scalar × Datum),
              Datum.field? ((first, kept) :: fields) name = Datum.field? fields name := by
            intro fields
            simp only [Datum.field?, Datum.lookup?, List.find?_cons, found]
          rw [passes, passes, inRest]

namespace Options

/-! ## Settings -/

/-- What an option is about. -/
inductive Setting where
  | driverClass
  | kmdfVersion
  | umdfVersion
  | targetArch
  | pinnedVersion
  | layout
deriving DecidableEq, Repr

namespace Setting

def all : List Setting :=
  [driverClass, kmdfVersion, umdfVersion, targetArch, pinnedVersion, layout]

/-- The name of a setting in a file. -/
def name : Setting → String
  | driverClass => "driver_class"
  | kmdfVersion => "kmdf_version"
  | umdfVersion => "umdf_version"
  | targetArch => "target_arch"
  | pinnedVersion => "pinned_kit_version"
  | layout => "layout"

theorem mem_known_iff {key : Scalar} :
    (known.map Scalar.text).contains key = true ↔
      ∃ setting : Setting, key = .text setting.name := by
  have names : known = all.map name := by decide
  rw [names, List.contains_iff_mem, List.map_map, List.mem_map]
  constructor
  · rintro ⟨setting, _, rfl⟩
    exact ⟨setting, rfl⟩
  · rintro ⟨setting, rfl⟩
    exact ⟨setting, by cases setting <;> decide, rfl⟩

end Setting

/-! ## Names in a section -/

/-- A section has a key that is no text, so that it cannot be named among the unknown ones. -/
def HasForeignKey (fields : Fields) : Prop :=
  ∃ key ∈ fields.map Prod.fst, ∀ name, key ≠ .text name

/-- All keys of a section are names of settings. -/
def IsKnown (fields : Fields) : Prop :=
  ∀ key ∈ fields.map Prod.fst, ∃ setting : Setting, key = .text setting.name

/-- The keys of a section that are no names of settings. -/
def unknownKeys (fields : Fields) : List Scalar :=
  (fields.map Prod.fst).filter fun key => !(known.map Scalar.text).contains key

theorem mem_unknownKeys_iff {fields : Fields} {key : Scalar} :
    key ∈ unknownKeys fields ↔
      key ∈ fields.map Prod.fst ∧ ∀ setting : Setting, key ≠ .text setting.name := by
  rw [unknownKeys, List.mem_filter, Bool.not_eq_true', ← Bool.not_eq_true,
    Setting.mem_known_iff, not_exists]

theorem unknownKeys_eq_nil_iff {fields : Fields} : unknownKeys fields = [] ↔ IsKnown fields := by
  simp only [List.eq_nil_iff_forall_not_mem, mem_unknownKeys_iff, not_and, not_forall, not_not,
    IsKnown]

/-- A refusal of unknown names names each of them. -/
def NamesUnknown (fields : Fields) (names : List String) : Prop :=
  ∀ name, name ∈ names ↔
    .text name ∈ fields.map Prod.fst ∧ ∀ setting : Setting, name ≠ setting.name

/-- The text that a key is, if it is one. -/
def keyText? : Scalar → Option String
  | .text name => some name
  | _ => none

theorem keyText?_eq_some_iff {key : Scalar} {name : String} :
    keyText? key = some name ↔ key = .text name := by
  cases key <;> simp [keyText?]

instance (fields : Fields) : Decidable (HasForeignKey fields) :=
  decidable_of_iff (∃ key ∈ fields.map Prod.fst, keyText? key = none) <| by
    simp only [HasForeignKey, Option.eq_none_iff_forall_ne_some, ne_eq, keyText?_eq_some_iff]

theorem NamesUnknown.ne_nil {fields : Fields} {names : List String}
    (named : NamesUnknown fields names) (unknown : ¬IsKnown fields)
    (texts : ¬HasForeignKey fields) : names ≠ [] := by
  rintro rfl
  apply unknown
  intro key member
  by_contra noSetting
  refine texts ⟨key, member, ?_⟩
  rintro name rfl
  have isNamed : name ∈ ([] : List String) := (named name).mpr
    ⟨member, fun setting same => noSetting ⟨setting, congrArg Scalar.text same⟩⟩
  cases isNamed

theorem refuseUnknown_eq (path : Path) (fields : Fields) :
    refuseUnknown path fields
      = if (unknownKeys fields).isEmpty then .ok ()
        else
          match (unknownKeys fields).mapM keyText? with
          | some names =>
              .error (.invalidOptions (.unknownOptions path (names.mergeSort (· ≤ ·))) [])
          | none => .error (.misuse .mixedKeys) :=
  rfl

theorem refuseUnknown_of_isKnown (path : Path) {fields : Fields} (known : IsKnown fields) :
    refuseUnknown path fields = .ok () := by
  rw [refuseUnknown_eq, unknownKeys_eq_nil_iff.mpr known]
  rfl

theorem refuseUnknown_of_hasForeignKey (path : Path) {fields : Fields}
    (foreign : HasForeignKey fields) :
    refuseUnknown path fields = .error (.misuse .mixedKeys) := by
  obtain ⟨key, member, noText⟩ := foreign
  have unknown : key ∈ unknownKeys fields :=
    mem_unknownKeys_iff.mpr ⟨member, fun setting => noText setting.name⟩
  have unnamed : (unknownKeys fields).mapM keyText? = none := by
    rw [Option.eq_none_iff_forall_ne_some]
    intro names named
    obtain ⟨name, _, isText⟩ := exists_of_forall₂ (mapM_eq_some_iff.mp named).flip unknown
    exact noText name (keyText?_eq_some_iff.mp isText)
  rw [refuseUnknown_eq, unnamed,
    if_neg (by rw [List.isEmpty_iff]; exact List.ne_nil_of_mem unknown)]

theorem refuseUnknown_of_texts (path : Path) {fields : Fields} (unknown : ¬IsKnown fields)
    (texts : ¬HasForeignKey fields) :
    ∃ names, NamesUnknown fields names ∧
      refuseUnknown path fields = .error (.invalidOptions (.unknownOptions path names) []) := by
  have named : ∀ key ∈ unknownKeys fields, ∃ name, keyText? key = some name := by
    intro key member
    by_contra noText
    refine texts ⟨key, (mem_unknownKeys_iff.mp member).1, fun name isName => noText ⟨name, ?_⟩⟩
    exact keyText?_eq_some_iff.mpr isName
  let names := (unknownKeys fields).map fun key => (keyText? key).getD ""
  have each :
      List.Forall₂ (fun key name => keyText? key = some name) (unknownKeys fields) names := by
    rw [List.forall₂_map_right_iff, List.forall₂_same]
    intro key member
    obtain ⟨name, isText⟩ := named key member
    rw [isText]
    rfl
  have mem_names : ∀ name, name ∈ names ↔ .text name ∈ unknownKeys fields := by
    intro name
    constructor
    · intro member
      obtain ⟨key, inUnknown, isText⟩ := exists_of_forall₂ each member
      exact keyText?_eq_some_iff.mp isText ▸ inUnknown
    · exact fun member => List.mem_map.mpr ⟨_, member, rfl⟩
  refine ⟨names.mergeSort (· ≤ ·), fun name => ?_, ?_⟩
  · rw [(List.mergeSort_perm names _).mem_iff, mem_names, mem_unknownKeys_iff]
    simp only [ne_eq, Scalar.text.injEq]
  · rw [refuseUnknown_eq, mapM_eq_some_iff.mpr each,
      if_neg (by rw [List.isEmpty_iff, unknownKeys_eq_nil_iff]; exact unknown)]

/-! ## Sections of files -/

/-- The section in the bytes of a file. A file without a value has an empty one. -/
def sectionOf (loader : Yaml.Loader) (path : Path) (bytes : ByteArray) : Except Failure Fields := do
  match (← ofBytes loader path bytes).opened with
  | .scalar .null => return []
  | .map fields =>
      refuseUnknown path (nested fields)
      return nested fields
  | _ => .error (.invalidOptions (.optionsNotMapping path) [])

variable {loader : Yaml.Loader}

theorem outcome_readFile {disk : Disk} {path : Path} {bytes : ByteArray}
    (kept : disk.read path = .ok bytes) :
    (readFile loader disk path).outcome = sectionOf loader path bytes := by
  unfold readFile sectionOf
  rw [kept]
  simp only [Traced.outcome_bind, Traced.outcome_lift]
  congr 1
  funext document
  cases document.opened with
  | map fields =>
      simp only [Traced.outcome_bind, Traced.outcome_lift, Traced.outcome_say, ok_bind,
        Traced.outcome_pure]
      rfl
  | scalar value => cases value <;> rfl
  | _ => rfl

/-- A load reads the file that it is told to, or else the usual one. -/
theorem outcome_readFiles {disk : Disk} {named : Option Path} {bytes : ByteArray}
    (kept : disk.read (named.getD usualFile) = .ok bytes) :
    (readFiles loader disk named).outcome = sectionOf loader (named.getD usualFile) bytes := by
  obtain ⟨place, leads, isFile⟩ := Disk.exists_of_read kept
  have contained : disk.contains (named.getD usualFile) = .ok true := by
    rw [Disk.contains_of_entry (Disk.entry_of_place leads), isFile]
    rfl
  rw [← outcome_readFile kept]
  cases named with
  | none =>
      rw [Option.getD_none] at contained
      simp only [readFiles, contained, Traced.outcome_bind, Traced.outcome_liftHost,
        Except.mapError, ok_bind, if_true, Option.getD_none]
  | some path =>
      rw [Option.getD_some] at contained
      simp only [readFiles, contained, Traced.outcome_bind, Traced.outcome_liftHost,
        Except.mapError, ok_bind, if_true, Option.getD_some]

/-- The options section that the bytes of a file hold. -/
inductive HoldsSection (loader : Yaml.Loader) (bytes : ByteArray) : Fields → Prop where
  | blank {document : Datum} (isRead : loader.read bytes = .ok document)
      (opened : document.opened = .null) : HoldsSection loader bytes []
  | written {document : Datum} {fields : Fields} (isRead : loader.read bytes = .ok document)
      (opened : document.opened = .map fields) (known : IsKnown (nested fields)) :
      HoldsSection loader bytes (nested fields)

theorem ofBytes_of_read {path : Path} {bytes : ByteArray} {document : Datum}
    (isRead : loader.read bytes = .ok document) : ofBytes loader path bytes = .ok document := by
  simp only [ofBytes, isRead]

theorem sectionOf_of_holdsSection {path : Path} {bytes : ByteArray} {fields : Fields}
    (holds : HoldsSection loader bytes fields) : sectionOf loader path bytes = .ok fields := by
  cases holds with
  | blank isRead opened =>
      rw [sectionOf, ofBytes_of_read isRead, ok_bind, opened]
      rfl
  | written isRead opened known =>
      rw [sectionOf, ofBytes_of_read isRead, ok_bind, opened]
      simp only [refuseUnknown_of_isKnown _ known, ok_bind]
      rfl

/-- The options section that a load reads: that of the file that it is told to read or else of the
usual one, and an empty one where there is no usual file. -/
inductive IsSection (loader : Yaml.Loader) (disk : Disk) (named : Option Path) : Fields → Prop where
  | noFile (unnamed : named = none) (missing : disk.contains usualFile = .ok false) :
      IsSection loader disk named []
  | inFile {bytes : ByteArray} {fields : Fields}
      (kept : disk.read (named.getD usualFile) = .ok bytes)
      (holds : HoldsSection loader bytes fields) :
      IsSection loader disk named fields

theorem outcome_readFiles_of_isSection {disk : Disk} {named : Option Path} {fields : Fields}
    (isSection : IsSection loader disk named fields) :
    (readFiles loader disk named).outcome = .ok fields := by
  cases isSection with
  | noFile unnamed missing =>
      subst unnamed
      simp only [readFiles, missing, Traced.outcome_bind, Traced.outcome_liftHost,
        Except.mapError, ok_bind, Bool.false_eq_true, if_false, Traced.outcome_pure]
  | inFile kept holds => rw [outcome_readFiles kept, sectionOf_of_holdsSection holds]

end Options

end DriverKit
