import DriverKit.KitVersion.Reading
import DriverKit.Path
import DriverKit.Proofs.Text.Numeral

/-!
# Kit versions as text

Reading a version and writing it undo each other up to blanks around the text and zeros at the
start of its numbers. What a text must be to be read is said once, run by run; that every version
read can be written and read again, and what its text is then, follow from it.
-/

namespace DriverKit.KitVersion

open DriverKit.Text

/-- The runs of characters between the dots of a text, without the blanks around it. -/
def runs (text : String) : List (List Char) := pieces '.' (trimmed text.toList)

/-- A text is read as a version when it consists of two or more numerals within the limit. -/
theorem read_eq_ok_iff {text : String} {version : KitVersion} :
    read text = .ok version ↔
      2 ≤ (runs text).length ∧ (∀ run ∈ runs text, isNumeral run = true) ∧
        (∀ run ∈ runs text, run.length ≤ digitLimit) ∧
          version.fields = (runs text).map plainNumber := by
  have named : pieces '.' (trimmed text.toList) = runs text := rfl
  simp only [read, named]
  split
  · rename_i shape
    simp only [Bool.and_eq_true, decide_eq_true_eq, List.all_eq_true] at shape
    obtain ⟨enough, numerals⟩ := shape
    split
    · rename_i fields found
      obtain ⟨short, same⟩ := mapM_readNumber?_eq_some_iff.mp found
      constructor
      · intro accepted
        cases accepted
        exact ⟨enough, numerals, short, same.symm⟩
      · rintro ⟨_, _, _, sameFields⟩
        rw [← same, ← sameFields]
    · rename_i refused
      constructor
      · intro accepted
        cases accepted
      · rintro ⟨_, _, short, _⟩
        have found := mapM_readNumber?_eq_some_iff.mpr ⟨short, rfl⟩
        rw [refused] at found
        cases found
  · rename_i shape
    simp only [Bool.and_eq_true, decide_eq_true_eq, List.all_eq_true] at shape
    constructor
    · intro accepted
      cases accepted
    · rintro ⟨enough, numerals, _⟩
      exact absurd ⟨enough, numerals⟩ shape

/-- A text within the limit on digits is read as a version, or it is said to be none. -/
theorem read_of_length_le {text : String} (short : text.toList.length ≤ digitLimit) :
    (∃ version, read text = .ok version) ∨ ∃ kept, read text = .error (.invalidVersion kept) := by
  have shortRuns : ∀ run ∈ runs text, run.length ≤ digitLimit := by
    intro run member
    have runBound := length_le_of_mem_pieces member
    have trimmedBound := length_trimmed_le text.toList
    omega
  have found := mapM_readNumber?_eq_some_iff.mpr ⟨shortRuns, rfl⟩
  have named : pieces '.' (trimmed text.toList) = runs text := rfl
  simp only [read, named, found]
  split
  · exact Or.inl ⟨_, rfl⟩
  · exact Or.inr ⟨_, rfl⟩

/-! ## Writing and reading -/

/-- A version that can be written and read again: it has two fields or more, and each of them is
within the limit on digits. -/
def IsReadable (version : KitVersion) : Prop :=
  2 ≤ version.fields.length ∧ ∀ field ∈ version.fields, field < 10 ^ digitLimit

theorem IsReadable.fields_ne_nil {version : KitVersion} (readable : version.IsReadable) :
    version.fields ≠ [] := by
  intro empty
  have enough := readable.1
  simp [empty] at enough

theorem toList_text (version : KitVersion) :
    version.text.toList = ['.'].intercalate (version.fields.map (Nat.toDigits 10)) := by
  simp [text, List.map_map, Function.comp_def]

theorem isNumeral_of_mem_digits {fields : List Nat} :
    ∀ run ∈ fields.map (Nat.toDigits 10), isNumeral run = true := by
  intro run member
  obtain ⟨field, _, same⟩ := List.mem_map.mp member
  exact same ▸ isNumeral_toDigits field

/-- A version is written in digits and dots. -/
theorem isPlainDigit_of_mem_text {version : KitVersion} {c : Char}
    (member : c ∈ version.text.toList) : c = '.' ∨ isPlainDigit c = true := by
  rw [toList_text] at member
  rcases mem_intercalate member with isDot | ⟨run, inFields, inRun⟩
  · exact Or.inl isDot
  · exact Or.inr (isPlainDigit_of_isNumeral (isNumeral_of_mem_digits run inFields) c inRun)

theorem isBlank_of_mem_text {version : KitVersion} {c : Char} (member : c ∈ version.text.toList) :
    isBlank c = false := by
  rcases isPlainDigit_of_mem_text member with isDot | isDigit
  · exact isDot ▸ rfl
  · exact isBlank_of_isPlainDigit isDigit

theorem trimmed_text (version : KitVersion) :
    trimmed version.text.toList = version.text.toList :=
  trimmed_of_all fun _ member => isBlank_of_mem_text member

theorem runs_text {version : KitVersion} (nonempty : version.fields ≠ []) :
    runs version.text = version.fields.map (Nat.toDigits 10) := by
  rw [runs, trimmed_text, toList_text]
  apply pieces_intercalate
  · simpa using nonempty
  · intro run member
    exact not_mem_of_isNumeral (isNumeral_of_mem_digits run member) rfl

theorem ofDatum_text (text : String) : ofDatum (.text text) = read text := by
  rw [ofDatum, Datum.write_text]
  rfl

/-- A version that is written is read again as it was, field by field. -/
theorem read_text {version : KitVersion} (readable : version.IsReadable) :
    read version.text = .ok version := by
  rw [read_eq_ok_iff, runs_text readable.fields_ne_nil]
  obtain ⟨enough, small⟩ := readable
  refine ⟨by simpa using enough, isNumeral_of_mem_digits, ?_, ?_⟩
  · intro run member
    obtain ⟨field, inFields, same⟩ := List.mem_map.mp member
    exact same ▸ length_toDigits_le (small field inFields)
  · simp [List.map_map, Function.comp_def]

theorem text_inj {left right : KitVersion} (leftReadable : left.IsReadable)
    (rightReadable : right.IsReadable) : left.text = right.text ↔ left = right := by
  constructor
  · intro same
    have leftRead := read_text leftReadable
    rw [same, read_text rightReadable] at leftRead
    exact (Except.ok.inj leftRead).symm
  · exact congrArg text

/-- Every version that is read can be written and read again. -/
theorem isReadable_of_read {text : String} {version : KitVersion}
    (accepted : read text = .ok version) : version.IsReadable := by
  obtain ⟨enough, numerals, short, fields⟩ := read_eq_ok_iff.mp accepted
  constructor
  · simpa [fields] using enough
  · intro field member
    rw [fields] at member
    obtain ⟨run, inRuns, same⟩ := List.mem_map.mp member
    calc
      field = plainNumber run := same.symm
      _ < 10 ^ run.length := plainNumber_lt (numerals run inRuns)
      _ ≤ 10 ^ digitLimit := Nat.pow_le_pow_right (by decide) (short run inRuns)

/-- The text of a version is a name that a directory can have. -/
theorem isStep_text {version : KitVersion} (readable : version.IsReadable) :
    isStep version.text.toList = true := by
  have textRuns := runs_text readable.fields_ne_nil
  have notEmpty : version.text.toList ≠ [] := by
    intro empty
    have enough := readable.1
    have lengths := congrArg List.length textRuns
    simp [runs, empty, trimmed, trimEnd, pieces] at lengths
    omega
  have notDot : version.text.toList ≠ ['.'] := by
    intro isDot
    have dotRuns : runs version.text = [[], []] := by
      rw [runs, isDot]
      rfl
    have numerals : ∀ run ∈ version.fields.map (Nat.toDigits 10), isNumeral run = true :=
      isNumeral_of_mem_digits
    rw [← textRuns, dotRuns] at numerals
    cases numerals [] List.mem_cons_self
  have noSlash : '/' ∉ version.text.toList := by
    intro member
    rw [toList_text] at member
    rcases mem_intercalate member with isDot | ⟨run, inFields, inRun⟩
    · exact absurd isDot (by decide)
    · exact not_mem_of_isNumeral (isNumeral_of_mem_digits run inFields) rfl inRun
  simp [isStep, notEmpty, notDot, noSlash]

/-! ## Reading and writing -/

/-- The text of a version that was read: the text it was read from, without the blanks around it
and the zeros at the start of its numbers. -/
theorem toList_text_of_read {text : String} {version : KitVersion}
    (accepted : read text = .ok version) :
    version.text.toList = ['.'].intercalate ((runs text).map withoutLeadingZeros) := by
  obtain ⟨_, numerals, _, fields⟩ := read_eq_ok_iff.mp accepted
  have sameRuns :
      version.fields.map (Nat.toDigits 10) = (runs text).map withoutLeadingZeros := by
    rw [fields, List.map_map]
    apply List.map_congr_left
    intro run member
    exact toDigits_plainNumber (numerals run member)
  rw [toList_text, sameRuns]

/-- The form in which versions are written: no blanks around the text, and no zeros at the start of
a number of several digits. -/
def IsPlainText (text : String) : Prop :=
  trimmed text.toList = text.toList ∧ ∀ run ∈ runs text, withoutLeadingZeros run = run

instance (text : String) : Decidable (IsPlainText text) :=
  inferInstanceAs (Decidable (_ ∧ _))

theorem isPlainText_text {version : KitVersion} (nonempty : version.fields ≠ []) :
    IsPlainText version.text := by
  constructor
  · exact trimmed_text version
  · intro run member
    rw [runs_text nonempty] at member
    obtain ⟨field, _, same⟩ := List.mem_map.mp member
    have rewritten := toDigits_plainNumber (isNumeral_toDigits field)
    rw [plainNumber_toDigits] at rewritten
    rw [← same]
    exact rewritten.symm

/-- A version is written as the text that it was read from exactly when that text has the form in
which versions are written. -/
theorem text_eq_iff_of_read {text : String} {version : KitVersion}
    (accepted : read text = .ok version) : version.text = text ↔ IsPlainText text := by
  constructor
  · intro same
    rw [← same]
    exact isPlainText_text (isReadable_of_read accepted).fields_ne_nil
  · rintro ⟨trimmedSame, plain⟩
    have sameRuns : (runs text).map withoutLeadingZeros = runs text := by
      calc
        (runs text).map withoutLeadingZeros = (runs text).map id :=
          List.map_congr_left fun run member => plain run member
        _ = runs text := List.map_id _
    apply String.toList_inj.mp
    rw [toList_text_of_read accepted, sameRuns, runs, intercalate_pieces, trimmedSame]

end DriverKit.KitVersion
