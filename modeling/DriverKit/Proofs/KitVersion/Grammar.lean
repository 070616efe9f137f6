import DriverKit.Proofs.KitVersion

/-!
# Dotted numbers

The texts that are read as kit versions, said without the reader: runs of digits with single dots
between them, and blanks around them. Every other text is refused, with what is left of it without
the blanks; a run beyond the limit on digits is a misuse of numbers. What is written for a version
is the text that it was read from, without the blanks and without the zeros that its numbers can do
without, so the written text tells versions apart.
-/

namespace DriverKit.KitVersion

open DriverKit.Text

/-- A text shows runs of digits: there are two or more of them, none of them is empty, single dots
stand between them, and only blanks are around them. -/
structure ShowsRuns (text : String) (shown : List (List Char)) : Prop where
  enough : 2 ≤ shown.length
  nonempty : ∀ run ∈ shown, run ≠ []
  digits : ∀ run ∈ shown, ∀ c ∈ run, '0' ≤ c ∧ c ≤ '9'
  framed : ∃ before after, (∀ c ∈ before ++ after, isBlank c = true) ∧
    text.toList = before ++ ['.'].intercalate shown ++ after

namespace ShowsRuns

variable {text : String} {shown : List (List Char)}

theorem isNumeral_of_mem (showsThem : ShowsRuns text shown) :
    ∀ run ∈ shown, isNumeral run = true := by
  intro run member
  have plain : ∀ c ∈ run, isPlainDigit c = true := by
    intro c inRun
    simpa [isPlainDigit] using showsThem.digits run member c inRun
  simpa [isNumeral, showsThem.nonempty run member] using plain

/-- A text shows one list of runs only: the pieces between its dots. -/
theorem eq_runs (showsThem : ShowsRuns text shown) : shown = runs text := by
  have numerals := showsThem.isNumeral_of_mem
  obtain ⟨before, after, blank, framed⟩ := showsThem.framed
  have visible : ∀ c ∈ ['.'].intercalate shown, isBlank c = false := by
    intro c member
    rcases mem_intercalate member with isDot | ⟨run, inShown, inRun⟩
    · exact isDot ▸ rfl
    · exact isBlank_of_isPlainDigit (isPlainDigit_of_isNumeral (numerals run inShown) c inRun)
  have nonempty : shown ≠ [] := by
    intro empty
    have enough := showsThem.enough
    simp [empty] at enough
  rw [runs, framed, trimmed_append blank visible]
  exact (pieces_intercalate nonempty fun run member =>
    not_mem_of_isNumeral (numerals run member) rfl).symm

end ShowsRuns

theorem showsRuns_runs {text : String} (enough : 2 ≤ (runs text).length)
    (numerals : ∀ run ∈ runs text, isNumeral run = true) : ShowsRuns text (runs text) where
  enough := enough
  nonempty run member := ne_nil_of_isNumeral (numerals run member)
  digits run member c inRun := by
    have plain := isPlainDigit_of_isNumeral (numerals run member) c inRun
    simpa [isPlainDigit] using plain
  framed := by
    rw [runs, intercalate_pieces]
    exact exists_trimmed text.toList

/-- How reading ends: with the numbers of the runs that a text shows, if all are within the limit on
digits, with a misuse of numbers if one is not, and with a refusal if the text shows no runs. -/
theorem showsRuns_cases (text : String) :
    (∃ shown, ShowsRuns text shown ∧ (∀ run ∈ shown, run.length ≤ digitLimit) ∧
        read text = .ok ⟨shown.map plainNumber⟩) ∨
      (∃ shown, ShowsRuns text shown ∧ (∃ run ∈ shown, digitLimit < run.length) ∧
        read text = .error (.misuse .overlongNumeral)) ∨
      (∀ shown, ¬ ShowsRuns text shown) ∧ read text = .error (.invalidVersion (trim text)) := by
  have named : pieces '.' (trimmed text.toList) = runs text := rfl
  by_cases shape : 2 ≤ (runs text).length ∧ ∀ run ∈ runs text, isNumeral run = true
  · obtain ⟨enough, numerals⟩ := shape
    have showsThem := showsRuns_runs enough numerals
    by_cases short : ∀ run ∈ runs text, run.length ≤ digitLimit
    · exact Or.inl ⟨_, showsThem, short, read_eq_ok_iff.mpr ⟨enough, numerals, short, rfl⟩⟩
    · have overlong : ∃ run ∈ runs text, digitLimit < run.length := by
        simpa using short
      have unread : (runs text).mapM readNumber? = none := by
        rw [Option.eq_none_iff_forall_ne_some]
        exact fun fields found => short (mapM_readNumber?_eq_some_iff.mp found).1
      have passes : (decide (2 ≤ (runs text).length) && (runs text).all isNumeral) = true := by
        simpa [enough] using numerals
      refine Or.inr (Or.inl ⟨_, showsThem, overlong, ?_⟩)
      simp only [read, named, passes, unread, if_true]
  · have fails : (decide (2 ≤ (runs text).length) && (runs text).all isNumeral) = false := by
      simpa using shape
    refine Or.inr (Or.inr ⟨fun shown showsThem => shape ?_, ?_⟩)
    · rw [← showsThem.eq_runs]
      exact ⟨showsThem.enough, showsThem.isNumeral_of_mem⟩
    · simp only [read, named, fails, Bool.false_eq_true, if_false]
      rfl

theorem read_eq_ok_iff_showsRuns {text : String} {version : KitVersion} :
    read text = .ok version ↔
      ∃ shown, ShowsRuns text shown ∧ (∀ run ∈ shown, run.length ≤ digitLimit) ∧
        version.fields = shown.map plainNumber := by
  constructor
  · intro accepted
    obtain ⟨enough, numerals, short, fields⟩ := read_eq_ok_iff.mp accepted
    exact ⟨runs text, showsRuns_runs enough numerals, short, fields⟩
  · rintro ⟨shown, showsThem, short, fields⟩
    have numerals := showsThem.isNumeral_of_mem
    have enough := showsThem.enough
    rw [showsThem.eq_runs] at numerals enough short fields
    exact read_eq_ok_iff.mpr ⟨enough, numerals, short, fields⟩

theorem read_eq_error_iff {text : String} {failure : Failure} :
    read text = .error failure ↔
      (∃ shown, ShowsRuns text shown ∧ (∃ run ∈ shown, digitLimit < run.length) ∧
          failure = .misuse .overlongNumeral) ∨
        (∀ shown, ¬ ShowsRuns text shown) ∧ failure = .invalidVersion (trim text) := by
  rcases showsRuns_cases text with ⟨shown, showsThem, short, ended⟩ |
    ⟨shown, showsThem, overlong, ended⟩ | ⟨shownByNone, ended⟩
  · rw [ended]
    refine iff_of_false (by simp) ?_
    rintro (⟨other, showsOther, ⟨run, member, long⟩, _⟩ | ⟨shownByNone, _⟩)
    · rw [showsOther.eq_runs, ← showsThem.eq_runs] at member
      have atMost := short run member
      omega
    · exact shownByNone shown showsThem
  · rw [ended, Except.error.injEq, eq_comm]
    constructor
    · exact fun same => Or.inl ⟨shown, showsThem, overlong, same⟩
    · rintro (⟨_, _, _, same⟩ | ⟨shownByNone, _⟩)
      · exact same
      · exact absurd showsThem (shownByNone shown)
  · rw [ended, Except.error.injEq, eq_comm]
    constructor
    · exact fun same => Or.inr ⟨shownByNone, same⟩
    · rintro (⟨shown, showsThem, _⟩ | ⟨_, same⟩)
      · exact absurd showsThem (shownByNone shown)
      · exact same

/-- What is written for a version that was read from a text: the runs that the text shows, without
the zeros that they can do without. -/
theorem toList_text_of_showsRuns {text : String} {shown : List (List Char)} {version : KitVersion}
    (showsThem : ShowsRuns text shown) (accepted : read text = .ok version) :
    version.text.toList = ['.'].intercalate (shown.map withoutLeadingZeros) := by
  rw [showsThem.eq_runs]
  exact toList_text_of_read accepted

/-- Reading accepts exactly the dotted numbers within the limit on digits and says of every other
text what is wrong with it. Writing gives the text that was read, without the blanks around it and
the zeros that its numbers can do without, and reading undoes writing, field by field. So two texts
are read as the same fields exactly when the same text is written for them. -/
theorem reads_dotted_numbers :
    (∀ text version, read text = .ok version ↔
        ∃ shown, ShowsRuns text shown ∧ (∀ run ∈ shown, run.length ≤ digitLimit) ∧
          version.fields = shown.map plainNumber) ∧
      (∀ text failure, read text = .error failure ↔
        (∃ shown, ShowsRuns text shown ∧ (∃ run ∈ shown, digitLimit < run.length) ∧
            failure = .misuse .overlongNumeral) ∨
          (∀ shown, ¬ ShowsRuns text shown) ∧ failure = .invalidVersion (trim text)) ∧
      (∀ text shown version, ShowsRuns text shown → read text = .ok version →
        version.text.toList = ['.'].intercalate (shown.map withoutLeadingZeros)) ∧
      (∀ version, version.IsReadable → read version.text = .ok version) ∧
      ∀ text version other otherVersion, read text = .ok version → read other = .ok otherVersion →
        (version.fields = otherVersion.fields ↔ version.text = otherVersion.text) := by
  refine ⟨fun _ _ => read_eq_ok_iff_showsRuns, fun _ _ => read_eq_error_iff, ?_,
    fun _ readable => read_text readable, ?_⟩
  · exact fun _ _ _ showsThem accepted => toList_text_of_showsRuns showsThem accepted
  · intro text version other otherVersion accepted otherAccepted
    rw [text_inj (isReadable_of_read accepted) (isReadable_of_read otherAccepted),
      KitVersion.mk.injEq]

/-- A version that is written with zeros too many, between a tab and a line feed. -/
theorem reads_dotted_numbers_padded :
    let version : KitVersion := ⟨[10, 0, 7]⟩
    let shown := [['0', '1', '0'], ['0', '0'], ['7']]
    ShowsRuns "\t010.00.7\n" shown ∧ read "\t010.00.7\n" = .ok version ∧ version.IsReadable ∧
      version.text = "10.0.7" ∧ read version.text = .ok version ∧
      (version.fields = (⟨[10, 0, 7, 0]⟩ : KitVersion).fields ↔ version.text = "10.0.7.0") := by
  intro version shown
  obtain ⟨accepts, _, writes, reads, tells⟩ := reads_dotted_numbers
  have found : runs "\t010.00.7\n" = shown := by decide
  have showsThem : ShowsRuns "\t010.00.7\n" shown := by
    rw [← found]
    exact showsRuns_runs (by decide) (by decide)
  have accepted : read "\t010.00.7\n" = .ok version :=
    (accepts _ _).mpr ⟨shown, showsThem, by decide, by decide⟩
  have longer : read "10.0.7.0" = .ok ⟨[10, 0, 7, 0]⟩ := rfl
  have readable : version.IsReadable := ⟨by decide, by decide +kernel⟩
  refine ⟨showsThem, accepted, readable, ?_, reads version readable, ?_⟩
  · exact String.toList_inj.mp (writes _ _ _ showsThem accepted)
  · exact tells _ _ _ _ accepted longer

end DriverKit.KitVersion
