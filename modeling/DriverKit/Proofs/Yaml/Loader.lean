import DriverKit.Proofs.Yaml.Flat.Reading
import DriverKit.Proofs.Yaml.Outline
import DriverKit.Proofs.Yaml.Writing

/-!
# What is asked of loaders

What reads documents from files is not known here, so what a result needs of it is said as a law of
loaders. A loader that reads whole texts obeys the laws.
-/

namespace DriverKit.Yaml

/-- What a loader reads a document from is text. -/
def Loader.ReadsTexts (loader : Loader) : Prop :=
  ∀ bytes document, loader.read bytes = .ok document → Text.decodeLines? bytes ≠ none

/-- A loader reads plain lines as a map of the values that their words have. -/
def Loader.ReadsFlat (loader : Loader) : Prop :=
  ∀ lines fields, lines ≠ [] → (∀ line ∈ lines, line.IsPlain) →
    List.Forall₂ Line.Reads lines fields →
    loader.read (String.ofList (flatText lines)).toUTF8
      = .ok (.map (putAll [] (fields.map (mapValue .scalar))))

/-! ## Texts in files -/

/-- A flat document that is put into a file and read as text again is the same. -/
theorem decodeLines?_flatText {lines : List Line}
    (plain : ∀ line ∈ lines, line.IsPlain) :
    Text.decodeLines? (String.ofList (flatText lines)).toUTF8
      = some (flatText lines) := by
  have absent : '\r' ∉ (String.ofList (flatText lines)).toList := by
    rw [String.toList_ofList, flatText, List.mem_flatMap]
    rintro ⟨line, member, inLine⟩
    obtain ⟨keyWord, valueWord, _⟩ := plain line member
    have outside : ∀ {word : List Char}, isWord word = true → '\r' ∉ word :=
      fun isWord inWord =>
        ne_of_isWordCharacter (isWordCharacter_of_mem isWord _ inWord) rfl rfl
    simp [Line.written, outside keyWord, outside valueWord] at inLine
  rw [decodeLines?_of_not_mem absent, String.toList_ofList]

/-! ## Loaders of whole texts -/

namespace Loader

variable {levels : Nat}

theorem read_ofLevels {bytes : ByteArray} {characters : List Char}
    (isText : Text.decodeLines? bytes = some characters) :
    (ofLevels levels).read bytes = Yaml.read levels characters := by
  simp only [ofLevels, isText]

theorem read_ofLevels_of_undecodable {bytes : ByteArray} (noText : Text.decodeLines? bytes = none) :
    (ofLevels levels).read bytes = .error (.misuse .undecodable) := by
  simp only [ofLevels, noText]

/-- A document that matches an outline is the one that the outline stands for. -/
theorem read_ofLevels_of_matches {bytes : ByteArray} {characters : List Char} {outline : Outline}
    (isText : Text.decodeLines? bytes = some characters)
    (isMatch : (Yaml.read levels characters).toOption.any outline.matchesDatum = true) :
    (ofLevels levels).read bytes = .ok outline.datum := by
  rw [read_ofLevels isText]
  cases document : Yaml.read levels characters with
  | error fault =>
      rw [document] at isMatch
      cases isMatch
  | ok value =>
      rw [document] at isMatch
      rw [Outline.matchesDatum_iff.mp isMatch]

theorem readsTexts_ofLevels : (ofLevels levels).ReadsTexts := by
  intro bytes document isRead noText
  rw [read_ofLevels_of_undecodable noText] at isRead
  cases isRead

theorem readsFlat_ofLevels : (ofLevels (levels + 2)).ReadsFlat := by
  intro lines fields nonempty plain reads
  rw [read_ofLevels (decodeLines?_flatText plain), read_flatText nonempty plain reads]

end Loader

end DriverKit.Yaml
