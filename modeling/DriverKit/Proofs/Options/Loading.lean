import DriverKit.Proofs.Options.Sources

/-!
# What a load of options ends with

A load from a file gives options or refuses the file, except for three kinds of files. What reads
documents gives up, over bytes that are no text or a value that makes no sense, instead of calling
the document malformed; or a key of the options section is no text; or a setting is won by a value
of the section in which a number has too many digits to be written. The failures that escape from
these are said exactly.
-/

namespace DriverKit.Options

variable {loader : Yaml.Loader}

/-! ## Sections that are refused -/

/-- The bytes of a file are refused as no options file. -/
inductive Refuses (loader : Yaml.Loader) (path : Path) (bytes : ByteArray) : Refusal → Prop where
  /-- The text breaks the grammar of documents. -/
  | notYaml (malformed : loader.read bytes = .error .malformed) :
      Refuses loader path bytes (.optionsNotYaml path)
  /-- The document is neither a map nor empty. -/
  | notMapping {document : Datum} (isRead : loader.read bytes = .ok document)
      (notEmpty : document.opened ≠ .null) (noMap : ∀ fields, document.opened ≠ .map fields) :
      Refuses loader path bytes (.optionsNotMapping path)
  /-- The section has names that are no settings. -/
  | unknownNames {document : Datum} {fields : Fields} {names : List String}
      (isRead : loader.read bytes = .ok document) (opened : document.opened = .map fields)
      (nonempty : names ≠ []) (named : NamesUnknown (nested fields) names) :
      Refuses loader path bytes (.unknownOptions path names)

/-- A cause for which no options section comes of the bytes of a file, and no refusal either. -/
inductive IsUnreadable (loader : Yaml.Loader) (bytes : ByteArray) : Misuse → Prop where
  /-- What reads documents gives up, over bytes that are no text or a value that makes no sense. -/
  | givenUp {cause : Misuse} (givenUp : loader.read bytes = .error (.misuse cause)) :
      IsUnreadable loader bytes cause
  /-- A key of the section is no text, so that it cannot be named as unknown. -/
  | foreignKey {document : Datum} {fields : Fields} (isRead : loader.read bytes = .ok document)
      (opened : document.opened = .map fields) (foreign : HasForeignKey (nested fields)) :
      IsUnreadable loader bytes .mixedKeys

/-- Tells whether a document is a map with a section in which a key is no text. -/
def isForeign (document : Datum) : Bool :=
  match document.opened with
  | .map fields => decide (HasForeignKey (nested fields))
  | _ => false

theorem isUnreadable_of_isForeign {bytes : ByteArray}
    (foreign : (loader.read bytes).toOption.any isForeign = true) :
    IsUnreadable loader bytes .mixedKeys := by
  cases isRead : loader.read bytes with
  | error fault =>
      rw [isRead] at foreign
      cases foreign
  | ok document =>
      rw [isRead, Except.toOption, Option.any_some, isForeign] at foreign
      split at foreign
      · rename_i opened
        exact .foreignKey isRead opened (of_decide_eq_true foreign)
      · cases foreign

theorem sectionOf_of_isUnreadable (path : Path) {bytes : ByteArray} {cause : Misuse}
    (unreadable : IsUnreadable loader bytes cause) :
    sectionOf loader path bytes = .error (.misuse cause) := by
  unfold sectionOf ofBytes
  cases unreadable with
  | givenUp givenUp => simp only [givenUp, error_bind]
  | foreignKey isRead opened foreign =>
      simp only [isRead, ok_bind, opened, refuseUnknown_of_hasForeignKey path foreign, error_bind]

/-- What comes of the bytes of a file: a section, a refusal, or a cause that is neither. -/
theorem sectionOf_cases (loader : Yaml.Loader) (path : Path) (bytes : ByteArray) :
    (∃ fields, HoldsSection loader bytes fields ∧ sectionOf loader path bytes = .ok fields) ∨
      (∃ refusal, Refuses loader path bytes refusal ∧
          sectionOf loader path bytes = .error (.invalidOptions refusal [])) ∨
        ∃ cause, IsUnreadable loader bytes cause ∧
          sectionOf loader path bytes = .error (.misuse cause) := by
  have unreadable : ∀ {cause : Misuse}, IsUnreadable loader bytes cause →
      ∃ cause, IsUnreadable loader bytes cause ∧
        sectionOf loader path bytes = .error (.misuse cause) :=
    fun isUnreadable => ⟨_, isUnreadable, sectionOf_of_isUnreadable path isUnreadable⟩
  have holds : ∀ {fields : Fields}, HoldsSection loader bytes fields →
      ∃ fields, HoldsSection loader bytes fields ∧ sectionOf loader path bytes = .ok fields :=
    fun holdsSection => ⟨_, holdsSection, sectionOf_of_holdsSection holdsSection⟩
  cases isRead : loader.read bytes with
  | error fault =>
      cases fault with
      | malformed =>
          refine Or.inr (Or.inl ⟨_, .notYaml isRead, ?_⟩)
          simp only [sectionOf, ofBytes, isRead, error_bind]
      | misuse cause => exact Or.inr (Or.inr (unreadable (.givenUp isRead)))
  | ok document =>
      by_cases empty : document.opened = .null
      · exact Or.inl (holds (.blank isRead empty))
      by_cases isMap : ∃ fields, document.opened = .map fields
      · obtain ⟨fields, opened⟩ := isMap
        by_cases known : IsKnown (nested fields)
        · exact Or.inl (holds (.written isRead opened known))
        by_cases foreign : HasForeignKey (nested fields)
        · exact Or.inr (Or.inr (unreadable (.foreignKey isRead opened foreign)))
        · obtain ⟨names, named, refused⟩ := refuseUnknown_of_texts path known foreign
          refine Or.inr (Or.inl ⟨_, .unknownNames isRead opened
            (named.ne_nil known foreign) named, ?_⟩)
          simp only [sectionOf, ofBytes_of_read isRead, ok_bind, opened, refused, error_bind]
      · have noMap : ∀ fields, document.opened ≠ .map fields := fun fields opened =>
          isMap ⟨fields, opened⟩
        refine Or.inr (Or.inl ⟨_, .notMapping isRead empty noMap, ?_⟩)
        rw [sectionOf, ofBytes_of_read isRead, ok_bind]
        split
        · rename_i opened
          exact absurd opened empty
        · rename_i opened
          exact absurd opened (noMap _)
        · rfl

theorem ne_ok_of_undecodable {bytes : ByteArray} (texts : loader.ReadsTexts)
    (noText : Text.decodeLines? bytes = none) (path : Path) (fields : Fields) :
    sectionOf loader path bytes ≠ .ok fields := by
  intro isOk
  obtain ⟨document, parsed, _⟩ := bind_eq_ok_iff.mp isOk
  unfold ofBytes at parsed
  split at parsed
  · rename_i isRead
    exact texts bytes _ isRead noText
  · cases parsed
  · cases parsed

/-! ## What escapes -/

/-- A cause with which a load from a file fails, although it does not refuse the file. -/
inductive Escapes (loader : Yaml.Loader) (environment : Environment) (bytes : ByteArray) :
    Misuse → Prop where
  | unreadable {cause : Misuse} (isUnreadable : IsUnreadable loader bytes cause) :
      Escapes loader environment bytes cause
  /-- A number in the value that wins a setting has too many digits to be written. -/
  | overlong {fields : Fields} {setting : Setting} {winner : Datum}
      (holds : HoldsSection loader bytes fields) (isText : setting ≠ .layout)
      (wins : setting.winner? environment fields = some winner)
      (unwritable : winner.isWritable = false) : Escapes loader environment bytes .overlongNumeral

/-- What a load from a file ends with: options, a refusal of the file, or a cause that escapes. -/
theorem load_cases (loader : Yaml.Loader) {disk : Disk} {named : Option Path} {bytes : ByteArray}
    (environment : Environment) (kept : disk.read (named.getD usualFile) = .ok bytes) :
    let outcome := (load loader disk environment named).outcome
    (∃ options, outcome = .ok options) ∨
      (∃ refusal, Refuses loader (named.getD usualFile) bytes refusal ∧
          outcome = .error (.invalidOptions refusal [])) ∨
        ∃ cause, Escapes loader environment bytes cause ∧ outcome = .error (.misuse cause) := by
  intro outcome
  have made : outcome = sectionOf loader (named.getD usualFile) bytes >>= fun fields =>
      ofWinners (Setting.winner? environment fields) := by
    rw [show outcome = _ from outcome_load loader disk environment named, outcome_readFiles kept]
  rw [made]
  rcases sectionOf_cases loader (named.getD usualFile) bytes with
    ⟨fields, holds, isOk⟩ | ⟨refusal, refuses, failed⟩ | ⟨cause, isUnreadable, failed⟩
  · rw [isOk, ok_bind]
    by_cases writable : AreWritable (Setting.winner? environment fields)
    · exact Or.inl ⟨_, ofWinners_of_areWritable writable⟩
    · refine Or.inr (Or.inr ⟨_, ?_, ofWinners_of_not_areWritable writable⟩)
      simp only [AreWritable, not_forall] at writable
      obtain ⟨setting, isText, winner, wins, unwritable⟩ := writable
      exact .overlong holds isText wins (Bool.eq_false_iff.mpr unwritable)
  · exact Or.inr (Or.inl ⟨refusal, refuses, by rw [failed, error_bind]⟩)
  · exact Or.inr (Or.inr ⟨cause, .unreadable isUnreadable, by rw [failed, error_bind]⟩)

theorem outcome_load_of_escapes {disk : Disk} {environment : Environment} {named : Option Path}
    {bytes : ByteArray} {cause : Misuse} (kept : disk.read (named.getD usualFile) = .ok bytes)
    (escapes : Escapes loader environment bytes cause) :
    (load loader disk environment named).outcome = .error (.misuse cause) := by
  rw [outcome_load, outcome_readFiles kept]
  cases escapes with
  | unreadable isUnreadable => rw [sectionOf_of_isUnreadable _ isUnreadable, error_bind]
  | overlong holds isText wins unwritable =>
      rw [sectionOf_of_holdsSection holds, ok_bind]
      refine ofWinners_of_not_areWritable fun writable => ?_
      cases unwritable.symm.trans (writable _ isText _ wins)

end DriverKit.Options
