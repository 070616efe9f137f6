import DriverKit.Proofs.Cache.File
import DriverKit.Proofs.Driver.Refusal

/-!
# What a load of a cache file ends with

A load from a file either gives a configuration or fails as a failure of the cache, except for two
kinds of files. What reads documents gives up, over bytes that are no text or a value that makes no
sense, instead of calling the document malformed; or the definitions for the preprocessor stand in
something that is no map, in a document that is in order up to there. The failures that escape from
these are said exactly.
-/

namespace DriverKit.Cache

/-! ## Failures that are taken for a malformed document -/

/-- A failure of decoding that a load takes for a malformed document. -/
def IsMalformed (failure : Failure) : Prop := (malformedText? failure).isSome = true

theorem failsOnly_required (fields : List (Scalar × Datum)) (name : String) :
    FailsOnly IsMalformed (required fields name) := by
  unfold required
  split
  · exact .ok _
  · exact .error rfl

theorem isMalformed_of_isRefusal (failure : Failure) (refused : failure.IsRefusal) :
    IsMalformed failure := by
  cases refused with
  | config refusal supplied => rfl
  | overlong => rfl
  | malformed => rfl

theorem failsOnly_write (value : Datum) : FailsOnly IsMalformed value.write :=
  value.failsOnly_write.mono isMalformed_of_isRefusal

theorem failsOnly_items (value : Datum) : FailsOnly IsMalformed (items value) := by
  unfold items
  split
  case h_7 => exact .error rfl
  all_goals exact .ok _

theorem failsOnly_path (value : Datum) : FailsOnly IsMalformed (path value) := by
  unfold path
  split
  · exact .ok _
  · exact .error rfl

theorem failsOnly_paths (value : Datum) : FailsOnly IsMalformed (paths value) :=
  (failsOnly_items value).bind fun items => .mapM failsOnly_path items

/-! ## The key of a configuration -/

theorem failsOnly_readVersion (value : Datum) :
    FailsOnly IsMalformed (KitVersion.ofDatum value) := by
  refine (failsOnly_write value).bind fun text => ?_
  unfold KitVersion.read
  simp only
  split
  · split
    · exact .ok _
    · exact .error rfl
  · exact .error rfl

theorem failsOnly_readDriver (driverClass version : Datum) :
    FailsOnly IsMalformed (DriverConfig.ofData driverClass version) := by
  have ofRefusals : FailsOnly Failure.IsRefusal (DriverConfig.ofData driverClass version) := by
    refine driverClass.failsOnly_write.bind fun text =>
      (DriverClass.failsOnly_read text).bind fun _ => ?_
    split
    · exact DriverConfig.failsOnly_ofParts _ _
    · exact (FrameworkVersion.failsOnly_ofDatum version).bind fun _ =>
        DriverConfig.failsOnly_ofParts _ _
  exact ofRefusals.mono isMalformed_of_isRefusal

theorem failsOnly_readKey (fields : List (Scalar × Datum)) :
    FailsOnly IsMalformed (readKey fields) :=
  (failsOnly_required fields _).bind fun version =>
    (failsOnly_readVersion version).bind fun _ =>
      (failsOnly_required fields _).bind fun driverClass =>
        (failsOnly_required fields _).bind fun framework =>
          (failsOnly_readDriver driverClass framework).bind fun _ =>
            (failsOnly_required fields _).bind fun arch =>
              (failsOnly_write arch).bind fun text =>
                ((Arch.failsOnly_read text).mono isMalformed_of_isRefusal).bind fun _ => .ok _

/-! ## Parts of a document -/

theorem failsOnly_readHead (fields : List (Scalar × Datum)) :
    FailsOnly IsMalformed (readHead fields) :=
  (failsOnly_readKey fields).bind fun _ =>
    (failsOnly_required fields _).bind fun root => (failsOnly_path root).bind fun _ =>
      (failsOnly_required fields _).bind fun headers => (failsOnly_paths headers).bind fun _ =>
        (failsOnly_required fields _).bind fun libs => (failsOnly_paths libs).bind fun _ => .ok _

theorem failsOnly_readTail (fields : List (Scalar × Datum)) :
    FailsOnly IsMalformed (readTail fields) := by
  refine (failsOnly_required fields _).bind fun libs => (failsOnly_items libs).bind fun names =>
    (FailsOnly.mapM failsOnly_write names).bind fun _ => ?_
  split
  · exact .ok _
  · exact (failsOnly_paths _).bind fun _ => .ok _

/-! ## Definitions -/

/-- A value is present but is no map, so that it gives no definitions. -/
def IsForeign (value : Datum) : Prop :=
  value.isPresent = true ∧ ∀ entries, value.opened ≠ .map entries

theorem readDefines_of_isForeign {value : Datum} (foreign : IsForeign value) :
    readDefines value = .error (.misuse .notMapping) := by
  obtain ⟨present, noMap⟩ := foreign
  rw [readDefines, Datum.present?, if_pos present, Option.map_some]
  cases opened : value.opened with
  | map entries => exact absurd opened (noMap entries)
  | _ => rfl

theorem failsOnly_readDefines {value : Datum} (usual : ¬IsForeign value) :
    FailsOnly IsMalformed (readDefines value) := by
  unfold readDefines
  split
  · exact .ok _
  · rename_i entries _
    refine FailsOnly.bind (.mapM ?_ entries) fun _ => .ok _
    rintro ⟨key, given⟩
    refine (failsOnly_write _).bind fun _ => ?_
    split
    · exact .ok _
    · exact (failsOnly_write given).bind fun _ => .ok _
  · rename_i noMap found
    obtain ⟨kept, present, opened⟩ := Option.map_eq_some_iff.mp found
    rw [Datum.present?] at present
    split at present
    · rename_i isPresent
      cases present
      refine absurd ⟨isPresent, fun entries isMap => ?_⟩ usual
      exact noMap entries (opened.symm.trans isMap)
    · cases present

/-! ## Whole documents -/

theorem failsOnly_decode_of_not_supported {document : Datum} {fields : List (Scalar × Datum)}
    (opened : document.opened = .map fields) (other : isSupported fields = false) :
    FailsOnly IsMalformed (decode document) := by
  rw [decode_of_not_supported opened other]
  split
  · exact .error rfl
  · exact .error rfl

/-- The definitions of a document are no map, and the document is in order up to there. -/
structure HasForeignDefines (fields : List (Scalar × Datum)) : Prop where
  supported : isSupported fields = true
  inOrder : ∃ head, readHead fields = .ok head
  foreign : IsForeign ((Datum.field? fields "defines").getD .null)

/-- A document in order up to its definitions, which are a list. -/
example :
    HasForeignDefines
      [(.text "format_version", .int 1), (.text "kit_version", .text "10.0"),
        (.text "driver_class", .text "WDM"), (.text "framework_version", .null),
        (.text "target_arch", .text "x64"), (.text "kit_root", .text "kit"),
        (.text "include_dirs", .list []), (.text "lib_dirs", .list []),
        (.text "defines", .list [.text "A"])] :=
  ⟨by decide +kernel, ⟨_, rfl⟩, rfl, fun _ same => nomatch same⟩

theorem decode_of_hasForeignDefines {document : Datum} {fields : List (Scalar × Datum)}
    (opened : document.opened = .map fields) (foreign : HasForeignDefines fields) :
    decode document = .error (.misuse .notMapping) := by
  obtain ⟨supported, ⟨head, read⟩, foreignDefines⟩ := foreign
  rw [decode_of_opened opened supported, read]
  simp only [ok_bind, readDefines_of_isForeign foreignDefines, error_bind]

theorem failsOnly_decode {document : Datum} {fields : List (Scalar × Datum)}
    (opened : document.opened = .map fields) (usual : ¬HasForeignDefines fields) :
    FailsOnly IsMalformed (decode document) := by
  by_cases supported : isSupported fields = true
  · rw [decode_of_opened opened supported]
    intro failure failed
    rcases bind_eq_error_iff.mp failed with headFailed | ⟨head, read, restFailed⟩
    · exact failsOnly_readHead fields failure headFailed
    · have usualDefines : ¬IsForeign ((Datum.field? fields "defines").getD .null) :=
        fun foreign => usual ⟨supported, ⟨head, read⟩, foreign⟩
      refine FailsOnly.bind (failsOnly_readDefines usualDefines) ?_ failure restFailed
      exact fun defines => (failsOnly_readTail fields).bind fun tail => .ok _
  · exact failsOnly_decode_of_not_supported opened (Bool.eq_false_iff.mpr supported)

/-! ## Whole files -/

variable {loader : Yaml.Loader} {bytes : ByteArray}

/-- A cause that a load of these bytes lets pass instead of reporting a failure of the cache. -/
inductive Escapes (loader : Yaml.Loader) (bytes : ByteArray) : Misuse → Prop where
  /-- What reads documents gives up, over bytes that are no text or a value that makes no sense. -/
  | givenUp {cause : Misuse} (givenUp : loader.read bytes = .error (.misuse cause)) :
      Escapes loader bytes cause
  /-- The definitions are no map. -/
  | foreignDefines {document : Datum} {fields : List (Scalar × Datum)}
      (isRead : loader.read bytes = .ok document) (opened : document.opened = .map fields)
      (foreign : HasForeignDefines fields) : Escapes loader bytes .notMapping

theorem ofBytes_of_escapes (file : Path) {cause : Misuse} (escapes : Escapes loader bytes cause) :
    ofBytes loader file bytes = .error (.misuse cause) := by
  unfold ofBytes parse
  cases escapes with
  | givenUp givenUp => simp only [givenUp, error_bind]
  | foreignDefines isRead opened foreign =>
      simp only [isRead, ok_bind, opened, decode_of_hasForeignDefines opened foreign]
      rfl

/-- What bytes give: a configuration, a failure of the cache, or a cause that escapes. -/
theorem ofBytes_cases (loader : Yaml.Loader) (file : Path) (bytes : ByteArray) :
    (∃ config, ofBytes loader file bytes = .ok config) ∨
      (∃ reason, ofBytes loader file bytes = .error (.cache file reason)) ∨
        ∃ cause,
          Escapes loader bytes cause ∧ ofBytes loader file bytes = .error (.misuse cause) := by
  cases isRead : loader.read bytes with
  | error fault =>
      cases fault with
      | malformed =>
          refine Or.inr (Or.inl ⟨.notYaml, ?_⟩)
          simp only [ofBytes, parse, isRead, error_bind]
      | misuse cause =>
          have escapes := Escapes.givenUp isRead
          exact Or.inr (Or.inr ⟨_, escapes, ofBytes_of_escapes file escapes⟩)
  | ok document =>
      cases opened : document.opened with
      | map fields =>
          by_cases foreign : HasForeignDefines fields
          · have escapes := Escapes.foreignDefines isRead opened foreign
            exact Or.inr (Or.inr ⟨_, escapes, ofBytes_of_escapes file escapes⟩)
          · cases decoded : decode document with
            | ok config =>
                refine Or.inl ⟨config, ?_⟩
                simp only [ofBytes, parse, isRead, ok_bind, opened, decoded]
                rfl
            | error failure =>
                have malformed := failsOnly_decode opened foreign failure decoded
                obtain ⟨text, shown⟩ := Option.isSome_iff_exists.mp malformed
                refine Or.inr (Or.inl ⟨.malformed text, ?_⟩)
                simp only [ofBytes, parse, isRead, ok_bind, opened, decoded, shown]
      | _ =>
          refine Or.inr (Or.inl ⟨.notMapping, ?_⟩)
          simp only [ofBytes, parse, isRead, ok_bind, opened]

theorem ofBytes_eq_misuse_iff {file : Path} {cause : Misuse} :
    ofBytes loader file bytes = .error (.misuse cause) ↔ Escapes loader bytes cause := by
  constructor
  · intro failed
    rcases ofBytes_cases loader file bytes with
      ⟨config, made⟩ | ⟨reason, other⟩ | ⟨found, escapes, other⟩
    · cases made.symm.trans failed
    · cases other.symm.trans failed
    · cases other.symm.trans failed
      exact escapes
  · exact ofBytes_of_escapes file

theorem ne_ok_of_undecodable (texts : loader.ReadsTexts) (noText : Text.decodeLines? bytes = none)
    (file : Path) (config : BuildConfig) : ofBytes loader file bytes ≠ .ok config := by
  intro made
  obtain ⟨document, parsed, _⟩ := bind_eq_ok_iff.mp made
  unfold parse at parsed
  split at parsed
  · rename_i isRead
    exact texts bytes _ isRead noText
  · cases parsed
  · cases parsed

end DriverKit.Cache
