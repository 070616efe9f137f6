import DriverKit.Proofs.Cache.Document

/-!
# The fields of a document that hold several values

The directories, the libraries and the paths to watch of a document are meant to be lists, each with
one entry for every item. Reading them goes through whatever value there is, so a value that is no
list is taken for its parts if it has any: a text for its characters, a map for its keys. Which
documents are accepted, and what they are read as, is said by their fields alone.
-/

namespace DriverKit.Cache

/-! ## Values that are gone through -/

/-- A value that is not a list comes apart nevertheless. -/
inductive ComesApart (value : Datum) : List Datum → Prop where
  | keys {entries : List (Scalar × Datum)} (opened : value.opened = .map entries) :
      ComesApart value (entries.map fun entry => .scalar entry.1)
  | members {members : List Scalar} (opened : value.opened = .set members) :
      ComesApart value (members.map .scalar)
  | halves {first second : Datum} (opened : value.opened = .pair first second) :
      ComesApart value [first, second]
  | characters {text : String} (opened : value.opened = .text text) :
      ComesApart value (text.toList.map fun c => .text (String.singleton c))
  | bytes {bytes : List UInt8} (opened : value.opened = .scalar (.bytes bytes)) :
      ComesApart value (bytes.map fun byte => .int byte.toNat)

/-- What a value is gone through by: the items of a list, else the parts it comes apart into. -/
def HasParts (value : Datum) (parts : List Datum) : Prop :=
  value.opened = .list parts ∨ ComesApart value parts

theorem items_eq_ok_iff {value : Datum} {parts : List Datum} :
    items value = .ok parts ↔ HasParts value parts := by
  constructor
  · intro accepted
    unfold items at accepted
    split at accepted
    case h_1 given opened =>
      cases accepted
      exact Or.inl opened
    case h_2 entries opened =>
      cases accepted
      exact Or.inr (.keys opened)
    case h_3 members opened =>
      cases accepted
      exact Or.inr (.members opened)
    case h_4 first second opened =>
      cases accepted
      exact Or.inr (.halves opened)
    case h_5 text opened =>
      cases accepted
      exact Or.inr (.characters opened)
    case h_6 bytes opened =>
      cases accepted
      exact Or.inr (.bytes opened)
    case h_7 => cases accepted
  · intro hasParts
    cases hasParts with
    | inl opened => rw [items, opened]
    | inr apart =>
        cases apart with
        | keys opened => rw [items, opened]
        | members opened => rw [items, opened]
        | halves opened => rw [items, opened]
        | characters opened => rw [items, opened]
        | bytes opened => rw [items, opened]

/-! ## Entries -/

def NamesPath (value : Datum) (path : Path) : Prop :=
  ∃ text, value = .text text ∧ Path.ofText text = path

theorem path_eq_ok_iff {value : Datum} {result : Path} :
    path value = .ok result ↔ NamesPath value result := by
  constructor
  · intro accepted
    unfold path at accepted
    split at accepted
    case h_1 text =>
      cases accepted
      exact ⟨text, rfl, rfl⟩
    case h_2 => cases accepted
  · intro named
    obtain ⟨text, isText, same⟩ := named
    rw [isText, path, same]

def IsWritten (value : Datum) (text : String) : Prop :=
  value.isWritable = true ∧ value.plain = text

theorem write_eq_ok_iff {value : Datum} {text : String} :
    value.write = .ok text ↔ IsWritten value text := by
  rw [Datum.write, IsWritten]
  by_cases writable : value.isWritable = true
  · rw [if_pos writable]
    simp [writable]
  · rw [if_neg writable]
    simp [writable]

variable {α : Type}

/-- A value holds entries: it has as many parts, and each entry is what its part stands for. -/
def Holds (entry : Datum → α → Prop) (value : Datum) (entries : List α) : Prop :=
  ∃ parts, HasParts value parts ∧ List.Forall₂ entry parts entries

theorem mapM_items_eq_ok_iff {step : Datum → Except Failure α} {entry : Datum → α → Prop}
    (exact : ∀ value result, step value = .ok result ↔ entry value result) {value : Datum}
    {entries : List α} :
    (do (← items value).mapM step) = Except.ok entries ↔ Holds entry value entries := by
  rw [bind_eq_ok_iff]
  apply exists_congr
  intro parts
  rw [items_eq_ok_iff, mapM_eq_ok_iff]
  simp only [exact]

theorem paths_eq_ok_iff {value : Datum} {entries : List Path} :
    paths value = .ok entries ↔ Holds NamesPath value entries :=
  mapM_items_eq_ok_iff fun _ _ => path_eq_ok_iff

/-- A text is never refused: it is taken for one path by each of its characters. -/
theorem holds_namesPath_text_iff {value : Datum} {text : String}
    (opened : value.opened = .text text) {entries : List Path} :
    Holds NamesPath value entries ↔
      entries = text.toList.map fun c => Path.ofText (String.singleton c) := by
  have letter (c : Char) (entry : Path) :
      path (.text (String.singleton c)) = .ok entry ↔
        Path.ofText (String.singleton c) = entry := by
    simp [path]
  rw [← paths_eq_ok_iff, paths, items, opened, ok_bind, mapM_eq_ok_iff, List.forall₂_map_left_iff]
  simp only [letter]
  rw [← List.forall₂_map_left_iff (f := fun c => Path.ofText (String.singleton c)),
    List.forall₂_eq_eq_eq]
  exact eq_comm

/-! ## Fields -/

variable {fields : List (Scalar × Datum)}

def HasField (fields : List (Scalar × Datum)) (name : String) (kind : Datum → Prop) : Prop :=
  ∃ value, Datum.field? fields name = some value ∧ kind value

theorem required_eq_ok_iff {name : String} {value : Datum} :
    required fields name = .ok value ↔ Datum.field? fields name = some value := by
  rw [required]
  cases Datum.field? fields name with
  | none => simp
  | some found => simp

theorem required_bind_eq_ok_iff {name : String} {next : Datum → Except Failure α} {result : α} :
    (required fields name >>= next) = .ok result ↔
      HasField fields name fun value => next value = .ok result := by
  rw [bind_eq_ok_iff]
  simp only [required_eq_ok_iff]
  rfl

/-- The paths to watch, which are none if the field is left out or counts as absent. -/
inductive Watches (fields : List (Scalar × Datum)) : List Path → Prop where
  | none (absent : ∀ value, Datum.field? fields "rerun_paths" = some value →
      value.isPresent = false) : Watches fields []
  | some {value : Datum} {entries : List Path}
      (given : Datum.field? fields "rerun_paths" = some value) (present : value.isPresent = true)
      (holds : Holds NamesPath value entries) : Watches fields entries

/-- What the fields of a document say, taken together. -/
structure Describes (fields : List (Scalar × Datum)) (config : BuildConfig) : Prop where
  supported : isSupported fields = true
  key : readKey fields = .ok config.key
  kitRoot : HasField fields "kit_root" fun value => NamesPath value config.kitRoot
  includeDirs : HasField fields "include_dirs" fun value => Holds NamesPath value config.includeDirs
  libDirs : HasField fields "lib_dirs" fun value => Holds NamesPath value config.libDirs
  defines : readDefines ((Datum.field? fields "defines").getD .null) = .ok config.defines
  linkLibs : HasField fields "link_libs" fun value => Holds IsWritten value config.linkLibs
  rerunPaths : Watches fields config.rerunPaths

/-! ## Documents -/

theorem readHead_eq_ok_iff {key : ConfigKey} {kitRoot : Path} {includeDirs libDirs : List Path} :
    readHead fields = .ok (key, kitRoot, includeDirs, libDirs) ↔
      readKey fields = .ok key ∧
        (HasField fields "kit_root" fun value => NamesPath value kitRoot) ∧
        (HasField fields "include_dirs" fun value => Holds NamesPath value includeDirs) ∧
        HasField fields "lib_dirs" fun value => Holds NamesPath value libDirs := by
  unfold readHead
  constructor
  · intro accepted
    obtain ⟨readKey, keyRead, afterKey⟩ := bind_eq_ok_iff.mp accepted
    obtain ⟨rootValue, rootField, afterRootField⟩ := required_bind_eq_ok_iff.mp afterKey
    obtain ⟨readRoot, rootRead, afterRoot⟩ := bind_eq_ok_iff.mp afterRootField
    obtain ⟨includeValue, includeField, afterIncludeField⟩ := required_bind_eq_ok_iff.mp afterRoot
    obtain ⟨readIncludes, includesRead, afterIncludes⟩ := bind_eq_ok_iff.mp afterIncludeField
    obtain ⟨libValue, libField, afterLibField⟩ := required_bind_eq_ok_iff.mp afterIncludes
    obtain ⟨readLibs, libsRead, result⟩ := bind_eq_ok_iff.mp afterLibField
    cases result
    exact ⟨keyRead, ⟨rootValue, rootField, path_eq_ok_iff.mp rootRead⟩,
      ⟨includeValue, includeField, paths_eq_ok_iff.mp includesRead⟩,
      ⟨libValue, libField, paths_eq_ok_iff.mp libsRead⟩⟩
  · intro said
    obtain ⟨keyRead, ⟨rootValue, rootField, root⟩, ⟨includeValue, includeField, includes⟩,
      ⟨libValue, libField, libs⟩⟩ := said
    refine bind_eq_ok_iff.mpr ⟨_, keyRead, ?_⟩
    refine required_bind_eq_ok_iff.mpr ⟨_, rootField, ?_⟩
    refine bind_eq_ok_iff.mpr ⟨_, path_eq_ok_iff.mpr root, ?_⟩
    refine required_bind_eq_ok_iff.mpr ⟨_, includeField, ?_⟩
    refine bind_eq_ok_iff.mpr ⟨_, paths_eq_ok_iff.mpr includes, ?_⟩
    refine required_bind_eq_ok_iff.mpr ⟨_, libField, ?_⟩
    exact bind_eq_ok_iff.mpr ⟨_, paths_eq_ok_iff.mpr libs, rfl⟩

/-- What a document says of the paths to watch. -/
def readWatched (fields : List (Scalar × Datum)) : Except Failure (List Path) :=
  match (Datum.field? fields "rerun_paths").bind Datum.present? with
  | none => .ok []
  | some value => paths value

theorem readWatched_of_absent
    (absent : ∀ value, Datum.field? fields "rerun_paths" = some value → value.isPresent = false) :
    readWatched fields = .ok [] := by
  rw [readWatched]
  cases given : Datum.field? fields "rerun_paths" with
  | none => rfl
  | some value =>
      rw [Option.bind_some, Datum.present?, absent value given]
      rfl

theorem readWatched_of_given {value : Datum}
    (given : Datum.field? fields "rerun_paths" = some value) (present : value.isPresent = true) :
    readWatched fields = paths value := by
  rw [readWatched, given, Option.bind_some, Datum.present?, if_pos present]

theorem readWatched_eq_ok_iff {entries : List Path} :
    readWatched fields = .ok entries ↔ Watches fields entries := by
  constructor
  · intro accepted
    by_cases absent :
        ∀ value, Datum.field? fields "rerun_paths" = some value → value.isPresent = false
    · rw [readWatched_of_absent absent] at accepted
      cases accepted
      exact .none absent
    · simp only [not_forall] at absent
      obtain ⟨value, given, notAbsent⟩ := absent
      have present := eq_true_of_ne_false notAbsent
      rw [readWatched_of_given given present] at accepted
      exact .some given present (paths_eq_ok_iff.mp accepted)
  · intro watches
    cases watches with
    | none absent => exact readWatched_of_absent absent
    | some given present holds =>
        rw [readWatched_of_given given present]
        exact paths_eq_ok_iff.mpr holds

theorem readTail_eq :
    readTail fields = (do
      let linkLibs ← (← items (← required fields "link_libs")).mapM Datum.write
      let rerunPaths ← readWatched fields
      return (linkLibs, rerunPaths)) := by
  unfold readTail readWatched
  cases (Datum.field? fields "rerun_paths").bind Datum.present? with
  | none => rfl
  | some value => rfl

theorem readTail_eq_ok_iff {linkLibs : List String} {rerunPaths : List Path} :
    readTail fields = .ok (linkLibs, rerunPaths) ↔
      (HasField fields "link_libs" fun value => Holds IsWritten value linkLibs) ∧
        Watches fields rerunPaths := by
  rw [readTail_eq]
  constructor
  · intro accepted
    obtain ⟨value, field, afterField⟩ := required_bind_eq_ok_iff.mp accepted
    obtain ⟨parts, gone, afterParts⟩ := bind_eq_ok_iff.mp afterField
    obtain ⟨readLibs, written, afterLibs⟩ := bind_eq_ok_iff.mp afterParts
    obtain ⟨readPaths, watched, result⟩ := bind_eq_ok_iff.mp afterLibs
    cases result
    refine ⟨⟨value, field, ?_⟩, readWatched_eq_ok_iff.mp watched⟩
    apply (mapM_items_eq_ok_iff fun _ _ => write_eq_ok_iff).mp
    exact bind_eq_ok_iff.mpr ⟨parts, gone, written⟩
  · intro said
    obtain ⟨⟨value, field, holds⟩, watches⟩ := said
    have libs := (mapM_items_eq_ok_iff fun _ _ => write_eq_ok_iff).mpr holds
    obtain ⟨parts, gone, written⟩ := bind_eq_ok_iff.mp libs
    refine required_bind_eq_ok_iff.mpr ⟨value, field, ?_⟩
    refine bind_eq_ok_iff.mpr ⟨parts, gone, bind_eq_ok_iff.mpr ⟨_, written, ?_⟩⟩
    exact bind_eq_ok_iff.mpr ⟨_, readWatched_eq_ok_iff.mpr watches, rfl⟩

theorem decode_of_describes {document : Datum} {config : BuildConfig}
    (opened : document.opened = .map fields) (describes : Describes fields config) :
    decode document = .ok config := by
  have head := readHead_eq_ok_iff.mpr
    ⟨describes.key, describes.kitRoot, describes.includeDirs, describes.libDirs⟩
  have tail := readTail_eq_ok_iff.mpr ⟨describes.linkLibs, describes.rerunPaths⟩
  rw [decode_of_opened opened describes.supported]
  refine bind_eq_ok_iff.mpr ⟨_, head, ?_⟩
  refine bind_eq_ok_iff.mpr ⟨_, describes.defines, ?_⟩
  exact bind_eq_ok_iff.mpr ⟨_, tail, rfl⟩

theorem isSupported_of_decode {document : Datum} {config : BuildConfig}
    (opened : document.opened = .map fields) (accepted : decode document = .ok config) :
    isSupported fields = true := by
  by_contra other
  rw [decode_of_not_supported opened (Bool.eq_false_iff.mpr other)] at accepted
  split at accepted
  · cases accepted
  · cases accepted

theorem describes_of_decode {document : Datum} {config : BuildConfig}
    (opened : document.opened = .map fields) (accepted : decode document = .ok config) :
    Describes fields config := by
  have supported := isSupported_of_decode opened accepted
  rw [decode_of_opened opened supported] at accepted
  obtain ⟨⟨key, kitRoot, includeDirs, libDirs⟩, head, afterHead⟩ := bind_eq_ok_iff.mp accepted
  obtain ⟨defines, definesRead, afterDefines⟩ := bind_eq_ok_iff.mp afterHead
  obtain ⟨⟨linkLibs, rerunPaths⟩, tail, result⟩ := bind_eq_ok_iff.mp afterDefines
  cases result
  obtain ⟨keyRead, root, includes, libs⟩ := readHead_eq_ok_iff.mp head
  obtain ⟨links, watches⟩ := readTail_eq_ok_iff.mp tail
  exact ⟨supported, keyRead, root, includes, libs, definesRead, links, watches⟩

theorem exists_fields_of_decode {document : Datum} {config : BuildConfig}
    (accepted : decode document = .ok config) : ∃ fields, document.opened = .map fields := by
  unfold decode at accepted
  split at accepted
  · rename_i fields opened
    exact ⟨fields, opened⟩
  · cases accepted

/-- A document is accepted exactly if its fields describe a configuration, and it is read as this
one: each directory, library and watched path stands for one item of a list, in the order of the
items, or for one part of a value that is no list but comes apart. -/
theorem decode_iff_describes (document : Datum) (config : BuildConfig) :
    decode document = .ok config ↔
      ∃ fields, document.opened = .map fields ∧ Describes fields config := by
  constructor
  · intro accepted
    obtain ⟨fields, opened⟩ := exists_fields_of_decode accepted
    exact ⟨fields, opened, describes_of_decode opened accepted⟩
  · intro described
    obtain ⟨fields, opened, describes⟩ := described
    exact decode_of_describes opened describes

/-- A text and a map in the place of lists of directories are taken for their letters and keys. -/
theorem decode_iff_describes_letters :
    let fields : List (Scalar × Datum) :=
      [(.text "format_version", .int 1), (.text "driver_class", .text "WDM"),
       (.text "framework_version", .null), (.text "target_arch", .text "x64"),
       (.text "kit_version", .text "10.0"), (.text "kit_root", .text "kit"),
       (.text "include_dirs", .text "ab"), (.text "lib_dirs", .map [(.text "c", .int 1)]),
       (.text "link_libs", .list [])]
    decode (.map fields)
      = .ok
        { key := ⟨⟨[10, 0]⟩, .wdm, .x64⟩
          kitRoot := Path.ofText "kit"
          includeDirs := [Path.ofText "a", Path.ofText "b"]
          libDirs := [Path.ofText "c"]
          defines := []
          linkLibs := []
          rerunPaths := [] } := by
  intro fields
  refine (decode_iff_describes _ _).mpr ⟨fields, rfl, ?_⟩
  constructor
  · rfl
  · rfl
  · exact ⟨.text "kit", rfl, "kit", rfl, rfl⟩
  · exact ⟨.text "ab", rfl, (holds_namesPath_text_iff rfl).mpr rfl⟩
  · exact ⟨.map [(.text "c", .int 1)], rfl, _, Or.inr (.keys rfl), .cons ⟨"c", rfl, rfl⟩ .nil⟩
  · rfl
  · exact ⟨.list [], rfl, [], Or.inl rfl, .nil⟩
  · exact .none fun value given => by cases given

end DriverKit.Cache
