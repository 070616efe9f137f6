import DriverKit.Proofs.KitLayout.Reading

/-!
# Layouts with overrides

A layout that is read from a value differs from the built-in one only in the classes that the value
names. A class that a group of tiers names, in any spelling, has just the tiers of the last entry
that names it; a class without an entry keeps its own. The headers depend on the one group and the
libraries on the other.
-/

namespace DriverKit.KitLayout

/-! ## Tables with overrides -/

theorem override_of_not_mem {tiers : DriverClass → List Tier} {overrides : Overrides}
    {driverClass : DriverClass} (others : ∀ entry ∈ overrides, entry.1 ≠ driverClass) :
    override tiers overrides driverClass = tiers driverClass := by
  induction overrides generalizing tiers with
  | nil => rfl
  | cons entry rest inductionHypothesis =>
      rw [List.forall_mem_cons] at others
      show override (fun tested => if tested = entry.1 then entry.2 else tiers tested) rest
        driverClass = _
      rw [inductionHypothesis others.2, if_neg others.1.symm]

theorem override_append_cons {tiers : DriverClass → List Tier} {front back : Overrides}
    {driverClass : DriverClass} {own : List Tier}
    (last : ∀ later ∈ back, later.1 ≠ driverClass) :
    override tiers (front ++ (driverClass, own) :: back) driverClass = own := by
  have split : override tiers (front ++ (driverClass, own) :: back)
      = override
          (fun tested => if tested = driverClass then own else override tiers front tested)
          back := by
    rw [override, List.foldl_append, List.foldl_cons]
    rfl
  rw [split, override_of_not_mem last, if_pos rfl]

/-! ## Entries -/

/-- A key of a group names a class, in any spelling. -/
def Names (key : Scalar) (driverClass : DriverClass) : Prop :=
  ∃ className, (Datum.scalar key).write = .ok className ∧
    DriverClass.read className = .ok driverClass

/-- The tiers that a group gives a class: those of the last entry that names it. -/
def IsLast (entries : List (Scalar × Datum)) (driverClass : DriverClass) (tiers : Datum) : Prop :=
  ∃ front key back, entries = front ++ (key, tiers) :: back ∧ Names key driverClass ∧
    ∀ later ∈ back, ¬Names later.1 driverClass

theorem exists_isLast {driverClass : DriverClass} :
    ∀ {entries : List (Scalar × Datum)}, (∃ entry ∈ entries, Names entry.1 driverClass) →
      ∃ tiers, IsLast entries driverClass tiers
  | [], named => by
      obtain ⟨entry, member, _⟩ := named
      cases member
  | entry :: rest, named => by
      by_cases later : ∃ other ∈ rest, Names other.1 driverClass
      · obtain ⟨tiers, front, key, back, split, isNamed, last⟩ := exists_isLast later
        exact ⟨tiers, entry :: front, key, back, congrArg (List.cons entry) split, isNamed, last⟩
      · have last : ∀ other ∈ rest, ¬Names other.1 driverClass :=
          fun other member isNamed => later ⟨other, member, isNamed⟩
        obtain ⟨found, member, isNamed⟩ := named
        rcases List.mem_cons.mp member with here | inRest
        · exact ⟨entry.2, [], entry.1, rest, rfl, here ▸ isNamed, last⟩
        · exact absurd isNamed (last found inRest)

/-- A value lists templates: each of its items is a map with a template. -/
def ListsTemplates (tiers : Datum) (templates : List String) : Prop :=
  ∃ items, tiers.opened = .list items ∧
    List.Forall₂
      (fun item template => ∃ fields value, item.opened = .map fields ∧
        Datum.field? fields "template" = some value ∧ value.write = .ok template)
      items templates

theorem ListsTemplates.unique {tiers : Datum} {templates others : List String}
    (listed : ListsTemplates tiers templates) (alsoListed : ListsTemplates tiers others) :
    templates = others := by
  obtain ⟨items, opened, each⟩ := listed
  obtain ⟨otherItems, alsoOpened, eachAlso⟩ := alsoListed
  rw [opened] at alsoOpened
  cases alsoOpened
  apply List.right_unique_forall₂' _ each eachAlso
  intro item template other hasTemplate hasOther
  obtain ⟨fields, value, itemOpened, found, written⟩ := hasTemplate
  obtain ⟨otherFields, otherValue, itemAlsoOpened, alsoFound, alsoWritten⟩ := hasOther
  rw [itemOpened] at itemAlsoOpened
  cases itemAlsoOpened
  rw [found] at alsoFound
  cases alsoFound
  exact Except.ok.inj (written.symm.trans alsoWritten)

theorem exists_of_readTier {group className : String} {entry : Datum} {tier : Tier}
    (read : readTier group className entry = .ok tier) :
    ∃ fields value, entry.opened = .map fields ∧
      Datum.field? fields "template" = some value ∧ value.write = .ok tier.template := by
  unfold readTier at read
  cases opened : entry.opened with
  | map fields =>
      cases found : Datum.field? fields "template" with
      | none =>
          simp only [opened, found] at read
          cases read
      | some value =>
          simp only [opened, found] at read
          obtain ⟨template, written, made⟩ := bind_eq_ok_iff.mp read
          cases made
          exact ⟨fields, value, rfl, found, written⟩
  | _ =>
      simp only [opened] at read
      cases read

theorem listsTemplates_of_readTiers {group className : String} {tiers : Datum}
    {own : List Tier} (read : readTiers group className tiers = .ok own) :
    ListsTemplates tiers (own.map Tier.template) := by
  unfold readTiers at read
  cases opened : tiers.opened with
  | list items =>
      simp only [opened] at read
      refine ⟨items, opened, ?_⟩
      rw [List.forall₂_map_right_iff]
      apply (mapM_eq_ok_iff.mp read).imp
      intro item tier made
      exact exists_of_readTier made
  | _ =>
      simp only [opened] at read
      cases read

theorem names_of_readEntry {group : String} {key : Scalar} {tiers : Datum}
    {driverClass : DriverClass} {own : List Tier}
    (read : readEntry group key tiers = .ok (driverClass, own)) :
    Names key driverClass ∧ ListsTemplates tiers (own.map Tier.template) := by
  obtain ⟨className, written, afterName⟩ := bind_eq_ok_iff.mp read
  obtain ⟨found, named, afterClass⟩ := bind_eq_ok_iff.mp afterName
  obtain ⟨tiersRead, listed, made⟩ := bind_eq_ok_iff.mp afterClass
  cases made
  exact ⟨⟨className, written, named⟩, listsTemplates_of_readTiers listed⟩

theorem Names.unique {key : Scalar} {driverClass other : DriverClass}
    (named : Names key driverClass) (alsoNamed : Names key other) : driverClass = other := by
  obtain ⟨className, written, isRead⟩ := named
  obtain ⟨otherName, alsoWritten, alsoRead⟩ := alsoNamed
  rw [written] at alsoWritten
  rw [← Except.ok.inj alsoWritten, isRead] at alsoRead
  exact Except.ok.inj alsoRead

/-! ## Groups -/

section

variable {group : String} {entries : List (Scalar × Datum)} {overrides : Overrides}

theorem exists_names_of_mem
    (read : (entries.mapM fun entry => readEntry group entry.1 entry.2) = .ok overrides)
    {found : DriverClass × List Tier} (member : found ∈ overrides) :
    ∃ entry ∈ entries, Names entry.1 found.1 := by
  obtain ⟨entry, inEntries, entryRead⟩ := exists_of_forall₂ (mapM_eq_ok_iff.mp read) member
  exact ⟨entry, inEntries, (names_of_readEntry entryRead).1⟩

theorem override_of_not_named
    (read : (entries.mapM fun entry => readEntry group entry.1 entry.2) = .ok overrides)
    {driverClass : DriverClass} (unnamed : ∀ entry ∈ entries, ¬Names entry.1 driverClass)
    (tiers : DriverClass → List Tier) :
    override tiers overrides driverClass = tiers driverClass := by
  apply override_of_not_mem
  intro found member same
  obtain ⟨entry, inEntries, named⟩ := exists_names_of_mem read member
  exact unnamed entry inEntries (same ▸ named)

theorem listsTemplates_of_isLast
    (read : (entries.mapM fun entry => readEntry group entry.1 entry.2) = .ok overrides)
    {driverClass : DriverClass} {given : Datum} (isLast : IsLast entries driverClass given)
    (tiers : DriverClass → List Tier) :
    ListsTemplates given ((override tiers overrides driverClass).map Tier.template) := by
  obtain ⟨front, key, back, split, named, last⟩ := isLast
  rw [split] at read
  obtain ⟨frontRead, ⟨found, own⟩, backRead, made, entryRead, laterRead⟩ :=
    exists_of_mapM_append_cons read
  obtain ⟨foundNamed, listed⟩ := names_of_readEntry entryRead
  have laterOthers : ∀ later ∈ backRead, later.1 ≠ driverClass := by
    intro later member same
    obtain ⟨entry, inBack, laterNamed⟩ := exists_names_of_mem laterRead member
    exact last entry inBack (same ▸ laterNamed)
  rw [made, foundNamed.unique named, override_append_cons laterOthers]
  exact listed

end

/-- What a template is filled in to, as a directory below a root. -/
def leadTo (host : Template.Parts) (root : Path) (bindings : Template.Bindings)
    (template : String) : Except Failure Path := do
  return root.extend (← Template.expand host bindings template).toList

/-- Directories follow the entries of a group: those of a class that has an entry are what the
templates of its last entry are filled in to, in their order, and those of the other classes are
the usual ones. -/
structure Follows (host : Template.Parts) (entries : List (Scalar × Datum)) (arch : Option Arch)
    (dirs usualDirs : Path → KitVersion → DriverConfig → Except Failure (List Path)) :
    Prop where
  last : ∀ driverClass, (∃ entry ∈ entries, Names entry.1 driverClass) →
    ∃ tiers templates, IsLast entries driverClass tiers ∧ ListsTemplates tiers templates
  named : ∀ (driver : DriverConfig) (tiers : Datum) (templates : List String),
    IsLast entries driver.driverClass tiers → ListsTemplates tiers templates →
      ∀ root version,
        dirs root version driver
          = templates.mapM (leadTo host root (Tier.bindings version driver arch))
  others : ∀ driver : DriverConfig, (∀ entry ∈ entries, ¬Names entry.1 driver.driverClass) →
    ∀ root version, dirs root version driver = usualDirs root version driver

theorem follows_override (host : Template.Parts) {group : String} {entries : List (Scalar × Datum)}
    {overrides : Overrides}
    (read : (entries.mapM fun entry => readEntry group entry.1 entry.2) = .ok overrides)
    (tiers : DriverClass → List Tier) (arch : Option Arch) :
    Follows host entries arch
      (fun root version driver =>
        (override tiers overrides driver.driverClass).mapM
          (·.expand host root version driver arch))
      (fun root version driver =>
        (tiers driver.driverClass).mapM (·.expand host root version driver arch)) := by
  constructor
  · intro driverClass named
    obtain ⟨given, isLast⟩ := exists_isLast named
    exact ⟨given, _, isLast, listsTemplates_of_isLast read isLast tiers⟩
  · intro driver given templates isLast listed root version
    rw [listed.unique (listsTemplates_of_isLast read isLast tiers), List.mapM_map]
    rfl
  · intro driver unnamed root version
    rw [override_of_not_named read unnamed]

/-! ## Layouts -/

/-- The entries of a group in a value; a group that is absent or empty has none. -/
def entriesOf (value : Datum) (group : String) : List (Scalar × Datum) :=
  match value.opened with
  | .map fields =>
      match (group? fields group).map Datum.opened with
      | some (.map entries) => entries
      | _ => []
  | _ => []

/-- A value gives no group of a name: the value or the group is not there, null or empty. -/
def LacksGroup (value : Datum) (group : String) : Prop :=
  ∀ fields, value.opened = .map fields → ∀ given, Datum.field? fields group = some given →
    given.isPresent = false

theorem entriesOf_of_lacksGroup {value : Datum} {group : String}
    (lacks : LacksGroup value group) : entriesOf value group = [] := by
  unfold entriesOf
  cases opened : value.opened with
  | map fields =>
      have absent : group? fields group = none := by
        unfold group?
        rw [Option.filter_eq_none_iff]
        intro given found
        rw [lacks fields opened given found]
        exact Bool.false_ne_true
      simp only [absent, Option.map_none]
  | _ => rfl

theorem mapM_entriesOf {value : Datum} {fields : List (Scalar × Datum)} {group : String}
    {overrides : Overrides} (opened : value.opened = .map fields)
    (read : readGroup fields group = .ok overrides) :
    ((entriesOf value group).mapM fun entry => readEntry group entry.1 entry.2)
      = .ok overrides := by
  rw [readGroup_eq] at read
  unfold entriesOf
  simp only [opened]
  cases given : (group? fields group).map Datum.opened with
  | none =>
      rw [given] at read
      cases read
      rfl
  | some groupOpened =>
      cases groupOpened with
      | map entries =>
          rw [given] at read
          exact read
      | _ =>
          rw [given] at read
          cases read

theorem lacksGroup_of_not_isPresent {value : Datum} (absent : value.isPresent = false)
    (group : String) : LacksGroup value group := by
  intro fields opened given found
  unfold Datum.isPresent at absent
  simp only [opened, Bool.not_eq_false', List.isEmpty_iff] at absent
  rw [absent] at found
  cases found

/-- A layout that is read is the built-in one with the entries of its two groups. -/
theorem exists_of_ofDatum {host : Template.Parts} {value : Datum} {layout : KitLayout}
    (accepted : ofDatum host value = .ok layout) :
    ∃ includes libs,
      ((entriesOf value "include_tiers").mapM fun entry =>
          readEntry "include_tiers" entry.1 entry.2) = .ok includes ∧
        ((entriesOf value "lib_tiers").mapM fun entry =>
          readEntry "lib_tiers" entry.1 entry.2) = .ok libs ∧
          layout = ⟨override usualIncludeTiers includes, override usualLibTiers libs, host⟩ := by
  unfold ofDatum Datum.present? at accepted
  cases present : value.isPresent with
  | false =>
      rw [present] at accepted
      cases accepted
      rw [entriesOf_of_lacksGroup (lacksGroup_of_not_isPresent present "include_tiers"),
        entriesOf_of_lacksGroup (lacksGroup_of_not_isPresent present "lib_tiers")]
      exact ⟨[], [], rfl, rfl, rfl⟩
  | true =>
      simp only [present, if_true, Option.map_some] at accepted
      cases opened : value.opened with
      | map fields =>
          simp only [opened] at accepted
          obtain ⟨includes, includesRead, afterIncludes⟩ := bind_eq_ok_iff.mp accepted
          obtain ⟨libs, libsRead, made⟩ := bind_eq_ok_iff.mp afterIncludes
          cases made
          exact ⟨includes, libs, mapM_entriesOf opened includesRead,
            mapM_entriesOf opened libsRead, rfl⟩
      | _ =>
          simp only [opened] at accepted
          cases accepted

/-- The headers of a layout that is read follow the one group, and its libraries the other. Values
with the same entries in a group agree on what follows it, whatever the other group is; and where a
group or the whole value is absent or empty, the directories are the usual ones. -/
theorem dirs_follow_groups {host : Template.Parts} {value : Datum} {layout : KitLayout}
    (accepted : ofDatum host value = .ok layout) :
    Follows host (entriesOf value "include_tiers") none layout.includeDirs
        (usual host).includeDirs ∧
      (∀ arch, Follows host (entriesOf value "lib_tiers") (some arch)
        (fun root version driver => layout.libDirs root version driver arch)
        (fun root version driver => (usual host).libDirs root version driver arch)) ∧
      (∀ other otherLayout, ofDatum host other = .ok otherLayout →
        (entriesOf other "include_tiers" = entriesOf value "include_tiers" →
            otherLayout.includeDirs = layout.includeDirs) ∧
          (entriesOf other "lib_tiers" = entriesOf value "lib_tiers" →
            otherLayout.libDirs = layout.libDirs)) ∧
      (LacksGroup value "include_tiers" → layout.includeDirs = (usual host).includeDirs) ∧
      (LacksGroup value "lib_tiers" → layout.libDirs = (usual host).libDirs) ∧
      (value.isPresent = false → layout = usual host) := by
  obtain ⟨includes, libs, includesRead, libsRead, made⟩ := exists_of_ofDatum accepted
  refine ⟨?_, ?_, ?_, ?_, ?_, ?_⟩
  · rw [made]
    exact follows_override host includesRead usualIncludeTiers none
  · intro arch
    rw [made]
    exact follows_override host libsRead usualLibTiers (some arch)
  · intro other otherLayout otherAccepted
    obtain ⟨otherIncludes, otherLibs, otherIncludesRead, otherLibsRead, otherMade⟩ :=
      exists_of_ofDatum otherAccepted
    constructor
    · intro same
      rw [same, includesRead] at otherIncludesRead
      rw [otherMade, made, Except.ok.inj otherIncludesRead]
      rfl
    · intro same
      rw [same, libsRead] at otherLibsRead
      rw [otherMade, made, Except.ok.inj otherLibsRead]
      rfl
  · intro lacks
    rw [entriesOf_of_lacksGroup lacks] at includesRead
    rw [made, ← Except.ok.inj includesRead]
    rfl
  · intro lacks
    rw [entriesOf_of_lacksGroup lacks] at libsRead
    rw [made, ← Except.ok.inj libsRead]
    rfl
  · intro absent
    rw [ofDatum, Datum.present?, absent] at accepted
    exact (Except.ok.inj accepted).symm

/-- A class under two spellings, of which the last counts, a class without tiers, a class that is
not named, and a group that is null. -/
theorem dirs_follow_groups_spellings :
    let tier (template : Datum) : Datum := .map [(.text "template", template)]
    let entries : List (Scalar × Datum) :=
      [(.text "KMDF", .list [tier (.text "first")]),
        (.text " kmdf", .list [tier (.text "Headers/\x7bversion\x7d"), tier (.int 5)]),
        (.text "wdm", .list [])]
    let value : Datum := .map [(.text "include_tiers", .map entries), (.text "lib_tiers", .null)]
    let root := Path.ofText "kit"
    ∃ layout, ofDatum .fewest value = .ok layout ∧
      layout.includeDirs root ⟨[10, 0]⟩ (.kmdf 33)
          = .ok [Path.ofText "kit/Headers/10.0", Path.ofText "kit/5"] ∧
        layout.includeDirs root ⟨[10, 0]⟩ .wdm = .ok [] ∧
          layout.includeDirs root ⟨[10, 0]⟩ (.umdf 33)
              = (usual .fewest).includeDirs root ⟨[10, 0]⟩ (.umdf 33) ∧
            layout.libDirs = (usual .fewest).libDirs := by
  intro tier entries value root
  obtain ⟨layout, accepted⟩ : ∃ layout, ofDatum .fewest value = .ok layout :=
    exists_ok_of_isSome (by decide +kernel)
  obtain ⟨headers, _, _, _, libsKept, _⟩ := dirs_follow_groups accepted
  have first : Names (.text "KMDF") .kmdf := ⟨"KMDF", rfl, rfl⟩
  have second : Names (.text " kmdf") .kmdf := ⟨" kmdf", rfl, rfl⟩
  have third : Names (.text "wdm") .wdm := ⟨"wdm", rfl, rfl⟩
  have kernelLast :
      IsLast entries .kmdf
        (.list [tier (.text "Headers/\x7bversion\x7d"), tier (.int 5)]) := by
    refine ⟨[(.text "KMDF", .list [tier (.text "first")])], .text " kmdf",
      [(.text "wdm", .list [])], rfl, second, ?_⟩
    intro later member named
    rw [List.mem_singleton.mp member] at named
    cases named.unique third
  have bareLast : IsLast entries .wdm (.list []) := by
    refine ⟨entries.take 2, .text "wdm", [], rfl, third, ?_⟩
    intro later member
    cases member
  have five : (Datum.int 5).write = .ok "5" := eq_ok_of_toOption (by decide +kernel)
  have kernelListed :
      ListsTemplates (.list [tier (.text "Headers/\x7bversion\x7d"), tier (.int 5)])
        ["Headers/\x7bversion\x7d", "5"] :=
    ⟨_, rfl, .cons ⟨_, _, rfl, rfl, rfl⟩ (.cons ⟨_, _, rfl, rfl, five⟩ .nil)⟩
  refine ⟨layout, accepted, ?_, ?_, ?_, libsKept ?_⟩
  · exact (headers.named (.kmdf 33) _ _ kernelLast kernelListed root ⟨[10, 0]⟩).trans rfl
  · exact headers.named .wdm _ _ bareLast ⟨[], rfl, .nil⟩ root ⟨[10, 0]⟩
  · apply headers.others
    intro entry member named
    have inEntries : entry ∈ entries := member
    simp only [entries, List.mem_cons, List.not_mem_nil, or_false] at inEntries
    rcases inEntries with isFirst | isSecond | isThird
    · cases (isFirst ▸ named).unique first
    · cases (isSecond ▸ named).unique second
    · cases (isThird ▸ named).unique third
  · intro fields opened given found
    cases opened
    cases found
    rfl

end DriverKit.KitLayout
