import DriverKit.Bindings.Flags
import DriverKit.Proofs.Define

/-!
# The arguments of the binding generator

The arguments before the separator are those of the generator itself and the same for every
configuration. Whatever the paths, names and values of a configuration are, none of its arguments
is taken for the separator, and only those of its directories are taken for directories.
-/

namespace DriverKit.Bindings

/-! ## Definitions by their names -/

theorem sortedDefines_perm_latest (defines : List Define) :
    (sortedDefines defines).Perm (Define.latest defines) := by
  apply List.mergeSort_perm

/-- A table has the last definition of each name, by the code points of the names. -/
structure IsTableOf (table defines : List Define) : Prop where
  ordered : table.Pairwise fun earlier later => earlier.1 < later.1
  mem_iff : ∀ name value, (name, value) ∈ table ↔ Define.IsLast name value defines

theorem pairwise_sortedDefines (defines : List Define) :
    (sortedDefines defines).Pairwise fun earlier later => earlier.1 < later.1 := by
  have ordered : (sortedDefines defines).Pairwise fun earlier later =>
      decide (earlier.1 ≤ later.1) = true := by
    apply List.pairwise_mergeSort
    · intro first second third
      simp only [decide_eq_true_eq]
      exact String.le_trans
    · intro first second
      simp only [Bool.or_eq_true, decide_eq_true_eq]
      exact String.le_total first.1 second.1
  have distinctNames : (sortedDefines defines).Pairwise fun earlier later =>
      earlier.1 ≠ later.1 := by
    have names := Define.nodup_names_latest defines
    have samples := (sortedDefines_perm_latest defines).map Prod.fst
    exact List.pairwise_map.mp (samples.nodup_iff.mpr names)
  apply (ordered.and distinctNames).imp
  intro earlier later both
  have notAbove : earlier.1 ≤ later.1 := of_decide_eq_true both.1
  apply String.not_le.mp
  intro back
  exact both.2 (String.le_antisymm notAbove back)

theorem isTableOf_sortedDefines (defines : List Define) :
    IsTableOf (sortedDefines defines) defines where
  ordered := pairwise_sortedDefines defines
  mem_iff name value := by
    rw [(sortedDefines_perm_latest defines).mem_iff]
    exact Define.mem_latest_iff

/-- Definitions of different names may come in any order. -/
theorem sortedDefines_of_perm {defines others : List Define} (perm : others.Perm defines)
    (nodup : (defines.map Prod.fst).Nodup) : sortedDefines others = sortedDefines defines := by
  have othersNodup : (others.map Prod.fst).Nodup := (perm.map Prod.fst).nodup_iff.mpr nodup
  have sameEntries : (sortedDefines others).Perm (sortedDefines defines) := by
    have left := sortedDefines_perm_latest others
    have right := sortedDefines_perm_latest defines
    rw [Define.latest_of_nodup othersNodup] at left
    rw [Define.latest_of_nodup nodup] at right
    exact left.trans (perm.trans right.symm)
  refine List.Perm.eq_of_pairwise ?_ (pairwise_sortedDefines others)
    (pairwise_sortedDefines defines) sameEntries
  intro earlier later _ _ below above
  exact absurd (String.lt_trans below above) (String.lt_irrefl earlier.1)

/-! ## What arguments start with -/

def starts (mark argument : String) : Bool := mark.toList.isPrefixOf argument.toList

theorem starts_append (mark rest : String) : starts mark (mark ++ rest) = true := by
  simp [starts]

/-- An argument starts with two marks only if one of them starts with the other. -/
theorem starts_eq_false {mark other argument : String} (starting : starts mark argument = true)
    (notWithin : starts mark other = false) (notAround : starts other mark = false) :
    starts other argument = false := by
  apply Bool.eq_false_iff.mpr
  intro otherStarting
  have front : mark.toList <+: argument.toList := List.isPrefixOf_iff_prefix.mp starting
  have otherFront : other.toList <+: argument.toList :=
    List.isPrefixOf_iff_prefix.mp otherStarting
  cases List.prefix_or_prefix_of_prefix front otherFront with
  | inl within => exact Bool.eq_false_iff.mp notWithin (List.isPrefixOf_iff_prefix.mpr within)
  | inr around => exact Bool.eq_false_iff.mp notAround (List.isPrefixOf_iff_prefix.mpr around)

/-! ## Kinds of arguments -/

def headerFlag (path : Path) : String := "-I" ++ path.text

def targetFlag (arch : Arch) : String := "--target=" ++ arch.triple

/-- The kinds of arguments that a configuration makes. -/
inductive Kind where
  | header
  | define
  | target
deriving DecidableEq, Repr

namespace Kind

def all : List Kind := [.header, .define, .target]

theorem mem_all (kind : Kind) : kind ∈ all := by
  cases kind <;> decide

/-- How the arguments of a kind start. -/
def mark : Kind → String
  | .header => "-I"
  | .define => "-D"
  | .target => "--target="

def flags (config : BuildConfig) : Kind → List String
  | .header => config.includeDirs.map headerFlag
  | .define => (sortedDefines config.defines).map defineFlag
  | .target => [targetFlag config.key.arch]

theorem starts_defineFlag (entry : Define) : starts "-D" (defineFlag entry) = true := by
  obtain ⟨name, value⟩ := entry
  cases value with
  | none => exact starts_append "-D" name
  | some value =>
      have regrouped : defineFlag (name, some value) = "-D" ++ (name ++ "=" ++ value) := by
        simp [defineFlag, String.append_assoc]
      rw [regrouped]
      exact starts_append "-D" (name ++ "=" ++ value)

theorem starts_of_mem_flags {config : BuildConfig} {kind : Kind} {argument : String}
    (member : argument ∈ kind.flags config) : starts kind.mark argument = true := by
  cases kind with
  | header =>
      obtain ⟨path, _, rfl⟩ := List.mem_map.mp member
      exact starts_append "-I" path.text
  | define =>
      obtain ⟨entry, _, rfl⟩ := List.mem_map.mp member
      exact starts_defineFlag entry
  | target =>
      rw [List.mem_singleton.mp member]
      exact starts_append "--target=" config.key.arch.triple

theorem starts_mark_of_ne {kind other : Kind} (different : kind ≠ other) :
    starts kind.mark other.mark = false := by
  cases kind <;> cases other <;> first | decide | exact absurd rfl different

theorem starts_mark_separator (kind : Kind) : starts kind.mark "--" = false := by
  cases kind <;> decide

theorem filter_mark_flags (config : BuildConfig) (kind other : Kind) :
    (kind.flags config).filter (starts other.mark)
      = if kind = other then kind.flags config else [] := by
  by_cases same : kind = other
  · rw [if_pos same, ← same]
    apply List.filter_eq_self.mpr
    intro argument member
    exact starts_of_mem_flags member
  · rw [if_neg same]
    apply List.filter_eq_nil_iff.mpr
    intro argument member
    rw [starts_eq_false (starts_of_mem_flags member) (starts_mark_of_ne same)
      (starts_mark_of_ne (Ne.symm same))]
    exact Bool.false_ne_true

theorem separator_not_mem_flags (config : BuildConfig) (kind : Kind) :
    "--" ∉ kind.flags config := by
  intro member
  have starting := starts_of_mem_flags member
  rw [starts_mark_separator kind] at starting
  cases starting

end Kind

/-! ## All arguments -/

/-- The arguments before the separator. -/
def leading : List String := generatorOptions ++ SymbolFilter.usual.flags

theorem filter_leading (kind : Kind) : leading.filter (starts kind.mark) = [] := by
  have each : ∀ kind ∈ Kind.all, leading.filter (starts kind.mark) = [] := by decide
  exact each kind kind.mem_all

theorem filter_compatibilityFlags (kind : Kind) :
    compatibilityFlags.filter (starts kind.mark) = [] := by
  cases kind <;> decide

theorem flags_usual (config : BuildConfig) :
    flags config .usual
      = leading ++ "--" ::
          (Kind.header.flags config ++ Kind.define.flags config
            ++ (Kind.target.flags config ++ compatibilityFlags)) := by
  simp [flags, readerFlags, leading, Kind.flags, targetFlag, headerFlag]

theorem count_separator (config : BuildConfig) : (flags config .usual).count "--" = 1 := by
  have noSeparator : ∀ kind : Kind, (kind.flags config).count "--" = 0 := by
    intro kind
    exact List.count_eq_zero.mpr (kind.separator_not_mem_flags config)
  have notLeading : leading.count "--" = 0 := by decide
  have notCompatibility : compatibilityFlags.count "--" = 0 := by decide
  rw [flags_usual]
  simp only [List.count_append, List.count_cons_self, noSeparator, notLeading, notCompatibility]

/-- The arguments that start with the mark of a kind are those that a configuration makes of it. -/
theorem filter_flags (config : BuildConfig) (kind : Kind) :
    (flags config .usual).filter (starts kind.mark) = kind.flags config := by
  rw [flags_usual, List.filter_append, List.filter_cons, kind.starts_mark_separator]
  simp only [List.filter_append, filter_leading, filter_compatibilityFlags, Kind.filter_mark_flags]
  cases kind with
  | header => simp
  | define => simp
  | target => simp

theorem flags_of_perm {config : BuildConfig} {others : List Define}
    (perm : others.Perm config.defines) (nodup : (config.defines.map Prod.fst).Nodup) :
    flags { config with defines := others } .usual = flags config .usual := by
  have sameTable : Kind.define.flags { config with defines := others }
      = Kind.define.flags config :=
    congrArg (List.map defineFlag) (sortedDefines_of_perm perm nodup)
  rw [flags_usual, flags_usual, sameTable]
  rfl

/-- The arguments for any configuration: the same ones up to the only separator, then a flag for
each directory of headers, one for each name that is defined, by the names and for the last
definition, and the target with what makes the headers readable. -/
theorem flags_groups (config : BuildConfig) :
    let arguments := flags config .usual
    let headers := config.includeDirs.map headerFlag
    let target := targetFlag config.key.arch
    ∃ table, IsTableOf table config.defines ∧
      arguments
          = leading ++ "--" :: (headers ++ table.map defineFlag ++ target :: compatibilityFlags) ∧
        arguments.count "--" = 1 ∧ arguments.filter (starts "-I") = headers ∧
          arguments.filter (starts "-D") = table.map defineFlag ∧
            arguments.filter (starts "--target=") = [target] ∧
              ∀ others, others.Perm config.defines → (config.defines.map Prod.fst).Nodup →
                flags { config with defines := others } .usual = arguments :=
  ⟨sortedDefines config.defines, isTableOf_sortedDefines config.defines, flags_usual config,
    count_separator config, filter_flags config .header, filter_flags config .define,
    filter_flags config .target, fun _ perm nodup => flags_of_perm perm nodup⟩

/-- Definitions whose flags look like other arguments, in both orders. -/
theorem flags_groups_misleading_names :
    let config : BuildConfig :=
      { key := ⟨⟨[10, 0]⟩, .wdm, .x64⟩
        kitRoot := Path.ofText "/kit"
        includeDirs := ["--", "-D"].map Path.ofText
        libDirs := []
        defines := [("-I", some "--"), ("--target=", none)]
        linkLibs := []
        rerunPaths := [] }
    let others : List Define := [("--target=", none), ("-I", some "--")]
    others.Perm config.defines ∧ (config.defines.map Prod.fst).Nodup ∧
      flags { config with defines := others } .usual = flags config .usual := by
  intro config others
  have perm : others.Perm config.defines := List.Perm.swap _ _ []
  have nodup : (config.defines.map Prod.fst).Nodup := by decide
  obtain ⟨_, _, _, _, _, _, _, unchanged⟩ := flags_groups config
  exact ⟨perm, nodup, unchanged others perm nodup⟩

end DriverKit.Bindings
