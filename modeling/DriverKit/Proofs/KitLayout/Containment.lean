import DriverKit.KitLayout
import DriverKit.Proofs.Outcome
import DriverKit.Proofs.Path

/-!
# Directories stay below the root

Whatever its template is filled in to, a tier leads to a path that starts with all steps of the root
of the kit. The text is joined to the root piece by piece between its slashes; no piece begins with
a slash, so none leaves behind what was joined before it, and a text that looks as if it began at
the root of the disk does not. A path goes up again only where a piece itself is two dots.
-/

namespace DriverKit

open DriverKit.Text

namespace Path

/-! ## Joining piece by piece -/

/-- What pieces lead to from a directory when they are joined to it one after another. -/
def joinAll (directory : Path) (parts : List (List Char)) : Path :=
  parts.foldl (fun reached part => reached.join (ofText (String.ofList part))) directory

theorem extend_nil (directory : Path) : directory.extend [] = directory := by
  cases directory
  simp [extend, stepsOf, pieces, isStep]

theorem extend_append_slash (directory : Path) (front rest : List Char) :
    directory.extend (front ++ '/' :: rest) = (directory.extend front).extend rest := by
  simp [extend, stepsOf_append_slash]

/-- A piece without a slash starts at no root, so it leads on from the directory. -/
theorem join_ofText_of_not_mem (directory : Path) {part : List Char} (noSlash : '/' ∉ part) :
    directory.join (ofText (String.ofList part)) = directory.extend part := by
  have here : anchorOf part = .here := by
    apply (anchorOf_of_not_slash _).1
    intro rest same
    apply noSlash
    rw [same]
    exact List.mem_cons_self
  simp [join, extend, ofText, here]

theorem extend_intercalate :
    ∀ {parts : List (List Char)} (directory : Path), (∀ part ∈ parts, '/' ∉ part) →
      directory.extend (['/'].intercalate parts) = directory.joinAll parts
  | [], directory, _ => extend_nil directory
  | [part], directory, noSlash => by
      rw [List.intercalate_singleton]
      exact (join_ofText_of_not_mem directory (noSlash part List.mem_cons_self)).symm
  | part :: next :: rest, directory, noSlash => by
      rw [List.forall_mem_cons] at noSlash
      have first := join_ofText_of_not_mem directory noSlash.1
      have later := extend_intercalate (directory.extend part) noSlash.2
      rw [List.intercalate_cons_cons, List.append_assoc, List.singleton_append,
        extend_append_slash, later, ← first]
      rfl

theorem extend_eq_joinAll (directory : Path) (characters : List Char) :
    directory.extend characters = directory.joinAll (pieces '/' characters) := by
  rw [← extend_intercalate directory (mark_not_mem_pieces '/' characters), intercalate_pieces]

/-! ## Paths below a directory -/

/-- A path is what a text leads to from a root: it starts where the root does and with all its
steps, and leads up after these only if a piece of the text does. -/
structure IsNamedBelow (path root : Path) (characters : List Char) : Prop where
  joined : path = root.joinAll (pieces '/' characters)
  anchor : path.anchor = root.anchor
  leading : root.steps <+: path.steps
  stays : ['.', '.'] ∉ pieces '/' characters → ".." ∉ path.steps.drop root.steps.length

theorem isNamedBelow_extend (root : Path) (characters : List Char) :
    (root.extend characters).IsNamedBelow root characters := by
  have steps : (root.extend characters).steps = root.steps ++ stepsOf characters := rfl
  constructor
  · exact extend_eq_joinAll root characters
  · rfl
  · rw [steps]
    exact List.prefix_append _ _
  · intro noReturn member
    rw [steps, List.drop_left] at member
    obtain ⟨part, kept, spelled⟩ := List.mem_map.mp member
    have isReturn : part = ['.', '.'] := by
      have same := congrArg String.toList spelled
      rwa [String.toList_ofList] at same
    apply noReturn
    rw [← isReturn]
    exact (List.mem_filter.mp kept).1

end Path

namespace KitLayout

/-! ## Directories of tiers -/

/-- A tier leads to a directory that the text of its template names below a root. -/
def LeadsBelow (host : Template.Parts) (root : Path) (bindings : Template.Bindings) (tier : Tier)
    (dir : Path) : Prop :=
  ∃ text, Template.expand host bindings tier.template = .ok text ∧
    dir.IsNamedBelow root text.toList

theorem leadsBelow_of_expand {host : Template.Parts} {tier : Tier} {root dir : Path}
    {version : KitVersion} {driver : DriverConfig} {arch : Option Arch}
    (expanded : tier.expand host root version driver arch = .ok dir) :
    LeadsBelow host root (Tier.bindings version driver arch) tier dir := by
  obtain ⟨text, filled, made⟩ := bind_eq_ok_iff.mp expanded
  cases made
  exact ⟨text, filled, Path.isNamedBelow_extend root text.toList⟩

theorem forall₂_leadsBelow {host : Template.Parts} {tiers : List Tier} {root : Path}
    {version : KitVersion} {driver : DriverConfig} {arch : Option Arch} {dirs : List Path}
    (made : tiers.mapM (·.expand host root version driver arch) = .ok dirs) :
    List.Forall₂ (LeadsBelow host root (Tier.bindings version driver arch)) tiers dirs := by
  apply (mapM_eq_ok_iff.mp made).imp
  intro tier dir expanded
  exact leadsBelow_of_expand expanded

/-- The directories of headers and of libraries lie below the root of the kit, each as the template
of its own tier says. -/
theorem dirs_below_root (layout : KitLayout) (root : Path) (version : KitVersion)
    (driver : DriverConfig) (arch : Arch) :
    (∀ dirs, layout.includeDirs root version driver = .ok dirs →
        List.Forall₂ (LeadsBelow layout.parts root (Tier.bindings version driver none))
          (layout.includeTiers driver.driverClass) dirs) ∧
      ∀ dirs, layout.libDirs root version driver arch = .ok dirs →
        List.Forall₂ (LeadsBelow layout.parts root (Tier.bindings version driver (some arch)))
          (layout.libTiers driver.driverClass) dirs := by
  constructor
  · intro dirs made
    exact forall₂_leadsBelow made
  · intro dirs made
    exact forall₂_leadsBelow made

/-- A template with slashes all over, and one that leads up, below a root that leads up itself. -/
theorem dirs_below_root_slashes :
    let layout : KitLayout :=
      ⟨fun _ => [.named "slashes" "//Include/\x7bversion\x7d/./km/"],
        fun _ => [.named "above" "../\x7barch\x7d"], .fewest⟩
    let root := Path.ofText "//share/../kit"
    let header := Path.ofText "//share/../kit/Include/10.0/km"
    let library := Path.ofText "//share/../kit/../x64"
    layout.includeDirs root ⟨[10, 0]⟩ .wdm = .ok [header] ∧
      header.IsNamedBelow root "//Include/10.0/./km/".toList ∧
        ".." ∉ header.steps.drop root.steps.length ∧
          layout.libDirs root ⟨[10, 0]⟩ .wdm .x64 = .ok [library] ∧
            library.IsNamedBelow root "../x64".toList := by
  intro layout root header library
  have headersMade : layout.includeDirs root ⟨[10, 0]⟩ .wdm = .ok [header] := rfl
  have librariesMade : layout.libDirs root ⟨[10, 0]⟩ .wdm .x64 = .ok [library] := rfl
  obtain ⟨headers, libraries⟩ := dirs_below_root layout root ⟨[10, 0]⟩ .wdm .x64
  obtain ⟨⟨text, filled, headerBelow⟩, _⟩ := List.forall₂_cons.mp (headers _ headersMade)
  have isText : text = "//Include/10.0/./km/" := Except.ok.inj (filled.symm.trans rfl)
  rw [isText] at headerBelow
  obtain ⟨⟨other, otherFilled, libraryBelow⟩, _⟩ :=
    List.forall₂_cons.mp (libraries _ librariesMade)
  have isOther : other = "../x64" := Except.ok.inj (otherFilled.symm.trans rfl)
  rw [isOther] at libraryBelow
  exact ⟨headersMade, headerBelow, headerBelow.stays (by decide), librariesMade, libraryBelow⟩

end KitLayout

end DriverKit
