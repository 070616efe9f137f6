import DriverKit.Path
import DriverKit.Proofs.Text.Pieces
import Mathlib.Data.List.Induction

/-!
# Paths as text and paths within directories

A path that is written is read again as it was. A name that is a single step leads from a directory
to a path with one step more, and the directory is the parent of that path.
-/

namespace DriverKit.Path

open DriverKit.Text

theorem isStep_of_mem {path : Path} {step : String} (member : step ∈ path.steps) :
    isStep step.toList = true :=
  List.all_eq_true.mp path.steps_valid step member

theorem slash_not_mem_of_isStep {characters : List Char} (valid : isStep characters = true) :
    '/' ∉ characters := by
  simp only [isStep, Bool.and_eq_true, Bool.not_eq_true', List.contains_eq_mem,
    decide_eq_false_iff_not] at valid
  exact valid.2

theorem ne_nil_of_isStep {characters : List Char} (valid : isStep characters = true) :
    characters ≠ [] := by
  intro empty
  simp [empty, isStep] at valid

/-! ## Steps of joined steps -/

theorem stepsOf_append_slash (front rest : List Char) :
    stepsOf (front ++ '/' :: rest) = stepsOf front ++ stepsOf rest := by
  simp [stepsOf, pieces_append_cons_mark]

theorem stepsOf_slash_cons (characters : List Char) :
    stepsOf ('/' :: characters) = stepsOf characters :=
  stepsOf_append_slash [] characters

theorem mem_stepsOf {characters : List Char} {step : String}
    (noSlash : '/' ∉ characters) (member : step ∈ stepsOf characters) :
    step = String.ofList characters := by
  rw [stepsOf, pieces_of_not_mem noSlash] at member
  obtain ⟨run, kept, rfl⟩ := List.mem_map.mp member
  rw [List.mem_singleton.mp (List.mem_filter.mp kept).1]

theorem stepsOf_of_isStep {step : String} (valid : isStep step.toList = true) :
    stepsOf step.toList = [step] := by
  rw [stepsOf, pieces_of_not_mem (slash_not_mem_of_isStep valid)]
  simp [valid]

/-- What is joined by slashes comes apart into the steps of the parts, one part after another. -/
theorem stepsOf_intercalate_eq_flatMap :
    ∀ parts : List (List Char), stepsOf (['/'].intercalate parts) = parts.flatMap stepsOf
  | [] => rfl
  | [part] => by simp
  | part :: next :: rest => by
      have later := stepsOf_intercalate_eq_flatMap (next :: rest)
      rw [List.intercalate_cons_cons, List.append_assoc, List.singleton_append,
        stepsOf_append_slash, later]
      rfl

theorem flatMap_stepsOf {steps : List String}
    (valid : ∀ step ∈ steps, isStep step.toList = true) :
    (steps.flatMap fun step => stepsOf step.toList) = steps := by
  have single : steps.map (fun step => stepsOf step.toList) = steps.map fun step => [step] :=
    List.map_congr_left fun step member => stepsOf_of_isStep (valid step member)
  rw [List.flatMap_def, single, ← List.flatMap_def, List.flatMap_singleton']

theorem stepsOf_intercalate {steps : List String}
    (valid : ∀ step ∈ steps, isStep step.toList = true) :
    stepsOf (['/'].intercalate (steps.map String.toList)) = steps := by
  rw [stepsOf_intercalate_eq_flatMap, List.flatMap_map, flatMap_stepsOf valid]

/-- Joined steps do not begin with a slash. -/
theorem intercalate_ne_slash_cons {steps : List String}
    (valid : ∀ step ∈ steps, isStep step.toList = true) (rest : List Char) :
    ['/'].intercalate (steps.map String.toList) ≠ '/' :: rest := by
  cases steps with
  | nil => simp
  | cons first others =>
      have firstValid := valid first List.mem_cons_self
      intro same
      cases spelled : first.toList with
      | nil => exact ne_nil_of_isStep firstValid spelled
      | cons c later =>
          have notSlash : c ≠ '/' := by
            intro isSlash
            apply slash_not_mem_of_isStep firstValid
            rw [spelled, isSlash]
            exact List.mem_cons_self
          cases others with
          | nil => simp [spelled, notSlash] at same
          | cons second more => simp [spelled, notSlash] at same

/-- Where a run starts that does not begin with a slash, and with slashes put before it. -/
theorem anchorOf_of_not_slash {characters : List Char}
    (noSlash : ∀ rest, characters ≠ '/' :: rest) :
    anchorOf characters = .here ∧ anchorOf ('/' :: characters) = .root ∧
      anchorOf ('/' :: '/' :: characters) = .doubleRoot := by
  cases characters with
  | nil => exact ⟨rfl, rfl, rfl⟩
  | cons c rest =>
      have notSlash : c ≠ '/' := fun isSlash => noSlash rest (by rw [isSlash])
      simp [anchorOf, notSlash]

/-- A path that is written is read again as it was. -/
theorem ofText_text (path : Path) : ofText path.text = path := by
  have valid : ∀ step ∈ path.steps, isStep step.toList = true := fun _ member =>
    isStep_of_mem member
  have anchors := anchorOf_of_not_slash (intercalate_ne_slash_cons valid)
  have steps := stepsOf_intercalate valid
  have dot : ofText "." = current := by decide
  cases path with
  | mk anchor pathSteps pathValid =>
      simp only at anchors steps
      cases anchor with
      | here =>
          cases pathSteps with
          | nil => exact dot
          | cons first rest =>
              rw [List.map_cons] at anchors steps
              simp [ofText, text, Anchor.text, anchors, steps]
      | root =>
          simp [ofText, text, Anchor.text, anchors, stepsOf_slash_cons, steps]
      | doubleRoot =>
          simp [ofText, text, Anchor.text, anchors, stepsOf_slash_cons, steps]

/-! ## Paths within a directory -/

theorem ofText_of_isStep {name : String} (valid : isStep name.toList = true) :
    ofText name = ⟨.here, [name], by simp [valid]⟩ := by
  have noSlash : ∀ rest, name.toList ≠ '/' :: rest := by
    intro rest same
    apply slash_not_mem_of_isStep valid
    rw [same]
    exact List.mem_cons_self
  simp [ofText, (anchorOf_of_not_slash noSlash).1, stepsOf_of_isStep valid]

theorem anchor_child {directory : Path} {name : String} (valid : isStep name.toList = true) :
    (directory.child name).anchor = directory.anchor := by
  simp [child, join, ofText_of_isStep valid]

theorem steps_child {directory : Path} {name : String} (valid : isStep name.toList = true) :
    (directory.child name).steps = directory.steps ++ [name] := by
  simp [child, join, ofText_of_isStep valid]

theorem child_inj {directory : Path} {name other : String} (valid : isStep name.toList = true)
    (otherValid : isStep other.toList = true) :
    directory.child name = directory.child other ↔ name = other := by
  constructor
  · intro same
    have steps := congrArg Path.steps same
    rw [steps_child valid, steps_child otherValid] at steps
    simpa using steps
  · exact congrArg directory.child

theorem parent_child {directory : Path} {name : String} (valid : isStep name.toList = true) :
    (directory.child name).parent = directory := by
  cases directory
  simp [parent, anchor_child valid, steps_child valid]

theorem isNameable_parent {path : Path} (nameable : path.isNameable = true) :
    path.parent.isNameable = true := by
  rw [isNameable, List.all_eq_true] at nameable ⊢
  exact fun step member => nameable step (List.dropLast_subset _ member)

theorem isNameable_child {directory : Path} {name : String} (valid : isStep name.toList = true)
    (nameable : name.toList.contains '\x00' = false) :
    (directory.child name).isNameable = directory.isNameable := by
  simp only [isNameable, steps_child valid, List.all_append, List.all_cons, List.all_nil, nameable]
  simp

/-! ## Lengths -/

/-- The bytes of steps with a slash after each of them. -/
def bytesOf : List String → Nat
  | [] => 0
  | step :: rest => step.utf8ByteSize + 1 + bytesOf rest

theorem bytesOf_append :
    ∀ front rest : List String, bytesOf (front ++ rest) = bytesOf front + bytesOf rest
  | [], rest => by simp [bytesOf]
  | step :: front, rest => by
      rw [List.cons_append, bytesOf, bytesOf, bytesOf_append front rest]
      omega

theorem utf8ByteSize_intercalate_slash :
    ∀ {steps : List String}, steps ≠ [] →
      ("/".intercalate steps).utf8ByteSize + 1 = bytesOf steps
  | [step], _ => by simp [bytesOf]
  | step :: next :: rest, _ => by
      have later := utf8ByteSize_intercalate_slash (List.cons_ne_nil next rest)
      have slash : "/".utf8ByteSize = 1 := rfl
      rw [String.intercalate_cons_cons, String.utf8ByteSize_append, String.utf8ByteSize_append,
        bytesOf, ← later]
      omega

/-- The bytes of a path with steps: there is a slash between two of them. -/
theorem utf8ByteSize_text {path : Path} (nonempty : path.steps ≠ []) :
    path.text.utf8ByteSize + 1 = (Anchor.text path.anchor).utf8ByteSize + bytesOf path.steps := by
  have written : path.text = Anchor.text path.anchor ++ "/".intercalate path.steps := by
    simp [text, nonempty]
  rw [written, String.utf8ByteSize_append, Nat.add_assoc, utf8ByteSize_intercalate_slash nonempty]

/-- The bytes of a path within a directory: there is a slash after each step before its name. -/
theorem utf8ByteSize_text_child (directory : Path) {name : String}
    (valid : isStep name.toList = true) :
    (directory.child name).text.utf8ByteSize
      = (Anchor.text directory.anchor).utf8ByteSize + bytesOf directory.steps
        + name.utf8ByteSize := by
  have childSteps : (directory.child name).steps = directory.steps ++ [name] := steps_child valid
  have nonempty : (directory.child name).steps ≠ [] := by simp [childSteps]
  have size := utf8ByteSize_text nonempty
  rw [anchor_child valid, childSteps, bytesOf_append, bytesOf, bytesOf] at size
  omega

theorem utf8ByteSize_text_le_child {directory : Path} {name : String}
    (valid : isStep name.toList = true) :
    directory.text.utf8ByteSize ≤ (directory.child name).text.utf8ByteSize := by
  have nameNonempty : name.utf8ByteSize ≠ 0 := by
    rw [Ne, String.utf8ByteSize_eq_zero_iff]
    rintro rfl
    exact ne_nil_of_isStep valid rfl
  rw [utf8ByteSize_text_child directory valid]
  by_cases empty : directory.steps = []
  · have size : directory.text.utf8ByteSize ≤ (Anchor.text directory.anchor).utf8ByteSize + 1 := by
      rw [text, empty]
      cases directory.anchor <;> decide
    omega
  · have size := utf8ByteSize_text empty
    omega

theorem utf8ByteSize_text_parent_le (path : Path) :
    path.parent.text.utf8ByteSize ≤ path.text.utf8ByteSize := by
  obtain ⟨anchor, steps, valid⟩ := path
  cases steps using List.reverseRecOn with
  | nil => exact Nat.le_refl _
  | append_singleton front last =>
      have parts := valid
      rw [List.all_append, Bool.and_eq_true] at parts
      have lastValid : isStep last.toList = true := by simpa using parts.2
      let directory : Path := ⟨anchor, front, parts.1⟩
      have whole : (⟨anchor, front ++ [last], valid⟩ : Path) = directory.child last := by
        simp [directory, child, join, ofText_of_isStep lastValid]
      rw [whole, parent_child lastValid]
      exact utf8ByteSize_text_le_child lastValid

end DriverKit.Path
