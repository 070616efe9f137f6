import DriverKit.KitLayout
import DriverKit.Proofs.Outcome
import Mathlib.Data.List.TakeDrop

/-!
# Filling in templates

A template is filled in from left to right: a plain character stands for itself, two braces of one
kind for one of them, and a name in braces for its value. So a template of characters and of the
documented placeholders can always be filled in; and a template that can be filled in breaks no
rule of the grammar and names nothing but these placeholders.
-/

namespace DriverKit.Template

/-! ## Fuel -/

theorem length_lt_of_scanName :
    ∀ {characters : List Char} {inBrackets : Bool} {name rest : List Char} {ending : Terminator},
      scanName inBrackets characters = some (name, ending, rest) →
        rest.length < characters.length
  | [], _, _, _, _, scanned => by cases scanned
  | c :: others, inBrackets, name, rest, ending, scanned => by
      have kept : ∀ {brackets : Bool},
          (scanName brackets others).map (fun found => (c :: found.1, found.2))
              = some (name, ending, rest) →
            rest.length < (c :: others).length := by
        intro brackets found
        obtain ⟨⟨inner, last, after⟩, later, same⟩ := Option.map_eq_some_iff.mp found
        cases same
        exact Nat.lt_succ_of_lt (length_lt_of_scanName later)
      unfold scanName at scanned
      simp only at scanned
      split at scanned
      · exact kept scanned
      split at scanned
      · cases scanned
      split at scanned
      · cases scanned
        exact Nat.lt_succ_self _
      split at scanned
      · cases scanned
        exact Nat.lt_succ_self _
      split at scanned
      · cases scanned
        exact Nat.lt_succ_self _
      · exact kept scanned

theorem length_lt_of_scanLayout :
    ∀ {characters : List Char} {depth : Nat} {layout rest : List Char},
      scanLayout depth characters = some (layout, rest) → rest.length < characters.length
  | [], _, _, _, scanned => by cases scanned
  | c :: others, depth, layout, rest, scanned => by
      have kept : ∀ {depth : Nat},
          (scanLayout depth others).map (fun found => (c :: found.1, found.2))
              = some (layout, rest) →
            rest.length < (c :: others).length := by
        intro depth found
        obtain ⟨⟨inner, after⟩, later, same⟩ := Option.map_eq_some_iff.mp found
        cases same
        exact Nat.lt_succ_of_lt (length_lt_of_scanLayout later)
      unfold scanLayout at scanned
      simp only at scanned
      split at scanned
      · exact kept scanned
      split at scanned
      · split at scanned
        · cases scanned
          exact Nat.lt_succ_self _
        · exact kept scanned
      · exact kept scanned

theorem length_lt_of_scanField {characters rest : List Char} {piece : Piece}
    (scanned : scanField characters = some (piece, rest)) : rest.length < characters.length := by
  obtain ⟨⟨name, ending, after⟩, named, scanned⟩ := Option.bind_eq_some_iff.mp scanned
  have shorter := length_lt_of_scanName named
  have layout : ∀ (build : List Char → Piece) {others : List Char},
      others.length ≤ after.length →
        ((scanLayout 0 others).bind fun found => some (build found.1, found.2))
            = some (piece, rest) →
          rest.length < characters.length := by
    intro build others bound found
    obtain ⟨⟨inner, last⟩, laid, same⟩ := Option.bind_eq_some_iff.mp found
    cases same
    have further : last.length < others.length := length_lt_of_scanLayout laid
    show last.length < characters.length
    omega
  cases ending with
  | close =>
      cases scanned
      exact shorter
  | colon => exact layout (.field name none) (Nat.le_refl _) scanned
  | exclamation =>
      cases after with
      | nil => cases scanned
      | cons conversion others =>
          simp only at scanned
          split at scanned
          · cases scanned
            simp only [List.length_cons] at shorter
            omega
          · refine layout (.field name (some conversion)) ?_ scanned
            simp only [List.length_cons]
            omega
          · cases scanned

/-- More fuel than characters is enough. -/
theorem piecesWithin_congr :
    ∀ {fuel other : Nat} {template : List Char}, template.length < fuel →
      template.length < other → piecesWithin fuel template = piecesWithin other template
  | fuel + 1, other + 1, [], _, _ => rfl
  | fuel + 1, other + 1, first :: rest, enough, otherEnough => by
      simp only [List.length_cons] at enough otherEnough
      have later : ∀ {others : List Char}, others.length ≤ rest.length →
          piecesWithin fuel others = piecesWithin other others := fun shorter =>
        piecesWithin_congr (by omega) (by omega)
      unfold piecesWithin
      by_cases plain : (!isBrace first) = true
      · have shorter : ((first :: rest).span (!isBrace ·)).2.length ≤ rest.length := by
          rw [List.span_eq_takeWhile_dropWhile, List.dropWhile_cons, if_pos plain]
          exact (List.dropWhile_sublist _).length_le
        simp only [if_pos plain, later shorter]
      · simp only [if_neg plain]
        cases rest with
        | nil => rfl
        | cons second others =>
            simp only
            split
            · rw [later (Nat.le_succ _)]
            split
            · rfl
            cases scanned : scanField (second :: others) with
            | none => rfl
            | some found =>
                obtain ⟨piece, after⟩ := found
                simp only [later (Nat.le_of_lt (length_lt_of_scanField scanned))]

theorem piecesWithin_eq {fuel : Nat} {template : List Char} (enough : template.length < fuel) :
    piecesWithin fuel template = pieces template :=
  piecesWithin_congr enough (Nat.lt_succ_self _)

/-! ## Filling in from left to right -/

/-- What a piece is filled in to; the layout of a field is filled in as deeply as is said. -/
def fillPiece (host : Parts) (bindings : Bindings) (depth : Nat) :
    Piece → Except Misuse (List Char)
  | .literal characters => .ok characters
  | .broken => .error .malformedTemplate
  | .field name conversion layout => do
      let value ← (← resolve host bindings name).convert host conversion
      let layout ←
        if layout.contains '\x7b' then expandWithin host bindings depth layout else .ok layout
      value.lay host layout

theorem expandWithin_succ (host : Parts) (bindings : Bindings) (depth : Nat)
    (template : List Char) :
    expandWithin host bindings (depth + 1) template
      = List.flatten <$> (pieces template).mapM (fillPiece host bindings depth) := by
  unfold expandWithin
  congr 1

section

variable (host : Parts) (bindings : Bindings) (depth : Nat)

/-- The first piece of a template is filled in before the others. -/
theorem expandWithin_of_pieces {template rest : List Char} {piece : Piece}
    (split : pieces template = piece :: pieces rest) :
    expandWithin host bindings (depth + 1) template
      = fillPiece host bindings depth piece >>= fun filled =>
          (filled ++ ·) <$> expandWithin host bindings (depth + 1) rest := by
  rw [expandWithin_succ, split, List.mapM_cons, expandWithin_succ]
  cases fillPiece host bindings depth piece with
  | error failure => rfl
  | ok filled =>
      cases (pieces rest).mapM (fillPiece host bindings depth) with
      | error failure => rfl
      | ok others => rfl

/-- A plain character stands for itself. -/
theorem expandWithin_plain {c : Char} (plain : isBrace c = false) (rest : List Char) :
    expandWithin host bindings (depth + 1) (c :: rest)
      = (c :: ·) <$> expandWithin host bindings (depth + 1) rest := by
  have spanned : ∀ {template : List Char} {d : Char}, isBrace d = false →
      pieces (d :: template)
        = .literal (d :: template.takeWhile (!isBrace ·))
            :: pieces (template.dropWhile (!isBrace ·)) := by
    intro template d plain
    have shorter := (List.dropWhile_sublist (l := template) (!isBrace ·)).length_le
    have taken : (d :: template).span (!isBrace ·)
        = (d :: template.takeWhile (!isBrace ·), template.dropWhile (!isBrace ·)) := by
      simp [List.span_eq_takeWhile_dropWhile, plain]
    rw [pieces, List.length_cons]
    unfold piecesWithin
    simp only [plain, Bool.not_false, if_true, taken]
    rw [piecesWithin_eq (by omega)]
  rw [expandWithin_of_pieces host bindings depth (spanned plain)]
  cases rest with
  | nil => rfl
  | cons d others =>
      cases brace : isBrace d with
      | true =>
          rw [List.takeWhile_cons_of_neg (by simp [brace]),
            List.dropWhile_cons_of_neg (by simp [brace])]
          rfl
      | false =>
          rw [List.takeWhile_cons_of_pos (by simp [brace]),
            List.dropWhile_cons_of_pos (by simp [brace]),
            expandWithin_of_pieces host bindings depth (spanned brace)]
          simp only [fillPiece, ok_bind]
          rw [← comp_map]
          rfl

/-- Two braces of one kind stand for one of them. -/
theorem expandWithin_doubled {c : Char} (brace : isBrace c = true) (rest : List Char) :
    expandWithin host bindings (depth + 1) (c :: c :: rest)
      = (c :: ·) <$> expandWithin host bindings (depth + 1) rest := by
  have split : pieces (c :: c :: rest) = .literal [c] :: pieces rest := by
    rw [pieces, List.length_cons, List.length_cons]
    unfold piecesWithin
    simp only [brace, Bool.not_true, Bool.false_eq_true, if_false, beq_self_eq_true, if_true]
    rw [piecesWithin_eq (by omega)]
  rw [expandWithin_of_pieces host bindings depth split]
  rfl

end

/-- The characters that end a name or open brackets in it. -/
def nameMarks : List Char := ['\x7b', '\x7d', ':', '!', '[']

def IsPlainName (name : List Char) : Prop := ∀ c ∈ name, c ∉ nameMarks

theorem scanName_plain :
    ∀ {name : List Char}, IsPlainName name → ∀ rest : List Char,
      scanName false (name ++ '\x7d' :: rest) = some (name, .close, rest)
  | [], _, _ => rfl
  | c :: others, plain, rest => by
      obtain ⟨isPlain, othersPlain⟩ := List.forall_mem_cons.mp plain
      simp only [nameMarks, List.mem_cons, List.not_mem_nil, or_false, not_or] at isPlain
      obtain ⟨notOpen, notClose, notColon, notExclamation, notBracket⟩ := isPlain
      rw [List.cons_append, scanName]
      simp [notOpen, notClose, notColon, notExclamation, beq_eq_false_iff_ne.mpr notBracket,
        scanName_plain othersPlain rest]

/-- A name in braces stands for its value. -/
theorem expandWithin_field (host : Parts) (bindings : Bindings) (depth : Nat)
    {name : List Char} (plain : IsPlainName name) (rest : List Char) :
    expandWithin host bindings (depth + 1) ('\x7b' :: (name ++ '\x7d' :: rest))
      = fillPiece host bindings depth (.field name none []) >>= fun filled =>
          (filled ++ ·) <$> expandWithin host bindings (depth + 1) rest := by
  apply expandWithin_of_pieces
  have scanned : scanField (name ++ '\x7d' :: rest) = some (.field name none [], rest) := by
    rw [scanField, scanName_plain plain]
    rfl
  rw [pieces, List.length_cons]
  unfold piecesWithin
  rw [if_neg (by decide)]
  cases shape : name ++ '\x7d' :: rest with
  | nil => cases name <;> cases shape
  | cons second others =>
      have different : ('\x7b' == second) = false := by
        rw [beq_eq_false_iff_ne]
        rintro rfl
        cases name with
        | nil => cases shape
        | cons c letters =>
            cases shape
            exact plain '\x7b' List.mem_cons_self (by decide)
      rw [shape] at scanned
      simp only [different, Bool.false_eq_true, if_false, scanned]
      have shorter := length_lt_of_scanField scanned
      rw [if_neg (by decide), piecesWithin_eq (by omega)]

/-! ## Documented templates -/

/-- What a template can stand for, by its documentation. -/
inductive Placeholder where
  | version
  | major
  | minor
  | arch
deriving DecidableEq, Repr

namespace Placeholder

def all : List Placeholder := [version, major, minor, arch]

def name : Placeholder → String
  | version => "version"
  | major => "major"
  | minor => "minor"
  | arch => "arch"

/-- The text that takes the place of a placeholder. The bare kernel model has no framework numbers,
and header directories have no architecture. -/
def text (kit : KitVersion) (driver : DriverConfig) (machine : Option Arch) : Placeholder → String
  | version => kit.text
  | major => (driver.framework?.map fun number => Text.writeInteger number.major).getD ""
  | minor => (driver.framework?.map fun number => Text.writeInteger number.minor).getD ""
  | arch => (machine.map Arch.name).getD ""

theorem isPlainName (placeholder : Placeholder) : IsPlainName placeholder.name.toList := by
  have checked : (placeholder.name.toList.all fun c => !nameMarks.contains c) = true := by
    cases placeholder <;> decide
  intro c member
  have plain := List.all_eq_true.mp checked c member
  rwa [Bool.not_eq_true', ← Bool.not_eq_true, List.contains_iff_mem] at plain

theorem fillPiece_eq (host : Parts) (kit : KitVersion) (driver : DriverConfig)
    (machine : Option Arch) (depth : Nat) (placeholder : Placeholder) :
    fillPiece host (Tier.bindings kit driver machine) depth
        (.field placeholder.name.toList none [])
      = .ok (placeholder.text kit driver machine).toList := by
  cases placeholder with
  | version => rfl
  | arch => rfl
  | major => cases driver <;> rfl
  | minor => cases driver <;> rfl

end Placeholder

/-- A part of a documented template: a character or a placeholder. -/
inductive Mark where
  | character (c : Char)
  | placeholder (placeholder : Placeholder)
deriving DecidableEq, Repr

namespace Mark

/-- How a mark is written in a template. -/
def written : Mark → List Char
  | character c => if isBrace c then [c, c] else [c]
  | placeholder name => '\x7b' :: (name.name.toList ++ ['\x7d'])

/-- What a mark is filled in to. -/
def filled (kit : KitVersion) (driver : DriverConfig) (machine : Option Arch) : Mark → List Char
  | character c => [c]
  | placeholder name => (name.text kit driver machine).toList

end Mark

/-- A template is made of characters and placeholders. -/
def IsDocumented (template : String) : Prop :=
  ∃ marks : List Mark, template.toList = marks.flatMap Mark.written

/-- A template of characters and placeholders is filled in mark by mark. -/
theorem expandWithin_written (host : Parts) (kit : KitVersion) (driver : DriverConfig)
    (machine : Option Arch) (depth : Nat) (marks : List Mark) :
    expandWithin host (Tier.bindings kit driver machine) (depth + 1) (marks.flatMap Mark.written)
      = .ok (marks.flatMap (Mark.filled kit driver machine)) := by
  induction marks with
  | nil => rfl
  | cons mark rest inductionHypothesis =>
      rw [List.flatMap_cons, List.flatMap_cons]
      cases mark with
      | character c =>
          cases brace : isBrace c with
          | true =>
              rw [Mark.written, if_pos brace, List.cons_append, List.cons_append, List.nil_append,
                expandWithin_doubled _ _ _ brace, inductionHypothesis]
              rfl
          | false =>
              rw [Mark.written, if_neg (Bool.eq_false_iff.mp brace), List.cons_append,
                List.nil_append, expandWithin_plain _ _ _ brace, inductionHypothesis]
              rfl
      | placeholder name =>
          have split : (Mark.placeholder name).written ++ rest.flatMap Mark.written
              = '\x7b' :: (name.name.toList ++ '\x7d' :: rest.flatMap Mark.written) := by
            simp [Mark.written]
          rw [split, expandWithin_field _ _ _ name.isPlainName, name.fillPiece_eq, ok_bind,
            inductionHypothesis]
          rfl

theorem exists_expand_of_isDocumented (host : Parts) (kit : KitVersion) (driver : DriverConfig)
    (machine : Option Arch) {template : String} (documented : IsDocumented template) :
    ∃ text, expand host (Tier.bindings kit driver machine) template = .ok text := by
  obtain ⟨marks, written⟩ := documented
  refine ⟨String.ofList (marks.flatMap (Mark.filled kit driver machine)), ?_⟩
  rw [expand, written, expandWithin_written]
  rfl

/-! ## Templates that are never filled in -/

/-- A template breaks the grammar, or goes on from a name that is no placeholder. -/
def IsForeign (template : String) : Prop :=
  ∃ piece ∈ pieces template.toList,
    piece = .broken ∨
      ∃ name conversion layout, piece = .field name conversion layout ∧
        ∀ placeholder : Placeholder,
          (Reference.ofName name).first ≠ placeholder.name.toList

theorem lookup_bindings_of_ne (kit : KitVersion) (driver : DriverConfig) (machine : Option Arch)
    {key : String} (foreign : ∀ placeholder : Placeholder, key ≠ placeholder.name) :
    (Tier.bindings kit driver machine).lookup key = none := by
  rw [List.lookup_eq_none_iff]
  intro entry member
  rw [bne_iff_ne]
  simp only [Tier.bindings, List.mem_cons, List.not_mem_nil, or_false] at member
  rcases member with rfl | rfl | rfl | rfl
  · exact foreign .version
  · exact foreign .major
  · exact foreign .minor
  · exact foreign .arch

theorem expand_ne_ok_of_isForeign (host : Parts) (kit : KitVersion) (driver : DriverConfig)
    (machine : Option Arch) {template text : String} (foreign : IsForeign template) :
    expand host (Tier.bindings kit driver machine) template ≠ .ok text := by
  intro filled
  obtain ⟨characters, mapped, _⟩ := bind_eq_ok_iff.mp filled
  have expanded := mapError_eq_ok_iff.mp mapped
  rw [expandWithin_succ] at expanded
  obtain ⟨parts, made, _⟩ := map_eq_ok_iff.mp expanded
  obtain ⟨piece, member, isForeign⟩ := foreign
  obtain ⟨part, _, isFilled⟩ := exists_of_forall₂ (mapM_eq_ok_iff.mp made).flip member
  rcases isForeign with rfl | ⟨name, conversion, layout, rfl, unnamed⟩
  · cases isFilled
  · obtain ⟨_, resolved, _⟩ := bind_eq_ok_iff.mp isFilled
    have foreignKey : ∀ placeholder : Placeholder,
        String.ofList (Reference.ofName name).first ≠ placeholder.name := fun placeholder same =>
      unnamed placeholder (by rw [← same, String.toList_ofList])
    have unknown := lookup_bindings_of_ne kit driver machine foreignKey
    unfold resolve at resolved
    simp only [unknown] at resolved
    split at resolved
    · cases resolved
    · cases resolved
    · split at resolved
      · cases resolved
      · cases resolved

end DriverKit.Template
