import DriverKit.Text.Encoding
import DriverKit.Yaml.Writing
import Mathlib.Tactic.SplitIfs

/-!
# The characters of written documents

Whatever texts an outline holds, its document consists of printable characters of seven bits and
line feeds. So nothing changes when the document is put into a file and read as text again.
-/

namespace DriverKit.Yaml

open Style (isWritten)

/-! ## Digits -/

theorem exists_of_mem_toDigits {base : Nat} (large : 1 < base) {c : Char} :
    ∀ {number : Nat}, c ∈ Nat.toDigits base number → ∃ digit, c = Nat.digitChar digit := by
  intro number
  induction number using Nat.strongRecOn with
  | ind number inductionHypothesis =>
      intro member
      rw [Nat.toDigits_eq_if large] at member
      split at member
      · exact ⟨number, List.mem_singleton.mp member⟩
      · rename_i notSmall
        rcases List.mem_append.mp member with inFirst | isLast
        · have smaller : number / base < number := Nat.div_lt_self (by omega) large
          exact inductionHypothesis (number / base) smaller inFirst
        · exact ⟨number % base, List.mem_singleton.mp isLast⟩

theorem isWritten_digitChar (digit : Nat) :
    isWritten (Nat.digitChar digit) = true ∧ isWritten (Nat.digitChar digit).toUpper = true := by
  by_cases small : digit < 16
  · have each :
        ∀ low < 16,
          isWritten (Nat.digitChar low) = true ∧ isWritten (Nat.digitChar low).toUpper = true := by
      decide
    exact each digit small
  · have star : Nat.digitChar digit = '*' := by
      unfold Nat.digitChar
      repeat rw [if_neg (by omega)]
    rw [star]
    decide

theorem all_isWritten_digitsIn {base : Nat} (large : 1 < base) (number : Nat) :
    (Text.digitsIn base number).all isWritten = true := by
  rw [List.all_eq_true]
  intro c member
  obtain ⟨digit, same⟩ := exists_of_mem_toDigits large member
  exact same ▸ (isWritten_digitChar digit).1

theorem all_isWritten_codeDigits (width code : Nat) :
    (codeDigits width code).all isWritten = true := by
  rw [List.all_eq_true]
  intro c member
  obtain ⟨lower, inHex, same⟩ := List.mem_map.mp member
  rcases List.mem_append.mp inHex with isZero | inDigits
  · rw [(List.mem_replicate.mp isZero).2] at same
    exact same ▸ rfl
  · obtain ⟨digit, isDigit⟩ := exists_of_mem_toDigits (by decide) inDigits
    rw [isDigit] at same
    exact same ▸ (isWritten_digitChar digit).2

/-! ## Texts -/

theorem all_isWritten_newLine (indent : Nat) : (newLine indent).all isWritten = true := by
  simp [newLine, isWritten]

theorem isWritten_escapeLetter {c letter : Char} (found : escapeLetter? c = some letter) :
    isWritten letter = true := by
  unfold escapeLetter? at found
  split at found
  all_goals
    cases found
  all_goals
    decide

theorem all_isWritten_escape {c : Char} {escape : List Char} (found : escape? c = some escape) :
    escape.all isWritten = true := by
  have marks :
      isWritten '\\' = true ∧ isWritten 'x' = true ∧ isWritten 'u' = true ∧
        isWritten 'U' = true := by
    decide
  unfold escape? at found
  split at found
  · rename_i letter letterFound
    rw [← Option.some.inj found]
    simp only [List.all_cons, List.all_nil, marks, isWritten_escapeLetter letterFound,
      Bool.and_self]
  · have escaped :
        ∀ (letter : Char) (width : Nat), isWritten letter = true →
          ('\\' :: letter :: codeDigits width (Text.codePoint c)).all isWritten = true := by
      intro letter width written
      rw [List.all_cons, List.all_cons, marks.1, written, all_isWritten_codeDigits]
      rfl
    simp only at found
    split at found
    · cases found
    · split at found
      · cases found
        exact escaped 'x' 2 marks.2.1
      · split at found
        · cases found
          exact escaped 'u' 4 marks.2.2.1
        · cases found
          exact escaped 'U' 8 marks.2.2.2

/-- A character without an escape is printable. -/
theorem isWritten_of_escape?_eq_none {c : Char} (absent : escape? c = none) :
    isWritten c = true := by
  unfold escape? at absent
  split at absent
  · cases absent
  · simp only at absent
    split_ifs at absent with printable
    have same : Text.codePoint c = c.toNat := by
      by_cases surrogate : Text.isSurrogate (c.toNat - Text.standInPlane) = true
      · rw [Text.codePoint, if_pos surrogate] at printable
        simp only [Text.isSurrogate, Bool.and_eq_true, decide_eq_true_eq] at surrogate printable
        omega
      · rw [Text.codePoint, if_neg surrogate]
    rw [same] at printable
    simpa [isWritten] using Or.inr printable

/-- A text between double marks is written with printable characters, whatever it holds. -/
theorem all_isWritten_writeEscaped {spot : Spot} :
    ∀ {characters : List Char} {first afterEscape : Bool} {column : Nat},
      (writeEscaped spot first afterEscape column characters).all isWritten = true
  | [], _, _, _ => rfl
  | c :: rest, first, afterEscape, column => by
      have folded : ∀ blank, (foldedLine spot.indent blank).all isWritten = true := by
        intro blank
        have backslash : isWritten '\\' = true := by decide
        cases blank <;>
          simp [foldedLine, List.all_append, all_isWritten_newLine, backslash]
      unfold writeEscaped
      simp only
      split
      · rename_i escape found
        have escaped := all_isWritten_escape found
        split
        · simp only [List.all_append, escaped, folded, all_isWritten_writeEscaped, Bool.and_self]
        · simp only [List.all_append, escaped, all_isWritten_writeEscaped, Bool.and_self]
      · rename_i absent
        have written := isWritten_of_escape?_eq_none absent
        split
        · simp only [List.all_append, List.all_cons, written, folded, all_isWritten_writeEscaped,
            Bool.and_self]
        · simp only [List.all_cons, written, all_isWritten_writeEscaped, Bool.and_self]

/-- The characters of the words among the parts of a text are printable. -/
def Run.IsWritten : Run → Prop
  | .blanks _ | .breaks _ => True
  | .word characters => characters.all isWritten = true

theorem isWritten_of_mem_add {c : Char} (written : isWritten c = true) {runs : List Run}
    (others : ∀ run ∈ runs, run.IsWritten) : ∀ run ∈ Run.add c runs, run.IsWritten := by
  unfold Run.add
  split
  · split
    · exact List.forall_mem_cons.mpr ⟨trivial, (List.forall_mem_cons.mp others).2⟩
    · exact List.forall_mem_cons.mpr ⟨trivial, others⟩
  · split
    · split
      · exact List.forall_mem_cons.mpr ⟨trivial, (List.forall_mem_cons.mp others).2⟩
      · exact List.forall_mem_cons.mpr ⟨trivial, others⟩
    · split
      · rename_i characters rest
        obtain ⟨first, later⟩ := List.forall_mem_cons.mp others
        refine List.forall_mem_cons.mpr ⟨?_, later⟩
        simp only [Run.IsWritten, List.all_cons, written, Bool.true_and]
        exact first
      · refine List.forall_mem_cons.mpr ⟨?_, others⟩
        simp [Run.IsWritten, written]

theorem isWritten_of_mem_runsOf {characters : List Char}
    (written : characters.all isWritten = true) : ∀ run ∈ runsOf characters, run.IsWritten := by
  induction characters with
  | nil =>
      intro run member
      cases member
  | cons c rest inductionHypothesis =>
      simp only [List.all_cons, Bool.and_eq_true] at written
      exact isWritten_of_mem_add written.1 (inductionHypothesis written.2)

theorem all_isWritten_writeRuns {spot : Spot} :
    ∀ {runs : List Run} {first : Bool} {column : Nat}, (∀ run ∈ runs, run.IsWritten) →
      (writeRuns spot first column runs).all isWritten = true
  | [], _, _, _ => rfl
  | .word characters :: rest, first, column, written => by
      obtain ⟨here, later⟩ := List.forall_mem_cons.mp written
      have written : characters.all isWritten = true := here
      rw [writeRuns, List.all_append, written, all_isWritten_writeRuns later]
      rfl
  | .blanks count :: rest, first, column, written => by
      have later := (List.forall_mem_cons.mp written).2
      have blanks : (List.replicate count ' ').all isWritten = true := by
        simp [List.all_replicate, isWritten]
      rw [writeRuns]
      split
      · rw [List.all_append, all_isWritten_newLine, all_isWritten_writeRuns later]
        rfl
      · rw [List.all_append, blanks, all_isWritten_writeRuns later]
        rfl
  | .breaks count :: rest, first, column, written => by
      have later := (List.forall_mem_cons.mp written).2
      have breaks : (List.replicate count '\n').all isWritten = true := by
        simp [List.all_replicate, isWritten]
      rw [writeRuns, List.all_append, List.all_append, breaks, all_isWritten_newLine,
        all_isWritten_writeRuns later]
      rfl

/-- A text in the style that is chosen for it is written with printable characters. -/
theorem all_isWritten_write (text : String) (asKey : Bool) (spot : Spot) :
    ((Style.ofText text asKey).write spot text).all isWritten = true := by
  have single : isWritten '\'' = true := by decide
  have double : isWritten '"' = true := by decide
  unfold Style.ofText
  simp only
  split
  · rename_i chosen
    simp only [Style.mayBePlain, Bool.and_eq_true] at chosen
    exact all_isWritten_writeRuns (isWritten_of_mem_runsOf (by simp [chosen]))
  · split
    · rename_i chosen
      simp only [Style.mayBeSingle, Bool.and_eq_true] at chosen
      have doubled :
          (text.toList.flatMap fun c => if c == '\'' then ['\'', '\''] else [c]).all isWritten
            = true := by
        rw [List.all_flatMap, List.all_eq_true]
        intro c member
        have written := List.all_eq_true.mp chosen.1.1.1 c member
        split
        · rw [List.all_cons, List.all_cons, single]
          rfl
        · rw [List.all_cons, written]
          rfl
      rw [Style.write, writeSingle, List.all_append, List.all_cons, List.all_cons, single,
        all_isWritten_writeRuns (isWritten_of_mem_runsOf doubled)]
      rfl
    · rw [Style.write, writeDouble, List.all_append, List.all_cons, double,
        all_isWritten_writeEscaped]
      rfl

/-! ## Documents -/

namespace Outline

theorem all_isWritten_inline (spot : Spot) (value : Outline) :
    (inline spot value).all isWritten = true := by
  cases value with
  | null => exact (by decide : "null".toList.all isWritten = true)
  | number value => exact all_isWritten_digitsIn (by decide) value
  | text value => exact all_isWritten_write value false spot
  | list items => exact (by decide : "[]".toList.all isWritten = true)
  | map entries => exact (by decide : "\x7b\x7d".toList.all isWritten = true)

theorem all_isWritten_joined {indent : Nat} :
    ∀ {lines : List (List Char)}, (∀ line ∈ lines, line.all isWritten = true) →
      (joined indent lines).all isWritten = true
  | [], _ => rfl
  | [line], written => by
      rw [joined, List.intercalate_singleton]
      exact written line (List.mem_singleton_self line)
  | line :: next :: rest, written => by
      obtain ⟨first, others⟩ := List.forall_mem_cons.mp written
      have later : (joined indent (next :: rest)).all isWritten = true :=
        all_isWritten_joined others
      rw [joined] at later ⊢
      rw [List.intercalate_cons_cons, List.all_append, List.all_append, first,
        all_isWritten_newLine, later]
      rfl

mutual

theorem all_isWritten_afterMark (indent : Nat) :
    ∀ value : Outline, (afterMark indent value).all isWritten = true
  | .null | .number _ | .text _ | .list [] | .map [] => by
      simp only [afterMark, List.all_cons, all_isWritten_inline]
      rfl
  | .list (item :: rest) => by
      rw [afterMark, List.all_cons, all_isWritten_joined (all_isWritten_itemLines _ _)]
      rfl
  | .map (entry :: rest) => by
      rw [afterMark, List.all_cons, all_isWritten_joined (all_isWritten_entryLines _ _)]
      rfl

theorem all_isWritten_afterKey (indent column : Nat) :
    ∀ value : Outline, (afterKey indent column value).all isWritten = true
  | .null | .number _ | .text _ | .list [] | .map [] => by
      simp only [afterKey, List.all_cons, all_isWritten_inline]
      rfl
  | .list (item :: rest) => by
      rw [afterKey, List.all_append, all_isWritten_newLine,
        all_isWritten_joined (all_isWritten_itemLines _ _)]
      rfl
  | .map (entry :: rest) => by
      rw [afterKey, List.all_append, all_isWritten_newLine,
        all_isWritten_joined (all_isWritten_entryLines _ _)]
      rfl

theorem all_isWritten_itemLines (indent : Nat) :
    ∀ items : List Outline, ∀ line ∈ itemLines indent items, line.all isWritten = true
  | [] => by
      intro line member
      cases member
  | item :: rest => by
      rw [itemLines]
      refine List.forall_mem_cons.mpr ⟨?_, all_isWritten_itemLines indent rest⟩
      rw [List.all_cons, all_isWritten_afterMark]
      rfl

theorem all_isWritten_entryLines (indent : Nat) :
    ∀ entries : List (String × Outline),
      ∀ line ∈ entryLines indent entries, line.all isWritten = true
  | [] => by
      intro line member
      cases member
  | (key, value) :: rest => by
      have colon : isWritten ':' = true := by decide
      have question : isWritten '?' = true := by decide
      have blank : isWritten ' ' = true := by decide
      rw [entryLines]
      refine List.forall_mem_cons.mpr ⟨?_, all_isWritten_entryLines indent rest⟩
      split
      · rw [List.all_append, List.all_cons, all_isWritten_write, colon, all_isWritten_afterKey]
        rfl
      · simp only [List.all_append, List.all_cons, question, blank, colon, all_isWritten_write,
          all_isWritten_newLine, all_isWritten_afterMark, Bool.and_self]

end

end Outline

/-- A document consists of printable characters of seven bits and line feeds. -/
theorem all_isWritten_document (entries : List (String × Outline)) :
    (write entries).toList.all isWritten = true := by
  unfold write
  split
  · decide
  · rw [String.toList_ofList, List.all_append,
      Outline.all_isWritten_joined (Outline.all_isWritten_entryLines 0 entries)]
    rfl

/-! ## Documents in files -/

theorem unifyBreaks_of_not_mem :
    ∀ {characters : List Char}, '\r' ∉ characters → Text.unifyBreaks characters = characters
  | [], _ => rfl
  | c :: rest, absent => by
      simp only [List.mem_cons, not_or] at absent
      have notReturn : c ≠ '\r' := fun same => absent.1 same.symm
      simp [Text.unifyBreaks, notReturn, unifyBreaks_of_not_mem absent.2]

/-- A text without carriage returns that is put into a file and read again is the same. -/
theorem decodeLines?_of_not_mem {text : String} (absent : '\r' ∉ text.toList) :
    Text.decodeLines? text.toUTF8 = some text.toList := by
  have decoded : String.fromUTF8? text.toUTF8 = some text := dif_pos text.isValidUTF8
  rw [Text.decodeLines?, decoded, Option.map_some, unifyBreaks_of_not_mem absent]

/-- A document that is put into a file and read as text again is the same. -/
theorem decodeLines?_write (entries : List (String × Outline)) :
    Text.decodeLines? (write entries).toUTF8 = some (write entries).toList := by
  refine decodeLines?_of_not_mem fun member => ?_
  have written := List.all_eq_true.mp (all_isWritten_document entries) '\r' member
  revert written
  decide

end DriverKit.Yaml
