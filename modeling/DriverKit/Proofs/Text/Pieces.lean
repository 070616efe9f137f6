import DriverKit.Text.Blank
import DriverKit.Text.Pieces

/-!
# Pieces put together and taken apart

Pieces that hold no mark come back when they are joined by marks and taken apart again. Together
with `intercalate_pieces` this makes taking apart and joining inverse to each other. Neither taking
apart nor trimming makes anything longer.
-/

namespace DriverKit.Text

theorem pieces_of_not_mem {mark : Char} {piece : List Char} (absent : mark ∉ piece) :
    pieces mark piece = [piece] := by
  induction piece with
  | nil => rfl
  | cons c rest inductionHypothesis =>
      simp only [List.mem_cons, not_or] at absent
      have restPieces := inductionHypothesis absent.2
      have different : c ≠ mark := fun same => absent.1 same.symm
      simp [pieces, different, restPieces]

/-- A mark takes what is before it apart from what comes after it. -/
theorem pieces_append_cons_mark (mark : Char) (front rest : List Char) :
    pieces mark (front ++ mark :: rest) = pieces mark front ++ pieces mark rest := by
  induction front with
  | nil => simp [pieces]
  | cons c others inductionHypothesis =>
      rw [List.cons_append]
      by_cases isMark : c = mark
      · simp [pieces, isMark, inductionHypothesis]
      · cases found : pieces mark others with
        | nil => exact absurd found (pieces_ne_nil mark others)
        | cons first later => simp [pieces, isMark, inductionHypothesis, found]

theorem pieces_append_mark {mark : Char} {piece : List Char} (absent : mark ∉ piece)
    (rest : List Char) :
    pieces mark (piece ++ mark :: rest) = piece :: pieces mark rest := by
  rw [pieces_append_cons_mark, pieces_of_not_mem absent, List.singleton_append]

theorem pieces_intercalate {mark : Char} :
    ∀ {runs : List (List Char)},
      runs ≠ [] → (∀ run ∈ runs, mark ∉ run) → pieces mark ([mark].intercalate runs) = runs
  | [], nonempty, _ => absurd rfl nonempty
  | [run], _, absent => by
      rw [List.intercalate_singleton]
      exact pieces_of_not_mem (absent run (List.mem_singleton_self run))
  | run :: next :: rest, _, absent => by
      have nextPieces :
          pieces mark ([mark].intercalate (next :: rest)) = next :: rest :=
        pieces_intercalate (List.cons_ne_nil next rest)
          (fun other member => absent other (List.mem_cons_of_mem run member))
      rw [List.intercalate_cons_cons, List.append_assoc, List.singleton_append,
        pieces_append_mark (absent run List.mem_cons_self), nextPieces]

/-! ## Runs that marks end -/

/-- Runs that are each ended by a mark come apart into the pieces of every run, and nothing after
the last mark. -/
theorem pieces_flatMap_append_mark (mark : Char) (runs : List (List Char)) :
    pieces mark (runs.flatMap (· ++ [mark])) = runs.flatMap (pieces mark) ++ [[]] := by
  induction runs with
  | nil => rfl
  | cons run rest inductionHypothesis =>
      rw [List.flatMap_cons, List.append_assoc, List.singleton_append, pieces_append_cons_mark,
        inductionHypothesis, List.flatMap_cons, List.append_assoc]

/-- The runs come back exactly if none holds a mark of its own. -/
theorem pieces_flatMap_append_mark_eq_iff {mark : Char} {runs : List (List Char)} :
    pieces mark (runs.flatMap (· ++ [mark])) = runs ++ [[]] ↔ ∀ run ∈ runs, mark ∉ run := by
  constructor
  · intro apart run member
    have isPiece : run ∈ pieces mark (runs.flatMap (· ++ [mark])) := by
      rw [apart]
      exact List.mem_append_left _ member
    exact mark_not_mem_pieces mark _ run isPiece
  · intro absent
    have single : runs.map (pieces mark) = runs.map fun run => [run] :=
      List.map_congr_left fun run member => pieces_of_not_mem (absent run member)
    rw [pieces_flatMap_append_mark, List.flatMap_def, single, ← List.flatMap_def,
      List.flatMap_singleton']

/-! ## Characters of joined runs -/

theorem mem_intercalate {mark c : Char} :
    ∀ {runs : List (List Char)},
      c ∈ [mark].intercalate runs → c = mark ∨ ∃ run ∈ runs, c ∈ run
  | [], member => by
      simp at member
  | [run], member => by
      rw [List.intercalate_singleton] at member
      exact Or.inr ⟨run, List.mem_singleton_self run, member⟩
  | run :: next :: rest, member => by
      rw [List.intercalate_cons_cons, List.append_assoc, List.mem_append] at member
      rcases member with inRun | later
      · exact Or.inr ⟨run, List.mem_cons_self, inRun⟩
      · rw [List.singleton_append, List.mem_cons] at later
        rcases later with isMark | inRest
        · exact Or.inl isMark
        · rcases mem_intercalate inRest with isMark | ⟨found, member, inside⟩
          · exact Or.inl isMark
          · exact Or.inr ⟨found, List.mem_cons_of_mem run member, inside⟩

/-! ## Blanks at the ends -/

theorem dropWhile_of_all_not {test : Char → Bool} {characters : List Char}
    (others : ∀ c ∈ characters, test c = false) : characters.dropWhile test = characters := by
  cases characters with
  | nil => rfl
  | cons c rest => simp [others c List.mem_cons_self]

theorem dropWhile_congr {test other : Char → Bool} :
    ∀ {characters : List Char}, (∀ c ∈ characters, test c = other c) →
      characters.dropWhile test = characters.dropWhile other
  | [], _ => rfl
  | c :: rest, same => by
      have restSame : rest.dropWhile test = rest.dropWhile other :=
        dropWhile_congr fun next member => same next (List.mem_cons_of_mem c member)
      rw [List.dropWhile_cons, List.dropWhile_cons, same c List.mem_cons_self, restSame]

/-- Trimming leaves a run without blanks alone. -/
theorem trimmed_of_all {characters : List Char}
    (visible : ∀ c ∈ characters, isBlank c = false) : trimmed characters = characters := by
  have reversed : ∀ c ∈ characters.reverse, isBlank c = false := by
    intro c member
    exact visible c (List.mem_reverse.mp member)
  rw [trimmed, trimEnd, dropWhile_of_all_not visible, dropWhile_of_all_not reversed,
    List.reverse_reverse]

theorem holds_or_mem_dropWhile {test : Char → Bool} {characters : List Char} {c : Char}
    (member : c ∈ characters) : test c = true ∨ c ∈ characters.dropWhile test := by
  rw [← List.takeWhile_append_dropWhile (p := test) (l := characters), List.mem_append] at member
  rcases member with before | after
  · exact Or.inl (List.all_eq_true.mp List.all_takeWhile c before)
  · exact Or.inr after

/-- Every character that is taken away from the ends fails the test of those that stay. -/
theorem holds_or_mem_inner {test : Char → Bool} {characters : List Char} {c : Char}
    (member : c ∈ characters) :
    test c = true ∨ c ∈ ((characters.dropWhile test).reverse.dropWhile test).reverse := by
  rcases holds_or_mem_dropWhile member with holds | kept
  · exact Or.inl holds
  · rcases holds_or_mem_dropWhile (List.mem_reverse.mpr kept) with holds | keptAgain
    · exact Or.inl holds
    · exact Or.inr (List.mem_reverse.mpr keptAgain)

/-- Every character that trimming takes away is a blank. -/
theorem isBlank_or_mem_trimmed {characters : List Char} {c : Char} (member : c ∈ characters) :
    isBlank c = true ∨ c ∈ trimmed characters :=
  holds_or_mem_inner member

theorem mem_of_mem_trimmed {characters : List Char} {c : Char} (member : c ∈ trimmed characters) :
    c ∈ characters := by
  have reversed := (List.dropWhile_sublist isBlank).subset (List.mem_reverse.mp member)
  exact (List.dropWhile_sublist isBlank).subset (List.mem_reverse.mp reversed)

/-- A run is what trimming leaves of it, with blanks before and after. -/
theorem exists_trimmed (characters : List Char) :
    ∃ before after, (∀ c ∈ before ++ after, isBlank c = true) ∧
      characters = before ++ trimmed characters ++ after := by
  refine ⟨characters.takeWhile isBlank,
    ((characters.dropWhile isBlank).reverse.takeWhile isBlank).reverse, ?_, ?_⟩
  · intro c member
    rcases List.mem_append.mp member with first | last
    · exact List.all_eq_true.mp List.all_takeWhile c first
    · exact List.all_eq_true.mp List.all_takeWhile c (List.mem_reverse.mp last)
  · rw [trimmed, trimEnd, List.append_assoc, ← List.reverse_append,
      List.takeWhile_append_dropWhile, List.reverse_reverse, List.takeWhile_append_dropWhile]

/-- Trimming takes away exactly the blanks around a run that has none at its ends. -/
theorem trimmed_append {before run after : List Char}
    (blank : ∀ c ∈ before ++ after, isBlank c = true) (visible : ∀ c ∈ run, isBlank c = false) :
    trimmed (before ++ run ++ after) = run := by
  have blankBefore : ∀ c ∈ before, isBlank c = true :=
    fun c member => blank c (List.mem_append_left _ member)
  have blankAfter : ∀ c ∈ after.reverse, isBlank c = true :=
    fun c member => blank c (List.mem_append_right _ (List.mem_reverse.mp member))
  have visibleReversed : ∀ c ∈ run.reverse, isBlank c = false :=
    fun c member => visible c (List.mem_reverse.mp member)
  have fromStart :
      (before ++ run ++ after).dropWhile isBlank = (run ++ after).dropWhile isBlank := by
    rw [List.append_assoc, List.dropWhile_append_of_pos blankBefore]
  cases run with
  | nil =>
      have nothing : after.dropWhile isBlank = [] := by
        rw [← List.append_nil after, List.dropWhile_append_of_pos]
        · rfl
        · exact fun c member => blank c (List.mem_append_right before member)
      rw [trimmed, fromStart, List.nil_append, nothing]
      rfl
  | cons c rest =>
      have starts : (c :: rest ++ after).dropWhile isBlank = c :: rest ++ after := by
        simp [visible c List.mem_cons_self]
      rw [trimmed, fromStart, starts, trimEnd, List.reverse_append,
        List.dropWhile_append_of_pos blankAfter, dropWhile_of_all_not visibleReversed,
        List.reverse_reverse]

/-! ## Lengths -/

theorem length_le_of_mem_pieces {mark : Char} {piece : List Char} :
    ∀ {characters : List Char}, piece ∈ pieces mark characters → piece.length ≤ characters.length
  | [], member => Nat.le_of_eq (congrArg List.length (List.mem_singleton.mp member))
  | c :: rest, member => by
      rw [List.length_cons]
      unfold pieces at member
      split at member
      · rcases List.mem_cons.mp member with empty | later
        · simp [empty]
        · have bound := length_le_of_mem_pieces later
          omega
      · split at member
        · rw [List.mem_singleton.mp member, List.length_singleton]
          omega
        · rename_i first others found
          have inRest : ∀ other ∈ first :: others, other.length ≤ rest.length := by
            intro other otherMember
            exact length_le_of_mem_pieces (found ▸ otherMember)
          rcases List.mem_cons.mp member with here | later
          · have bound := inRest first List.mem_cons_self
            rw [here, List.length_cons]
            omega
          · have bound := inRest piece (List.mem_cons_of_mem first later)
            omega

theorem length_trimmed_le (characters : List Char) :
    (trimmed characters).length ≤ characters.length := by
  have fromStart : (characters.dropWhile isBlank).length ≤ characters.length :=
    (List.dropWhile_sublist isBlank).length_le
  have fromEnd : (trimmed characters).length ≤ (characters.dropWhile isBlank).length := by
    have shorter :
        ((characters.dropWhile isBlank).reverse.dropWhile isBlank).length
          ≤ (characters.dropWhile isBlank).reverse.length :=
      (List.dropWhile_sublist isBlank).length_le
    rw [trimmed, trimEnd, List.length_reverse]
    rwa [List.length_reverse] at shorter
  omega

/-- A text has at least as many bytes as characters. -/
theorem length_le_utf8ByteSize (text : String) : text.toList.length ≤ text.utf8ByteSize := by
  rw [← String.ofList_toList (s := text), String.toList_ofList]
  induction text.toList with
  | nil => exact Nat.zero_le _
  | cons c rest inductionHypothesis =>
      have positive := Char.utf8Size_pos c
      rw [String.ofList_cons, String.utf8ByteSize_append, String.utf8ByteSize_singleton,
        List.length_cons]
      omega

end DriverKit.Text
