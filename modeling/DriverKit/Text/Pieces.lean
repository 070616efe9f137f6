/-!
# Pieces between marks

A run of characters taken apart at every occurrence of a mark. There is always one piece more than
there are marks, no piece holds the mark, and the pieces with the mark between them are the run
again.
-/

namespace DriverKit.Text

def pieces (mark : Char) : List Char → List (List Char)
  | [] => [[]]
  | c :: rest =>
      if c = mark then [] :: pieces mark rest
      else
        match pieces mark rest with
        | [] => [[c]]
        | first :: others => (c :: first) :: others

theorem pieces_ne_nil (mark : Char) (characters : List Char) : pieces mark characters ≠ [] := by
  cases characters with
  | nil => simp [pieces]
  | cons c rest =>
      by_cases isMark : c = mark
      · simp [pieces, isMark]
      · cases found : pieces mark rest <;> simp [pieces, isMark, found]

theorem mark_not_mem_pieces (mark : Char) (characters : List Char) :
    ∀ piece ∈ pieces mark characters, mark ∉ piece := by
  induction characters with
  | nil => simp [pieces]
  | cons c rest inductionHypothesis =>
      by_cases isMark : c = mark
      · simpa [pieces, isMark] using inductionHypothesis
      · cases found : pieces mark rest with
        | nil => exact absurd found (pieces_ne_nil mark rest)
        | cons first others =>
            simp only [found, List.mem_cons, forall_eq_or_imp] at inductionHypothesis
            simp only [pieces, isMark, found, if_false, List.mem_cons, forall_eq_or_imp, not_or]
            exact ⟨⟨fun same => isMark same.symm, inductionHypothesis.1⟩,
              inductionHypothesis.2⟩

theorem intercalate_pieces (mark : Char) (characters : List Char) :
    [mark].intercalate (pieces mark characters) = characters := by
  induction characters with
  | nil => simp [pieces, List.intercalate]
  | cons c rest inductionHypothesis =>
      cases found : pieces mark rest with
      | nil => exact absurd found (pieces_ne_nil mark rest)
      | cons first others =>
          rw [found] at inductionHypothesis
          by_cases isMark : c = mark
          · subst isMark
            cases others <;>
              simp_all [pieces, List.intercalate, List.intersperse]
          · cases others <;>
              simp_all [pieces, List.intercalate, List.intersperse]

end DriverKit.Text
