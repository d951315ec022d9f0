/-!
# Pieces of a text

A list of characters or code points cut at every occurrence of a mark. No piece holds the mark
(`not_mem_of_mem_pieces`).
-/

namespace BlobCatalog.Text

variable {α : Type}

/-- An item put in front of the first piece. -/
def addToFirst (c : α) : List (List α) → List (List α)
  | [] => [[c]]
  | first :: others => (c :: first) :: others

variable [DecidableEq α]

/-- The pieces of a list between the occurrences of a mark. -/
def pieces (mark : α) : List α → List (List α)
  | [] => [[]]
  | c :: rest => if c = mark then [] :: pieces mark rest else addToFirst c (pieces mark rest)

/-- No piece holds the mark. -/
theorem not_mem_of_mem_pieces {mark : α} {text piece : List α}
    (found : piece ∈ pieces mark text) : mark ∉ piece := by
  induction text generalizing piece with
  | nil => simp_all [pieces]
  | cons c rest ih =>
    by_cases same : c = mark
    · rw [pieces, if_pos same] at found
      rcases List.mem_cons.mp found with rfl | later
      · simp
      · exact ih later
    · rw [pieces, if_neg same] at found
      cases cut : pieces mark rest with
      | nil =>
        rw [cut] at found
        simp only [addToFirst, List.mem_singleton] at found
        subst found
        simpa using Ne.symm same
      | cons first others =>
        rw [cut] at found
        simp only [addToFirst, List.mem_cons] at found
        rcases found with rfl | later
        · have := @ih first (by simp [cut])
          simp [Ne.symm same, this]
        · exact ih (by simp [cut, later])

end BlobCatalog.Text
