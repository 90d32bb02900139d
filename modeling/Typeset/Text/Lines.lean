/-! The lines of a text: the pieces between its newlines. There is one more piece than newlines, and
no piece holds one. -/
namespace Typeset.Text

def splitLines : List Char → List (List Char)
  | [] => [[]]
  | c :: rest =>
    if c = '\n' then [] :: splitLines rest
    else match splitLines rest with
      | [] => [[c]]
      | line :: lines => (c :: line) :: lines

/-- Pieces put together with newlines between them. -/
def joinLines : List (List Char) → List Char
  | [] => []
  | [line] => line
  | line :: lines => line ++ '\n' :: joinLines lines

/-- Pieces put together are the first of them, and each other one after a newline. -/
theorem joinLines_cons (line : List Char) (lines : List (List Char)) :
    joinLines (line :: lines) = line ++ lines.flatMap ('\n' :: ·) := by
  induction lines generalizing line with
  | nil => simp [joinLines]
  | cons next lines ih => simp [joinLines, ih]

theorem splitLines_ne_nil (text : List Char) : splitLines text ≠ [] := by
  cases text with
  | nil => simp [splitLines]
  | cons c rest =>
    simp only [splitLines]
    split
    · simp
    · split <;> simp

theorem newline_not_mem_splitLines (text line : List Char) (mem : line ∈ splitLines text) :
    '\n' ∉ line := by
  induction text generalizing line with
  | nil => simp_all [splitLines]
  | cons c rest ih =>
    simp only [splitLines] at mem
    by_cases newline : c = '\n'
    · rw [if_pos newline] at mem
      rcases List.mem_cons.1 mem with same | mem
      · simp [same]
      · exact ih line mem
    · rw [if_neg newline] at mem
      cases split : splitLines rest with
      | nil => exact absurd split (splitLines_ne_nil rest)
      | cons first lines =>
        rw [split] at mem ih
        simp only [List.mem_cons] at mem
        rcases mem with same | mem
        · subst same
          have := ih first (by simp)
          simp only [List.mem_cons, not_or]
          exact ⟨fun h => newline h.symm, this⟩
        · exact ih line (by simp [mem])

end Typeset.Text
