/-!
# Readers

A reader takes something off the front of a text and gives back what
follows it, or fails. The formats of the library are read by readers that
call each other; a text is accepted when nothing but what the format allows
is left of it.
-/

namespace KeaGauge.Text

/-- Takes something off the front of a text. -/
abbrev Reader (α : Type) := List Char → Option (α × List Char)

/-- What follows a character at the front. -/
def after? (c : Char) : List Char → Option (List Char)
  | d :: rest => if d = c then some rest else none
  | [] => none

/-- The longest run of characters of a class at the front, which must not be
empty. -/
def run? (p : Char → Bool) : Reader (List Char) := fun cs =>
  let run := cs.takeWhile p
  if run.isEmpty then none else some (run, cs.dropWhile p)

section Run

variable {p : Char → Bool} {run rest : List Char}

/-- The longest run at the front is a given one when nothing of its class
follows it. -/
theorem takeWhile_append_run (hrun : ∀ c ∈ run, p c = true)
    (hrest : ∀ c ∈ rest.head?, p c = false) : (run ++ rest).takeWhile p = run := by
  rw [List.takeWhile_append_of_pos hrun]
  cases rest with
  | nil => simp
  | cons c cs => simp [List.takeWhile, hrest c rfl]

/-- And what follows it is the rest. -/
theorem dropWhile_append_run (hrun : ∀ c ∈ run, p c = true)
    (hrest : ∀ c ∈ rest.head?, p c = false) : (run ++ rest).dropWhile p = rest := by
  rw [List.dropWhile_append_of_pos hrun]
  cases rest with
  | nil => rfl
  | cons c cs => simp [List.dropWhile, hrest c rfl]

/-- A run is read whole when nothing of its class follows it. -/
theorem run?_append (hne : run ≠ []) (hrun : ∀ c ∈ run, p c = true)
    (hrest : ∀ c ∈ rest.head?, p c = false) : run? p (run ++ rest) = some (run, rest) := by
  simp only [run?, takeWhile_append_run hrun hrest, dropWhile_append_run hrun hrest]
  simp [hne]

end Run

end KeaGauge.Text
