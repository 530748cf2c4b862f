namespace ImageStages.Text

variable {sort : α → Bool} {run rest s : List α} {c : α}

/-- Nothing at the start of the text is of the sort. -/
def Stops (sort : α → Bool) (rest : List α) : Prop :=
  ∀ c ∈ rest.head?, sort c = false

@[simp] theorem stops_cons : Stops sort (c :: rest) ↔ sort c = false := by
  simp [Stops]

theorem stops_dropWhile (s : List α) : Stops sort (s.dropWhile sort) := by
  intro c first
  have known := List.head?_dropWhile_not sort s
  rw [Option.mem_def.mp first] at known
  simpa using known

section Append

variable (all : ∀ c ∈ run, sort c = true) (stops : Stops sort rest)

include all stops

theorem takeWhile_run_append : (run ++ rest).takeWhile sort = run := by
  rw [List.takeWhile_append_of_pos all]
  cases rest with
  | nil => simp
  | cons c others => simp [stops_cons.mp stops]

theorem dropWhile_run_append : (run ++ rest).dropWhile sort = rest := by
  rw [List.dropWhile_append_of_pos all]
  cases rest with
  | nil => rfl
  | cons c others => simp [stops_cons.mp stops]

end Append

end ImageStages.Text
