/-!
# Lines

`linesAt stop` cuts a list at every `stop`. What follows the last `stop` is a
line only when it is not empty, so a final line may be ended or not.
-/

namespace HostSurvey.Text

variable {α : Type} [DecidableEq α]

def linesAt (stop : α) : List α → List (List α)
  | [] => []
  | c :: s =>
    if c = stop then [] :: linesAt stop s
    else
      match linesAt stop s with
      | [] => [[c]]
      | l :: ls => (c :: l) :: ls

/-- Without any copies of `c` at the end. -/
def dropTrailing (c : α) (s : List α) : List α := (s.reverse.dropWhile (· == c)).reverse

theorem stop_not_mem_of_mem_linesAt {stop : α} {s l : List α} (h : l ∈ linesAt stop s) :
    stop ∉ l := by
  induction s generalizing l with
  | nil => simp [linesAt] at h
  | cons c s ih =>
    simp only [linesAt] at h
    split at h
    · rcases List.mem_cons.1 h with rfl | h
      · simp
      · exact ih h
    · rename_i hc
      split at h
      · simp only [List.mem_singleton] at h
        subst h
        simpa using Ne.symm hc
      · rename_i m ms hm
        rcases List.mem_cons.1 h with rfl | h
        · have := ih (l := m) (by simp [hm])
          simp only [List.mem_cons, not_or]
          exact ⟨Ne.symm hc, this⟩
        · exact ih (by simp [hm, h])

/-- Up to the first stop there is one line. -/
theorem linesAt_append_stop {stop : α} {l : List α} (h : stop ∉ l) (rest : List α) :
    linesAt stop (l ++ stop :: rest) = l :: linesAt stop rest := by
  induction l with
  | nil => simp [linesAt]
  | cons c l ih =>
    simp only [List.mem_cons, not_or] at h
    simp only [List.cons_append, linesAt, if_neg (Ne.symm h.1), ih h.2]

/-- Lines that are ended are read back, whatever follows them. -/
theorem linesAt_append {stop : α} {ls : List (List α)} (h : ∀ l ∈ ls, stop ∉ l) (rest : List α) :
    linesAt stop ((ls.flatMap fun l => l ++ [stop]) ++ rest) = ls ++ linesAt stop rest := by
  induction ls with
  | nil => rfl
  | cons l ls ih =>
    obtain ⟨hl, hls⟩ := List.forall_mem_cons.1 h
    rw [List.flatMap_cons, List.append_assoc, List.append_assoc, List.singleton_append,
      linesAt_append_stop hl, ih hls, List.cons_append]

theorem linesAt_flatMap {stop : α} {ls : List (List α)} (h : ∀ l ∈ ls, stop ∉ l) :
    linesAt stop (ls.flatMap fun l => l ++ [stop]) = ls := by
  simpa [linesAt] using linesAt_append h []

/-- What no stop ends is one line. -/
theorem linesAt_of_not_mem {stop : α} {rest : List α} (hrest : rest ≠ []) (h : stop ∉ rest) :
    linesAt stop rest = [rest] := by
  induction rest with
  | nil => exact absurd rfl hrest
  | cons c rest ih =>
    obtain ⟨hc, hstop⟩ : stop ≠ c ∧ stop ∉ rest := by simpa using h
    rw [linesAt, if_neg (Ne.symm hc)]
    cases rest with
    | nil => rfl
    | cons c' rest => rw [ih (List.cons_ne_nil c' rest) hstop]

end HostSurvey.Text
