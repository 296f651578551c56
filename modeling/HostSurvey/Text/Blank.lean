/-!
# Blank characters

`isBlank` is the Unicode `White_Space` property. `trim` drops blanks at both
ends, `tokens` are the maximal stretches free of separators, and `words` are
the tokens between blanks.
-/

namespace HostSurvey.Text

/-- The characters with the Unicode property `White_Space`. -/
def isBlank (c : Char) : Bool :=
  let n := c.toNat
  (0x09 ≤ n && n ≤ 0x0D) || n == 0x20 || n == 0x85 || n == 0xA0 || n == 0x1680 ||
    (0x2000 ≤ n && n ≤ 0x200A) || n == 0x2028 || n == 0x2029 || n == 0x202F || n == 0x205F ||
    n == 0x3000

def trimStart (s : List Char) : List Char := s.dropWhile isBlank

def trimEnd (s : List Char) : List Char := (s.reverse.dropWhile isBlank).reverse

def trim (s : List Char) : List Char := trimEnd (trimStart s)

/-- The stretches between separators, empty ones included. -/
def fields (sep : Char → Bool) : List Char → List (List Char)
  | [] => [[]]
  | c :: s =>
    if sep c then [] :: fields sep s
    else
      match fields sep s with
      | [] => [[c]]
      | w :: ws => (c :: w) :: ws

/-- The nonempty stretches between separators. -/
def tokens (sep : Char → Bool) (s : List Char) : List (List Char) :=
  (fields sep s).filter (fun w => !w.isEmpty)

def words (s : List Char) : List (List Char) := tokens isBlank s

/-- The first word, empty when there is none. -/
def firstWord (s : List Char) : List Char := (words s).head?.getD []

/-- The last word, empty when there is none. -/
def lastWord (s : List Char) : List Char := (words s).getLast?.getD []

/-- A run of one kind ends in front of what is of another kind. -/
theorem span_append {α : Type} {p : α → Bool} {run rest : List α} (hrun : ∀ a ∈ run, p a = true)
    (hrest : ∀ a ∈ rest.head?, p a = false) :
    (run ++ rest).takeWhile p = run ∧ (run ++ rest).dropWhile p = rest := by
  rw [List.takeWhile_append_of_pos hrun, List.dropWhile_append_of_pos hrun]
  cases rest with
  | nil => exact ⟨List.append_nil run, rfl⟩
  | cons a rest =>
    have ha : ¬ p a = true := by simp [hrest a rfl]
    rw [List.takeWhile_cons_of_neg ha, List.dropWhile_cons_of_neg ha, List.append_nil]
    exact ⟨rfl, rfl⟩

theorem eq_false_of_mem_head?_dropWhile {α : Type} {p : α → Bool} {s : List α} {a : α}
    (h : a ∈ (s.dropWhile p).head?) : p a = false := by
  have hstop := List.head?_dropWhile_not p s
  rw [h] at hstop
  simpa using hstop

theorem exists_append_trimStart (s : List Char) :
    ∃ gap, (∀ c ∈ gap, isBlank c = true) ∧ s = gap ++ trimStart s :=
  ⟨s.takeWhile isBlank, List.all_eq_true.1 List.all_takeWhile,
    List.takeWhile_append_dropWhile.symm⟩

@[simp] theorem fields_nil (sep : Char → Bool) : fields sep [] = [[]] := rfl

/-- No token holds a separator. -/
theorem sep_eq_false_of_mem_fields {sep : Char → Bool} {s w : List Char} {c : Char}
    (hw : w ∈ fields sep s) (hc : c ∈ w) : sep c = false := by
  induction s generalizing w with
  | nil => simp [fields] at hw; subst hw; simp at hc
  | cons d s ih =>
    simp only [fields] at hw
    split at hw
    · rcases List.mem_cons.1 hw with rfl | hw
      · simp at hc
      · exact ih hw hc
    · rename_i hd
      split at hw
      · simp at hw; subst hw
        simp at hc; subst hc; simpa using hd
      · rename_i v vs hv
        rcases List.mem_cons.1 hw with rfl | hw
        · rcases List.mem_cons.1 hc with rfl | hc
          · simpa using hd
          · exact ih (by simp [hv]) hc
        · exact ih (by simp [hv, hw]) hc

end HostSurvey.Text
