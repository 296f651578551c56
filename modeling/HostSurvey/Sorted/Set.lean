/-!
# Finite sets in ascending order

A set is the strictly ascending list of its members, so two sets with the same
members are equal.
-/

namespace HostSurvey

open Std

/-- Strictly ascending. -/
def Ascending {κ : Type} [Ord κ] (l : List κ) : Prop := l.Pairwise fun a b => compare a b = .lt

theorem ascending_nil {κ : Type} [Ord κ] : Ascending ([] : List κ) := List.Pairwise.nil

structure SortedSet (κ : Type) [Ord κ] where
  toList : List κ
  ascending : Ascending toList

namespace SortedSet

section Lists

variable {κ : Type} [Ord κ]

def insertList (k : κ) : List κ → List κ
  | [] => [k]
  | a :: l =>
    match compare k a with
    | .lt => k :: a :: l
    | .eq => a :: l
    | .gt => a :: insertList k l

theorem mem_insertList [LawfulEqOrd κ] {k x : κ} {l : List κ} :
    x ∈ insertList k l ↔ x = k ∨ x ∈ l := by
  induction l with
  | nil => simp [insertList]
  | cons a l ih =>
    simp only [insertList]
    split
    · simp
    · rename_i h
      rw [LawfulEqOrd.eq_of_compare h]
      simp
    · simp only [List.mem_cons, ih]
      grind

theorem ascending_insertList [TransOrd κ] [LawfulEqOrd κ] {k : κ} {l : List κ}
    (h : Ascending l) : Ascending (insertList k l) := by
  induction l with
  | nil => simp [insertList, Ascending]
  | cons a l ih =>
    have hl := List.pairwise_cons.1 h
    simp only [insertList]
    split
    · rename_i hk
      refine List.pairwise_cons.2 ⟨fun x hx => ?_, h⟩
      rcases List.mem_cons.1 hx with rfl | hx
      · exact hk
      · exact TransCmp.lt_trans hk (hl.1 x hx)
    · exact h
    · rename_i hk
      refine List.pairwise_cons.2 ⟨fun x hx => ?_, ih hl.2⟩
      rcases mem_insertList.1 hx with rfl | hx
      · exact OrientedCmp.gt_iff_lt.1 hk
      · exact hl.1 x hx

end Lists

variable {κ : Type} [Ord κ]

def empty : SortedSet κ := ⟨[], ascending_nil⟩

instance : Inhabited (SortedSet κ) := ⟨empty⟩

instance [DecidableEq κ] : DecidableEq (SortedSet κ) := fun s t =>
  decidable_of_iff (s.toList = t.toList) <| by cases s; cases t; simp

instance : Membership κ (SortedSet κ) := ⟨fun s k => k ∈ s.toList⟩

instance [DecidableEq κ] (k : κ) (s : SortedSet κ) : Decidable (k ∈ s) :=
  inferInstanceAs (Decidable (k ∈ s.toList))

theorem mem_def {k : κ} {s : SortedSet κ} : k ∈ s ↔ k ∈ s.toList := Iff.rfl

def isEmpty (s : SortedSet κ) : Bool := s.toList.isEmpty

def size (s : SortedSet κ) : Nat := s.toList.length

def erase [DecidableEq κ] (s : SortedSet κ) (k : κ) : SortedSet κ :=
  ⟨s.toList.filter (· ≠ k), s.ascending.filter _⟩

@[simp] theorem not_mem_empty (k : κ) : k ∉ (empty : SortedSet κ) := List.not_mem_nil

@[simp] theorem mem_erase [DecidableEq κ] {s : SortedSet κ} {k x : κ} :
    x ∈ s.erase k ↔ x ∈ s ∧ x ≠ k := by
  simp [mem_def, erase]

variable [TransOrd κ] [LawfulEqOrd κ]

def insert (s : SortedSet κ) (k : κ) : SortedSet κ :=
  ⟨insertList k s.toList, ascending_insertList s.ascending⟩

def insertAll (s : SortedSet κ) (l : List κ) : SortedSet κ := l.foldl insert s

def ofList (l : List κ) : SortedSet κ := empty.insertAll l

@[simp] theorem mem_insert {s : SortedSet κ} {k x : κ} : x ∈ s.insert k ↔ x = k ∨ x ∈ s :=
  mem_insertList

@[simp] theorem mem_insertAll {s : SortedSet κ} {l : List κ} {x : κ} :
    x ∈ s.insertAll l ↔ x ∈ l ∨ x ∈ s := by
  induction l generalizing s with
  | nil => simp [insertAll]
  | cons a l ih =>
    have step : s.insertAll (a :: l) = (s.insert a).insertAll l := rfl
    rw [step, ih, mem_insert, List.mem_cons]
    grind

theorem eq_of_mem_iff_list {l m : List κ} (hl : Ascending l) (hm : Ascending m)
    (h : ∀ k, k ∈ l ↔ k ∈ m) : l = m := by
  induction l generalizing m with
  | nil =>
    cases m with
    | nil => rfl
    | cons b m => exact absurd ((h b).2 (by simp)) (by simp)
  | cons a l ih =>
    cases m with
    | nil => exact absurd ((h a).1 (by simp)) (by simp)
    | cons b m =>
      have hl' := List.pairwise_cons.1 hl
      have hm' := List.pairwise_cons.1 hm
      have irrefl (x : κ) : compare x x ≠ .lt := by simp
      have hab : a = b := by
        rcases List.mem_cons.1 ((h a).1 (by simp)) with e | ha
        · exact e
        · rcases List.mem_cons.1 ((h b).2 (by simp)) with e | hb
          · exact e.symm
          · exact absurd (TransCmp.lt_trans (hl'.1 b hb) (hm'.1 a ha)) (irrefl a)
      subst hab
      have : l = m := ih hl'.2 hm'.2 fun k => by
        have hk := h k
        simp only [List.mem_cons] at hk
        constructor
        · intro hkl
          rcases hk.1 (.inr hkl) with rfl | hkm
          · exact absurd (hl'.1 _ hkl) (irrefl _)
          · exact hkm
        · intro hkm
          rcases hk.2 (.inr hkm) with rfl | hkl
          · exact absurd (hm'.1 _ hkm) (irrefl _)
          · exact hkl
      rw [this]

/-- A set is determined by its members. -/
theorem ext {s t : SortedSet κ} (h : ∀ k, k ∈ s ↔ k ∈ t) : s = t := by
  cases s with
  | mk l hl =>
    cases t with
    | mk m hm => congr; exact eq_of_mem_iff_list hl hm h

end SortedSet

end HostSurvey
