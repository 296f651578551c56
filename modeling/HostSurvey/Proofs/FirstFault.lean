import Mathlib.Data.List.Forall2

/-!
# Up to the first fault

Lists are worked through in order until an element is refused: by checks, by a
translation of each element, or by steps that hand on a state. The lemmas here
say what a list that is not refused, or the first fault, tells about the
elements.
-/

namespace HostSurvey.FirstFault

variable {α β σ ε : Type}

theorem bind_eq_ok_iff {x : Except ε α} {f : α → Except ε β} {b : β} :
    x >>= f = .ok b ↔ ∃ a, x = .ok a ∧ f a = .ok b := by
  cases x <;> simp [bind, Except.bind]

theorem map_eq_ok_iff {x : Except ε α} {f : α → β} {b : β} :
    x.map f = .ok b ↔ ∃ a, x = .ok a ∧ f a = b := by
  cases x <;> simp [Except.map]

theorem map_eq_error_iff {x : Except ε α} {f : α → β} {fault : ε} :
    x.map f = .error fault ↔ x = .error fault := by
  cases x <;> simp [Except.map]

/-! ## Checks -/

section Checks

variable {check : α → Except ε Unit} {l : List α}

theorem forM_cons (check : α → Except ε Unit) (a : α) (l : List α) :
    (a :: l).forM check = check a >>= fun _ => l.forM check := rfl

theorem forM_eq_ok_iff : l.forM check = .ok () ↔ ∀ a ∈ l, check a = .ok () := by
  induction l with
  | nil => exact ⟨fun _ => by simp, fun _ => rfl⟩
  | cons a l ih =>
    rw [forM_cons, bind_eq_ok_iff, List.forall_mem_cons, ih]
    exact ⟨fun ⟨_, h⟩ => h, fun h => ⟨_, h⟩⟩

/-- The fault of a list of checks is the one of the first check that fails. -/
theorem forM_eq_error_iff {fault : ε} :
    l.forM check = .error fault ↔
      ∃ before a behind, l = before ++ a :: behind ∧ (∀ b ∈ before, check b = .ok ()) ∧
        check a = .error fault := by
  constructor
  · intro h
    induction l with
    | nil => cases h
    | cons a l ih =>
      rw [forM_cons] at h
      cases ha : check a with
      | error e =>
        rw [ha] at h
        cases h
        exact ⟨[], a, l, rfl, by simp, ha⟩
      | ok u =>
        rw [ha] at h
        obtain ⟨before, b, behind, rfl, hbefore, hb⟩ := ih h
        exact ⟨a :: before, b, behind, rfl, by simpa [ha] using hbefore, hb⟩
  · rintro ⟨before, a, behind, rfl, hbefore, ha⟩
    induction before with
    | nil =>
      rw [List.nil_append, forM_cons, ha]
      rfl
    | cons b before ih =>
      rw [List.forall_mem_cons] at hbefore
      rw [List.cons_append, forM_cons, hbefore.1]
      exact ih hbefore.2

end Checks

/-! ## Translations -/

/-- A list is translated element by element. -/
theorem mapM_eq_ok_iff {f : α → Except ε β} {l : List α} {r : List β} :
    l.mapM f = .ok r ↔ List.Forall₂ (fun a b => f a = .ok b) l r := by
  induction l generalizing r with
  | nil => simp [pure, Except.pure, eq_comm]
  | cons a l ih =>
    rw [List.mapM_cons, List.forall₂_cons_left_iff]
    simp only [bind_eq_ok_iff, ih]
    constructor
    · rintro ⟨b, hb, bs, hbs, hr⟩
      cases hr
      exact ⟨b, bs, hb, hbs, rfl⟩
    · rintro ⟨b, bs, hb, hbs, rfl⟩
      exact ⟨b, hb, bs, hbs, rfl⟩

/-- The fault of a translation is the one of the first element that has no translation. -/
theorem exists_of_mapM_eq_error {f : α → Except ε β} {l : List α} {fault : ε}
    (h : l.mapM f = .error fault) :
    ∃ before a behind, l = before ++ a :: behind ∧ (∀ b ∈ before, ∃ c, f b = .ok c) ∧
      f a = .error fault := by
  induction l with
  | nil => cases h
  | cons a l ih =>
    rw [List.mapM_cons] at h
    cases ha : f a with
    | error e =>
      rw [ha] at h
      cases h
      exact ⟨[], a, l, rfl, by simp, ha⟩
    | ok c =>
      rw [ha] at h
      cases hl : l.mapM f with
      | error e =>
        rw [hl] at h
        cases h
        obtain ⟨before, b, behind, rfl, hbefore, hb⟩ := ih hl
        exact ⟨a :: before, b, behind, rfl, List.forall_mem_cons.2 ⟨⟨c, ha⟩, hbefore⟩, hb⟩
      | ok r =>
        rw [hl] at h
        cases h

/-- A list is translated if each of its elements is. -/
theorem exists_mapM_eq_ok_iff {f : α → Except ε β} {l : List α} :
    (∃ r, l.mapM f = .ok r) ↔ ∀ a ∈ l, ∃ b, f a = .ok b := by
  simp only [mapM_eq_ok_iff]
  induction l with
  | nil => simp
  | cons a l ih =>
    simp only [List.forall₂_cons_left_iff, List.forall_mem_cons, ← ih]
    constructor
    · rintro ⟨_, b, r, hb, hr, rfl⟩
      exact ⟨⟨b, hb⟩, r, hr⟩
    · rintro ⟨⟨b, hb⟩, r, hr⟩
      exact ⟨b :: r, b, r, hb, hr, rfl⟩

/-- Related lists have related elements at equal places. -/
theorem exists_getElem?_of_forall₂ {R : α → β → Prop} {l : List α} {r : List β}
    (h : List.Forall₂ R l r) {i : Nat} {a : α} (ha : l[i]? = some a) :
    ∃ b, r[i]? = some b ∧ R a b := by
  obtain ⟨hi, rfl⟩ := List.getElem?_eq_some_iff.1 ha
  have hr : i < r.length := h.length_eq ▸ hi
  exact ⟨r[i], List.getElem?_eq_getElem hr, h.get hi hr⟩

/-! ## Steps -/

theorem foldlM_cons_eq_ok_iff {f : σ → α → Except ε σ} {a : α} {l : List α} {s t : σ} :
    (a :: l).foldlM f s = .ok t ↔ ∃ u, f s a = .ok u ∧ l.foldlM f u = .ok t := by
  rw [List.foldlM_cons, bind_eq_ok_iff]

/-- Steps that ask the state for nothing get through a list if each of its elements is right. -/
theorem exists_foldlM_eq_ok_iff {f : σ → α → Except ε σ} {P : α → Prop} {l : List α}
    (h : ∀ a ∈ l, ∀ s, (∃ t, f s a = .ok t) ↔ P a) (s : σ) :
    (∃ t, l.foldlM f s = .ok t) ↔ ∀ a ∈ l, P a := by
  induction l generalizing s with
  | nil => exact ⟨fun _ => by simp, fun _ => ⟨s, rfl⟩⟩
  | cons a l ih =>
    rw [List.forall_mem_cons] at h
    simp only [foldlM_cons_eq_ok_iff, List.forall_mem_cons]
    constructor
    · rintro ⟨t, u, ha, hl⟩
      exact ⟨(h.1 s).1 ⟨u, ha⟩, (ih h.2 u).1 ⟨t, hl⟩⟩
    · rintro ⟨ha, hl⟩
      obtain ⟨u, hu⟩ := (h.1 s).2 ha
      obtain ⟨t, ht⟩ := (ih h.2 u).2 hl
      exact ⟨t, u, hu, ht⟩

end HostSurvey.FirstFault
