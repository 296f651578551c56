import HostSurvey.Sorted.Set

/-!
# Finite maps in ascending order of their keys

A map is the list of its entries, keys strictly ascending. `find?` is its view:
every operation below has an equation for it, and two maps with the same
answers are equal.
-/

namespace HostSurvey

open Std

structure SortedMap (κ : Type) [Ord κ] (α : Type) where
  entries : List (κ × α)
  ascending : Ascending (entries.map Prod.fst)

namespace SortedMap

section Lists

variable {κ : Type} {α β : Type}

/-- The value stored under `k` in a list of entries. -/
def findEntry [DecidableEq κ] (k : κ) : List (κ × α) → Option α
  | [] => none
  | (a, x) :: l => if a = k then some x else findEntry k l

/-- Stores `v` under `k`, in place when the key is there. -/
def insertEntry [Ord κ] (k : κ) (v : α) : List (κ × α) → List (κ × α)
  | [] => [(k, v)]
  | (a, x) :: l =>
    match compare k a with
    | .lt => (k, v) :: (a, x) :: l
    | .eq => (a, v) :: l
    | .gt => (a, x) :: insertEntry k v l

theorem keys_insertEntry [Ord κ] (k : κ) (v : α) (l : List (κ × α)) :
    (insertEntry k v l).map Prod.fst = SortedSet.insertList k (l.map Prod.fst) := by
  induction l with
  | nil => rfl
  | cons e l ih =>
    simp only [insertEntry, SortedSet.insertList, List.map_cons]
    cases compare k e.1 <;> simp [ih]

theorem findEntry_insertEntry [Ord κ] [LawfulEqOrd κ] [DecidableEq κ] (k j : κ) (v : α)
    (l : List (κ × α)) :
    findEntry j (insertEntry k v l) = if k = j then some v else findEntry j l := by
  induction l with
  | nil => simp [insertEntry, findEntry]
  | cons e l ih =>
    simp only [insertEntry]
    split
    · simp [findEntry]
    · rename_i h
      rw [LawfulEqOrd.eq_of_compare h]
      simp only [findEntry]
      split <;> simp
    · rename_i h
      have hne : k ≠ e.1 := by
        rintro rfl
        simp at h
      simp only [findEntry, ih]
      split
      · rename_i he
        subst he
        simp [hne]
      · rfl

theorem findEntry_filter_ne [DecidableEq κ] (k j : κ) (l : List (κ × α)) :
    findEntry j (l.filter fun e => e.1 ≠ k) = if k = j then none else findEntry j l := by
  induction l with
  | nil => simp [findEntry]
  | cons e l ih =>
    simp only [List.filter_cons]
    split <;> rename_i h <;> simp only [findEntry, ih]
    · split
      · rename_i he; subst he
        have : ¬ k = e.1 := fun hk => by simp [hk] at h
        simp [this]
      · rfl
    · have : e.1 = k := by simpa using h
      subst this
      split <;> simp [*]

theorem findEntry_map [DecidableEq κ] (f : α → β) (k : κ) (l : List (κ × α)) :
    findEntry k (l.map fun e => (e.1, f e.2)) = (findEntry k l).map f := by
  induction l with
  | nil => rfl
  | cons e l ih =>
    simp only [List.map_cons, findEntry, ih]
    split <;> rfl

theorem map_insertEntry [Ord κ] (f : α → β) (k : κ) (v : α) (l : List (κ × α)) :
    (insertEntry k v l).map (fun e => (e.1, f e.2)) =
      insertEntry k (f v) (l.map fun e => (e.1, f e.2)) := by
  induction l with
  | nil => rfl
  | cons e l ih =>
    simp only [insertEntry, List.map_cons]
    cases compare k e.1 <;> simp [ih]

theorem findEntry_isSome_iff [DecidableEq κ] {k : κ} {l : List (κ × α)} :
    (findEntry k l).isSome ↔ k ∈ l.map Prod.fst := by
  induction l with
  | nil => simp [findEntry]
  | cons e l ih =>
    simp only [findEntry, List.map_cons, List.mem_cons, ← ih]
    by_cases h : e.1 = k
    · simp [h]
    · simp [h, Ne.symm h]

theorem mem_of_findEntry [DecidableEq κ] {k : κ} {v : α} {l : List (κ × α)}
    (h : findEntry k l = some v) : (k, v) ∈ l := by
  induction l with
  | nil => simp [findEntry] at h
  | cons e l ih =>
    rw [findEntry] at h
    split at h
    · rename_i hk
      obtain rfl := Option.some.inj h
      exact hk ▸ List.mem_cons_self
    · exact List.mem_cons_of_mem _ (ih h)

theorem not_mem_keys_of_ascending [Ord κ] [TransOrd κ] {e : κ × α} {l : List (κ × α)}
    (h : Ascending ((e :: l).map Prod.fst)) : e.1 ∉ l.map Prod.fst := by
  intro hm
  have hlt := (List.pairwise_cons.1 h).1 _ hm
  simp at hlt

theorem findEntry_of_mem [Ord κ] [TransOrd κ] [LawfulEqOrd κ] [DecidableEq κ] {k : κ} {v : α}
    {l : List (κ × α)} (hl : Ascending (l.map Prod.fst)) (h : (k, v) ∈ l) :
    findEntry k l = some v := by
  induction l with
  | nil => simp at h
  | cons e l ih =>
    rw [findEntry]
    rcases List.mem_cons.1 h with rfl | h
    · exact if_pos rfl
    · have hne : e.1 ≠ k := fun hk =>
        not_mem_keys_of_ascending hl (hk ▸ List.mem_map_of_mem h)
      rw [if_neg hne, ih (List.pairwise_cons.1 hl).2 h]

/-- Ascending entries are determined by the look-ups. -/
theorem entries_eq_of_findEntry_eq [Ord κ] [TransOrd κ] [LawfulEqOrd κ] [DecidableEq κ]
    {l m : List (κ × α)} (hl : Ascending (l.map Prod.fst)) (hm : Ascending (m.map Prod.fst))
    (h : ∀ k, findEntry k l = findEntry k m) : l = m := by
  have hkeys : l.map Prod.fst = m.map Prod.fst :=
    SortedSet.eq_of_mem_iff_list hl hm fun k => by
      rw [← findEntry_isSome_iff, ← findEntry_isSome_iff, h]
  induction l generalizing m with
  | nil => simpa using hkeys.symm
  | cons e l ih =>
    cases m with
    | nil => simp at hkeys
    | cons d m =>
      simp only [List.map_cons, List.cons.injEq] at hkeys
      have hhead : e = d := by
        have := h d.1
        simp only [findEntry, hkeys.1, ↓reduceIte, Option.some.injEq] at this
        exact Prod.ext hkeys.1 this
      subst hhead
      have hrest (k : κ) : findEntry k l = findEntry k m := by
        by_cases hk : e.1 = k
        · subst hk
          have hn := not_mem_keys_of_ascending hl
          have hn' := not_mem_keys_of_ascending hm
          rw [← findEntry_isSome_iff] at hn hn'
          simp_all
        · simpa [findEntry, hk] using h k
      rw [ih (List.pairwise_cons.1 hl).2 (List.pairwise_cons.1 hm).2 hrest hkeys.2]

end Lists

variable {κ : Type} [Ord κ] {α β : Type}

def empty : SortedMap κ α := ⟨[], ascending_nil⟩

instance : Inhabited (SortedMap κ α) := ⟨empty⟩

instance [DecidableEq κ] [DecidableEq α] : DecidableEq (SortedMap κ α) := fun s t =>
  decidable_of_iff (s.entries = t.entries) <| by cases s; cases t; simp

def keys (m : SortedMap κ α) : List κ := m.entries.map Prod.fst

def values (m : SortedMap κ α) : List α := m.entries.map Prod.snd

def isEmpty (m : SortedMap κ α) : Bool := m.entries.isEmpty

def size (m : SortedMap κ α) : Nat := m.entries.length

def find? [DecidableEq κ] (m : SortedMap κ α) (k : κ) : Option α := findEntry k m.entries

def contains [DecidableEq κ] (m : SortedMap κ α) (k : κ) : Bool := (m.find? k).isSome

def erase [DecidableEq κ] (m : SortedMap κ α) (k : κ) : SortedMap κ α :=
  ⟨m.entries.filter fun e => e.1 ≠ k, by
    refine List.Pairwise.sublist ?_ m.ascending
    exact List.Sublist.map _ List.filter_sublist⟩

/-- Applies `f` to every value, keys unchanged. -/
def mapValues (m : SortedMap κ α) (f : α → β) : SortedMap κ β :=
  ⟨m.entries.map fun e => (e.1, f e.2), by
    simpa [Function.comp_def] using m.ascending⟩

@[simp] theorem find?_empty [DecidableEq κ] (k : κ) : (empty : SortedMap κ α).find? k = none := rfl

theorem find?_mapValues [DecidableEq κ] (m : SortedMap κ α) (f : α → β) (k : κ) :
    (m.mapValues f).find? k = (m.find? k).map f :=
  findEntry_map ..

@[simp] theorem mapValues_mapValues {γ : Type} (m : SortedMap κ α) (f : α → β) (g : β → γ) :
    (m.mapValues f).mapValues g = m.mapValues fun x => g (f x) := by
  simp [mapValues]

theorem mapValues_congr {m : SortedMap κ α} {f g : α → β} (h : ∀ v ∈ m.values, f v = g v) :
    m.mapValues f = m.mapValues g := by
  simp only [mapValues, SortedMap.mk.injEq]
  refine List.map_congr_left fun e he => ?_
  rw [h e.2 (List.mem_map_of_mem he)]

theorem size_eq_of_mapValues_eq {γ : Type} {m : SortedMap κ α} {n : SortedMap κ γ} {f : α → β}
    {g : γ → β} (h : m.mapValues f = n.mapValues g) : m.size = n.size := by
  have := congrArg size h
  simpa [size, mapValues] using this

theorem find?_erase [DecidableEq κ] (m : SortedMap κ α) (k j : κ) :
    (m.erase k).find? j = if k = j then none else m.find? j :=
  findEntry_filter_ne ..

theorem mem_keys [DecidableEq κ] {m : SortedMap κ α} {k : κ} :
    k ∈ m.keys ↔ ∃ v, m.find? k = some v := by
  rw [← Option.isSome_iff_exists]
  exact findEntry_isSome_iff.symm

theorem mem_entries [TransOrd κ] [LawfulEqOrd κ] [DecidableEq κ] {m : SortedMap κ α} {k : κ}
    {v : α} : (k, v) ∈ m.entries ↔ m.find? k = some v :=
  ⟨findEntry_of_mem m.ascending, mem_of_findEntry⟩

theorem nodup_keys [LawfulEqOrd κ] (m : SortedMap κ α) : m.keys.Nodup :=
  m.ascending.imp fun {a b} hab heq => by
    subst heq
    simp at hab

variable [TransOrd κ] [LawfulEqOrd κ]

def insert (m : SortedMap κ α) (k : κ) (v : α) : SortedMap κ α :=
  ⟨insertEntry k v m.entries, by
    rw [keys_insertEntry]; exact SortedSet.ascending_insertList m.ascending⟩

/-- Replaces the value under `k` by `f` of it, or by `f` of `fresh` when the key is new. -/
def alter [DecidableEq κ] (m : SortedMap κ α) (k : κ) (fresh : α) (f : α → α) : SortedMap κ α :=
  m.insert k (f ((m.find? k).getD fresh))

/-- Later entries replace earlier ones. -/
def insertAll (m : SortedMap κ α) (l : List (κ × α)) : SortedMap κ α :=
  l.foldl (fun m e => m.insert e.1 e.2) m

def ofList (l : List (κ × α)) : SortedMap κ α := empty.insertAll l

theorem mapValues_insert (m : SortedMap κ α) (f : α → β) (k : κ) (v : α) :
    (m.insert k v).mapValues f = (m.mapValues f).insert k (f v) := by
  simp only [insert, mapValues, SortedMap.mk.injEq]
  exact map_insertEntry f k v m.entries

theorem mapValues_insertAll (m : SortedMap κ α) (f : α → β) (l : List (κ × α)) :
    (m.insertAll l).mapValues f = (m.mapValues f).insertAll (l.map fun e => (e.1, f e.2)) := by
  induction l generalizing m with
  | nil => rfl
  | cons e l ih =>
    have hstep : m.insertAll (e :: l) = (m.insert e.1 e.2).insertAll l := rfl
    rw [hstep, ih, mapValues_insert]
    rfl

variable [DecidableEq κ]

/-- A map is determined by its look-ups. -/
theorem ext {m n : SortedMap κ α} (h : ∀ k, m.find? k = n.find? k) : m = n := by
  cases m with
  | mk l hl =>
    cases n with
    | mk k hk => congr; exact entries_eq_of_findEntry_eq hl hk h

theorem find?_insert (m : SortedMap κ α) (k j : κ) (v : α) :
    (m.insert k v).find? j = if k = j then some v else m.find? j :=
  findEntry_insertEntry ..

@[simp] theorem find?_insert_self (m : SortedMap κ α) (k : κ) (v : α) :
    (m.insert k v).find? k = some v := by simp [find?_insert]

theorem find?_insert_of_ne {k j : κ} (h : j ≠ k) (m : SortedMap κ α) (v : α) :
    (m.insert k v).find? j = m.find? j := by
  rw [find?_insert, if_neg (Ne.symm h)]

theorem find?_alter (m : SortedMap κ α) (k j : κ) (fresh : α) (f : α → α) :
    (m.alter k fresh f).find? j =
      if k = j then some (f ((m.find? k).getD fresh)) else m.find? j :=
  find?_insert ..

@[simp] theorem insert_insert (m : SortedMap κ α) (k : κ) (v w : α) :
    (m.insert k v).insert k w = m.insert k w := by
  refine ext fun j => ?_
  simp only [find?_insert]
  split <;> rfl

@[simp] theorem alter_alter (m : SortedMap κ α) (k : κ) (fresh : α) (f g : α → α) :
    (m.alter k fresh f).alter k fresh g = m.alter k fresh (g ∘ f) := by
  unfold alter
  rw [find?_insert_self, insert_insert]
  rfl

/-- After storing all entries of a map, its look-ups come first. -/
theorem find?_insertAll (m n : SortedMap κ α) (k : κ) :
    (m.insertAll n.entries).find? k = (n.find? k).or (m.find? k) := by
  suffices h : ∀ (l : List (κ × α)) (m : SortedMap κ α), Ascending (l.map Prod.fst) →
      (m.insertAll l).find? k = (findEntry k l).or (m.find? k) from h n.entries m n.ascending
  intro l
  induction l with
  | nil => exact fun m _ => rfl
  | cons e l ih =>
    intro m hl
    have hstep : m.insertAll (e :: l) = (m.insert e.1 e.2).insertAll l := rfl
    rw [hstep, ih _ (List.pairwise_cons.1 hl).2, find?_insert]
    by_cases hk : e.1 = k
    · subst hk
      have hn : findEntry e.1 l = none := by
        have hm := not_mem_keys_of_ascending hl
        rw [← findEntry_isSome_iff] at hm
        simpa using hm
      simp [findEntry, hn]
    · simp [findEntry, hk]

/-- Storing the value that is there already changes nothing. -/
theorem insert_eq_self {m : SortedMap κ α} {k : κ} {v : α} (h : m.find? k = some v) :
    m.insert k v = m := by
  refine ext fun j => ?_
  rw [find?_insert]
  split
  · rename_i hk
    subst hk
    exact h.symm
  · rfl

end SortedMap

end HostSurvey
