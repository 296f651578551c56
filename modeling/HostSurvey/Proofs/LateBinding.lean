import HostSurvey.Profile.Attributes

/-!
# Late binding cannot be observed

`Call` is what a user does to one of several maps of attributes, and `run`
answers a list of calls. `eager` answers the same calls on maps of texts that
render raw bytes as soon as they are stored. The two agree on all answers:
`Agrees m t` says that reading the slots of `m` gives the texts of `t`, every
call keeps it, and it leaves no slot without a value.
-/

namespace HostSurvey

namespace Slot

/-- What a reader of the slot gets. -/
def text (s : Slot) : Option String := s.resolve.value

@[simp] theorem text_resolve (s : Slot) : s.resolve.text = s.text := by
  simp [text]

@[simp] theorem text_bound (value : String) : ({ value := some value } : Slot).text = some value :=
  rfl

@[simp] theorem text_pending (s : Slot) (raw : Pending) :
    ({ s with raw := some raw } : Slot).text = some raw.text := rfl

/-- A slot that gives a text holds a resolved value or a pending one. -/
theorem held_of_text {s : Slot} {t : String} (h : s.text = some t) :
    s.value.isSome ∨ s.raw.isSome := by
  cases hr : s.raw with
  | some raw => exact .inr rfl
  | none =>
    have hv : s.value = some t := by simpa [text, resolve, hr] using h
    simp [hv]

end Slot

namespace Attributes

/-! ## Calls and answers -/

/-- A call to one map. Maps are known by numbers; `putAll` and `copy` take slots from another map
or from the same one. -/
inductive Call (σ : Type) where
  | put (key value : String)
  | putPending (key : String) (raw : Pending)
  | read (key : String)
  | contains (key : String)
  | size
  | isEmpty
  | bindAll
  | readAll
  | visitAll (visit : σ → String → String → σ) (start : σ)
  | toJson
  | putAll (source : Nat)
  | copy (source : Nat)
  | clear

inductive Answer (σ : Type) where
  | done
  | value (v : Option String)
  | flag (b : Bool)
  | count (n : Nat)
  | texts (l : List (String × String))
  | visited (s : σ)
  | json (v : Json)

variable {σ μ : Type}

/-- What a call to the map `i` answers, and that map after it. -/
def late (s : Nat → Attributes) (i : Nat) : Call σ → Answer σ × Attributes
  | .put key value => (.done, (s i).put key value)
  | .putPending key raw => (.done, (s i).putPending key raw)
  | .read key => (.value ((s i).read key).1, ((s i).read key).2)
  | .contains key => (.flag ((s i).contains key), s i)
  | .size => (.count (s i).size, s i)
  | .isEmpty => (.flag (s i).isEmpty, s i)
  | .bindAll => (.done, (s i).bindAll)
  | .readAll => (.texts (s i).readAll.1, (s i).readAll.2)
  | .visitAll visit start =>
    (.visited ((s i).visitAll visit start).1, ((s i).visitAll visit start).2)
  | .toJson => (.json (s i).toJson.1, (s i).toJson.2)
  | .putAll source => (.done, (s i).putAll (s source))
  | .copy source => (.done, s source)
  | .clear => (.done, .empty)

/-- The same calls on maps of texts, where raw bytes are rendered as they are stored. -/
def eager (t : Nat → SortedMap String String) (i : Nat) :
    Call σ → Answer σ × SortedMap String String
  | .put key value => (.done, (t i).insert key value)
  | .putPending key raw => (.done, (t i).insert key (raw.render raw.bytes))
  | .read key => (.value ((t i).find? key), t i)
  | .contains key => (.flag ((t i).contains key), t i)
  | .size => (.count (t i).size, t i)
  | .isEmpty => (.flag (t i).isEmpty, t i)
  | .bindAll => (.done, t i)
  | .readAll => (.texts (t i).entries, t i)
  | .visitAll visit start =>
    (.visited ((t i).entries.foldl (fun s e => visit s e.1 e.2) start), t i)
  | .toJson => (.json (.record ((t i).entries.map fun e => (e.1, .text e.2))), t i)
  | .putAll source => (.done, (t i).insertAll (t source).entries)
  | .copy source => (.done, t source)
  | .clear => (.done, .empty)

/-- The map `i` is replaced. -/
def store (s : Nat → μ) (i : Nat) (m : μ) : Nat → μ := fun j => if j = i then m else s j

/-- The answers to a list of calls, each to the map of its number, and all maps after them. -/
def run (answer : (Nat → μ) → Nat → Call σ → Answer σ × μ) :
    List (Nat × Call σ) → (Nat → μ) → List (Answer σ) × (Nat → μ)
  | [], s => ([], s)
  | (i, call) :: calls, s =>
    let (a, m) := answer s i call
    let (rest, s) := run answer calls (store s i m)
    (a :: rest, s)

theorem run_cons (answer : (Nat → μ) → Nat → Call σ → Answer σ × μ) (i : Nat) (call : Call σ)
    (calls : List (Nat × Call σ)) (s : Nat → μ) :
    run answer ((i, call) :: calls) s =
      ((answer s i call).1 :: (run answer calls (store s i (answer s i call).2)).1,
        (run answer calls (store s i (answer s i call).2)).2) := rfl

/-! ## Agreement of one map -/

/-- Reading the slots of `m` gives the texts of `t`. -/
def Agrees (m : Attributes) (t : SortedMap String String) : Prop :=
  m.mapValues Slot.text = t.mapValues some

theorem agrees_empty : Agrees .empty .empty := rfl

section

variable {m n : Attributes} {t u : SortedMap String String}

theorem Agrees.find? (h : Agrees m t) (key : String) :
    (m.find? key).map Slot.text = (t.find? key).map some := by
  rw [← SortedMap.find?_mapValues, ← SortedMap.find?_mapValues, h]

theorem Agrees.held (h : Agrees m t) {key : String} {slot : Slot} (hs : m.find? key = some slot) :
    slot.value.isSome ∨ slot.raw.isSome := by
  have hk := h.find? key
  rw [hs, Option.map_some] at hk
  cases ht : t.find? key with
  | none => simp [ht] at hk
  | some v =>
    rw [ht] at hk
    exact Slot.held_of_text (Option.some.inj hk)

theorem Agrees.put (h : Agrees m t) (key value : String) :
    Agrees (m.put key value) (t.insert key value) := by
  unfold Agrees Attributes.put
  rw [SortedMap.mapValues_insert, SortedMap.mapValues_insert, h, Slot.text_bound]

theorem Agrees.putPending (h : Agrees m t) (key : String) (raw : Pending) :
    Agrees (m.putPending key raw) (t.insert key raw.text) := by
  unfold Agrees Attributes.putPending SortedMap.alter
  rw [SortedMap.mapValues_insert, SortedMap.mapValues_insert, h, Slot.text_pending]

/-- Resolving a key does not change what is read from it. -/
theorem mapValues_text_read (m : Attributes) (key : String) :
    (m.read key).2.mapValues Slot.text = m.mapValues Slot.text := by
  unfold Attributes.read
  cases hs : m.find? key with
  | none => rfl
  | some s =>
    rw [SortedMap.mapValues_insert, Slot.text_resolve]
    refine SortedMap.insert_eq_self ?_
    rw [SortedMap.find?_mapValues, hs, Option.map_some]

theorem Agrees.read (h : Agrees m t) (key : String) : Agrees (m.read key).2 t :=
  (mapValues_text_read m key).trans h

theorem Agrees.read_value (h : Agrees m t) (key : String) : (m.read key).1 = t.find? key := by
  have hk := h.find? key
  unfold Attributes.read
  cases hs : m.find? key with
  | none =>
    cases ht : t.find? key with
    | none => rfl
    | some v => simp [hs, ht] at hk
  | some s =>
    cases ht : t.find? key with
    | none => simp [hs, ht] at hk
    | some v => simpa [hs, ht, Slot.text] using hk

theorem Agrees.contains (h : Agrees m t) (key : String) : m.contains key = t.contains key := by
  have hk := congrArg Option.isSome (h.find? key)
  simpa [SortedMap.contains] using hk

theorem Agrees.size (h : Agrees m t) : m.size = t.size := SortedMap.size_eq_of_mapValues_eq h

theorem Agrees.isEmpty (h : Agrees m t) : m.isEmpty = t.isEmpty := by
  have hs : m.entries.length = t.entries.length := h.size
  unfold SortedMap.isEmpty
  rw [Bool.eq_iff_iff, List.isEmpty_iff_length_eq_zero, List.isEmpty_iff_length_eq_zero, hs]

theorem Agrees.bindAll (h : Agrees m t) : Agrees m.bindAll t := by
  unfold Agrees Attributes.bindAll
  rw [SortedMap.mapValues_mapValues, ← h]
  simp

theorem readAll_texts (m : Attributes) :
    m.readAll.1 =
      (m.mapValues Slot.text).entries.filterMap fun e => e.2.map fun v => (e.1, v) := by
  unfold Attributes.readAll Attributes.bindAll SortedMap.mapValues
  rw [List.filterMap_map, List.filterMap_map]
  rfl

theorem Agrees.readAll_texts (h : Agrees m t) : m.readAll.1 = t.entries := by
  rw [Attributes.readAll_texts, h]
  unfold SortedMap.mapValues
  rw [List.filterMap_map]
  exact List.filterMap_some

theorem Agrees.putAll (h : Agrees m t) (h' : Agrees n u) :
    Agrees (m.putAll n) (t.insertAll u.entries) := by
  have he : n.entries.map (fun e => (e.1, e.2.text)) = u.entries.map fun e => (e.1, some e.2) :=
    congrArg SortedMap.entries h'
  unfold Agrees Attributes.putAll
  rw [SortedMap.mapValues_insertAll, SortedMap.mapValues_insertAll, h, he]

end

/-! ## Agreement of all maps -/

/-- One call has the same answer on maps that agree, and the map it was made to agrees after it. -/
theorem late_agrees {s : Nat → Attributes} {t : Nat → SortedMap String String}
    (h : ∀ i, Agrees (s i) (t i)) (i : Nat) (call : Call σ) :
    (late s i call).1 = (eager t i call).1 ∧ Agrees (late s i call).2 (eager t i call).2 := by
  cases call with
  | put key value => exact ⟨rfl, (h i).put key value⟩
  | putPending key raw => exact ⟨rfl, (h i).putPending key raw⟩
  | read key => exact ⟨congrArg Answer.value ((h i).read_value key), (h i).read key⟩
  | contains key => exact ⟨congrArg Answer.flag ((h i).contains key), h i⟩
  | size => exact ⟨congrArg Answer.count (h i).size, h i⟩
  | isEmpty => exact ⟨congrArg Answer.flag (h i).isEmpty, h i⟩
  | bindAll => exact ⟨rfl, (h i).bindAll⟩
  | readAll => exact ⟨congrArg Answer.texts (h i).readAll_texts, (h i).bindAll⟩
  | visitAll visit start =>
    refine ⟨?_, (h i).bindAll⟩
    simp only [late, eager, visitAll, (h i).readAll_texts]
  | toJson =>
    refine ⟨?_, (h i).bindAll⟩
    simp only [late, eager, toJson, (h i).readAll_texts]
  | putAll source => exact ⟨rfl, (h i).putAll (h source)⟩
  | copy source => exact ⟨rfl, h source⟩
  | clear => exact ⟨rfl, agrees_empty⟩

theorem run_agrees (calls : List (Nat × Call σ)) {s : Nat → Attributes}
    {t : Nat → SortedMap String String} (h : ∀ i, Agrees (s i) (t i)) :
    (run late calls s).1 = (run eager calls t).1 ∧
      ∀ i, Agrees ((run late calls s).2 i) ((run eager calls t).2 i) := by
  induction calls generalizing s t with
  | nil => exact ⟨rfl, h⟩
  | cons c calls ih =>
    obtain ⟨i, call⟩ := c
    obtain ⟨hanswer, hmap⟩ := late_agrees h i call
    have hstore (j : Nat) :
        Agrees (store s i (late s i call).2 j) (store t i (eager t i call).2 j) := by
      unfold store
      split
      · exact hmap
      · exact h j
    obtain ⟨hrest, hmaps⟩ := ih hstore
    rw [run_cons, run_cons, hanswer, hrest]
    exact ⟨rfl, hmaps⟩

/-! ## Resolving -/

/-- No key waits to be rendered. -/
def NonePending (m : Attributes) : Prop := ∀ key slot, m.find? key = some slot → slot.raw = none

theorem nonePending_bindAll (m : Attributes) : NonePending m.bindAll := by
  intro key slot h
  unfold Attributes.bindAll at h
  rw [SortedMap.find?_mapValues, Option.map_eq_some_iff] at h
  obtain ⟨s, _, rfl⟩ := h
  simpa [Slot.isPending] using Slot.isPending_resolve s

theorem bindAll_bindAll (m : Attributes) : m.bindAll.bindAll = m.bindAll := by
  unfold Attributes.bindAll
  rw [SortedMap.mapValues_mapValues]
  simp

/-- Reading a key leaves the slots of other keys alone. -/
theorem find?_read_of_ne {key other : String} (h : other ≠ key) (m : Attributes) :
    (m.read key).2.find? other = m.find? other := by
  unfold Attributes.read
  cases m.find? key with
  | none => rfl
  | some s => exact SortedMap.find?_insert_of_ne h m s.resolve

/-- Lists of calls have the same answers on attributes as on maps that render at once. Whatever the
calls, no slot is without a value, reading a key touches no other, and resolving all keys leaves
none pending and has nothing to do a second time. -/
theorem run_late_eq_run_eager (calls : List (Nat × Call σ)) :
    (run late calls fun _ => .empty).1 = (run eager calls fun _ => .empty).1 ∧
      ∀ i, let m := (run late calls fun _ => .empty).2 i
        (∀ key slot, m.find? key = some slot → slot.value.isSome ∨ slot.raw.isSome) ∧
        (∀ key other, other ≠ key → (m.read key).2.find? other = m.find? other) ∧
        m.bindAll.bindAll = m.bindAll ∧
        NonePending m.bindAll ∧ NonePending m.readAll.2 ∧ NonePending m.toJson.2 ∧
        ∀ (visit : σ → String → String → σ) (start : σ),
          NonePending (m.visitAll visit start).2 := by
  obtain ⟨hanswers, hmaps⟩ := run_agrees calls fun _ => agrees_empty
  refine ⟨hanswers, fun i => ?_⟩
  intro m
  refine ⟨fun key slot hs => (hmaps i).held hs, fun key other hne => find?_read_of_ne hne m,
    bindAll_bindAll m, nonePending_bindAll m, nonePending_bindAll m, nonePending_bindAll m,
    fun _ _ => nonePending_bindAll m⟩

end Attributes

end HostSurvey
