import HostSurvey.Proofs.PortReferences
import Mathlib.Data.List.Nodup
import Mathlib.Data.List.Perm.Basic

/-!
# The history of a port

A port changes its name when a longer spelling of it is met, so what happens to
one port has to be followed through its names. `heir` gives the last name of a
port that is known by an earlier one, and `resolutions` lists the calls of a run
with the ports they were resolved to, under their last names. By these every
port is made of exactly the calls that were resolved to it (`Accounts`), and the
ports of a device go on through all calls (`Keeps`).
-/

namespace HostSurvey

open Text

/-! ## What calls make of a port -/

/-- The port under a name that is longer than its own. -/
def Port.called (p : Port) (name : String) : Port :=
  if p.name.utf8ByteSize < name.utf8ByteSize then { p with name } else p

theorem Port.called_of_le {p : Port} {name : String}
    (h : name.utf8ByteSize ≤ p.name.utf8ByteSize) : p.called name = p := if_neg (by omega)

/-- Gives a port a description. -/
def PortEdit.describe (text : String) : PortEdit where
  apply p := { p with description := some text }
  name_apply _ := rfl
  vlans_apply _ := rfl
  connections_apply _ := rfl

namespace PortCall

/-- A port, or a new one of the spelling, after a call that was resolved to it. -/
def note (p : Option Port) (c : PortCall) : Option Port :=
  some (c.onPort ((p.getD (.blank (trimmed c.name))).called (trimmed c.name)))

/-- The calls that were resolved to the port `k`. -/
def callsOf (k : String) (entries : List (PortCall × String)) : List PortCall :=
  (entries.filter fun e => e.2 = k).map Prod.fst

theorem isSome_foldl_note {calls : List PortCall} {p : Option Port}
    (h : p.isSome ∨ calls ≠ []) : (calls.foldl note p).isSome := by
  induction calls generalizing p with
  | nil => simpa using h
  | cons c calls ih => exact ih (.inl rfl)

theorem mem_callsOf {k : String} {entries : List (PortCall × String)} {c : PortCall} :
    c ∈ callsOf k entries ↔ (c, k) ∈ entries := by
  simp [callsOf]

theorem callsOf_append (k : String) (l m : List (PortCall × String)) :
    callsOf k (l ++ m) = callsOf k l ++ callsOf k m := by
  simp [callsOf]

theorem callsOf_singleton (c : PortCall) (key k : String) :
    callsOf k [(c, key)] = if key = k then [c] else [] := by
  unfold callsOf
  by_cases h : key = k <;> simp [h]

/-- The entries under other names, when those that come under `k` are the ones that were under
`j`. -/
theorem callsOf_map {σ : String → String} {j k : String} {entries : List (PortCall × String)}
    (h : ∀ e ∈ entries, σ e.2 = k ↔ e.2 = j) :
    callsOf k (entries.map fun e => (e.1, σ e.2)) = callsOf j entries := by
  unfold callsOf
  rw [List.filter_map, List.map_map]
  congr 1
  refine List.filter_congr fun e he => ?_
  simp [h e he]

theorem callsOf_eq_nil {k : String} {entries : List (PortCall × String)}
    (h : ∀ e ∈ entries, e.2 ≠ k) : callsOf k entries = [] := by
  unfold callsOf
  rw [List.filter_eq_nil_iff.2 (by simpa using h), List.map_nil]

/-! ## Following ports through a run -/

/-- The name, after a call, of the port that was stored under `k`. -/
def follow (d : Device) (c : PortCall) (k : String) : String :=
  if d.portKey? (trimmed c.name) = some k then (d.openPort c.name).1 else k

theorem follow_of_portKey? {d d₁ : Device} {c : PortCall} {old key : String}
    (hkey : d.portKey? (trimmed c.name) = some old) (hopen : d.openPort c.name = (key, d₁)) :
    c.follow d = renamed old key := by
  funext k
  unfold follow renamed
  rw [hkey, hopen]
  by_cases hk : k = old
  · rw [if_pos (congrArg some hk.symm), if_pos hk]
  · rw [if_neg (by simpa using Ne.symm hk), if_neg hk]

theorem follow_of_added {d : Device} {c : PortCall} (hkey : d.portKey? (trimmed c.name) = none) :
    c.follow d = id := by
  funext k
  unfold follow
  rw [hkey]
  rfl

end PortCall

namespace Device

/-- The last name of the port that is stored under `k` before the calls. -/
def heir (d : Device) : List PortCall → String → String
  | [], k => k
  | c :: calls, k => (c.apply d).heir calls (c.follow d k)

/-- The calls, each with the last name of the port that it was resolved to. -/
def resolutions (d : Device) : List PortCall → List (PortCall × String)
  | [] => []
  | c :: calls => (c, (c.apply d).heir calls (d.openPort c.name).1) :: (c.apply d).resolutions calls

/-- Every port is what the calls resolved to it have made of the port in `base`. -/
def Accounts (base : String → Option Port) (entries : List (PortCall × String)) (d : Device) :
    Prop :=
  ∀ k, d.ports.find? k = (PortCall.callsOf k entries).foldl PortCall.note (base k)

variable {d d₁ : Device} {base : String → Option Port} {entries : List (PortCall × String)}

theorem Accounts.ne_of_entry (h : Accounts base entries d) {name : String}
    (hfree : d.ports.find? name = none) {e : PortCall × String} (he : e ∈ entries) :
    e.2 ≠ name := by
  rintro rfl
  have hcalls : PortCall.callsOf e.2 entries ≠ [] :=
    List.ne_nil_of_mem (PortCall.mem_callsOf.2 (show (e.1, e.2) ∈ entries from he))
  have := PortCall.isSome_foldl_note (p := base e.2) (.inr hcalls)
  rw [← h, hfree] at this
  cases this

theorem Accounts.base_eq_none (h : Accounts base entries d) {name : String}
    (hfree : d.ports.find? name = none) : base name = none := by
  cases hbase : base name with
  | none => rfl
  | some p =>
    have hsome : ((PortCall.callsOf name entries).foldl PortCall.note (base name)).isSome :=
      PortCall.isSome_foldl_note (.inl (by rw [hbase]; rfl))
    rw [← h, hfree] at hsome
    cases hsome

/-- `base'` has what `base` has, under the names that `σ` gives, and nothing else. -/
structure Carried (base base' : String → Option Port) (σ : String → String) : Prop where
  of_base : ∀ k p, base k = some p → base' (σ k) = some p
  to_base : ∀ k p, base' k = some p → ∃ j, base j = some p ∧ σ j = k

theorem Carried.refl (base : String → Option Port) : Carried base base id :=
  ⟨fun _ _ h => h, fun k _ h => ⟨k, h, rfl⟩⟩

theorem Carried.trans {base base' base'' : String → Option Port} {σ τ : String → String}
    (h : Carried base base' σ) (h' : Carried base' base'' τ) :
    Carried base base'' fun k => τ (σ k) := by
  refine ⟨fun k p hk => h'.of_base _ p (h.of_base k p hk), fun k p hk => ?_⟩
  obtain ⟨j, hj, rfl⟩ := h'.to_base k p hk
  obtain ⟨i, hi, rfl⟩ := h.to_base j p hj
  exact ⟨i, hi, rfl⟩

/-- `base` with the port `old` under the name `new`. -/
def rebase (base : String → Option Port) (old new k : String) : Option Port :=
  if k = new then base old else if k = old then none else base k

theorem Carried.rebase {old new : String} (hnew : base new = none) :
    Carried base (rebase base old new) (renamed old new) := by
  unfold Device.rebase
  constructor
  · intro k p hk
    by_cases hold : k = old
    · subst hold
      simp [hk]
    · have hne : k ≠ new := by
        rintro rfl
        rw [hnew] at hk
        cases hk
      simp [renamed_of_ne hold, hne, hold, hk]
  · intro k p hk
    split at hk
    · rename_i hkn
      exact ⟨old, hk, by rw [renamed_self, hkn]⟩
    · split at hk
      · cases hk
      · rename_i hold
        exact ⟨k, hk, renamed_of_ne hold new⟩

/-- The call is entered for the port it found. -/
theorem Accounts.record_found (h : Accounts base entries d) {c : PortCall} {key : String}
    {p : Port} (hp : d.ports.find? key = some p)
    (hcalled : p.called (trimmed c.name) = p) :
    Accounts base (entries.map (fun e => (e.1, id e.2)) ++ [(c, key)]) (c.record d key p) := by
  intro k
  rw [c.find?_record, PortCall.callsOf_append, List.foldl_append, PortCall.callsOf_singleton,
    PortCall.callsOf_map (σ := id) (j := k) (fun e _ => Iff.rfl), ← h k]
  split
  · rename_i hk
    subst hk
    simp [PortCall.note, hp, hcalled]
  · rfl

/-- The call is entered for the port that it gave a longer name, with all entries of the old one. -/
theorem Accounts.record_renamed (h : Accounts base entries d) {c : PortCall} {old : String}
    {p : Port} (hp : d.ports.find? old = some p)
    (hfree : d.ports.find? (trimmed c.name) = none)
    (hcalled : p.called (trimmed c.name) = { p with name := trimmed c.name }) :
    Accounts (rebase base old (trimmed c.name))
      (entries.map (fun e => (e.1, renamed old (trimmed c.name) e.2)) ++ [(c, trimmed c.name)])
      (c.record (d.renamePort old (trimmed c.name)) (trimmed c.name)
        { p with name := trimmed c.name }) := by
  intro k
  rw [c.find?_record, PortCall.callsOf_append, List.foldl_append, PortCall.callsOf_singleton,
    find?_renamePort hp]
  unfold rebase
  by_cases hnew : k = trimmed c.name
  · subst hnew
    rw [PortCall.callsOf_map fun e he => renamed_eq_new_iff (h.ne_of_entry hfree he), if_pos rfl,
      if_pos rfl, if_pos rfl, ← h old, hp]
    simp [PortCall.note, hcalled]
  · rw [if_neg (Ne.symm hnew), if_neg (Ne.symm hnew), if_neg (Ne.symm hnew), if_neg hnew,
      List.foldl_nil]
    by_cases hold : k = old
    · subst hold
      have hentries : PortCall.callsOf k
          (entries.map fun e => (e.1, renamed k (trimmed c.name) e.2)) = [] := by
        refine PortCall.callsOf_eq_nil fun e he => ?_
        obtain ⟨e', -, rfl⟩ := List.mem_map.1 he
        exact renamed_ne_old hnew e'.2
      rw [hentries, if_pos rfl, if_pos rfl, List.foldl_nil]
    · rw [PortCall.callsOf_map fun e _ => renamed_eq_iff_of_ne hold hnew, if_neg (Ne.symm hold),
        if_neg hold, h k]

/-- The call is the first entry of the port that it added. -/
theorem Accounts.record_added (h : Accounts base entries d) {c : PortCall}
    (hfree : d.ports.find? (trimmed c.name) = none) :
    Accounts base (entries.map (fun e => (e.1, id e.2)) ++ [(c, trimmed c.name)])
      (c.record
        { d with ports := d.ports.insert (trimmed c.name) (.blank (trimmed c.name)) }
        (trimmed c.name) (.blank (trimmed c.name))) := by
  have hcalled : (Port.blank (trimmed c.name)).called (trimmed c.name) =
      .blank (trimmed c.name) := Port.called_of_le (Nat.le_refl _)
  intro k
  rw [c.find?_record, PortCall.callsOf_append, List.foldl_append, PortCall.callsOf_singleton,
    PortCall.callsOf_map (σ := id) (j := k) (fun e _ => Iff.rfl), ← h k]
  split
  · rename_i hk
    subst hk
    simp [PortCall.note, hfree, hcalled]
  · rename_i hk
    exact SortedMap.find?_insert_of_ne (Ne.symm hk) ..

/-- One call: the ports follow their names, and the call is entered for the port it opened. -/
theorem Accounts.apply (hd : Linked d) (h : Accounts base entries d) (c : PortCall) :
    ∃ base', Carried base base' (c.follow d) ∧
      Accounts base'
        (entries.map (fun e => (e.1, c.follow d e.2)) ++ [(c, (d.openPort c.name).1)])
        (c.apply d) := by
  obtain ⟨key, d₁, p, hopens, hd₁, hp, hopen, happly⟩ := hd.apply_cases c
  rw [happly, hopen]
  cases hopens with
  | found hkey hq hlength =>
    rw [PortCall.follow_of_portKey? hkey hopen, renamed_same]
    refine ⟨base, .refl base, h.record_found hp (Port.called_of_le ?_)⟩
    rw [hd.own_name key p hp]
    exact hlength
  | @renamed old q hkey hq hfree hlength =>
    rw [PortCall.follow_of_portKey? hkey hopen]
    rw [find?_renamePort hq, if_pos rfl] at hp
    cases hp
    refine ⟨_, .rebase (h.base_eq_none hfree), h.record_renamed hq hfree (if_pos ?_)⟩
    rw [hd.own_name old q hq]
    exact hlength
  | added hkey hfree =>
    rw [PortCall.follow_of_added hkey]
    rw [SortedMap.find?_insert_self] at hp
    cases hp
    exact ⟨base, .refl base, h.record_added hfree⟩

/-! ## Runs -/

/-- A device after calls that open ports. -/
def run (d : Device) (calls : List PortCall) : Device := calls.foldl PortCall.apply d

theorem run_append (d : Device) (before behind : List PortCall) :
    d.run (before ++ behind) = (d.run before).run behind := List.foldl_append

theorem Linked.run (hd : Linked d) (calls : List PortCall) : Linked (d.run calls) := by
  induction calls generalizing d with
  | nil => exact hd
  | cons c calls ih => exact ih (hd.apply c)

theorem Accounts.run (hd : Linked d) (h : Accounts base entries d) (calls : List PortCall) :
    ∃ base', Carried base base' (d.heir calls) ∧
      Accounts base' (entries.map (fun e => (e.1, d.heir calls e.2)) ++ d.resolutions calls)
        (d.run calls) := by
  induction calls generalizing d base entries with
  | nil => exact ⟨base, .refl base, by simpa [heir, resolutions, Device.run] using h⟩
  | cons c calls ih =>
    obtain ⟨base₁, hcarried, h₁⟩ := h.apply hd c
    obtain ⟨base₂, hcarried', h₂⟩ := ih (hd.apply c) h₁
    refine ⟨base₂, hcarried.trans hcarried', ?_⟩
    have hentries : (entries.map (fun e => (e.1, c.follow d e.2)) ++
        [(c, (d.openPort c.name).1)]).map (fun e => (e.1, (c.apply d).heir calls e.2)) ++
          (c.apply d).resolutions calls =
        entries.map (fun e => (e.1, d.heir (c :: calls) e.2)) ++ d.resolutions (c :: calls) := by
      simp [heir, resolutions]
    rw [← hentries]
    exact h₂

theorem map_fst_resolutions (d : Device) (calls : List PortCall) :
    (d.resolutions calls).map Prod.fst = calls := by
  induction calls generalizing d with
  | nil => rfl
  | cons c calls ih => rw [resolutions, List.map_cons, ih]

/-- The ports of a device go on through the calls. -/
structure Keeps (d : Device) (calls : List PortCall) : Prop where
  /-- A port is found under its last name and is what the calls resolved to it make of it. -/
  heir_made : ∀ k p, d.ports.find? k = some p →
    (d.run calls).ports.find? (d.heir calls k) =
      (PortCall.callsOf (d.heir calls k) (d.resolutions calls)).foldl PortCall.note (some p)
  /-- Two ports do not become one. -/
  heir_inj : ∀ j k p q, d.ports.find? j = some p → d.ports.find? k = some q →
    d.heir calls j = d.heir calls k → j = k
  size_le : d.ports.size ≤ (d.run calls).ports.size

theorem Linked.heir_made (hd : Linked d) (calls : List PortCall) {k : String} {p : Port}
    (hp : d.ports.find? k = some p) :
    (d.run calls).ports.find? (d.heir calls k) =
      (PortCall.callsOf (d.heir calls k) (d.resolutions calls)).foldl PortCall.note (some p) := by
  have hstart : Accounts d.ports.find? [] d := fun k => rfl
  obtain ⟨base, hcarried, h⟩ := hstart.run hd calls
  rw [h, hcarried.of_base k p hp]
  rfl

theorem Linked.heir_inj (hd : Linked d) (calls : List PortCall) {j k : String} {p q : Port}
    (hp : d.ports.find? j = some p) (hq : d.ports.find? k = some q)
    (hjk : d.heir calls j = d.heir calls k) : j = k := by
  have hstart : Accounts d.ports.find? [] d := fun k => rfl
  obtain ⟨base, hcarried, -⟩ := hstart.run hd calls
  have hpj := hcarried.of_base j p hp
  have hqk := hcarried.of_base k q hq
  rw [hjk, hqk] at hpj
  cases hpj
  rw [← hd.own_name j p hp, hd.own_name k p hq]

theorem Linked.exists_heir (hd : Linked d) (calls : List PortCall) {k : String} {p : Port}
    (hp : d.ports.find? k = some p) :
    ∃ q, (d.run calls).ports.find? (d.heir calls k) = some q := by
  refine Option.isSome_iff_exists.1 ?_
  rw [hd.heir_made calls hp]
  exact PortCall.isSome_foldl_note (.inl rfl)

/-- The ports of a new device are those that calls were resolved to. -/
theorem find?_run_blank (name : String) (calls : List PortCall) (k : String) :
    ((blank name).run calls).ports.find? k =
      (PortCall.callsOf k ((blank name).resolutions calls)).foldl PortCall.note none := by
  have hstart : Accounts (fun _ => none) [] (blank name) := fun k => rfl
  obtain ⟨base, hcarried, h⟩ := hstart.run (linked_blank name) calls
  have hbase : base k = none := by
    cases hk : base k with
    | none => rfl
    | some p =>
      obtain ⟨j, hj, -⟩ := hcarried.to_base k p hk
      cases hj
  rw [h, hbase]
  rfl

theorem Linked.keeps (hd : Linked d) (calls : List PortCall) : Keeps d calls where
  heir_made _ _ hp := hd.heir_made calls hp
  heir_inj _ _ _ _ hp hq hjk := hd.heir_inj calls hp hq hjk
  size_le := by
    have hnodup : (d.ports.keys.map (d.heir calls)).Nodup := by
      refine List.Nodup.map_on (fun j hj k hk hjk => ?_) d.ports.nodup_keys
      obtain ⟨p, hp⟩ := SortedMap.mem_keys.1 hj
      obtain ⟨q, hq⟩ := SortedMap.mem_keys.1 hk
      exact hd.heir_inj calls hp hq hjk
    have hsub : d.ports.keys.map (d.heir calls) ⊆ (d.run calls).ports.keys := by
      intro k' hk'
      obtain ⟨k, hk, rfl⟩ := List.mem_map.1 hk'
      obtain ⟨p, hp⟩ := SortedMap.mem_keys.1 hk
      exact SortedMap.mem_keys.2 (hd.exists_heir calls hp)
    have := (List.subperm_of_subset hnodup hsub).length_le
    simpa [SortedMap.keys, SortedMap.size] using this

theorem mem_of_mem_callsOf {calls : List PortCall} {k : String} {c : PortCall}
    (hc : c ∈ PortCall.callsOf k (d.resolutions calls)) : c ∈ calls := by
  rw [← map_fst_resolutions d calls]
  exact List.mem_map_of_mem (PortCall.mem_callsOf.1 hc)

end Device

/-! ## Names and VLANs of ports -/

theorem Port.name_called (p : Port) (name : String) :
    (p.called name).name = if p.name.utf8ByteSize < name.utf8ByteSize then name else p.name := by
  unfold Port.called
  split <;> rfl

@[simp] theorem Port.vlans_called (p : Port) (name : String) : (p.called name).vlans = p.vlans := by
  unfold Port.called
  split <;> rfl

namespace PortCall

/-- A port is called by a longest one of its first name and the spellings of its calls. -/
theorem name_of_foldl_note {calls : List PortCall} {start : Option Port} {p : Port}
    (h : calls.foldl note start = some p) :
    ((∃ c ∈ calls, trimmed c.name = p.name) ∨ ∃ q, start = some q ∧ q.name = p.name) ∧
      (∀ c ∈ calls, (trimmed c.name).utf8ByteSize ≤ p.name.utf8ByteSize) ∧
      ∀ q, start = some q → q.name.utf8ByteSize ≤ p.name.utf8ByteSize := by
  induction calls generalizing start with
  | nil =>
    have hstart : start = some p := h
    refine ⟨.inr ⟨p, hstart, rfl⟩, by simp, fun q hq => ?_⟩
    rw [hstart] at hq
    cases hq
    exact Nat.le_refl _
  | cons c calls ih =>
    obtain ⟨hname, hlong, hstart⟩ := ih h
    -- the port after the first call has the longer of two names
    have hfirst := hstart _ rfl
    have hchoice : (c.onPort ((start.getD (.blank (trimmed c.name))).called (trimmed c.name))).name =
        if (start.getD (.blank (trimmed c.name))).name.utf8ByteSize <
          (trimmed c.name).utf8ByteSize then trimmed c.name
        else (start.getD (.blank (trimmed c.name))).name := by
      rw [name_onPort, Port.name_called]
    refine ⟨?_, ?_, fun q hq => ?_⟩
    · obtain ⟨c', hc', hn⟩ | ⟨q, hq, hn⟩ := hname
      · exact .inl ⟨c', List.mem_cons_of_mem c hc', hn⟩
      · cases hq
        rw [hchoice] at hn
        split at hn
        · exact .inl ⟨c, List.mem_cons_self, hn⟩
        · cases start with
          | none => exact .inl ⟨c, List.mem_cons_self, hn⟩
          | some r => exact .inr ⟨r, rfl, hn⟩
    · rw [List.forall_mem_cons]
      refine ⟨?_, hlong⟩
      rw [hchoice] at hfirst
      split at hfirst <;> omega
    · subst hq
      rw [hchoice] at hfirst
      simp only [Option.getD_some] at hfirst
      split at hfirst <;> omega

/-- The VLANs of a port are its own and those that its calls name. -/
theorem mem_vlans_of_foldl_note {calls : List PortCall} {start : Option Port} {p : Port}
    (h : calls.foldl note start = some p) (id : UInt16) :
    id ∈ p.vlans ↔ (∃ c ∈ calls, c.vlan? = some id) ∨ ∃ q, start = some q ∧ id ∈ q.vlans := by
  induction calls generalizing start with
  | nil =>
    have hstart : start = some p := h
    simp [hstart]
  | cons c calls ih =>
    rw [ih h]
    simp only [note, Option.some.injEq, exists_eq_left', mem_vlans_onPort, Port.vlans_called,
      List.exists_mem_cons_iff]
    cases start with
    | none => simp [Port.blank, or_comm]
    | some q => simp [or_assoc, or_left_comm]

end PortCall

end HostSurvey
