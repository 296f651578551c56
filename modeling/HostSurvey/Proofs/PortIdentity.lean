import HostSurvey.Proofs.PortHistory

/-!
# One interface, one port

Between names without blanks no two ports of a device are of one interface
(`Distinct`). `Interface.same` is not transitive, so this does not come from the
look-up alone: a port that is given a longer name could come to be of the
interface of another one. It does not (`Distinct.eq_of_same_longer`), because two
names that shorten a third one are of one interface themselves.
-/

namespace HostSurvey

open Text

theorem utf8ByteSize_eq (s : String) : s.utf8ByteSize = String.utf8Len s.toList := by
  rw [← String.utf8ByteSize_ofList, String.ofList_toList]

namespace Device

variable {d d₁ : Device}

/-- The names of ports are without blanks, and no two are of one interface. -/
structure Distinct (d : Device) : Prop where
  unbroken : ∀ k p, d.ports.find? k = some p → Unbroken k.toList
  apart : ∀ j k p q, d.ports.find? j = some p → d.ports.find? k = some q →
    Interface.same j.toList k.toList = true → j = k

theorem distinct_blank (name : String) : Distinct (blank name) where
  unbroken := by intro k p hp; cases hp
  apart := by intro j k p q hp; cases hp

theorem Distinct.addPort (hd : Distinct d) {name : String} (hname : Unbroken name.toList)
    (hkey : d.portKey? name = none) :
    Distinct { d with ports := d.ports.insert name (.blank name) } := by
  obtain ⟨-, hnone⟩ := portKey?_eq_none hkey
  have hfind {k : String} {p : Port}
      (hp : (d.ports.insert name (.blank name)).find? k = some p) :
      k = name ∨ d.ports.find? k = some p := by
    rw [SortedMap.find?_insert] at hp
    split at hp
    · rename_i hk
      exact .inl hk.symm
    · exact .inr hp
  constructor
  · intro k p hp
    obtain rfl | hp := hfind hp
    · exact hname
    · exact hd.unbroken k p hp
  · intro j k p q hp hq hsame
    obtain rfl | hp' := hfind hp <;> obtain rfl | hq' := hfind hq
    · rfl
    · rw [Interface.same_comm, hnone k q hq'] at hsame
      cases hsame
    · rw [hnone j p hp'] at hsame
      cases hsame
    · exact hd.apart j k p q hp' hq' hsame

/-- A name that a port shortens is of the interface of that port alone. -/
theorem Distinct.eq_of_same_longer (hd : Distinct d) {old new k : String} {p q : Port}
    (hp : d.ports.find? old = some p) (hq : d.ports.find? k = some q)
    (hnew : Unbroken new.toList) (hshort : Interface.Shortens old.toList new.toList)
    (hsame : Interface.same new.toList k.toList = true) : k = old := by
  have hold := hd.unbroken old p hp
  have hk := hd.unbroken k q hq
  refine (hd.apart old k p q hp hq ?_).symm
  rcases Nat.le_total (String.utf8Len k.toList) (String.utf8Len new.toList) with hle | hle
  · -- both shorten the new name
    exact hshort.same hold hk hnew ⟨by rwa [Interface.same_comm], hle⟩
  · -- the new name shortens the other one, and so does the old name
    exact (hshort.trans hold hnew hk ⟨hsame, hle⟩).1

theorem Distinct.renamePort (hd : Distinct d) {old new : String} {p : Port}
    (hp : d.ports.find? old = some p) (hnew : Unbroken new.toList)
    (hshort : Interface.Shortens old.toList new.toList) : Distinct (d.renamePort old new) := by
  have hfind {k : String} {q : Port} (hq : (d.renamePort old new).ports.find? k = some q) :
      k = new ∨ (k ≠ old ∧ d.ports.find? k = some q) := by
    rw [find?_renamePort hp] at hq
    split at hq
    · rename_i hk
      exact .inl hk.symm
    · split at hq
      · cases hq
      · rename_i hk
        exact .inr ⟨Ne.symm hk, hq⟩
  constructor
  · intro k q hq
    obtain rfl | ⟨-, hq⟩ := hfind hq
    · exact hnew
    · exact hd.unbroken k q hq
  · intro j k q r hq hr hsame
    obtain rfl | ⟨hj, hq'⟩ := hfind hq <;> obtain rfl | ⟨hk, hr'⟩ := hfind hr
    · rfl
    · exact (hk (hd.eq_of_same_longer hp hr' hnew hshort hsame)).elim
    · rw [Interface.same_comm] at hsame
      exact (hj (hd.eq_of_same_longer hp hq' hnew hshort hsame)).elim
    · exact hd.apart j k q r hq' hr' hsame

/-- The name that a port is opened by shortens the one that it has then, and so does the name that
it had before. -/
theorem Opens.shortens {name key : String} (h : d.Opens name key d₁) :
    Interface.Shortens name.toList key.toList ∧
      ∀ k, d.portKey? name = some k → Interface.Shortens k.toList key.toList := by
  have hself (k : String) : Interface.Shortens k.toList k.toList :=
    ⟨Interface.same_refl _, Nat.le_refl _⟩
  cases h with
  | found hkey hp hlength =>
    refine ⟨⟨?_, ?_⟩, fun k hk => ?_⟩
    · rw [Interface.same_comm]
      exact (portKey?_eq_some hkey).2
    · rwa [← utf8ByteSize_eq, ← utf8ByteSize_eq]
    · rw [hkey] at hk
      cases hk
      exact hself key
  | renamed hkey hp hfree hlength =>
    refine ⟨hself name, fun k hk => ?_⟩
    rw [hkey] at hk
    cases hk
    refine ⟨(portKey?_eq_some hkey).2, ?_⟩
    rw [← utf8ByteSize_eq, ← utf8ByteSize_eq]
    exact Nat.le_of_lt hlength
  | added hkey hfree =>
    refine ⟨hself name, fun k hk => ?_⟩
    rw [hkey] at hk
    cases hk

theorem Distinct.opens (hd : Distinct d) {name key : String} (hname : Unbroken name.toList)
    (h : d.Opens name key d₁) : Distinct d₁ := by
  have hshort := h.shortens.2
  cases h with
  | found hkey hp hlength => exact hd
  | renamed hkey hp hfree hlength => exact hd.renamePort hp hname (hshort _ hkey)
  | added hkey hfree => exact hd.addPort hname hkey

theorem Distinct.record (hd : Distinct d) {key : String} {p : Port}
    (hp : d.ports.find? key = some p) (c : PortCall) : Distinct (c.record d key p) := by
  have hfind {k : String} {q : Port} (hq : (c.record d key p).ports.find? k = some q) :
      ∃ q', d.ports.find? k = some q' := by
    rw [c.find?_record] at hq
    split at hq
    · rename_i hk
      exact ⟨p, hk ▸ hp⟩
    · exact ⟨q, hq⟩
  constructor
  · intro k q hq
    obtain ⟨q', hq'⟩ := hfind hq
    exact hd.unbroken k q' hq'
  · intro j k q r hq hr hsame
    obtain ⟨q', hq'⟩ := hfind hq
    obtain ⟨r', hr'⟩ := hfind hr
    exact hd.apart j k q' r' hq' hr' hsame

theorem Distinct.apply (hd : Distinct d) (hl : Linked d) {c : PortCall}
    (hc : Unbroken c.name.toList) : Distinct (c.apply d) := by
  obtain ⟨key, d₁, p, hopens, hd₁, hp, hopen, happly⟩ := hl.apply_cases c
  rw [trimmed_of_unbroken hc] at hopens
  rw [happly]
  exact (hd.opens hc hopens).record hp c

/-- A port's name shortens the one that it has after a call. -/
theorem shortens_follow (d : Device) (c : PortCall) (k : String) :
    Interface.Shortens k.toList (c.follow d k).toList := by
  unfold PortCall.follow
  split
  · rename_i hkey
    exact (d.opens_openPort c.name).shortens.2 k hkey
  · exact ⟨Interface.same_refl _, Nat.le_refl _⟩

theorem Distinct.run (hd : Distinct d) (hl : Linked d) {calls : List PortCall}
    (hcalls : ∀ c ∈ calls, Unbroken c.name.toList) : Distinct (d.run calls) := by
  induction calls generalizing d with
  | nil => exact hd
  | cons c calls ih =>
    rw [List.forall_mem_cons] at hcalls
    exact ih (hd.apply hl hcalls.1) (hl.apply c) hcalls.2

/-- What was a name of a port shortens its later ones. -/
theorem Distinct.shortens_heir (hd : Distinct d) (hl : Linked d) {calls : List PortCall}
    (hcalls : ∀ c ∈ calls, Unbroken c.name.toList) {k : String} {p : Port}
    (hp : d.ports.find? k = some p) :
    Interface.Shortens k.toList (d.heir calls k).toList := by
  induction calls generalizing d k p with
  | nil => exact ⟨Interface.same_refl _, Nat.le_refl _⟩
  | cons c calls ih =>
    rw [List.forall_mem_cons] at hcalls
    have hd' := hd.apply hl hcalls.1
    have hl' := hl.apply c
    obtain ⟨q, hq⟩ : ∃ q, (c.apply d).ports.find? (c.follow d k) = some q :=
      hl.exists_heir [c] hp
    obtain ⟨r, hr⟩ := hl'.exists_heir calls hq
    exact (shortens_follow d c k).trans (hd.unbroken k p hp) (hd'.unbroken _ q hq)
      ((hd'.run hl' hcalls.2).unbroken _ r hr) (ih hd' hl' hcalls.2 hq)

/-- The name in a call shortens the name of the port that it was resolved to. -/
theorem Distinct.shortens_of_mem_resolutions (hd : Distinct d) (hl : Linked d)
    {calls : List PortCall} (hcalls : ∀ c ∈ calls, Unbroken c.name.toList)
    {e : PortCall × String} (he : e ∈ d.resolutions calls) :
    Interface.Shortens e.1.name.toList e.2.toList := by
  induction calls generalizing d with
  | nil => cases he
  | cons c calls ih =>
    rw [List.forall_mem_cons] at hcalls
    have hd' := hd.apply hl hcalls.1
    have hl' := hl.apply c
    obtain rfl | he := List.mem_cons.1 he
    · obtain ⟨key, d₁, p, hopens, hd₁, hp, hopen, happly⟩ := hl.apply_cases c
      rw [trimmed_of_unbroken hcalls.1] at hopens
      have hq : (c.apply d).ports.find? key = some (c.onPort p) := by
        rw [happly, c.find?_record, if_pos rfl]
      obtain ⟨r, hr⟩ := hl'.exists_heir calls hq
      rw [hopen]
      exact hopens.shortens.1.trans hcalls.1 (hd'.unbroken key _ hq)
        ((hd'.run hl' hcalls.2).unbroken _ r hr) (hd'.shortens_heir hl' hcalls.2 hq)
    · exact ih hd' hl' hcalls.2 he

/-- A port of a new device is called by the name in one of its calls. -/
theorem exists_call_named {name : String} {calls : List PortCall}
    (hcalls : ∀ c ∈ calls, Unbroken c.name.toList) {k : String} {p : Port}
    (hp : ((blank name).run calls).ports.find? k = some p) :
    ∃ c ∈ PortCall.callsOf k ((blank name).resolutions calls), c.name = k := by
  have hname : p.name = k := ((linked_blank name).run calls).own_name k p hp
  rw [find?_run_blank] at hp
  obtain ⟨⟨c, hc, hcname⟩ | ⟨q, hq, -⟩, -, -⟩ := PortCall.name_of_foldl_note hp
  · refine ⟨c, hc, ?_⟩
    rw [← hname, ← hcname, trimmed_of_unbroken (hcalls c (mem_of_mem_callsOf hc))]
  · cases hq

/-- After calls by names without blanks no two ports of a new device are of one interface. All that
was recorded of a port is still there, under the port's last name, and ports do not get fewer. Each
call is resolved to one port, each port is what its calls have made from nothing, and its name is a
longest one of theirs. -/
theorem one_interface_one_port (name : String) (calls : List PortCall)
    (hcalls : ∀ c ∈ calls, Unbroken c.name.toList) :
    (∀ j k p q, ((blank name).run calls).ports.find? j = some p →
        ((blank name).run calls).ports.find? k = some q → j ≠ k →
        Interface.same j.toList k.toList = false) ∧
      (∀ before behind, calls = before ++ behind →
        (blank name).run calls = ((blank name).run before).run behind ∧
          ((blank name).run before).Keeps behind) ∧
      ((blank name).resolutions calls).map Prod.fst = calls ∧
      ∀ k, ((blank name).run calls).ports.find? k =
          (PortCall.callsOf k ((blank name).resolutions calls)).foldl PortCall.note none ∧
        ∀ p, ((blank name).run calls).ports.find? k = some p → p.name = k ∧
          (∃ c ∈ PortCall.callsOf k ((blank name).resolutions calls), c.name = k) ∧
          ∀ c ∈ PortCall.callsOf k ((blank name).resolutions calls),
            Interface.same c.name.toList k.toList = true ∧
              c.name.utf8ByteSize ≤ k.utf8ByteSize := by
  have hl := linked_blank name
  have hd := distinct_blank name
  refine ⟨fun j k p q hp hq hne => ?_, fun before behind hsplit => ⟨by rw [hsplit, run_append],
    (hl.run before).keeps behind⟩, map_fst_resolutions .., fun k => ⟨find?_run_blank .., fun p hp =>
      ⟨(hl.run calls).own_name k p hp, exists_call_named hcalls hp, fun c hc => ?_⟩⟩⟩
  · rw [← Bool.not_eq_true]
    exact fun hsame => hne ((hd.run hl hcalls).apart j k p q hp hq hsame)
  · obtain ⟨hsame, hle⟩ := hd.shortens_of_mem_resolutions hl hcalls (PortCall.mem_callsOf.1 hc)
    rw [utf8ByteSize_eq, utf8ByteSize_eq]
    exact ⟨hsame, hle⟩

/-- Two ports by short names, then the same by longer names and in other letters. -/
def spelledTwice : List PortCall :=
  [.edit "Gi0/1" (.describe "uplink"), .join "Fa0/3" 20,
    .learn (some 7) (.ofNat 1) "GigabitEthernet0/1", .edit "fa0/3" (.describe "desk")]

/-- The longer name finds the port of the shorter one, which keeps its description and takes on the
VLAN and the address; the other port keeps the first spelling, as the second is no longer. -/
theorem spelledTwice_two_ports :
    (∀ c ∈ spelledTwice, Unbroken c.name.toList) ∧
      ∃ p q, ((blank "sw").run spelledTwice).ports.find? "GigabitEthernet0/1" = some p ∧
        ((blank "sw").run spelledTwice).ports.find? "Fa0/3" = some q ∧
        ((blank "sw").run spelledTwice).ports.size = 2 ∧
        p.name = "GigabitEthernet0/1" ∧ p.description = some "uplink" ∧ 7 ∈ p.vlans ∧
        q.name = "Fa0/3" ∧ q.description = some "desk" ∧
        Interface.same "GigabitEthernet0/1".toList "Fa0/3".toList = false ∧
        (blank "sw").Keeps spelledTwice := by
  have hnames : ∀ c ∈ spelledTwice, Unbroken c.name.toList := by decide +kernel
  obtain ⟨happart, hkeeps, -, hmade⟩ := one_interface_one_port "sw" spelledTwice hnames
  have hfirst : (((blank "sw").run spelledTwice).ports.find? "GigabitEthernet0/1").map
      (fun p => (p.description, p.vlans.toList)) = some (some "uplink", [7]) := by decide +kernel
  have hsecond : (((blank "sw").run spelledTwice).ports.find? "Fa0/3").map
      Port.description = some (some "desk") := by decide +kernel
  have hsize : ((blank "sw").run spelledTwice).ports.size = 2 := by decide +kernel
  obtain ⟨p, hp, hpfacts⟩ := Option.map_eq_some_iff.1 hfirst
  obtain ⟨q, hq, hqfacts⟩ := Option.map_eq_some_iff.1 hsecond
  obtain ⟨hdescription, hvlans⟩ := Prod.mk.injEq .. ▸ hpfacts
  refine ⟨hnames, p, q, hp, hq, hsize, ((hmade _).2 p hp).1, hdescription, ?_, ((hmade _).2 q hq).1,
    hqfacts, happart _ _ p q hp hq (by decide +kernel), (hkeeps [] spelledTwice rfl).2⟩
  rw [SortedSet.mem_def, hvlans]
  exact List.mem_singleton_self 7

end Device

end HostSurvey
