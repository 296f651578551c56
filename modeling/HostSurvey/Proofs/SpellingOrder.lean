import HostSurvey.Proofs.PortIdentity
import Mathlib.Tactic.Choose

/-!
# The order of spellings

What calls leave of a new device depends on the ports that they are resolved to,
not on their order: a port has what its calls record of it, a VLAN what its calls
teach it, and the table of addresses has the rows of all calls
(`agree_of_perm`). Where the names fall into classes of one interface each, with
one longest name in each class, a call is resolved to the longest name of its
class, whenever that name is met.
-/

namespace HostSurvey

open Text

/-- What a port has that others refer to. -/
def Port.references (p : Port) : String × SortedSet UInt16 × SortedSet Mac :=
  (p.name, p.vlans, p.connections)

/-- The row, with its port under the name that `σ` gives. -/
def MacRow.mapPort (σ : String → String) (r : MacRow) : MacRow := { r with port := σ r.port }

namespace Vlan

/-- A VLAN apart from its members. -/
def withoutPorts (v : Vlan) : Vlan := { v with ports := .empty }

@[simp] theorem withoutPorts_renamePort (old new : String) (v : Vlan) :
    (v.renamePort old new).withoutPorts = v.withoutPorts := by
  unfold renamePort
  split <;> rfl

theorem eq_of_withoutPorts_eq {v w : Vlan} (hrest : v.withoutPorts = w.withoutPorts)
    (hports : v.ports = w.ports) : v = w := by
  cases v
  cases w
  simp_all [withoutPorts]

theorem addMac_addMac (v : Vlan) (mac mac' : Mac) :
    (v.addMac mac).addMac mac' = (v.addMac mac').addMac mac := by
  have hmacs : (v.macs.insert mac).insert mac' = (v.macs.insert mac').insert mac := by
    refine SortedSet.ext fun m => ?_
    simp only [SortedSet.mem_insert]
    exact or_left_comm
  unfold addMac
  rw [hmacs]

end Vlan

/-! ## What calls leave beside the ports -/

namespace PortCall

/-- What a call tells a VLAN, apart from the member. -/
def teach (c : PortCall) (v : Vlan) : Vlan :=
  match c.mac? with
  | some mac => v.addMac mac
  | none => v

theorem withoutPorts_onVlan (c : PortCall) (key : String) (v : Vlan) :
    (c.onVlan key v).withoutPorts = c.teach v.withoutPorts := by
  cases c <;> rfl

theorem teach_teach (b c : PortCall) (v : Vlan) : b.teach (c.teach v) = c.teach (b.teach v) := by
  unfold teach
  cases b.mac? <;> cases c.mac? <;> first | rfl | exact v.addMac_addMac ..

/-- A VLAN apart from its members, or a new one, after a call. -/
def noteVlan (id : UInt16) (v : Option Vlan) (c : PortCall) : Option Vlan :=
  if c.vlan? = some id then some (c.teach (v.getD (.blank id))) else v

theorem noteVlan_noteVlan (id : UInt16) (v : Option Vlan) (b c : PortCall) :
    noteVlan id (noteVlan id v b) c = noteVlan id (noteVlan id v c) b := by
  unfold noteVlan
  by_cases hb : b.vlan? = some id <;> by_cases hc : c.vlan? = some id <;>
    simp [hb, hc, teach_teach b c]

theorem map_withoutPorts_record (c : PortCall) (d : Device) (key : String) (p : Port)
    (id : UInt16) :
    ((c.record d key p).vlans.find? id).map Vlan.withoutPorts =
      noteVlan id ((d.vlans.find? id).map Vlan.withoutPorts) c := by
  rw [vlan?_record]
  unfold noteVlan
  split
  · rw [Option.map_some, withoutPorts_onVlan]
    cases d.vlans.find? id <;> rfl
  · rfl

theorem rows_mapPort (c : PortCall) (key : String) (σ : String → String) :
    (c.rows key).map (MacRow.mapPort σ) = c.rows (σ key) := by
  cases c <;> rfl

end PortCall

namespace Device

variable {d d₁ : Device}

theorem Opens.map_withoutPorts {name key : String} (h : d.Opens name key d₁) (id : UInt16) :
    (d₁.vlans.find? id).map Vlan.withoutPorts = (d.vlans.find? id).map Vlan.withoutPorts := by
  cases h with
  | found | added => rfl
  | renamed =>
    rw [vlan?_renamePort, Option.map_map]
    congr 1
    funext v
    exact Vlan.withoutPorts_renamePort ..

/-- The VLANs are, apart from their members, what the calls make of them. -/
theorem Linked.map_withoutPorts_run (hd : Linked d) (calls : List PortCall) (id : UInt16) :
    ((d.run calls).vlans.find? id).map Vlan.withoutPorts =
      calls.foldl (PortCall.noteVlan id) ((d.vlans.find? id).map Vlan.withoutPorts) := by
  induction calls generalizing d with
  | nil => rfl
  | cons c calls ih =>
    obtain ⟨key, d₁, p, hopens, -, -, -, happly⟩ := hd.apply_cases c
    have hstep : ((c.apply d).vlans.find? id).map Vlan.withoutPorts =
        PortCall.noteVlan id ((d.vlans.find? id).map Vlan.withoutPorts) c := by
      rw [happly, c.map_withoutPorts_record, hopens.map_withoutPorts]
    exact (ih (hd.apply c)).trans (by rw [hstep, List.foldl_cons])

/-- A call renames the ports of the rows with the ports, and adds its own rows. -/
theorem Linked.macTable_apply (hd : Linked d) (c : PortCall) :
    (c.apply d).macTable =
      d.macTable.map (MacRow.mapPort (c.follow d)) ++ c.rows (d.openPort c.name).1 := by
  obtain ⟨key, d₁, p, hopens, -, -, hopen, happly⟩ := hd.apply_cases c
  have hrows : d₁.macTable = d.macTable.map (MacRow.mapPort (c.follow d)) := by
    cases hopens with
    | found hkey =>
      rw [PortCall.follow_of_portKey? hkey hopen, renamed_same]
      exact (List.map_id _).symm
    | renamed hkey =>
      rw [PortCall.follow_of_portKey? hkey hopen]
      exact List.map_congr_left fun r _ => r.renamePort_eq ..
    | added hkey =>
      rw [PortCall.follow_of_added hkey]
      exact (List.map_id _).symm
  rw [happly, hopen]
  exact congrArg (· ++ c.rows key) hrows

/-- The rows of a run are those from before and those of the calls, under the last names of the
ports. -/
theorem Linked.macTable_run (hd : Linked d) (calls : List PortCall) :
    (d.run calls).macTable =
      d.macTable.map (MacRow.mapPort (d.heir calls)) ++
        (d.resolutions calls).flatMap fun e => e.1.rows e.2 := by
  induction calls generalizing d with
  | nil =>
    have hself : d.macTable.map (MacRow.mapPort (d.heir [])) = d.macTable := List.map_id _
    rw [hself]
    exact (List.append_nil _).symm
  | cons c calls ih =>
    have hrun : d.run (c :: calls) = (c.apply d).run calls := rfl
    rw [hrun, ih (hd.apply c), hd.macTable_apply c, List.map_append, PortCall.rows_mapPort,
      List.map_map, List.append_assoc]
    rfl

theorem macTable_run_blank (name : String) (calls : List PortCall) :
    ((blank name).run calls).macTable =
      ((blank name).resolutions calls).flatMap fun e => e.1.rows e.2 :=
  (linked_blank name).macTable_run calls

theorem exists_port_run_blank {name : String} {calls : List PortCall} {k : String} :
    (∃ p, ((blank name).run calls).ports.find? k = some p) ↔
      ∃ c, (c, k) ∈ (blank name).resolutions calls := by
  constructor
  · rintro ⟨p, hp⟩
    rw [find?_run_blank] at hp
    obtain ⟨⟨c, hc, -⟩ | ⟨q, hq, -⟩, -, -⟩ := PortCall.name_of_foldl_note hp
    · exact ⟨c, PortCall.mem_callsOf.1 hc⟩
    · cases hq
  · rintro ⟨c, hc⟩
    rw [find?_run_blank]
    exact Option.isSome_iff_exists.1
      (PortCall.isSome_foldl_note (.inr (List.ne_nil_of_mem (PortCall.mem_callsOf.2 hc))))

theorem mem_vlans_run_blank {name : String} {calls : List PortCall} {k : String} {p : Port}
    (hp : ((blank name).run calls).ports.find? k = some p) (id : UInt16) :
    id ∈ p.vlans ↔ ∃ c, (c, k) ∈ (blank name).resolutions calls ∧ c.vlan? = some id := by
  rw [find?_run_blank] at hp
  rw [PortCall.mem_vlans_of_foldl_note hp]
  simp [PortCall.mem_callsOf]

/-- The members of a VLAN are the ports that name it. -/
theorem Linked.mem_ports_iff (hd : Linked d) {id : UInt16} {v : Vlan}
    (hv : d.vlans.find? id = some v) (k : String) :
    k ∈ v.ports ↔ ∃ p, d.ports.find? k = some p ∧ id ∈ p.vlans := by
  constructor
  · intro hk
    obtain ⟨p, hp⟩ := hd.member_exists id v hv k hk
    exact ⟨p, hp, (hd.mem_vlans_iff k p hp id).2 ⟨v, hv, by rwa [hd.own_name k p hp]⟩⟩
  · rintro ⟨p, hp, hid⟩
    obtain ⟨w, hw, hmem⟩ := (hd.mem_vlans_iff k p hp id).1 hid
    rw [hv] at hw
    cases hw
    rwa [hd.own_name k p hp] at hmem

theorem mem_ports_run_blank {name : String} {calls : List PortCall} {id : UInt16} {v : Vlan}
    (hv : ((blank name).run calls).vlans.find? id = some v) (k : String) :
    k ∈ v.ports ↔ ∃ c, (c, k) ∈ (blank name).resolutions calls ∧ c.vlan? = some id := by
  rw [((linked_blank name).run calls).mem_ports_iff hv]
  constructor
  · rintro ⟨p, hp, hid⟩
    exact (mem_vlans_run_blank hp id).1 hid
  · rintro ⟨c, hc, hid⟩
    obtain ⟨p, hp⟩ := exists_port_run_blank.2 ⟨c, hc⟩
    exact ⟨p, hp, (mem_vlans_run_blank hp id).2 ⟨c, hc, hid⟩⟩

/-! ## Runs that are resolved alike -/

/-- Devices have the same ports, VLANs and addresses. -/
structure Agree (d e : Device) : Prop where
  ports : d.ports.mapValues Port.references = e.ports.mapValues Port.references
  vlans : d.vlans = e.vlans
  macTable : d.macTable.Perm e.macTable

section Perm

variable {name : String} {calls calls' : List PortCall}
  (hperm : ((blank name).resolutions calls).Perm ((blank name).resolutions calls'))

include hperm

theorem macTable_perm :
    ((blank name).run calls).macTable.Perm ((blank name).run calls').macTable := by
  rw [macTable_run_blank, macTable_run_blank]
  exact hperm.flatMap_right _

theorem exists_references_eq {k : String} {p : Port}
    (hp : ((blank name).run calls).ports.find? k = some p) :
    ∃ q, ((blank name).run calls').ports.find? k = some q ∧ p.references = q.references := by
  have hl := (linked_blank name).run calls
  have hl' := (linked_blank name).run calls'
  obtain ⟨c, hc⟩ := exists_port_run_blank.1 ⟨p, hp⟩
  obtain ⟨q, hq⟩ := exists_port_run_blank.2 ⟨c, hperm.mem_iff.1 hc⟩
  have hvlans : p.vlans = q.vlans := SortedSet.ext fun id => by
    rw [mem_vlans_run_blank hp, mem_vlans_run_blank hq]
    simp only [hperm.mem_iff]
  have hconnections : p.connections = q.connections := SortedSet.ext fun mac => by
    rw [hl.mem_connections_iff k p hp, hl'.mem_connections_iff k q hq]
    simp only [(macTable_perm hperm).mem_iff]
  refine ⟨q, hq, ?_⟩
  unfold Port.references
  rw [hl.own_name k p hp, hl'.own_name k q hq, hvlans, hconnections]

theorem ports_references_eq :
    ((blank name).run calls).ports.mapValues Port.references =
      ((blank name).run calls').ports.mapValues Port.references := by
  refine SortedMap.ext fun k => ?_
  rw [SortedMap.find?_mapValues, SortedMap.find?_mapValues]
  cases hp : ((blank name).run calls).ports.find? k with
  | some p =>
    obtain ⟨q, hq, hpq⟩ := exists_references_eq hperm hp
    rw [hq, Option.map_some, Option.map_some, hpq]
  | none =>
    cases hq : ((blank name).run calls').ports.find? k with
    | none => rfl
    | some q =>
      obtain ⟨p, hp', -⟩ := exists_references_eq hperm.symm hq
      rw [hp] at hp'
      cases hp'

/-- A run leaves what its calls record of the ports that they are resolved to, in any order. -/
theorem agree_of_perm : Agree ((blank name).run calls) ((blank name).run calls') where
  ports := ports_references_eq hperm
  macTable := macTable_perm hperm
  vlans := by
    refine SortedMap.ext fun id => ?_
    have hcalls : calls.Perm calls' := by
      have := hperm.map Prod.fst
      rwa [map_fst_resolutions, map_fst_resolutions] at this
    have hrest : (((blank name).run calls).vlans.find? id).map Vlan.withoutPorts =
        (((blank name).run calls').vlans.find? id).map Vlan.withoutPorts := by
      rw [(linked_blank name).map_withoutPorts_run, (linked_blank name).map_withoutPorts_run]
      exact hcalls.foldl_eq' (fun b _ c _ v => PortCall.noteVlan_noteVlan id v b c) _
    -- the members are those that the ports tell
    cases hv : ((blank name).run calls).vlans.find? id with
    | none =>
      rw [hv, Option.map_none, eq_comm, Option.map_eq_none_iff] at hrest
      exact hrest.symm
    | some v =>
      rw [hv, Option.map_some, eq_comm, Option.map_eq_some_iff] at hrest
      obtain ⟨w, hw, hvw⟩ := hrest
      rw [hw, Vlan.eq_of_withoutPorts_eq hvw.symm]
      refine SortedSet.ext fun k => ?_
      rw [mem_ports_run_blank hv, mem_ports_run_blank hw]
      simp only [hperm.mem_iff]

end Perm

end Device

/-! ## Classes of spellings -/

/-- The name is longer than the others of its class. -/
def Longest {ι : Type*} (cls : String → ι) (names : List String) (l : String) : Prop :=
  l ∈ names ∧ ∀ b ∈ names, cls b = cls l → b ≠ l → b.utf8ByteSize < l.utf8ByteSize

/-- The classes are the interfaces that the names are of, and each has a longest name. -/
structure Classed {ι : Type*} (cls : String → ι) (names : List String) : Prop where
  same_iff : ∀ a ∈ names, ∀ b ∈ names,
    Interface.same a.toList b.toList = true ↔ cls a = cls b
  longest : ∀ a ∈ names, ∃ l, Longest cls names l ∧ cls l = cls a

section Classes

variable {ι : Type*} {cls : String → ι} {names names' : List String}

instance [DecidableEq ι] (l : String) : Decidable (Longest cls names l) :=
  inferInstanceAs (Decidable (_ ∧ _))

instance [DecidableEq ι] : Decidable (Classed cls names) :=
  decidable_of_iff
    ((∀ a ∈ names, ∀ b ∈ names, Interface.same a.toList b.toList = true ↔ cls a = cls b) ∧
      ∀ a ∈ names, ∃ l ∈ names, Longest cls names l ∧ cls l = cls a)
    ⟨fun ⟨hsame, hlongest⟩ => ⟨hsame, fun a ha => let ⟨l, _, hl⟩ := hlongest a ha; ⟨l, hl⟩⟩,
      fun h => ⟨h.same_iff, fun a ha => let ⟨l, hl⟩ := h.longest a ha; ⟨l, hl.1.1, hl⟩⟩⟩

theorem Longest.perm (hperm : names.Perm names') {l : String} (h : Longest cls names l) :
    Longest cls names' l :=
  ⟨hperm.mem_iff.1 h.1, fun b hb => h.2 b (hperm.mem_iff.2 hb)⟩

theorem Classed.perm (hperm : names.Perm names') (h : Classed cls names) : Classed cls names' where
  same_iff a ha b hb := h.same_iff a (hperm.mem_iff.2 ha) b (hperm.mem_iff.2 hb)
  longest a ha := by
    obtain ⟨l, hl, hcls⟩ := h.longest a (hperm.mem_iff.2 ha)
    exact ⟨l, hl.perm hperm, hcls⟩

namespace Device

section Resolved

variable {name : String} {calls : List PortCall}
  (hcalls : ∀ c ∈ calls, Unbroken c.name.toList)
  (hclassed : Classed cls (calls.map PortCall.name))

include hcalls hclassed

/-- A call is resolved to a port of its class, whose name is one of those in the calls and is no
shorter than its own. -/
theorem port_of_mem_resolutions {c : PortCall} {k : String}
    (hc : (c, k) ∈ (blank name).resolutions calls) :
    (∃ p, ((blank name).run calls).ports.find? k = some p) ∧ k ∈ calls.map PortCall.name ∧
      cls c.name = cls k ∧ c.name.utf8ByteSize ≤ k.utf8ByteSize := by
  obtain ⟨p, hp⟩ := exists_port_run_blank.2 ⟨c, hc⟩
  obtain ⟨b, hb, hbname⟩ := exists_call_named hcalls hp
  have hk : k ∈ calls.map PortCall.name := List.mem_map.2 ⟨b, mem_of_mem_callsOf hb, hbname⟩
  have hcmem : c ∈ calls := mem_of_mem_callsOf (PortCall.mem_callsOf.2 hc)
  obtain ⟨hsame, hle⟩ :=
    (distinct_blank name).shortens_of_mem_resolutions (linked_blank name) hcalls hc
  refine ⟨⟨p, hp⟩, hk, ?_, by rwa [utf8ByteSize_eq, utf8ByteSize_eq]⟩
  exact (hclassed.same_iff _ (List.mem_map_of_mem hcmem) _ hk).1 hsame

/-- The port is called by the longest name of the class. -/
theorem eq_of_longest {c : PortCall} {k l : String} (hc : (c, k) ∈ (blank name).resolutions calls)
    (hl : Longest cls (calls.map PortCall.name) l) (hcls : cls l = cls c.name) : k = l := by
  obtain ⟨⟨p, hp⟩, hk, hck, -⟩ := port_of_mem_resolutions hcalls hclassed hc
  -- the call by the longest name is resolved to a port, and no other name is long enough for it
  obtain ⟨b, hb, hbname⟩ := List.mem_map.1 hl.1
  obtain ⟨j, hj⟩ : ∃ j, (b, j) ∈ (blank name).resolutions calls := by
    rw [← map_fst_resolutions (blank name) calls] at hb
    obtain ⟨e, he, rfl⟩ := List.mem_map.1 hb
    exact ⟨e.2, he⟩
  obtain ⟨⟨q, hq⟩, hjmem, hbj, hle⟩ := port_of_mem_resolutions hcalls hclassed hj
  rw [hbname] at hbj hle
  have hjl : j = l := by
    by_contra hne
    have := hl.2 j hjmem hbj.symm hne
    omega
  subst hjl
  refine ((distinct_blank name).run (linked_blank name) hcalls).apart k j p q hp hq ?_
  exact (hclassed.same_iff k hk j hl.1).2 (hck.symm.trans hcls.symm)

theorem resolutions_eq_map {lead : String → String}
    (hlead : ∀ a ∈ calls.map PortCall.name,
      Longest cls (calls.map PortCall.name) (lead a) ∧ cls (lead a) = cls a) :
    (blank name).resolutions calls = calls.map fun c => (c, lead c.name) := by
  have hentry : ∀ e ∈ (blank name).resolutions calls, e = (e.1, lead e.1.name) := by
    intro e he
    have hmem : e.1 ∈ calls := mem_of_mem_callsOf (PortCall.mem_callsOf.2 he)
    obtain ⟨hlongest, hcls⟩ := hlead _ (List.mem_map_of_mem hmem)
    exact Prod.ext rfl (eq_of_longest hcalls hclassed he hlongest hcls)
  calc (blank name).resolutions calls
      = ((blank name).resolutions calls).map fun e => (e.1, lead e.1.name) :=
        (List.map_id _).symm.trans (List.map_congr_left hentry)
    _ = (((blank name).resolutions calls).map Prod.fst).map fun c => (c, lead c.name) :=
        by rw [List.map_map]; rfl
    _ = calls.map fun c => (c, lead c.name) := by rw [map_fst_resolutions]

end Resolved

/-- The calls are resolved to the same ports in every order. -/
theorem resolutions_perm {name : String} {calls calls' : List PortCall}
    (hcalls : ∀ c ∈ calls, Unbroken c.name.toList)
    (hclassed : Classed cls (calls.map PortCall.name)) (hperm : calls.Perm calls') :
    ((blank name).resolutions calls).Perm ((blank name).resolutions calls') := by
  choose! lead hlead using hclassed.longest
  have hnames := hperm.map PortCall.name
  have hlead' : ∀ a ∈ calls'.map PortCall.name,
      Longest cls (calls'.map PortCall.name) (lead a) ∧ cls (lead a) = cls a := by
    intro a ha
    obtain ⟨hlongest, hcls⟩ := hlead a (hnames.mem_iff.2 ha)
    exact ⟨hlongest.perm hnames, hcls⟩
  have hcalls' : ∀ c ∈ calls', Unbroken c.name.toList :=
    fun c hc => hcalls c (hperm.mem_iff.2 hc)
  rw [resolutions_eq_map hcalls hclassed hlead,
    resolutions_eq_map hcalls' (hclassed.perm hnames) hlead']
  exact hperm.map _

/-- Calls in any order leave the same ports, VLANs and addresses, where each interface has one
longest name. -/
theorem spelling_order_irrelevant (name : String) (cls : String → ι) (calls calls' : List PortCall)
    (hcalls : ∀ c ∈ calls, Unbroken c.name.toList)
    (hclassed : Classed cls (calls.map PortCall.name)) (hperm : calls.Perm calls') :
    Agree ((blank name).run calls) ((blank name).run calls') :=
  agree_of_perm (resolutions_perm hcalls hclassed hperm)

/-- Short names first, and the long ones of the same two interfaces behind them. -/
def shortFirst : List PortCall :=
  [.learn (some 7) (.ofNat 1) "Gi0/1", .join "Fa0/3" 20, .join "GigabitEthernet0/1" 9,
    .learn none (.ofNat 2) "FastEthernet0/3"]

/-- The interfaces of `shortFirst` differ in the number of the port. -/
theorem shortFirst_agree :
    (∀ c ∈ shortFirst, Unbroken c.name.toList) ∧
      Classed (fun s => s.toList.getLast?) (shortFirst.map PortCall.name) ∧
      shortFirst.Perm shortFirst.reverse ∧
      Agree ((blank "sw").run shortFirst) ((blank "sw").run shortFirst.reverse) ∧
      ((blank "sw").run shortFirst).ports.keys = ["FastEthernet0/3", "GigabitEthernet0/1"] ∧
      ((blank "sw").run shortFirst).macTable ≠ ((blank "sw").run shortFirst.reverse).macTable := by
  have hcalls : ∀ c ∈ shortFirst, Unbroken c.name.toList := by decide +kernel
  have hclassed : Classed (fun s => s.toList.getLast?) (shortFirst.map PortCall.name) := by
    decide +kernel
  have hperm : shortFirst.Perm shortFirst.reverse := (List.reverse_perm _).symm
  exact ⟨hcalls, hclassed, hperm, spelling_order_irrelevant "sw" _ _ _ hcalls hclassed hperm,
    by decide +kernel, by decide +kernel⟩

end Device

end Classes

end HostSurvey
