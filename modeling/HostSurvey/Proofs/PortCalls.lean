import HostSurvey.Device.Basic
import HostSurvey.Proofs.Spelling

/-!
# Calls that open ports

Three operations open a port under some spelling of its name: an edit, joining a
VLAN and learning an address. Opening ends in one of three ways (`Opens`): the
port is found, or found and given a longer name, or added. `PortCall.apply_eq`
says once what a call does behind that, so that every property of devices below
is shown for the opening and for what is recorded afterwards.
-/

namespace HostSurvey

open Text

/-! ## Opening -/

theorem trimmed_trimmed (name : String) : trimmed (trimmed name) = trimmed name := by
  simp only [trimmed, String.toList_ofList, trim_trim]

theorem trimmed_of_unbroken {name : String} (h : Unbroken name.toList) : trimmed name = name := by
  rw [trimmed, trim_of_unbroken h, String.ofList_toList]

/-- The name that a port of the name `k` has once `old` is called `new`. -/
def renamed (old new k : String) : String := if k = old then new else k

@[simp] theorem renamed_self (old new : String) : renamed old new old = new := if_pos rfl

theorem renamed_of_ne {old k : String} (h : k ≠ old) (new : String) : renamed old new k = k :=
  if_neg h

theorem renamed_same (k : String) : renamed k k = id := by
  funext j
  unfold renamed
  split
  · rename_i h
    exact h.symm
  · rfl

theorem renamed_eq_new_iff {old new j : String} (hj : j ≠ new) :
    renamed old new j = new ↔ j = old := by
  unfold renamed
  by_cases h : j = old <;> simp [h, hj]

theorem renamed_ne_old {old new : String} (h : old ≠ new) (j : String) :
    renamed old new j ≠ old := by
  unfold renamed
  by_cases hj : j = old <;> simp [hj, Ne.symm h]

theorem renamed_eq_iff_of_ne {old new j k : String} (hold : k ≠ old) (hnew : k ≠ new) :
    renamed old new j = k ↔ j = k := by
  unfold renamed
  by_cases hj : j = old
  · subst hj
    simp [Ne.symm hold, Ne.symm hnew]
  · simp [hj]

/-- Names other than the new one stay apart. -/
theorem renamed_inj {old new j k : String} (hj : j ≠ new) (hk : k ≠ new) :
    renamed old new j = renamed old new k ↔ j = k := by
  by_cases hold : k = old
  · rw [hold, renamed_self, renamed_eq_new_iff hj]
  · rw [renamed_of_ne hold, renamed_eq_iff_of_ne hold hk]

theorem MacRow.renamePort_eq (old new : String) (r : MacRow) :
    r.renamePort old new = { r with port := renamed old new r.port } := by
  unfold renamePort renamed
  split <;> rfl

namespace Vlan

theorem mem_ports_renamePort {old new k : String} {v : Vlan} :
    k ∈ (v.renamePort old new).ports ↔ k = new ∧ old ∈ v.ports ∨ k ≠ old ∧ k ∈ v.ports := by
  unfold renamePort
  split
  · rename_i hold
    simp only [SortedSet.mem_insert, SortedSet.mem_erase, hold, and_true]
    exact or_congr_right and_comm
  · rename_i hold
    simp only [hold, and_false, false_or]
    exact ⟨fun hk => ⟨fun heq => hold (heq ▸ hk), hk⟩, And.right⟩

@[simp] theorem macs_renamePort (old new : String) (v : Vlan) :
    (v.renamePort old new).macs = v.macs := by
  unfold renamePort
  split <;> rfl

end Vlan

namespace Device

theorem portKey?_of_find? {d : Device} {name : String} {p : Port}
    (h : d.ports.find? name = some p) : d.portKey? name = some name := by
  unfold portKey? SortedMap.contains
  rw [h]
  rfl

/-- The key of a port that is not stored under the name itself is of the same interface. -/
theorem portKey?_eq_some {d : Device} {name key : String} (h : d.portKey? name = some key) :
    (∃ p, d.ports.find? key = some p) ∧ Interface.same key.toList name.toList = true := by
  unfold portKey? at h
  split at h
  · rename_i hcontains
    cases h
    exact ⟨Option.isSome_iff_exists.1 hcontains, Interface.same_refl _⟩
  · exact ⟨SortedMap.mem_keys.1 (List.mem_of_find?_eq_some h), by simpa using List.find?_some h⟩

theorem portKey?_eq_none {d : Device} {name : String} (h : d.portKey? name = none) :
    d.ports.find? name = none ∧
      ∀ key p, d.ports.find? key = some p → Interface.same key.toList name.toList = false := by
  unfold portKey? at h
  split at h
  · cases h
  · rename_i hcontains
    refine ⟨by simpa [SortedMap.contains] using hcontains, fun key p hp => ?_⟩
    have := List.find?_eq_none.1 h key (SortedMap.mem_keys.2 ⟨p, hp⟩)
    simpa using this

/-- How a device and the name of the port come out of opening a port by a name without outer
blanks. -/
inductive Opens (d : Device) (name : String) : String → Device → Prop
  | found {key : String} {p : Port} (hkey : d.portKey? name = some key)
      (hp : d.ports.find? key = some p) (hlength : name.utf8ByteSize ≤ key.utf8ByteSize) :
      Opens d name key d
  | renamed {old : String} {p : Port} (hkey : d.portKey? name = some old)
      (hp : d.ports.find? old = some p) (hfree : d.ports.find? name = none)
      (hlength : old.utf8ByteSize < name.utf8ByteSize) :
      Opens d name name (d.renamePort old name)
  | added (hkey : d.portKey? name = none) (hfree : d.ports.find? name = none) :
      Opens d name name { d with ports := d.ports.insert name (.blank name) }

theorem opens_openPort (d : Device) (name : String) :
    d.Opens (trimmed name) (d.openPort name).1 (d.openPort name).2 := by
  unfold openPort
  simp only
  split
  · rename_i key hkey
    obtain ⟨⟨p, hp⟩, -⟩ := portKey?_eq_some hkey
    split
    · rename_i hlength
      refine .renamed hkey hp ?_ hlength
      -- a port of the name itself would have been found under it
      cases hfree : d.ports.find? (trimmed name) with
      | none => rfl
      | some q =>
        rw [portKey?_of_find? hfree] at hkey
        cases hkey
        omega
    · rename_i hlength
      exact .found hkey hp (Nat.le_of_not_lt hlength)
  · rename_i hkey
    exact .added hkey (portKey?_eq_none hkey).1

/-- A port is found under its own name. -/
theorem openPort_self {d : Device} {key : String} {p : Port} (htrim : trimmed key = key)
    (hp : d.ports.find? key = some p) : d.openPort key = (key, d) := by
  unfold openPort
  simp only [htrim, portKey?_of_find? hp, Nat.lt_irrefl, ↓reduceIte]

theorem find?_renamePort {d : Device} {old new : String} {p : Port}
    (hp : d.ports.find? old = some p) (k : String) :
    (d.renamePort old new).ports.find? k =
      if new = k then some { p with name := new }
      else if old = k then none else d.ports.find? k := by
  unfold renamePort
  simp only [hp, SortedMap.find?_insert, SortedMap.find?_erase]

theorem vlan?_renamePort (d : Device) (old new : String) (id : UInt16) :
    (d.renamePort old new).vlans.find? id = (d.vlans.find? id).map (Vlan.renamePort old new) :=
  SortedMap.find?_mapValues ..

/-- A port is open afterwards: under the answered name, without outer blanks. -/
theorem Opens.exists_port {d d₁ : Device} {name key : String} (h : d.Opens name key d₁) :
    ∃ p, d₁.ports.find? key = some p := by
  cases h with
  | found hkey hp hlength => exact ⟨_, hp⟩
  | renamed hkey hp hfree hlength => exact ⟨_, by rw [find?_renamePort hp, if_pos rfl]⟩
  | added hkey hfree => exact ⟨_, SortedMap.find?_insert_self ..⟩

end Device

/-! ## Calls -/

/-- What a caller may do to an open port: anything but change its name, its VLANs and the addresses
behind it. -/
structure PortEdit where
  apply : Port → Port
  name_apply : ∀ p, (apply p).name = p.name
  vlans_apply : ∀ p, (apply p).vlans = p.vlans
  connections_apply : ∀ p, (apply p).connections = p.connections

inductive PortCall where
  | edit (name : String) (e : PortEdit)
  | join (name : String) (id : UInt16)
  | learn (vlan : Option UInt16) (mac : Mac) (name : String)

namespace PortCall

def name : PortCall → String
  | edit name _ | join name _ | learn _ _ name => name

/-- The VLAN that the port becomes a member of. -/
def vlan? : PortCall → Option UInt16
  | edit _ _ => none
  | join _ id => some id
  | learn vlan _ _ => vlan

/-- The address learned behind the port. -/
def mac? : PortCall → Option Mac
  | learn _ mac _ => some mac
  | _ => none

def apply (d : Device) : PortCall → Device
  | edit name e => d.editPort name e.apply
  | join name id => d.addVlanMember name id
  | learn vlan mac name => d.addMacRow vlan mac name

/-- What a call records of the port itself. -/
def onPort : PortCall → Port → Port
  | edit _ e => e.apply
  | join _ id => fun p => p.joinVlan id
  | learn none mac _ => fun p => p.addConnection mac
  | learn (some id) mac _ => fun p => (p.addConnection mac).joinVlan id

/-- What a call records of its VLAN. -/
def onVlan (key : String) : PortCall → Vlan → Vlan
  | learn _ mac _ => fun v => (v.addPort key).addMac mac
  | _ => fun v => v.addPort key

/-- The rows of a call in the table of addresses. -/
def rows (key : String) : PortCall → List MacRow
  | learn vlan mac _ => [{ vlan, mac, port := key }]
  | _ => []

@[simp] theorem name_onPort (c : PortCall) (p : Port) : (c.onPort p).name = p.name := by
  cases c with
  | edit _ e => exact e.name_apply p
  | join => rfl
  | learn vlan => cases vlan <;> rfl

theorem mem_vlans_onPort {c : PortCall} {p : Port} {id : UInt16} :
    id ∈ (c.onPort p).vlans ↔ c.vlan? = some id ∨ id ∈ p.vlans := by
  cases c with
  | edit _ e => simp [onPort, vlan?, e.vlans_apply]
  | join _ i => simp [onPort, vlan?, Port.joinVlan, eq_comm]
  | learn vlan =>
    cases vlan with
    | none => simp [onPort, vlan?, Port.addConnection]
    | some i => simp [onPort, vlan?, Port.joinVlan, Port.addConnection, eq_comm]

theorem mem_connections_onPort {c : PortCall} {p : Port} {mac : Mac} :
    mac ∈ (c.onPort p).connections ↔ c.mac? = some mac ∨ mac ∈ p.connections := by
  cases c with
  | edit _ e => simp [onPort, mac?, e.connections_apply]
  | join => simp [onPort, mac?, Port.joinVlan]
  | learn vlan m =>
    cases vlan <;> simp [onPort, mac?, Port.joinVlan, Port.addConnection, eq_comm]

theorem mem_ports_onVlan {c : PortCall} {key k : String} {v : Vlan} :
    k ∈ (c.onVlan key v).ports ↔ k = key ∨ k ∈ v.ports := by
  cases c <;> simp [onVlan, Vlan.addPort, Vlan.addMac]

theorem mem_macs_onVlan {c : PortCall} {key : String} {v : Vlan} {mac : Mac} :
    mac ∈ (c.onVlan key v).macs ↔ c.mac? = some mac ∨ mac ∈ v.macs := by
  cases c <;> simp [onVlan, mac?, Vlan.addPort, Vlan.addMac, eq_comm]

theorem mem_rows {c : PortCall} {key : String} {r : MacRow} :
    r ∈ c.rows key ↔ r.vlan = c.vlan? ∧ c.mac? = some r.mac ∧ r.port = key := by
  cases c with
  | edit | join => simp [rows, mac?]
  | learn vlan mac name =>
    cases r
    simp [rows, mac?, vlan?, eq_comm]

/-- What a call leaves of a device in which its port is open under `key`. -/
def record (c : PortCall) (d : Device) (key : String) (p : Port) : Device :=
  { d with
    ports := d.ports.insert key (c.onPort p)
    vlans :=
      match c.vlan? with
      | some id => d.vlans.alter id (.blank id) (c.onVlan key)
      | none => d.vlans
    macTable := d.macTable ++ c.rows key }

theorem vlan?_record (c : PortCall) (d : Device) (key : String) (p : Port) (id : UInt16) :
    (c.record d key p).vlans.find? id =
      if c.vlan? = some id then some (c.onVlan key ((d.vlans.find? id).getD (.blank id)))
      else d.vlans.find? id := by
  unfold record
  cases c.vlan? with
  | none => simp
  | some i =>
    simp only [SortedMap.find?_alter, Option.some.injEq]
    by_cases h : i = id
    · subst h; simp
    · simp [h]

theorem find?_record (c : PortCall) (d : Device) (key : String) (p : Port) (k : String) :
    (c.record d key p).ports.find? k =
      if key = k then some (c.onPort p) else d.ports.find? k :=
  SortedMap.find?_insert ..

/-- The members of the VLANs after a call. -/
theorem mem_ports_record {c : PortCall} {d : Device} {key k : String} {p : Port} {id : UInt16} :
    (∃ v, (c.record d key p).vlans.find? id = some v ∧ k ∈ v.ports) ↔
      c.vlan? = some id ∧ k = key ∨ ∃ v, d.vlans.find? id = some v ∧ k ∈ v.ports := by
  rw [vlan?_record]
  split
  · rename_i h
    simp only [h, Option.some.injEq, exists_eq_left', mem_ports_onVlan, true_and]
    cases d.vlans.find? id <;> simp [Vlan.blank]
  · rename_i h
    simp [h]

/-- The addresses of the VLANs after a call. -/
theorem mem_macs_record {c : PortCall} {d : Device} {key : String} {p : Port} {id : UInt16}
    {mac : Mac} :
    (∃ v, (c.record d key p).vlans.find? id = some v ∧ mac ∈ v.macs) ↔
      c.vlan? = some id ∧ c.mac? = some mac ∨ ∃ v, d.vlans.find? id = some v ∧ mac ∈ v.macs := by
  rw [vlan?_record]
  split
  · rename_i h
    simp only [h, Option.some.injEq, exists_eq_left', mem_macs_onVlan, true_and]
    cases d.vlans.find? id <;> simp [Vlan.blank]
  · rename_i h
    simp [h]

theorem mem_macTable_record {c : PortCall} {d : Device} {key : String} {p : Port} {r : MacRow} :
    r ∈ (c.record d key p).macTable ↔
      r ∈ d.macTable ∨ r.vlan = c.vlan? ∧ c.mac? = some r.mac ∧ r.port = key :=
  List.mem_append.trans (or_congr_right mem_rows)

/-- A call opens its port and records what it has to say. -/
theorem apply_eq {d d₁ : Device} {key : String} {p : Port} {c : PortCall}
    (hopen : d.openPort c.name = (key, d₁)) (htrim : trimmed key = key)
    (hp : d₁.ports.find? key = some p) : c.apply d = c.record d₁ key p := by
  cases c with
  | edit name e =>
    have hopen' : d.openPort name = (key, d₁) := hopen
    simp only [apply, Device.editPort, hopen', Device.modifyPort, hp, record, vlan?, rows, onPort,
      List.append_nil]
  | join name id =>
    have hopen' : d.openPort name = (key, d₁) := hopen
    simp only [apply, Device.addVlanMember, hopen', Device.modifyPort, hp, Device.editVlan, record,
      vlan?, rows, onPort, List.append_nil]
    rfl
  | learn vlan mac name =>
    have hopen' : d.openPort name = (key, d₁) := hopen
    cases vlan with
    | none =>
      simp only [apply, Device.addMacRow, hopen', Device.modifyPort, hp]
      rfl
    | some id =>
      -- joining the VLAN opens the port once more, by the name it has now
      have hself := Device.openPort_self
        (d := { d₁ with ports := d₁.ports.insert key (p.addConnection mac) }) htrim
        (SortedMap.find?_insert_self ..)
      simp only [apply, Device.addMacRow, hopen', Device.modifyPort, hp, Device.addVlanMember,
        hself, SortedMap.find?_insert_self, Device.editVlan, SortedMap.alter_alter,
        SortedMap.insert_insert]
      rfl

end PortCall

end HostSurvey
