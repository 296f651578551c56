import HostSurvey.Proofs.PortCalls

/-!
# References between ports, VLANs and addresses

Four collections of a device name its ports: the ports themselves, the members
of the VLANs, the table of addresses, and the addresses that a port keeps of its
own. `Linked` says that they agree. It holds of a device without ports, opening
a port keeps it, also when the port is given a longer name, and so does
everything that is recorded afterwards.
-/

namespace HostSurvey

open Text

namespace Device

/-- No reference to a port dangles, and each is known at both of its ends. -/
structure Linked (d : Device) : Prop where
  /-- A port is stored under its own name. -/
  own_name : ∀ k p, d.ports.find? k = some p → p.name = k
  /-- Names have no blanks at their ends. -/
  trimmed_name : ∀ k p, d.ports.find? k = some p → trimmed k = k
  /-- A port is in a VLAN exactly when the VLAN holds its name. -/
  mem_vlans_iff : ∀ k p, d.ports.find? k = some p → ∀ id,
    id ∈ p.vlans ↔ ∃ v, d.vlans.find? id = some v ∧ p.name ∈ v.ports
  /-- The members of a VLAN are ports. -/
  member_exists : ∀ id v, d.vlans.find? id = some v → ∀ k ∈ v.ports,
    ∃ p, d.ports.find? k = some p
  /-- The ports in the table of addresses exist. -/
  row_exists : ∀ r ∈ d.macTable, ∃ p, d.ports.find? r.port = some p
  /-- A port has the addresses of its rows. -/
  mem_connections_iff : ∀ k p, d.ports.find? k = some p → ∀ mac,
    mac ∈ p.connections ↔ ∃ r ∈ d.macTable, r.port = k ∧ r.mac = mac
  /-- A row that names a VLAN is known to the VLAN and to the port. -/
  row_vlan : ∀ r ∈ d.macTable, ∀ id, r.vlan = some id →
    ∃ v p, d.vlans.find? id = some v ∧ d.ports.find? r.port = some p ∧ r.mac ∈ v.macs ∧
      id ∈ p.vlans

theorem linked_blank (name : String) : Linked (blank name) where
  own_name := by intro k p hp; cases hp
  trimmed_name := by intro k p hp; cases hp
  mem_vlans_iff := by intro k p hp; cases hp
  member_exists := by intro id v hv; cases hv
  row_exists := by intro r hr; cases hr
  mem_connections_iff := by intro k p hp; cases hp
  row_vlan := by intro r hr; cases hr

variable {d d₁ : Device}

theorem Linked.not_mem_ports (hd : Linked d) {k : String} (hfree : d.ports.find? k = none)
    {id : UInt16} {v : Vlan} (hv : d.vlans.find? id = some v) : k ∉ v.ports := by
  intro hk
  obtain ⟨p, hp⟩ := hd.member_exists id v hv k hk
  rw [hfree] at hp
  cases hp

theorem Linked.row_port_ne (hd : Linked d) {k : String} (hfree : d.ports.find? k = none)
    {r : MacRow} (hr : r ∈ d.macTable) : r.port ≠ k := by
  rintro rfl
  obtain ⟨p, hp⟩ := hd.row_exists r hr
  rw [hfree] at hp
  cases hp

/-! ## Opening -/

theorem Linked.addPort (hd : Linked d) {name : String} (htrim : trimmed name = name)
    (hfree : d.ports.find? name = none) :
    Linked { d with ports := d.ports.insert name (.blank name) } := by
  have hfind (k : String) : (d.ports.insert name (.blank name)).find? k =
      if name = k then some (.blank name) else d.ports.find? k := SortedMap.find?_insert ..
  have hkept {k : String} {p : Port} (hp : d.ports.find? k = some p) :
      (d.ports.insert name (.blank name)).find? k = some p := by
    rw [hfind, if_neg (by rintro rfl; rw [hfree] at hp; cases hp), hp]
  constructor
  · intro k p hp
    rw [hfind] at hp
    split at hp
    · rename_i hk
      cases hp
      exact hk
    · exact hd.own_name k p hp
  · intro k p hp
    rw [hfind] at hp
    split at hp
    · rename_i hk
      rwa [← hk]
    · exact hd.trimmed_name k p hp
  · intro k p hp id
    rw [hfind] at hp
    split at hp
    · cases hp
      refine iff_of_false (SortedSet.not_mem_empty id) ?_
      rintro ⟨v, hv, hmem⟩
      exact hd.not_mem_ports hfree hv hmem
    · exact hd.mem_vlans_iff k p hp id
  · intro id v hv k hk
    obtain ⟨p, hp⟩ := hd.member_exists id v hv k hk
    exact ⟨p, hkept hp⟩
  · intro r hr
    obtain ⟨p, hp⟩ := hd.row_exists r hr
    exact ⟨p, hkept hp⟩
  · intro k p hp mac
    rw [hfind] at hp
    split at hp
    · rename_i hk
      cases hp
      refine iff_of_false (SortedSet.not_mem_empty mac) ?_
      rintro ⟨r, hr, hport, -⟩
      exact hd.row_port_ne hfree hr (hport.trans hk.symm)
    · exact hd.mem_connections_iff k p hp mac
  · intro r hr id hid
    obtain ⟨v, p, hv, hp, hmac, hmem⟩ := hd.row_vlan r hr id hid
    exact ⟨v, p, hv, hkept hp, hmac, hmem⟩

section Rename

variable {old new : String} {q : Port} (hd : Linked d) (hq : d.ports.find? old = some q)
  (hfree : d.ports.find? new = none)

include hfree in
theorem ne_of_find?_eq_none {k : String} {p : Port} (hp : d.ports.find? k = some p) : k ≠ new := by
  rintro rfl
  rw [hfree] at hp
  cases hp

include hd hq hfree in
/-- A port is found under its name as renamed, with all else that it had. -/
theorem Linked.find?_renamed {k : String} {p : Port} (hp : d.ports.find? k = some p) :
    (d.renamePort old new).ports.find? (renamed old new k) =
      some { p with name := renamed old new k } := by
  rw [find?_renamePort hq]
  by_cases hk : k = old
  · subst hk
    rw [hq] at hp
    cases hp
    rw [renamed_self, if_pos rfl]
  · rw [renamed_of_ne hk, if_neg (ne_of_find?_eq_none hfree hp).symm, if_neg (Ne.symm hk), hp]
    rw [show ({ p with name := k } : Port) = p by rw [← hd.own_name k p hp]]

include hd hq in
/-- Every port is one from before. -/
theorem Linked.exists_of_find?_renamePort {k' : String} {p' : Port}
    (hp' : (d.renamePort old new).ports.find? k' = some p') :
    ∃ k p, d.ports.find? k = some p ∧ k' = renamed old new k ∧ p' = { p with name := k' } := by
  rw [find?_renamePort hq] at hp'
  split at hp'
  · rename_i hk
    cases hp'
    exact ⟨old, q, hq, by rw [renamed_self, hk], by rw [hk]⟩
  · split at hp'
    · cases hp'
    · rename_i hk
      refine ⟨k', p', hp', (renamed_of_ne (Ne.symm hk) new).symm, ?_⟩
      rw [← hd.own_name k' p' hp']

include hd hfree in
/-- A VLAN holds a port under its name as renamed when it held it before. -/
theorem Linked.renamed_mem_ports_iff {k : String} {p : Port} (hp : d.ports.find? k = some p)
    {id : UInt16} {v : Vlan} (hv : d.vlans.find? id = some v) :
    renamed old new k ∈ (v.renamePort old new).ports ↔ k ∈ v.ports := by
  have hnew : new ∉ v.ports := hd.not_mem_ports hfree hv
  have hk : k ≠ new := ne_of_find?_eq_none hfree hp
  rw [Vlan.mem_ports_renamePort]
  by_cases hold : k = old
  · subst hold
    simp [hnew]
  · simp [renamed_of_ne hold, hold, hk]

include hd hq hfree in
theorem Linked.renamePort (htrim : trimmed new = new) : Linked (d.renamePort old new) := by
  have hrow {r' : MacRow} : r' ∈ (d.renamePort old new).macTable ↔
      ∃ r ∈ d.macTable, { r with port := renamed old new r.port } = r' := by
    simp [Device.renamePort, MacRow.renamePort_eq]
  have hvlan {id : UInt16} {v' : Vlan} : (d.renamePort old new).vlans.find? id = some v' ↔
      ∃ v, d.vlans.find? id = some v ∧ v.renamePort old new = v' := by
    rw [vlan?_renamePort, Option.map_eq_some_iff]
  constructor
  · intro k' p' hp'
    obtain ⟨k, p, -, -, rfl⟩ := hd.exists_of_find?_renamePort hq hp'
    rfl
  · intro k' p' hp'
    obtain ⟨k, p, hp, rfl, -⟩ := hd.exists_of_find?_renamePort hq hp'
    unfold renamed
    split
    · exact htrim
    · exact hd.trimmed_name k p hp
  · intro k' p' hp' id
    obtain ⟨k, p, hp, rfl, rfl⟩ := hd.exists_of_find?_renamePort hq hp'
    refine (hd.mem_vlans_iff k p hp id).trans ?_
    rw [hd.own_name k p hp]
    constructor
    · rintro ⟨v, hv, hmem⟩
      exact ⟨_, hvlan.2 ⟨v, hv, rfl⟩, (hd.renamed_mem_ports_iff hfree hp hv).2 hmem⟩
    · rintro ⟨v', hv', hmem⟩
      obtain ⟨v, hv, rfl⟩ := hvlan.1 hv'
      exact ⟨v, hv, (hd.renamed_mem_ports_iff hfree hp hv).1 hmem⟩
  · intro id v' hv' k' hk'
    obtain ⟨v, hv, rfl⟩ := hvlan.1 hv'
    obtain ⟨rfl, -⟩ | ⟨hold, hk'⟩ := Vlan.mem_ports_renamePort.1 hk'
    · have hrenamed := hd.find?_renamed hq hfree hq
      rw [renamed_self] at hrenamed
      exact ⟨_, hrenamed⟩
    · obtain ⟨p, hp⟩ := hd.member_exists id v hv k' hk'
      have hrenamed := hd.find?_renamed hq hfree hp
      rw [renamed_of_ne hold] at hrenamed
      exact ⟨_, hrenamed⟩
  · intro r' hr'
    obtain ⟨r, hr, rfl⟩ := hrow.1 hr'
    obtain ⟨p, hp⟩ := hd.row_exists r hr
    exact ⟨_, hd.find?_renamed hq hfree hp⟩
  · intro k' p' hp' mac
    obtain ⟨k, p, hp, rfl, rfl⟩ := hd.exists_of_find?_renamePort hq hp'
    refine (hd.mem_connections_iff k p hp mac).trans ?_
    have hport {r : MacRow} (hr : r ∈ d.macTable) :
        renamed old new r.port = renamed old new k ↔ r.port = k :=
      renamed_inj (hd.row_port_ne hfree hr) (ne_of_find?_eq_none hfree hp)
    constructor
    · rintro ⟨r, hr, hk, hmac⟩
      exact ⟨_, hrow.2 ⟨r, hr, rfl⟩, (hport hr).2 hk, hmac⟩
    · rintro ⟨r', hr', hk, hmac⟩
      obtain ⟨r, hr, rfl⟩ := hrow.1 hr'
      exact ⟨r, hr, (hport hr).1 hk, hmac⟩
  · intro r' hr' id hid
    obtain ⟨r, hr, rfl⟩ := hrow.1 hr'
    obtain ⟨v, p, hv, hp, hmac, hmem⟩ := hd.row_vlan r hr id hid
    refine ⟨_, _, hvlan.2 ⟨v, hv, rfl⟩, hd.find?_renamed hq hfree hp, ?_, hmem⟩
    rwa [Vlan.macs_renamePort]

end Rename

theorem Linked.opens (hd : Linked d) {name key : String} (htrim : trimmed name = name)
    (h : d.Opens name key d₁) : Linked d₁ := by
  cases h with
  | found hkey hp hlength => exact hd
  | renamed hkey hp hfree hlength => exact hd.renamePort hp hfree htrim
  | added hkey hfree => exact hd.addPort htrim hfree

/-! ## Recording -/

theorem Linked.record (hd : Linked d) {key : String} {p : Port}
    (hp : d.ports.find? key = some p) (c : PortCall) : Linked (c.record d key p) := by
  have hkept {k : String} {q : Port} (hq : d.ports.find? k = some q) :
      ∃ q', (c.record d key p).ports.find? k = some q' ∧ ∀ id ∈ q.vlans, id ∈ q'.vlans := by
    rw [c.find?_record]
    split
    · rename_i hk
      subst hk
      rw [hp] at hq
      cases hq
      exact ⟨_, rfl, fun id hid => PortCall.mem_vlans_onPort.2 (.inr hid)⟩
    · exact ⟨q, hq, fun id hid => hid⟩
  have hself : (c.record d key p).ports.find? key = some (c.onPort p) := by
    rw [c.find?_record, if_pos rfl]
  constructor
  · intro k q hq
    rw [c.find?_record] at hq
    split at hq
    · rename_i hk
      cases hq
      rw [c.name_onPort, ← hk]
      exact hd.own_name key p hp
    · exact hd.own_name k q hq
  · intro k q hq
    rw [c.find?_record] at hq
    split at hq
    · rename_i hk
      exact hk ▸ hd.trimmed_name key p hp
    · exact hd.trimmed_name k q hq
  · intro k q hq id
    rw [PortCall.mem_ports_record]
    rw [c.find?_record] at hq
    split at hq
    · cases hq
      rw [PortCall.mem_vlans_onPort, hd.mem_vlans_iff key p hp, c.name_onPort,
        hd.own_name key p hp]
      simp
    · rename_i hk
      rw [hd.mem_vlans_iff k q hq, hd.own_name k q hq]
      simp [Ne.symm hk]
  · intro id v hv k hk
    obtain ⟨-, rfl⟩ | ⟨v, hv, hk⟩ := PortCall.mem_ports_record.1 ⟨v, hv, hk⟩
    · exact ⟨_, hself⟩
    · obtain ⟨q, hq⟩ := hd.member_exists id v hv k hk
      obtain ⟨q', hq', -⟩ := hkept hq
      exact ⟨q', hq'⟩
  · intro r hr
    obtain hr | ⟨-, -, hport⟩ := PortCall.mem_macTable_record.1 hr
    · obtain ⟨q, hq⟩ := hd.row_exists r hr
      obtain ⟨q', hq', -⟩ := hkept hq
      exact ⟨q', hq'⟩
    · exact ⟨_, by rw [hport]; exact hself⟩
  · intro k q hq mac
    simp only [PortCall.mem_macTable_record]
    rw [c.find?_record] at hq
    split at hq
    · rename_i hk
      cases hq
      subst hk
      rw [PortCall.mem_connections_onPort, hd.mem_connections_iff key p hp]
      constructor
      · rintro (hmac | ⟨r, hr, hport, hmac⟩)
        · exact ⟨⟨c.vlan?, mac, key⟩, .inr ⟨rfl, hmac, rfl⟩, rfl, rfl⟩
        · exact ⟨r, .inl hr, hport, hmac⟩
      · rintro ⟨r, hr | ⟨-, hmac', -⟩, hport, rfl⟩
        · exact .inr ⟨r, hr, hport, rfl⟩
        · exact .inl hmac'
    · rename_i hk
      rw [hd.mem_connections_iff k q hq]
      constructor
      · rintro ⟨r, hr, hport, hmac⟩
        exact ⟨r, .inl hr, hport, hmac⟩
      · rintro ⟨r, hr | ⟨-, -, hkey⟩, hport, hmac⟩
        · exact ⟨r, hr, hport, hmac⟩
        · exact (hk (hkey.symm.trans hport)).elim
  · intro r hr id hid
    obtain hr | ⟨hvlan, hmac, hport⟩ := PortCall.mem_macTable_record.1 hr
    · obtain ⟨v, q, hv, hq, hmac, hmem⟩ := hd.row_vlan r hr id hid
      obtain ⟨q', hq', hvlans⟩ := hkept hq
      obtain ⟨v', hv', hmac'⟩ :=
        (@PortCall.mem_macs_record c d key p id r.mac).2 (.inr ⟨v, hv, hmac⟩)
      exact ⟨v', q', hv', hq', hmac', hvlans id hmem⟩
    · have hvlan' : c.vlan? = some id := hvlan.symm.trans hid
      obtain ⟨v', hv', hmac'⟩ :=
        (@PortCall.mem_macs_record c d key p id r.mac).2 (.inl ⟨hvlan', hmac⟩)
      exact ⟨v', _, hv', by rw [hport]; exact hself, hmac',
        PortCall.mem_vlans_onPort.2 (.inl hvlan')⟩

/-- What a call does to a device whose references agree. -/
theorem Linked.apply_cases (hd : Linked d) (c : PortCall) :
    ∃ key d₁ p, d.Opens (trimmed c.name) key d₁ ∧ Linked d₁ ∧ d₁.ports.find? key = some p ∧
      d.openPort c.name = (key, d₁) ∧ c.apply d = c.record d₁ key p := by
  have hopens := d.opens_openPort c.name
  have hd₁ := hd.opens (trimmed_trimmed c.name) hopens
  obtain ⟨p, hp⟩ := hopens.exists_port
  exact ⟨_, _, p, hopens, hd₁, hp, rfl, PortCall.apply_eq rfl (hd₁.trimmed_name _ p hp) hp⟩

theorem Linked.apply (hd : Linked d) (c : PortCall) : Linked (c.apply d) := by
  obtain ⟨key, d₁, p, -, hd₁, hp, -, happly⟩ := hd.apply_cases c
  rw [happly]
  exact hd₁.record hp c

/-- VLANs may be added and gain addresses. -/
theorem Linked.editVlan (hd : Linked d) (id : UInt16) {f : Vlan → Vlan}
    (hports : ∀ v, (f v).ports = v.ports) (hmacs : ∀ v, ∀ mac ∈ v.macs, mac ∈ (f v).macs) :
    Linked (d.editVlan id f) := by
  have hfind (i : UInt16) : (d.editVlan id f).vlans.find? i =
      if id = i then some (f ((d.vlans.find? id).getD (.blank id))) else d.vlans.find? i :=
    SortedMap.find?_alter ..
  have hmember {i : UInt16} {k : String} :
      (∃ v, (d.editVlan id f).vlans.find? i = some v ∧ k ∈ v.ports) ↔
        ∃ v, d.vlans.find? i = some v ∧ k ∈ v.ports := by
    rw [hfind]
    split
    · rename_i hi
      subst hi
      simp only [Option.some.injEq, exists_eq_left', hports]
      cases d.vlans.find? id <;> simp [Vlan.blank]
    · rfl
  have hmac {i : UInt16} {v : Vlan} (hv : d.vlans.find? i = some v) :
      ∃ v', (d.editVlan id f).vlans.find? i = some v' ∧ ∀ mac ∈ v.macs, mac ∈ v'.macs := by
    rw [hfind]
    split
    · rename_i hi
      subst hi
      exact ⟨_, rfl, by rw [hv]; exact hmacs v⟩
    · exact ⟨v, hv, fun mac hmac => hmac⟩
  refine ⟨hd.own_name, hd.trimmed_name, fun k p hp i => ?_, fun i v hv k hk => ?_, hd.row_exists,
    hd.mem_connections_iff, fun r hr i hi => ?_⟩
  · rw [hmember]
    exact hd.mem_vlans_iff k p hp i
  · obtain ⟨v', hv', hk'⟩ := hmember.1 ⟨v, hv, hk⟩
    exact hd.member_exists i v' hv' k hk'
  · obtain ⟨v, p, hv, hp, hmem, hid⟩ := hd.row_vlan r hr i hi
    obtain ⟨v', hv', hkeeps⟩ := hmac hv
    exact ⟨v', p, hv', hp, hkeeps _ hmem, hid⟩

theorem Linked.addArpRow (hd : Linked d) (row : ArpRow) : Linked (d.addArpRow row) := by
  unfold Device.addArpRow
  -- the table of resolutions refers to nothing that is linked
  have hrows {e : Device} (he : Linked e) : Linked { e with arp := e.arp ++ [row] } :=
    ⟨he.own_name, he.trimmed_name, he.mem_vlans_iff, he.member_exists, he.row_exists,
      he.mem_connections_iff, he.row_vlan⟩
  split
  · refine hrows (hd.editVlan _ (fun v => rfl) fun v mac hmac => ?_)
    exact SortedSet.mem_insert.2 (.inr hmac)
  · exact hrows hd

end Device

/-! ## Any calls -/

/-- What a caller may do to a VLAN: anything but change its members and its addresses. -/
structure VlanEdit where
  apply : Vlan → Vlan
  ports_apply : ∀ v, (apply v).ports = v.ports
  macs_apply : ∀ v, (apply v).macs = v.macs

/-- The ways in which ports, VLANs and addresses of a device come about. -/
inductive DeviceCall where
  | port (c : PortCall)
  | vlan (id : UInt16) (e : VlanEdit)
  | arp (row : ArpRow)

namespace Device

def call (d : Device) : DeviceCall → Device
  | .port c => c.apply d
  | .vlan id e => d.editVlan id e.apply
  | .arp row => d.addArpRow row

theorem Linked.call (hd : Linked d) (c : DeviceCall) : Linked (d.call c) := by
  cases c with
  | port c => exact hd.apply c
  | vlan id e =>
    exact hd.editVlan id e.ports_apply fun v mac hmac => by rwa [e.macs_apply]
  | arp row => exact hd.addArpRow row

/-- A new device after some calls. -/
def afterCalls (name : String) (calls : List DeviceCall) : Device :=
  calls.foldl Device.call (blank name)

theorem linked_afterCalls (name : String) (calls : List DeviceCall) :
    Linked (afterCalls name calls) := by
  suffices hrun : ∀ d : Device, Linked d → Linked (calls.foldl Device.call d) from
    hrun _ (linked_blank name)
  induction calls with
  | nil => exact fun d hd => hd
  | cons c calls ih => exact fun d hd => ih _ (hd.call c)

/-- After any calls the references of a device agree. A port that is then opened by a longer name
keeps all it has, every reference follows it, and nothing is left under the old name. -/
theorem references_agree (name : String) (calls : List DeviceCall) :
    Linked (afterCalls name calls) ∧
      ∀ spelling old p, (afterCalls name calls).portKey? (trimmed spelling) = some old →
        old.utf8ByteSize < (trimmed spelling).utf8ByteSize →
        (afterCalls name calls).ports.find? old = some p →
        ∃ d, (afterCalls name calls).openPort spelling = (trimmed spelling, d) ∧ Linked d ∧
          d.ports.find? (trimmed spelling) = some { p with name := trimmed spelling } ∧
          d.ports.find? old = none ∧ (∀ id v, d.vlans.find? id = some v → old ∉ v.ports) ∧
          ∀ r ∈ d.macTable, r.port ≠ old := by
  have hd := linked_afterCalls name calls
  refine ⟨hd, fun spelling old p hkey hlength hp => ?_⟩
  have hopen : (afterCalls name calls).openPort spelling =
      (trimmed spelling, (afterCalls name calls).renamePort old (trimmed spelling)) := by
    unfold openPort
    simp only [hkey, if_pos hlength]
  have hlinked := hd.opens (trimmed_trimmed spelling) (opens_openPort _ spelling)
  rw [hopen] at hlinked
  have hne : trimmed spelling ≠ old := by
    rintro heq
    rw [heq] at hlength
    exact Nat.lt_irrefl _ hlength
  have hgone : ((afterCalls name calls).renamePort old (trimmed spelling)).ports.find? old =
      none := by
    rw [find?_renamePort hp, if_neg hne, if_pos rfl]
  refine ⟨_, hopen, hlinked, ?_, hgone, fun id v hv => hlinked.not_mem_ports hgone hv,
    fun r hr => hlinked.row_port_ne hgone hr⟩
  rw [find?_renamePort hp, if_pos rfl]

/-- A port that is a member of two VLANs, with an address in one of them. -/
def wired : List DeviceCall :=
  [.port (.join "Gi0/1" 7), .port (.learn (some 9) (.ofNat 1) "gi0/1")]

/-- The long name takes the place of the short one. -/
theorem wired_renamed :
    ∃ p d, (afterCalls "sw" wired).ports.find? "Gi0/1" = some p ∧ p.vlans.toList = [7, 9] ∧
      (afterCalls "sw" wired).openPort "GigabitEthernet0/1" = ("GigabitEthernet0/1", d) ∧
      Linked d ∧
      d.ports.find? "GigabitEthernet0/1" = some { p with name := "GigabitEthernet0/1" } ∧
      d.ports.find? "Gi0/1" = none := by
  have hvlans : ((afterCalls "sw" wired).ports.find? "Gi0/1").map (fun p => p.vlans.toList) =
      some [7, 9] := by decide +kernel
  obtain ⟨p, hp, hpvlans⟩ := Option.map_eq_some_iff.1 hvlans
  have htrim : trimmed "GigabitEthernet0/1" = "GigabitEthernet0/1" := by decide +kernel
  have hkey : (afterCalls "sw" wired).portKey? "GigabitEthernet0/1" = some "Gi0/1" := by
    decide +kernel
  obtain ⟨-, hrenamed⟩ := references_agree "sw" wired
  have := hrenamed "GigabitEthernet0/1" "Gi0/1" p
  rw [htrim] at this
  obtain ⟨d, hopen, hlinked, hnew, hold, -, -⟩ := this hkey (by decide +kernel) hp
  exact ⟨p, d, hp, hpvlans, hopen, hlinked, hnew, hold⟩

end Device

end HostSurvey
