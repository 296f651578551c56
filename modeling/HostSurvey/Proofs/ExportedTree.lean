import HostSurvey.Proofs.DeviceOperations
import HostSurvey.Proofs.ExportFaults

/-!
# What an exported tree tells

Each item of a device has a node of its own from which its data are read back, and
the node holds nothing else. The tree stores signed integers: numbers and hardware
addresses fit them, addresses and sub-interfaces are read back as their bits.
-/

namespace HostSurvey

open Text TraitTree

/-! ## Integers -/

theorem toInt_toInt32 {n : UInt32} (h : n.toNat < 2 ^ 31) : n.toInt32.toInt = n.toNat := by
  calc
    n.toInt32.toInt = (UInt32.ofNat n.toNat).toInt32.toInt := by rw [UInt32.ofNat_toNat]
    _ = (Int32.ofNat n.toNat).toInt := by rw [UInt32.toInt32_ofNat']
    _ = n.toNat := Int32.toInt_ofNat_of_lt h

theorem toInt_ofVlanId (id : UInt16) : id.toUInt32.toInt32.toInt = id.toNat := by
  have hid := id.toNat_lt
  have hn : id.toUInt32.toNat = id.toNat := UInt16.toNat_toUInt32 id
  rw [toInt_toInt32 (by omega), hn]

theorem toInt_ofCidr (n : UInt8) : n.toUInt32.toInt32.toInt = n.toNat := by
  have hcidr := n.toNat_lt
  have hn : n.toUInt32.toNat = n.toNat := UInt8.toNat_toUInt32 n
  rw [toInt_toInt32 (by omega), hn]

theorem toInt_ofPart {s : List Char} (h : Decimal.Fits s) :
    (Int32.ofInt (Int.ofNat (Decimal.value s))).toInt = Decimal.value s := by
  have hvalue := h.2
  have hcast : Int.ofNat (Decimal.value s) = (Decimal.value s : Int) := rfl
  exact Int32.toInt_ofInt_of_le (by omega) (by omega)

theorem Mac.toInt_toInt64 (m : Mac) : m.toInt64.toInt = m.toNat := by
  have hm : m.toNat < 2 ^ 48 := m.bits.isLt
  exact Int64.toInt_ofNat_of_lt (by omega)

theorem Ipv4.toUInt32_toInt32 (ip : Ipv4) : ip.toInt32.toUInt32 = ip.bits :=
  UInt32.toUInt32_toInt32 ip.bits

/-! ## Reading back -/

theorem isSome_ofNodes? {α : Type} (items : List α) (node : α → TraitTree) :
    (TraitValue.ofNodes? (items.map node)).isSome = !items.isEmpty := by
  cases items <;> rfl

theorem isSome_ite (b : Bool) (v : TraitValue) : (if b then none else some v).isSome = !b := by
  cases b <;> rfl

namespace TraitTree

/-- The number under a trait. -/
def number? (t : TraitTree) (key : Trait) : Option Int := (t.int? key).map Int32.toInt

/-- The integers under a trait, none where there is no such list. -/
def numbers (t : TraitTree) (key : Trait) : List Int :=
  match t.get? key with
  | some (.ints l) => l.map Int32.toInt
  | _ => []

/-- The nodes under a trait, none where there is no such list. -/
def listed (t : TraitTree) (key : Trait) : List TraitTree := (t.list? key).getD []

/-- The hardware address of an item is the integer that its node holds. -/
def TellsMac (t : TraitTree) (mac : Option Mac) : Prop :=
  (t.long? .macAddr).map Int64.toInt = mac.map fun m => (m.toNat : Int)

/-- The address of an item stands in its node as one and the same integer wherever it comes from,
and the bits of the address are read back from it. -/
def TellsAddress (t : TraitTree) (ip : Option Ipv4) : Prop :=
  t.int? .ipv4 = ip.map Ipv4.toInt32 ∧ (t.int? .ipv4).map Int32.toUInt32 = ip.map Ipv4.bits

variable {t : TraitTree} {key : Trait} {α : Type} {v : Option α}

theorem number?_of_get? {f : α → Int32} {g : α → Int}
    (h : t.get? key = v.map fun a => .int (f a)) (hf : ∀ a, (f a).toInt = g a) :
    t.number? key = v.map g := by
  rw [number?, int?_of_get? h]
  cases v with
  | none => rfl
  | some a => exact congrArg some (hf a)

theorem numbers_of_get? {l : List α} {f : α → Int32} {g : α → Int}
    (h : t.get? key = if l.isEmpty then none else some (.ints (l.map f)))
    (hf : ∀ a, (f a).toInt = g a) : t.numbers key = l.map g := by
  rw [numbers, h]
  cases l with
  | nil => rfl
  | cons a l => simp [hf]

theorem tellsMac_of_get? {mac : Option Mac}
    (h : t.get? .macAddr = mac.map fun m => .long m.toInt64) : t.TellsMac mac := by
  rw [TellsMac, long?_of_get? h, Option.map_map]
  exact congrArg (mac.map ·) (funext Mac.toInt_toInt64)

theorem tellsAddress_of_get? {ip : Option Ipv4}
    (h : t.get? .ipv4 = ip.map fun ip => .int ip.toInt32) : t.TellsAddress ip := by
  have hint : t.int? .ipv4 = ip.map Ipv4.toInt32 := int?_of_get? h
  refine ⟨hint, ?_⟩
  rw [hint, Option.map_map]
  exact congrArg (ip.map ·) (funext Ipv4.toUInt32_toInt32)

end TraitTree

/-! ## Rows -/

structure Vlan.ToldBy (v : Vlan) (t : TraitTree) : Prop where
  identity : t.identity = .vlan
  id : t.number? .vlanId = some (v.id.toNat : Int)
  name : t.text? .description = v.name.map trimmed
  address : t.TellsAddress v.ip
  cidr : t.number? .cidr = v.cidr.map fun n => (n.toNat : Int)
  holds : t.Holds [(.vlanId, true), (.description, v.name.isSome), (.ipv4, v.ip.isSome),
    (.cidr, v.cidr.isSome)]

theorem Vlan.toldBy_node (v : Vlan) : v.ToldBy v.node := by
  have hnode : v.node.MadeOf .vlan v.fields := madeOf_storeAll (by simp [fields]) _
  exact {
    identity := hnode.identity
    id := number?_of_get? (v := some v.id) (hnode.get? (by simp [fields])) toInt_ofVlanId
    name := text?_of_get? (hnode.get? (by simp [fields]))
    address := tellsAddress_of_get? (hnode.get? (by simp [fields]))
    cidr := number?_of_get? (hnode.get? (by simp [fields])) toInt_ofCidr
    holds := by simpa [fields] using hnode.holds }

structure MacRow.ToldBy (r : MacRow) (t : TraitTree) : Prop where
  identity : t.identity = .switchInterfaces
  mac : t.TellsMac (some r.mac)
  port : t.text? .interfaceName = some (trimmed r.port)
  vlan : t.number? .vlanId = r.vlan.map fun id => (id.toNat : Int)
  holds : t.Holds [(.macAddr, true), (.interfaceName, true), (.vlanId, r.vlan.isSome)]

theorem MacRow.toldBy_node (r : MacRow) : r.ToldBy r.node := by
  have hnode : r.node.MadeOf .switchInterfaces r.fields := madeOf_storeAll (by simp [fields]) _
  exact {
    identity := hnode.identity
    mac := tellsMac_of_get? (hnode.get? (by simp [fields]))
    port := text?_of_get? (v := some r.port) (hnode.get? (by simp [fields]))
    vlan := number?_of_get? (hnode.get? (by simp [fields])) toInt_ofVlanId
    holds := by simpa [fields] using hnode.holds }

structure ArpRow.ToldBy (r : ArpRow) (t : TraitTree) : Prop where
  identity : t.identity = .arpEntry
  protocol : t.text? .proto = some (trimmed r.protocol)
  address : t.TellsAddress (some r.ip)
  mac : t.TellsMac (some r.mac)
  interface : t.text? .interfaceName = some (trimmed r.interface)
  holds : t.Holds [(.proto, true), (.ipv4, true), (.macAddr, true), (.interfaceName, true)]

theorem ArpRow.toldBy_node (r : ArpRow) : r.ToldBy r.node := by
  have hnode : r.node.MadeOf .arpEntry r.fields := madeOf_storeAll (by simp [fields]) _
  exact {
    identity := hnode.identity
    protocol := text?_of_get? (v := some r.protocol) (hnode.get? (by simp [fields]))
    address := tellsAddress_of_get? (hnode.get? (by simp [fields]))
    mac := tellsMac_of_get? (hnode.get? (by simp [fields]))
    interface := text?_of_get? (v := some r.interface) (hnode.get? (by simp [fields]))
    holds := by simpa [fields] using hnode.holds }

/-- The known fields of a version, and no others. -/
structure VersionInfo.ToldBy (v : VersionInfo) (t : TraitTree) : Prop where
  identity : t.identity = .versionConfig
  version : t.text? .versionNo = v.version.map trimmed
  model : t.text? .versionModel = v.model.map trimmed
  serial : t.text? .versionSerialNo = v.serial.map trimmed
  image : t.text? .versionSoftwareImage = v.image.map trimmed
  holds : t.Holds [(.versionNo, v.version.isSome), (.versionModel, v.model.isSome),
    (.versionSerialNo, v.serial.isSome), (.versionSoftwareImage, v.image.isSome)]

theorem VersionInfo.toldBy_node (v : VersionInfo) : v.ToldBy v.node := by
  have hnode : v.node.MadeOf .versionConfig v.fields := madeOf_storeAll (by simp [fields]) _
  exact {
    identity := hnode.identity
    version := text?_of_get? (hnode.get? (by simp [fields]))
    model := text?_of_get? (hnode.get? (by simp [fields]))
    serial := text?_of_get? (hnode.get? (by simp [fields]))
    image := text?_of_get? (hnode.get? (by simp [fields]))
    holds := by simpa [fields] using hnode.holds }

structure UserToldBy (user : String × Option String) (t : TraitTree) : Prop where
  identity : t.identity = .usernameEntry
  name : t.text? .username = some (trimmed user.1)
  password : t.text? .password = user.2.map trimmed
  holds : t.Holds [(.username, true), (.password, user.2.isSome)]

theorem userToldBy_userEntry (user : String × Option String) :
    UserToldBy user (userEntry user) := by
  have hnode : (userEntry user).MadeOf .usernameEntry (userFields user) :=
    madeOf_storeAll (by simp [userFields]) _
  exact {
    identity := hnode.identity
    name := text?_of_get? (v := some user.1) (hnode.get? (by simp [userFields]))
    password := text?_of_get? (hnode.get? (by simp [userFields]))
    holds := by simpa [userFields] using hnode.holds }

structure SubInterfaceToldBy (id : UInt32) (t : TraitTree) : Prop where
  identity : t.identity = .subInterfaceEntry
  id : (t.int? .subInterfaceId).map Int32.toUInt32 = some id
  holds : t.Holds [(.subInterfaceId, true)]

theorem subInterfaceToldBy_entry (id : UInt32) :
    SubInterfaceToldBy id (subInterfaceEntry id) := by
  have hnode : (subInterfaceEntry id).MadeOf .subInterfaceEntry (subInterfaceFields id) :=
    madeOf_storeAll (by simp [subInterfaceFields]) _
  exact {
    identity := hnode.identity
    id := by
      rw [int?_of_get? (v := some id) (f := UInt32.toInt32)
        (hnode.get? (by simp [subInterfaceFields]))]
      exact congrArg some (UInt32.toUInt32_toInt32 id)
    holds := by simpa [subInterfaceFields] using hnode.holds }

/-! ## Ports -/

namespace Port

/-- The parts of a port's number, none where the number has no slot. -/
def parts (p : Port) : List (Trait × List Char) := (p.slots?.map Prod.snd).getD []

/-- What else is known of a port. -/
def knownFields (p : Port) : List (Trait × Bool) :=
  [(.macAddr, p.mac.isSome), (.description, p.description.isSome), (.hardware, p.hardware.isSome),
    (.ipv4, p.ip.isSome), (.cidr, p.cidr.isSome), (.interfaceStatus, p.status.isSome),
    (.lineStatus, p.lineStatus.isSome), (.switchportMode, p.trunk),
    (.ifSpVlanList, !p.vlans.isEmpty), (.subInterfaceList, !p.subInterfaces.isEmpty)]

/-- The traits of a port: number and name always, the others as far as they are known. -/
def known (p : Port) : List (Trait × Bool) :=
  p.parts.map (fun part => (part.1, true)) ++ (.interfaceName, true) :: p.knownFields

/-- How a node tells the name of a port: type and number, or the whole name. -/
inductive NamedBy (p : Port) (t : TraitTree) : Prop
  | whole (slots : p.slots? = none) (identity : t.identity = .managementInterfaceEntry)
      (name : t.text? .interfaceName = some (trimmed p.name))
  | numbered {kind : List Char} {parts : List (Trait × List Char)}
      (slots : p.slots? = some (kind, parts)) (identity : t.identity = .interfaceListEntry)
      (name : t.text? .interfaceName = some (trimmed (String.ofList kind)))
      (numbers : ∀ part ∈ parts, t.number? part.1 = some (Decimal.value part.2 : Int))

structure ToldBy (p : Port) (t : TraitTree) : Prop where
  name : p.NamedBy t
  mac : t.TellsMac p.mac
  description : t.text? .description = p.description.map trimmed
  hardware : t.text? .hardware = p.hardware.map trimmed
  address : t.TellsAddress p.ip
  cidr : t.number? .cidr = p.cidr.map fun n => (n.toNat : Int)
  status : t.text? .interfaceStatus = p.status.map trimmed
  lineStatus : t.text? .lineStatus = p.lineStatus.map trimmed
  trunk : t.text? .switchportMode = if p.trunk then some "trunk" else none
  vlans : t.numbers .ifSpVlanList = p.vlans.toList.map fun id => (id.toNat : Int)
  vlans_ascending : (t.numbers .ifSpVlanList).Pairwise (· < ·)
  subInterfaces : List.Forall₂ SubInterfaceToldBy p.subInterfaces.toList
    (t.listed .subInterfaceList)
  holds : t.Holds p.known

theorem namedBy_node {p : Port} (h : p.Fits) : p.NamedBy p.node := by
  cases hslots : p.slots? with
  | none =>
    obtain ⟨hidentity, hname⟩ := node_of_no_slots hslots
    exact .whole hslots hidentity hname
  | some s =>
    obtain ⟨kind, parts⟩ := s
    obtain ⟨hidentity, hname, hnumbers⟩ := node_of_slots hslots
    refine .numbered hslots hidentity hname fun part hpart => ?_
    rw [number?, hnumbers part hpart]
    exact congrArg some (toInt_ofPart (h kind parts hslots part hpart))

theorem vlans_ascending (p : Port) :
    (p.vlans.toList.map fun id => (id.toNat : Int)).Pairwise (· < ·) := by
  refine List.pairwise_map.2 (p.vlans.ascending.imp fun {a b} hab => ?_)
  have hlt : a < b := Std.compare_eq_lt.1 hab
  exact Int.ofNat_lt.2 (UInt16.lt_iff_toNat_lt.1 hlt)

/-- The traits of a port's node are those of its number and name, and those that the port has a
value for. -/
theorem known_nodeFields (p : Port) :
    p.nodeFields.map (fun f => (f.1, f.2.isSome)) = p.known := by
  have hfields : p.fields.map (fun f => (f.1, f.2.isSome)) = p.knownFields := by
    have htrunk : (if p.trunk then some "trunk" else none).isSome = p.trunk := by
      cases p.trunk <;> rfl
    simp only [fields, knownFields, List.map_cons, List.map_nil, Option.isSome_map, htrunk,
      isSome_ofNodes?, isSome_ite]
    rfl
  have hheading : p.heading.2.map (fun f => (f.1, f.2.isSome)) =
      p.parts.map (fun part => (part.1, true)) ++ [(.interfaceName, true)] := by
    rw [heading, parts]
    cases p.slots? with
    | none => rfl
    | some s => simp [Interface.partFields]
  rw [nodeFields, List.map_append, hfields, hheading, known, List.append_assoc]
  rfl

theorem toldBy_node {p : Port} (h : p.Fits) : p.ToldBy p.node := by
  have hget {key : Trait} {value : Option TraitValue} (hfield : (key, value) ∈ p.fields) :
      p.node.get? key = value := p.madeOf_node.get? (List.mem_append_right _ hfield)
  have hvlans : p.node.numbers .ifSpVlanList = p.vlans.toList.map fun id => (id.toNat : Int) :=
    numbers_of_get? (hget (by simp [fields, SortedSet.isEmpty])) toInt_ofVlanId
  exact {
    name := namedBy_node h
    mac := tellsMac_of_get? (hget (by simp [fields]))
    description := text?_of_get? (hget (by simp [fields]))
    hardware := text?_of_get? (hget (by simp [fields]))
    address := tellsAddress_of_get? (hget (by simp [fields]))
    cidr := number?_of_get? (hget (by simp [fields])) toInt_ofCidr
    status := text?_of_get? (hget (by simp [fields]))
    lineStatus := text?_of_get? (hget (by simp [fields]))
    trunk := by
      have htext := text?_of_get? (t := p.node) (hget (by simp [fields]) :
        p.node.get? .switchportMode = (if p.trunk then some "trunk" else none).map .ofText)
      rw [htext]
      cases p.trunk <;> rfl
    vlans := hvlans
    vlans_ascending := hvlans ▸ p.vlans_ascending
    subInterfaces := by
      have hlist : p.node.listed .subInterfaceList = p.subInterfaces.toList.map subInterfaceEntry :=
        getD_list?_of_get? (hget (by simp [fields]))
      rw [hlist, List.forall₂_map_right_iff, List.forall₂_same]
      exact fun id _ => subInterfaceToldBy_entry id
    holds := p.known_nodeFields ▸ p.madeOf_node.holds }

end Port

/-! ## Devices -/

/-- Values that know their own keys, in the order of the keys. -/
theorem SortedMap.map_values_eq_keys {κ α : Type} [Ord κ] [Std.TransOrd κ] [Std.LawfulEqOrd κ]
    [DecidableEq κ] {m : SortedMap κ α} {f : α → κ} (h : ∀ k v, m.find? k = some v → f v = k) :
    m.values.map f = m.keys := by
  rw [values, keys, List.map_map]
  exact List.map_congr_left fun e he => h e.1 e.2 (SortedMap.mem_entries.1 he)

/-- The tree of a device tells the device: each list is there exactly when it has items, with a
node for each of them in their order. -/
structure Device.ToldBy (d : Device) (t : TraitTree) : Prop where
  identity : t.identity = .root
  name : t.text? .deviceName = some (trimmed d.name)
  hostName : t.text? .hostName = d.hostName.map trimmed
  ports : List.Forall₂ Port.ToldBy d.ports.values (t.listed .interfaceList)
  ports_by_name : Ascending (d.ports.values.map (·.name))
  vlans : List.Forall₂ Vlan.ToldBy d.vlans.values (t.listed .vlanList)
  vlans_by_id : Ascending (d.vlans.values.map (·.id))
  macTable : List.Forall₂ MacRow.ToldBy d.macTable (t.listed .macTable)
  arp : List.Forall₂ ArpRow.ToldBy d.arp (t.listed .arpTable)
  version : if d.version.isEmpty then t.branch? .versionConfig = none
    else ∃ node, t.branch? .versionConfig = some node ∧ d.version.ToldBy node
  users : List.Forall₂ UserToldBy d.users.entries (t.listed .usernameList)
  users_by_name : Ascending (d.users.entries.map Prod.fst)
  commands : (t.texts? .processedCommands).getD [] = d.commands
  holds : t.Holds [(.deviceName, true), (.hostName, d.hostName.isSome),
    (.interfaceList, !d.ports.isEmpty), (.vlanList, !d.vlans.isEmpty),
    (.macTable, !d.macTable.isEmpty), (.arpTable, !d.arp.isEmpty),
    (.versionConfig, !d.version.isEmpty), (.usernameList, !d.users.isEmpty),
    (.processedCommands, !d.commands.isEmpty)]

namespace Device

variable {d : Device} {t : TraitTree}

theorem ports_by_name (h : Linked d) : Ascending (d.ports.values.map (·.name)) := by
  rw [SortedMap.map_values_eq_keys h.own_name]
  exact d.ports.ascending

theorem vlans_by_id (h : VlansKeyed d) : Ascending (d.vlans.values.map (·.id)) := by
  rw [SortedMap.map_values_eq_keys h]
  exact d.vlans.ascending

/-- Nodes that stand under a trait of the tree, one for each item. -/
theorem forall₂_listed {α : Type} {items : List α} {node : α → TraitTree}
    {Told : α → TraitTree → Prop} {key : Trait}
    (h : t.get? key = TraitValue.ofNodes? (items.map node)) (hnode : ∀ a ∈ items, Told a (node a)) :
    List.Forall₂ Told items (t.listed key) := by
  have hlist : t.listed key = items.map node := getD_list?_of_get? h
  rw [hlist, List.forall₂_map_right_iff, List.forall₂_same]
  exact hnode

theorem madeOf_node (d : Device) :
    d.node.MadeOf .root (d.fields (d.ports.values.map Port.node)) :=
  madeOf_storeAll (by simp [fields]) _

theorem holds_node (d : Device) :
    d.node.Holds [(.deviceName, true), (.hostName, d.hostName.isSome),
      (.interfaceList, !d.ports.isEmpty), (.vlanList, !d.vlans.isEmpty),
      (.macTable, !d.macTable.isEmpty), (.arpTable, !d.arp.isEmpty),
      (.versionConfig, !d.version.isEmpty), (.usernameList, !d.users.isEmpty),
      (.processedCommands, !d.commands.isEmpty)] := by
  have hvalues {κ α : Type} [Ord κ] (m : SortedMap κ α) : m.values.isEmpty = m.isEmpty :=
    List.isEmpty_map
  have hholds := d.madeOf_node.holds
  simp only [fields, List.map_cons, List.map_nil, Option.isSome_map, Option.isSome_some,
    isSome_ofNodes?, isSome_ite, hvalues] at hholds
  exact hholds

theorem toldBy_node (hlinked : Linked d) (hkeyed : VlansKeyed d)
    (hfits : ∀ p ∈ d.ports.values, p.Fits) : d.ToldBy d.node := by
  have hnode := d.madeOf_node
  exact {
    identity := hnode.identity
    name := text?_of_get? (v := some d.name) (hnode.get? (by simp [fields]))
    hostName := text?_of_get? (hnode.get? (by simp [fields]))
    ports := forall₂_listed (hnode.get? (by simp [fields])) fun p hp => Port.toldBy_node (hfits p hp)
    ports_by_name := ports_by_name hlinked
    vlans := forall₂_listed (hnode.get? (by simp [fields])) fun v _ => v.toldBy_node
    vlans_by_id := vlans_by_id hkeyed
    macTable := forall₂_listed (hnode.get? (by simp [fields])) fun r _ => r.toldBy_node
    arp := forall₂_listed (hnode.get? (by simp [fields])) fun r _ => r.toldBy_node
    version := by
      have hversion : d.node.get? .versionConfig =
          if d.version.isEmpty then none else some (.branch d.version.node) :=
        hnode.get? (by simp [fields])
      rw [branch?, hversion]
      split
      · rfl
      · exact ⟨_, rfl, d.version.toldBy_node⟩
    users := forall₂_listed (hnode.get? (by simp [fields])) fun user _ => userToldBy_userEntry user
    users_by_name := d.users.ascending
    commands := by
      have hcommands : d.node.get? .processedCommands =
          if d.commands.isEmpty then none else some (.texts d.commands) :=
        hnode.get? (by simp [fields])
      rw [texts?, hcommands]
      cases d.commands <;> rfl
    holds := d.holds_node }

/-- Whenever a device that readers made is exported, its tree tells the device. -/
theorem toldBy_of_toTree (hd : Surveyed d) (h : d.toTree = .ok t) : d.ToldBy t := by
  have hfits := fits_of_toTree h
  rw [toTree_of_fits hfits] at h
  cases h
  exact toldBy_node hd.linked_keyed.1 hd.linked_keyed.2 hfits

/-- A session with one address in two places: at a port, and in the table of resolved addresses. -/
def routed : Bytes := Utf8.encode <|
  "sw#sh run\nhostname core\ninterface GigabitEthernet1/0/1\n description uplink\n".toList ++
    " ip address 10.0.0.2 255.255.255.0\n".toList ++
    "sw#sh arp\nInternet 10.0.0.2 - 0011.2233.4455 ARPA Vlan10\n".toList

theorem toldBy_routed :
    ∃ d t, importDevice .standard { shortest := 1 } "sw.txt" (some routed) = .ok d ∧
      d.toTree = .ok t ∧ d.ToldBy t ∧
      (t.listed .interfaceList).map (fun n => (n.text? .interfaceName, n.int? .ipv4)) =
        [(some "GigabitEthernet", some 167772162)] ∧
      (t.listed .arpTable).map (fun n => (n.text? .interfaceName, n.int? .ipv4)) =
        [(some "Vlan10", some 167772162)] := by
  have hread : ((importDevice .standard { shortest := 1 } "sw.txt" (some routed)).toOption.any
      fun d => d.toTree.toOption.any fun t =>
        (t.listed .interfaceList).map (fun n => (n.text? .interfaceName, n.int? .ipv4)) ==
          [(some "GigabitEthernet", some 167772162)] &&
        (t.listed .arpTable).map (fun n => (n.text? .interfaceName, n.int? .ipv4)) ==
          [(some "Vlan10", some 167772162)]) = true := by decide +kernel
  cases himport : importDevice .standard { shortest := 1 } "sw.txt" (some routed) with
  | error fault =>
    rw [himport] at hread
    cases hread
  | ok d =>
    cases htree : d.toTree with
    | error fault => simp [himport, htree, Except.toOption] at hread
    | ok t =>
      simp only [himport, htree, Except.toOption, Option.any_some, Bool.and_eq_true,
        beq_iff_eq] at hread
      exact ⟨d, t, rfl, htree, toldBy_of_toTree (surveyed_of_importDevice himport) htree,
        hread.1, hread.2⟩

end Device

end HostSurvey
