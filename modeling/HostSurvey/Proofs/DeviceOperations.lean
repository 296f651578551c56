import HostSurvey.Proofs.PortReferences
import HostSurvey.Show.Import

/-!
# Operations on devices

Whatever reads the output of a command changes a device by a few operations
alone, and through these it leaves names, memberships and learned addresses to
the device (`Operation.Respects`). `Reaches` collects devices that come about so,
and every reader is shown to stay among them; what an operation keeps is then
kept by every import.
-/

namespace HostSurvey

open Text

namespace Device

/-- What can be done to a device. -/
inductive Operation where
  /-- Opens a port and changes it. -/
  | edit (name : String) (f : Port → Port)
  | join (name : String) (id : UInt16)
  | learn (vlan : Option UInt16) (mac : Mac) (name : String)
  | vlan (id : UInt16) (f : Vlan → Vlan)
  | arp (row : ArpRow)
  | user (name : String)
  | password (user password : String)
  | command (command : String)
  /-- Says what the device is called, which file tells of it and what runs on it. -/
  | describe (name : String) (hostName source : Option String) (version : VersionInfo)

namespace Operation

/-- Changes of ports and VLANs leave alone what the device itself keeps in step. -/
def Respects : Operation → Prop
  | edit _ f => ∀ p, (f p).name = p.name ∧ (f p).vlans = p.vlans ∧ (f p).connections = p.connections
  | vlan _ f => ∀ v, (f v).id = v.id ∧ (f v).ports = v.ports ∧ (f v).macs = v.macs
  | _ => True

/-- The name of the port that is opened. -/
def port? : Operation → Option String
  | edit name _ | join name _ | learn _ _ name => some name
  | _ => none

end Operation

def perform (d : Device) : Operation → Device
  | .edit name f => d.editPort name f
  | .join name id => d.addVlanMember name id
  | .learn vlan mac name => d.addMacRow vlan mac name
  | .vlan id f => d.editVlan id f
  | .arp row => d.addArpRow row
  | .user name => d.addUser name
  | .password user password => d.addPassword user password
  | .command command => d.addCommand command
  | .describe name hostName source version => { d with name, hostName, source, version }

/-- A device after operations. -/
def performAll (d : Device) (ops : List Operation) : Device := ops.foldl perform d

/-- Operations that respect what the device keeps in step lead from one device to another. -/
inductive Reaches (d : Device) : Device → Prop
  | refl : Reaches d d
  | step {e : Device} (op : Operation) (hop : op.Respects) (h : Reaches d e) :
      Reaches d (e.perform op)

theorem Reaches.trans {d e f : Device} (h : Reaches d e) (h' : Reaches e f) : Reaches d f := by
  induction h' with
  | refl => exact h
  | step op hop _ ih => exact ih.step op hop

theorem Reaches.foldl {α : Type} {f : Device → α → Device} (h : ∀ d a, Reaches d (f d a))
    (l : List α) (d : Device) : Reaches d (l.foldl f d) := by
  induction l generalizing d with
  | nil => exact .refl
  | cons a l ih => exact (h d a).trans (ih _)

section Steps

variable (d : Device)

theorem reaches_editPort (name : String) {f : Port → Port}
    (hf : (Operation.edit name f).Respects) : Reaches d (d.editPort name f) :=
  .step (.edit name f) hf .refl

theorem reaches_editVlan (id : UInt16) {f : Vlan → Vlan}
    (hf : (Operation.vlan id f).Respects) : Reaches d (d.editVlan id f) :=
  .step (.vlan id f) hf .refl

theorem reaches_addVlanMember (name : String) (id : UInt16) :
    Reaches d (d.addVlanMember name id) :=
  .step (.join name id) trivial .refl

theorem reaches_describe (name : String) (hostName source : Option String)
    (version : VersionInfo) : Reaches d { d with name, hostName, source, version } :=
  .step (.describe name hostName source version) trivial .refl

theorem modifyPort_id (key : String) : d.modifyPort key id = d := by
  unfold modifyPort
  split
  · rename_i p hp
    rw [id, SortedMap.insert_eq_self hp]
  · rfl

/-- To open a port is to edit it without a change. -/
theorem reaches_openPort (name : String) : Reaches d (d.openPort name).2 := by
  have h : Reaches d ((d.openPort name).2.modifyPort (d.openPort name).1 id) :=
    d.reaches_editPort name fun _ => ⟨rfl, rfl, rfl⟩
  rwa [modifyPort_id] at h

end Steps

end Device

open Device

/-! ## Address tables -/

namespace AddressTable

theorem reaches_readArp (lines : List (List Char)) (d : Device) :
    Reaches d (readArp lines d).2 :=
  .foldl (fun _ row => .step (.arp row) trivial .refl) _ d

theorem MacLayout.reaches_read (layout : MacLayout) (lines : List (List Char)) (d : Device) :
    Reaches d (layout.read lines d).2 := by
  have hrow (d : Device) (r : MacRow) : Reaches d (d.addMacRow r.vlan r.mac r.port) :=
    .step (.learn r.vlan r.mac r.port) trivial .refl
  exact .foldl hrow _ d

end AddressTable

/-! ## Interfaces -/

namespace Interfaces

theorem reaches_editOwnVlan (d : Device) (name : String) {f : Vlan → Vlan}
    (hf : ∀ v, (f v).id = v.id ∧ (f v).ports = v.ports ∧ (f v).macs = v.macs) :
    Reaches d (editOwnVlan d name f) := by
  unfold editOwnVlan
  split
  · exact d.reaches_editVlan _ hf
  · exact .refl

theorem reaches_applyStatus (d : Device) (s : Status) : Reaches d (applyStatus d s).2 :=
  d.reaches_editPort s.name fun _ => ⟨rfl, rfl, rfl⟩

theorem reaches_applyProperty (d : Device) (name : String) (p : Property) :
    Reaches d (applyProperty d name p) := by
  cases p with
  | hardware hardware mac => exact d.reaches_editPort name fun _ => ⟨rfl, rfl, rfl⟩
  | description text =>
    have hvlan := reaches_editOwnVlan d name (f := fun v => { v with name := some text })
      fun _ => ⟨rfl, rfl, rfl⟩
    exact hvlan.trans (reaches_editPort _ name fun _ => ⟨rfl, rfl, rfl⟩)
  | address text =>
    simp only [applyProperty]
    split
    · rename_i ip cidr hnetwork
      have hport := d.reaches_editPort name (f := fun p => { p with ip := some ip, cidr })
        fun _ => ⟨rfl, rfl, rfl⟩
      exact hport.trans (reaches_editOwnVlan _ name fun _ => ⟨rfl, rfl, rfl⟩)
    · exact .refl

theorem reaches_step (s : State) (line : List Char) : Reaches s.device (step s line).device := by
  unfold step
  split
  · exact reaches_applyStatus s.device _
  · split
    · exact reaches_applyProperty s.device _ _
    · exact .refl

theorem reaches_read (lines : List (List Char)) (d : Device) : Reaches d (read lines d).2 := by
  suffices hfold : ∀ s : State, Reaches s.device (lines.foldl step s).device from
    hfold { device := d }
  induction lines with
  | nil => exact fun s => .refl
  | cons line lines ih => exact fun s => (reaches_step s line).trans (ih _)

end Interfaces

/-! ## The running configuration -/

namespace RunningConfig

variable (d : Device)

theorem reaches_applyToPort (name : String) (s : Setting) :
    Reaches d (applyToPort d name s) := by
  cases s with
  | vlans ids => exact .foldl (fun d id => d.reaches_addVlanMember name id) ids d
  | _ => exact d.reaches_editPort name fun _ => ⟨rfl, rfl, rfl⟩

theorem reaches_applyToVlan (id : UInt16) (s : Setting) : Reaches d (applyToVlan d id s) := by
  cases s with
  | address ip cidr => exact d.reaches_editVlan id fun _ => ⟨rfl, rfl, rfl⟩
  | description text => exact d.reaches_editVlan id fun _ => ⟨rfl, rfl, rfl⟩
  | _ => exact .refl

theorem reaches_portLine (names : List String) (line : List Char) :
    Reaches d (portLine d names line) := by
  unfold portLine
  split
  · exact .foldl (fun d name => reaches_applyToPort d name _) names d
  · exact .refl

theorem reaches_logicalLine (name : String) (vlan : Option UInt16) (line : List Char) :
    Reaches d (logicalLine d name vlan line) := by
  unfold logicalLine
  split
  · cases vlan with
    | none => exact reaches_applyToPort d name _
    | some id => exact reaches_applyToVlan d id _
  · exact .refl

theorem reaches_setHostName (line : List Char) : Reaches d (setHostName d line) := by
  unfold setHostName
  simp only
  split
  · exact .refl
  · exact d.reaches_describe ..

theorem reaches_addUser (line : List Char) : Reaches d (addUser d line) := by
  unfold addUser
  simp only
  split
  · exact .refl
  · have huser (name : String) : Reaches d (d.addUser name) := .step (.user name) trivial .refl
    split
    · exact (huser _).step (.password _ _) trivial
    · exact huser _

theorem reaches_openPort (word : List Char) : Reaches d (openPort d word).2 := by
  unfold openPort
  split
  · simp only
    split
    · exact d.reaches_editPort _ fun _ => ⟨rfl, rfl, rfl⟩
    · exact d.reaches_openPort _
  · exact d.reaches_openPort _

theorem reaches_openPorts (members : List (List Char)) : Reaches d (openPorts d members).2 := by
  induction members generalizing d with
  | nil => exact .refl
  | cons member rest ih => exact (d.reaches_openPort _).trans (ih _)

theorem reaches_openInterface (line : List Char) : Reaches d (openInterface d line).2 := by
  unfold openInterface
  simp only
  split
  · exact reaches_openPorts d _
  · split
    · exact .refl
    · split
      · exact reaches_openPort d _
      · split
        · exact .refl
        · exact d.reaches_openPort _

theorem reaches_topLine (found : Bool) (line : List Char) :
    Reaches d (topLine found d line).device := by
  unfold topLine
  split
  · exact .refl
  · exact reaches_openInterface d line
  · exact reaches_setHostName d line
  · exact reaches_addUser d line
  · exact d.reaches_describe ..
  · exact .refl

theorem reaches_step (s : State) (line : List Char) : Reaches s.device (step s line).device := by
  unfold step
  split
  · exact reaches_topLine s.device s.found line
  · split
    · exact .refl
    · exact reaches_portLine s.device _ _
  · split
    · exact .refl
    · exact reaches_logicalLine s.device _ _ _
  · split <;> exact .refl

theorem reaches_read (lines : List (List Char)) : Reaches d (read lines d).2 := by
  suffices hfold : ∀ s : State, Reaches s.device (lines.foldl step s).device from
    hfold { device := d }
  induction lines with
  | nil => exact fun s => .refl
  | cons line lines ih => exact fun s => (reaches_step s line).trans (ih _)

end RunningConfig

/-! ## Every reader -/

theorem OutputReader.reaches_read (reader : OutputReader) (lines : List (List Char))
    (d : Device) : Reaches d (reader.read lines d).2 := by
  cases reader with
  | runningConfig => exact RunningConfig.reaches_read d lines
  | interfaces => exact Interfaces.reaches_read lines d
  | arp => exact AddressTable.reaches_readArp lines d
  | macTable layout => exact layout.reaches_read lines d
  | version => exact d.reaches_describe ..

namespace Device

/-- Devices as the readers make them, whatever they read and in whatever order. -/
inductive Surveyed : Device → Prop
  | blank (name : String) : Surveyed (.blank name)
  | read {d : Device} (reader : OutputReader) (lines : List (List Char)) (h : Surveyed d) :
      Surveyed (reader.read lines d).2
  | command {d : Device} (command : String) (h : Surveyed d) : Surveyed (d.addCommand command)
  | source {d : Device} (file : Option String) (h : Surveyed d) :
      Surveyed { d with source := file }

theorem Surveyed.readSection {d : Device} (h : Surveyed d) (r : Registry) (s : Session.Section) :
    Surveyed (readSection r d s) := by
  unfold HostSurvey.readSection
  split
  · rename_i key reader hlookup
    have hread := h.read reader s.output
    split
    · rename_i e he
      rw [he] at hread
      exact hread.command s.command
    · rename_i e he
      rwa [he] at hread
  · exact h

/-- An imported device is made by readers. -/
theorem surveyed_of_importDevice {r : Registry} {options : SplitOptions} {file : String}
    {content : Option Bytes} {d : Device} (h : importDevice r options file content = .ok d) :
    Surveyed d := by
  have hfold (sections : List Session.Section) {d : Device} (hd : Surveyed d) :
      Surveyed (sections.foldl (HostSurvey.readSection r) d) := by
    induction sections generalizing d with
    | nil => exact hd
    | cons s sections ih => exact ih (hd.readSection r s)
  cases content with
  | none => cases h
  | some content =>
    cases hsplit : Session.split options content with
    | error fault =>
      simp only [importDevice, hsplit] at h
      cases h
    | ok session =>
      simp only [importDevice, hsplit] at h
      have hdevice : session.toDevice r file = .ok d := h
      unfold Session.toDevice at hdevice
      split at hdevice
      · cases hdevice
      · split at hdevice
        · cases hdevice
        · cases hdevice
          exact hfold _ ((Surveyed.blank session.device).source (some file))

theorem Surveyed.reaches {d : Device} (h : Surveyed d) : ∃ name, Reaches (.blank name) d := by
  induction h with
  | blank name => exact ⟨name, .refl⟩
  | read reader lines _ ih =>
    obtain ⟨name, ih⟩ := ih
    exact ⟨name, ih.trans (reader.reaches_read lines _)⟩
  | command command _ ih =>
    obtain ⟨name, ih⟩ := ih
    exact ⟨name, ih.step (.command command) trivial⟩
  | source file _ ih =>
    obtain ⟨name, ih⟩ := ih
    exact ⟨name, ih.trans (reaches_describe ..)⟩

/-! ## What operations keep -/

variable {d : Device}

theorem Linked.perform (hd : Linked d) {op : Operation} (hop : op.Respects) :
    Linked (d.perform op) := by
  -- users, commands and descriptions are no references
  have hother {e : Device} (hports : e.ports = d.ports) (hvlans : e.vlans = d.vlans)
      (hrows : e.macTable = d.macTable) : Linked e := by
    constructor
    · rw [hports]; exact hd.own_name
    · rw [hports]; exact hd.trimmed_name
    · rw [hports, hvlans]; exact hd.mem_vlans_iff
    · rw [hports, hvlans]; exact hd.member_exists
    · rw [hports, hrows]; exact hd.row_exists
    · rw [hports, hrows]; exact hd.mem_connections_iff
    · rw [hports, hvlans, hrows]; exact hd.row_vlan
  cases op with
  | edit name f =>
    exact hd.apply (.edit name ⟨f, fun p => (hop p).1, fun p => (hop p).2.1, fun p => (hop p).2.2⟩)
  | join name id => exact hd.apply (.join name id)
  | learn vlan mac name => exact hd.apply (.learn vlan mac name)
  | vlan id f => exact hd.editVlan id (fun v => (hop v).2.1) fun v mac hmac => by rwa [(hop v).2.2]
  | arp row => exact hd.addArpRow row
  | _ => exact hother rfl rfl rfl

/-- A VLAN is stored under its own number. -/
def VlansKeyed (d : Device) : Prop := ∀ id v, d.vlans.find? id = some v → v.id = id

theorem VlansKeyed.editVlan (hd : VlansKeyed d) (id : UInt16) {f : Vlan → Vlan}
    (hf : ∀ v, (f v).id = v.id) : VlansKeyed (d.editVlan id f) := by
  intro i v hv
  unfold Device.editVlan at hv
  rw [SortedMap.find?_alter] at hv
  split at hv
  · rename_i hi
    cases hv
    rw [hf, ← hi]
    cases hfind : d.vlans.find? id with
    | none => rfl
    | some v => exact hd id v hfind
  · exact hd i v hv

theorem VlansKeyed.opens (hd : VlansKeyed d) {name key : String} {d₁ : Device}
    (h : d.Opens name key d₁) : VlansKeyed d₁ := by
  cases h with
  | found hkey hp hlength => exact hd
  | added hkey hfree => exact hd
  | @renamed old p hkey hp hfree hlength =>
    intro i v hv
    rw [vlan?_renamePort] at hv
    obtain ⟨w, hw, rfl⟩ := Option.map_eq_some_iff.1 hv
    have hid : (w.renamePort old name).id = w.id := by
      unfold Vlan.renamePort
      split <;> rfl
    rw [hid]
    exact hd i w hw

theorem VlansKeyed.apply (hd : VlansKeyed d) (hl : Linked d) (c : PortCall) :
    VlansKeyed (c.apply d) := by
  obtain ⟨key, d₁, p, hopens, -, -, -, happly⟩ := hl.apply_cases c
  have hd₁ := hd.opens hopens
  rw [happly]
  intro i v hv
  rw [c.vlan?_record] at hv
  split at hv
  · cases hv
    have hid (v : Vlan) : (c.onVlan key v).id = v.id := by cases c <;> rfl
    rw [hid]
    cases hfind : d₁.vlans.find? i with
    | none => rfl
    | some v => exact hd₁ i v hfind
  · exact hd₁ i v hv

theorem VlansKeyed.perform (hd : VlansKeyed d) (hl : Linked d) {op : Operation}
    (hop : op.Respects) : VlansKeyed (d.perform op) := by
  cases op with
  | edit name f =>
    exact hd.apply hl
      (.edit name ⟨f, fun p => (hop p).1, fun p => (hop p).2.1, fun p => (hop p).2.2⟩)
  | join name id => exact hd.apply hl (.join name id)
  | learn vlan mac name => exact hd.apply hl (.learn vlan mac name)
  | vlan id f => exact hd.editVlan id fun v => (hop v).1
  | arp row =>
    have hrow : VlansKeyed (d.addArpRow row) := by
      unfold addArpRow
      simp only
      split
      · exact hd.editVlan _ fun v => rfl
      · exact hd
    exact hrow
  | _ => exact hd

theorem Reaches.linked_keyed {e : Device} (h : Reaches d e) (hl : Linked d) (hd : VlansKeyed d) :
    Linked e ∧ VlansKeyed e := by
  induction h with
  | refl => exact ⟨hl, hd⟩
  | step op hop _ ih => exact ⟨ih.1.perform hop, ih.2.perform ih.1 hop⟩

/-- The references of a device that readers made agree, and its VLANs stand under their numbers. -/
theorem Surveyed.linked_keyed (h : Surveyed d) : Linked d ∧ VlansKeyed d := by
  obtain ⟨name, h⟩ := h.reaches
  exact h.linked_keyed (linked_blank name) fun i v hv => by cases hv

end Device

end HostSurvey
