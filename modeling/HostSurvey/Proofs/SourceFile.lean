import HostSurvey.Show.Command

/-!
# The file that a device comes from

What is read into a device does not depend on the file that the device is said
to come from, and leaves that file as it is: every operation on a device, and
every reader, commutes with a change of the file.
-/

namespace HostSurvey

/-- The same device, said to come from another file. -/
def Device.withSource (source : Option String) (d : Device) : Device := { d with source }

namespace Device

variable (source : Option String) (d : Device)

@[simp] theorem ports_withSource : (d.withSource source).ports = d.ports := rfl

@[simp] theorem portKey?_withSource (name : String) :
    (d.withSource source).portKey? name = d.portKey? name := rfl

@[simp] theorem openPort_withSource (name : String) :
    (d.withSource source).openPort name =
      ((d.openPort name).1, (d.openPort name).2.withSource source) := by
  unfold openPort
  simp only [portKey?_withSource]
  split
  · split <;> rfl
  · rfl

@[simp] theorem modifyPort_withSource (key : String) (f : Port → Port) :
    (d.withSource source).modifyPort key f = (d.modifyPort key f).withSource source := by
  unfold modifyPort
  simp only [ports_withSource]
  split <;> rfl

@[simp] theorem editPort_withSource (name : String) (f : Port → Port) :
    (d.withSource source).editPort name f = (d.editPort name f).withSource source := by
  simp [editPort]

@[simp] theorem editVlan_withSource (id : UInt16) (f : Vlan → Vlan) :
    (d.withSource source).editVlan id f = (d.editVlan id f).withSource source := rfl

@[simp] theorem addVlanMember_withSource (port : String) (id : UInt16) :
    (d.withSource source).addVlanMember port id = (d.addVlanMember port id).withSource source := by
  simp [addVlanMember]

@[simp] theorem addMacRow_withSource (vlan : Option UInt16) (mac : Mac) (port : String) :
    (d.withSource source).addMacRow vlan mac port =
      (d.addMacRow vlan mac port).withSource source := by
  cases vlan with
  | none =>
    simp only [addMacRow, openPort_withSource, modifyPort_withSource]
    rfl
  | some id =>
    simp only [addMacRow, openPort_withSource, modifyPort_withSource, addVlanMember_withSource,
      editVlan_withSource]
    rfl

@[simp] theorem addArpRow_withSource (row : ArpRow) :
    (d.withSource source).addArpRow row = (d.addArpRow row).withSource source := by
  unfold addArpRow
  cases Interface.vlanId? row.interface.toList <;> rfl

end Device

/-! ## Address tables -/

namespace AddressTable

variable (source : Option String) (lines : List (List Char)) (d : Device)

theorem readArp_withSource :
    readArp lines (d.withSource source) =
      ((readArp lines d).1, (readArp lines d).2.withSource source) := by
  exact congrArg (Prod.mk _) (List.foldl_hom (Device.withSource source) fun d row =>
    d.addArpRow_withSource source row)

theorem MacLayout.read_withSource (layout : MacLayout) :
    layout.read lines (d.withSource source) =
      ((layout.read lines d).1, (layout.read lines d).2.withSource source) := by
  exact congrArg (Prod.mk _) (List.foldl_hom (Device.withSource source) fun d row =>
    d.addMacRow_withSource source row.vlan row.mac row.port)

end AddressTable

/-! ## Interfaces -/

namespace Interfaces

variable (source : Option String) (d : Device)

@[simp] theorem editOwnVlan_withSource (name : String) (f : Vlan → Vlan) :
    editOwnVlan (d.withSource source) name f = (editOwnVlan d name f).withSource source := by
  unfold editOwnVlan
  cases Interface.vlanId? name.toList <;> rfl

@[simp] theorem applyStatus_withSource (s : Status) :
    applyStatus (d.withSource source) s =
      ((applyStatus d s).1, (applyStatus d s).2.withSource source) := by
  simp [applyStatus]

@[simp] theorem applyProperty_withSource (name : String) (p : Property) :
    applyProperty (d.withSource source) name p = (applyProperty d name p).withSource source := by
  cases p with
  | hardware hardware mac => simp [applyProperty]
  | description text => simp [applyProperty]
  | address text =>
    cases h : Ipv4.parseNetwork? text with
    | none => simp [applyProperty, h]
    | some network => simp [applyProperty, h]

def State.withSource (s : State) : State := { s with device := s.device.withSource source }

theorem step_withSource (s : State) (line : List Char) :
    step (s.withSource source) line = (step s line).withSource source := by
  unfold step State.withSource
  cases Status.parse? line with
  | some status => simp
  | none =>
    simp only
    split <;> simp

theorem read_withSource (lines : List (List Char)) :
    read lines (d.withSource source) =
      ((read lines d).1, (read lines d).2.withSource source) := by
  have hfold : lines.foldl step (State.withSource source { device := d }) =
      (lines.foldl step { device := d }).withSource source :=
    List.foldl_hom (State.withSource source) (step_withSource source)
  exact congrArg (fun s : State => (s.current.isSome, s.device)) hfold

end Interfaces

/-! ## The running configuration -/

namespace RunningConfig

variable (source : Option String) (d : Device)

@[simp] theorem applyToPort_withSource (name : String) (s : Setting) :
    applyToPort (d.withSource source) name s = (applyToPort d name s).withSource source := by
  cases s with
  | vlans ids =>
    exact List.foldl_hom (Device.withSource source) fun d id =>
      d.addVlanMember_withSource source name id
  | _ => simp [applyToPort]

@[simp] theorem applyToLogical_withSource (name : String) (vlan : Option UInt16) (s : Setting) :
    applyToLogical (d.withSource source) name vlan s =
      (applyToLogical d name vlan s).withSource source := by
  cases vlan with
  | none => exact applyToPort_withSource source d name s
  | some id => cases s <;> rfl

@[simp] theorem portLine_withSource (names : List String) (line : List Char) :
    portLine (d.withSource source) names line = (portLine d names line).withSource source := by
  unfold portLine
  cases Setting.ofPortLine? line with
  | none => rfl
  | some s =>
    exact List.foldl_hom (Device.withSource source) fun d name =>
      applyToPort_withSource source d name s

@[simp] theorem logicalLine_withSource (name : String) (vlan : Option UInt16) (line : List Char) :
    logicalLine (d.withSource source) name vlan line =
      (logicalLine d name vlan line).withSource source := by
  unfold logicalLine
  cases Setting.ofLogicalLine? line <;> simp

@[simp] theorem setHostName_withSource (line : List Char) :
    setHostName (d.withSource source) line = (setHostName d line).withSource source := by
  unfold setHostName
  simp only
  split <;> rfl

@[simp] theorem addUser_withSource (line : List Char) :
    addUser (d.withSource source) line = (addUser d line).withSource source := by
  unfold addUser
  simp only
  split
  · rfl
  · split <;> rfl

@[simp] theorem openPort_withSource (word : List Char) :
    openPort (d.withSource source) word =
      ((openPort d word).1, (openPort d word).2.withSource source) := by
  unfold openPort
  split
  · simp only [Device.openPort_withSource]
    split <;> simp
  · simp

theorem openPorts_withSource (members : List (List Char)) :
    openPorts (d.withSource source) members =
      ((openPorts d members).1, (openPorts d members).2.withSource source) := by
  induction members generalizing d with
  | nil => rfl
  | cons member rest ih => simp [openPorts, ih]

@[simp] theorem openInterface_withSource (line : List Char) :
    openInterface (d.withSource source) line =
      ((openInterface d line).1, (openInterface d line).2.withSource source) := by
  unfold openInterface
  simp only [openPorts_withSource, openPort_withSource, Device.openPort_withSource]
  split
  · rfl
  · split
    · rfl
    · split
      · rfl
      · split <;> rfl

def State.withSource (s : State) : State := { s with device := s.device.withSource source }

theorem topLine_withSource (found : Bool) (line : List Char) :
    topLine found (d.withSource source) line = (topLine found d line).withSource source := by
  unfold topLine
  cases trigger? line with
  | none => rfl
  | some trigger =>
    cases trigger with
    | version => rfl
    | _ => simp [State.withSource]

theorem step_withSource (s : State) (line : List Char) :
    step (s.withSource source) line = (step s line).withSource source := by
  obtain ⟨block, found, d⟩ := s
  cases block with
  | top => exact topLine_withSource source d found line
  | ports names =>
    simp only [step, State.withSource, portLine_withSource]
    split <;> rfl
  | logical name vlan =>
    simp only [step, State.withSource, logicalLine_withSource]
    split <;> rfl
  | dashed =>
    simp only [step, State.withSource]
    split <;> rfl

theorem read_withSource (lines : List (List Char)) :
    read lines (d.withSource source) =
      ((read lines d).1, (read lines d).2.withSource source) := by
  have hfold : lines.foldl step (State.withSource source { device := d }) =
      (lines.foldl step { device := d }).withSource source :=
    List.foldl_hom (State.withSource source) (step_withSource source)
  exact congrArg (fun s : State => (s.found, s.device)) hfold

end RunningConfig

/-! ## Every reader -/

theorem OutputReader.read_withSource (reader : OutputReader) (lines : List (List Char))
    (source : Option String) (d : Device) :
    reader.read lines (d.withSource source) =
      ((reader.read lines d).1, (reader.read lines d).2.withSource source) := by
  cases reader with
  | runningConfig => exact RunningConfig.read_withSource source d lines
  | interfaces => exact Interfaces.read_withSource source d lines
  | arp => exact AddressTable.readArp_withSource source lines d
  | macTable layout => exact AddressTable.MacLayout.read_withSource source lines d layout
  | version => rfl

end HostSurvey
