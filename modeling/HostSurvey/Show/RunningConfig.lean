import HostSurvey.Device.Basic
import HostSurvey.Interface.Numbering
import HostSurvey.Text.Find

/-!
# The running configuration

A configuration is read line by line. At the top level a line may set the name
of the device, a user or the version, or open the block of an interface. The
block of ports ends at a line that begins with `!`; the block of another
interface also ends where the interface is shut down or loses its address. What
stands between two dashed lines does not count.
-/

namespace HostSurvey.RunningConfig

open Text

/-- Where a line stands. -/
inductive Block where
  | top
  | ports (names : List String)
  /-- An interface without a slot, and the VLAN that it stands for. -/
  | logical (name : String) (vlan : Option UInt16)
  | dashed
  deriving DecidableEq, Repr

structure State where
  block : Block := .top
  /-- Some line of the top level was understood. -/
  found : Bool := false
  device : Device

/-! ## Settings of interfaces -/

inductive Setting where
  | address (ip : Ipv4) (cidr : Option UInt8)
  | description (text : String)
  | shutdown
  | trunk
  | vlans (ids : List UInt16)
  deriving DecidableEq, Repr

/-- The numbers that can be those of VLANs. -/
def vlanIds (ns : List Nat) : List UInt16 :=
  (ns.filter fun n => n ≤ 65535).map Nat.toUInt16

/-- An address with its length or mask. -/
def addressSetting? (s : List Char) : Option Setting :=
  (Ipv4.parseNetwork? s).map fun (ip, cidr) => .address ip cidr

/-- What a line in the block of a port sets. -/
def Setting.ofPortLine? (line : List Char) : Option Setting :=
  if startsWith line "ip address" then addressSetting? (after line "ip address".toList)
  else if startsWith line "description" then
    some (.description (String.ofList (after line "description".toList)))
  else if startsWith line "shutdown" then some .shutdown
  else if startsWith line "switchport" then
    if contains "mode trunk".toList line then some .trunk
    else if contains "vlan".toList line then
      some (.vlans (vlanIds (Interface.numberList (lastWord line))))
    else none
  else none

/-- What a line in the block of another interface sets. -/
def Setting.ofLogicalLine? (line : List Char) : Option Setting :=
  if startsWith line "ip address" then addressSetting? (after line "ip address".toList)
  else if startsWith line "description" then
    some (.description (String.ofList (after line "description".toList)))
  else none

def setAddress (ip : Ipv4) (cidr : Option UInt8) (p : Port) : Port :=
  { p with ip := some ip, cidr }

/-- A port that is shut down keeps a state that was seen before. -/
def shutDown (p : Port) : Port :=
  { p with status := some (p.status.getD "administratively down") }

def applyToPort (d : Device) (name : String) : Setting → Device
  | .address ip cidr => d.editPort name (setAddress ip cidr)
  | .description text => d.editPort name fun p => { p with description := some text }
  | .shutdown => d.editPort name shutDown
  | .trunk => d.editPort name fun p => { p with trunk := true }
  | .vlans ids => ids.foldl (fun d id => d.addVlanMember name id) d

def applyToVlan (d : Device) (id : UInt16) : Setting → Device
  | .address ip cidr => d.editVlan id fun v => { v with ip := some ip, cidr }
  | .description text => d.editVlan id fun v => { v with name := some text }
  | _ => d

def applyToLogical (d : Device) (name : String) (vlan : Option UInt16) (s : Setting) : Device :=
  match vlan with
  | some id => applyToVlan d id s
  | none => applyToPort d name s

def portLine (d : Device) (names : List String) (line : List Char) : Device :=
  match Setting.ofPortLine? line with
  | some s => names.foldl (fun d name => applyToPort d name s) d
  | none => d

def logicalLine (d : Device) (name : String) (vlan : Option UInt16) (line : List Char) : Device :=
  match Setting.ofLogicalLine? line with
  | some s => applyToLogical d name vlan s
  | none => d

/-! ## Lines of the top level -/

def setHostName (d : Device) (line : List Char) : Device :=
  let name := firstWord (after line "hostname".toList)
  if name.isEmpty then d
  else { d with hostName := some (String.ofList name), name := String.ofList name }

def isPasswordWord (word : List Char) : Bool :=
  word == "password".toList || word == "secret".toList

/-- A user, whose password is the last word if some word says that there is one. -/
def addUser (d : Device) (line : List Char) : Device :=
  let rest := after line "username".toList
  match words rest with
  | [] => d
  | user :: others =>
    let d := d.addUser (String.ofList user)
    if others.any isPasswordWord then
      d.addPassword (String.ofList user) (String.ofList (lastWord rest))
    else d

/-- The key of the port that a word names; a sub-interface is recorded at its port. -/
def openPort (d : Device) (word : List Char) : String × Device :=
  if Interface.isSubInterface word then
    let sub := (word.reverse.takeWhile (· != '.')).reverse
    let base := word.take (word.length - sub.length - 1)
    let (key, d) := d.openPort (String.ofList base)
    match Decimal.readUInt32 sub with
    | some id => (key, d.modifyPort key (·.addSubInterface id))
    | none => (key, d)
  else d.openPort (String.ofList word)

/-- Opens ports one after the other; each is told by the key that it has when it is opened. -/
def openPorts (d : Device) : List (List Char) → List String × Device
  | [] => ([], d)
  | member :: rest =>
    let (key, d) := d.openPort (String.ofList member)
    let (keys, d) := openPorts d rest
    (key :: keys, d)

/-- The block that an interface line opens. -/
def openInterface (d : Device) (line : List Char) : Block × Device :=
  let rest := after line "interface".toList
  match strip? "range ".toList rest with
  | some members =>
    let (names, d) := openPorts d ((Interface.expand members).filter Interface.isPhysical)
    (.ports names, d)
  | none =>
    let word := firstWord rest
    if startsWith rest "Null" then (.top, d)
    else if Interface.isPhysical rest then
      let (name, d) := openPort d word
      (.ports [name], d)
    else
      let name := String.ofList word
      match Interface.vlanId? word with
      | some id => (.logical name (some id), d)
      | none => (.logical name none, (d.openPort name).2)

inductive Trigger where
  | interface | hostName | user | version | dashes
  deriving DecidableEq, Repr

/-- What a line of the top level is about. -/
def trigger? (line : List Char) : Option Trigger :=
  if startsWith line "interface" then some .interface
  else if startsWith line "hostname" then some .hostName
  else if startsWith line "username" then some .user
  else if startsWith line "version" then some .version
  else if startsWith line "---------" then some .dashes
  else none

def setVersion (d : Device) (line : List Char) : Device :=
  { d with version.version := some (String.ofList (after line "version".toList)) }

def topLine (found : Bool) (d : Device) (line : List Char) : State :=
  match trigger? line with
  | none => ⟨.top, found, d⟩
  | some .interface =>
    let (block, d) := openInterface d line
    ⟨block, true, d⟩
  | some .hostName => ⟨.top, true, setHostName d line⟩
  | some .user => ⟨.top, true, addUser d line⟩
  | some .version => ⟨.top, true, setVersion d line⟩
  | some .dashes => ⟨.dashed, found, d⟩

/-! ## All lines -/

/-- The line ends the block of an interface without a slot. -/
def endsLogical (line : List Char) : Bool :=
  startsWith line "shutdown" || startsWith line "no ip address" || startsWith line "!"

def step (s : State) (line : List Char) : State :=
  match s.block with
  | .top => topLine s.found s.device line
  | .ports names =>
    if startsWith line "!" then { s with block := .top }
    else { s with device := portLine s.device names (trim line) }
  | .logical name vlan =>
    if endsLogical (trim line) then { s with block := .top }
    else { s with device := logicalLine s.device name vlan (trim line) }
  | .dashed => if startsWith line "---------" then { s with block := .top } else s

/-- Reads a configuration into a device; says whether some line of the top level was understood. -/
def read (lines : List (List Char)) (d : Device) : Bool × Device :=
  let s := lines.foldl step { device := d }
  (s.found, s.device)

end HostSurvey.RunningConfig
