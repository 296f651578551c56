import HostSurvey.Address.Ipv4
import HostSurvey.Address.Mac
import HostSurvey.Interface.Name
import HostSurvey.Sorted.Map

/-!
# Devices

What is known of one device: its ports and VLANs, its users, its address tables
and the commands that told so. A port is found under any abbreviation of its
name and is called by the longest spelling that was met.
-/

namespace HostSurvey

open Text

structure Port where
  name : String
  description : Option String := none
  hardware : Option String := none
  mac : Option Mac := none
  ip : Option Ipv4 := none
  cidr : Option UInt8 := none
  status : Option String := none
  lineStatus : Option String := none
  /-- The note in parentheses behind the state of the line. -/
  lineDetail : Option String := none
  trunk : Bool := false
  vlans : SortedSet UInt16 := .empty
  subInterfaces : SortedSet UInt32 := .empty
  /-- The addresses learned behind the port. -/
  connections : SortedSet Mac := .empty
  deriving DecidableEq

structure Vlan where
  id : UInt16
  name : Option String := none
  ip : Option Ipv4 := none
  cidr : Option UInt8 := none
  /-- The names of the member ports. -/
  ports : SortedSet String := .empty
  macs : SortedSet Mac := .empty
  deriving DecidableEq

structure ArpRow where
  protocol : String
  ip : Ipv4
  age : Option UInt32
  mac : Mac
  kind : String
  interface : String
  deriving DecidableEq, Repr

structure MacRow where
  vlan : Option UInt16
  mac : Mac
  port : String
  deriving DecidableEq, Repr

structure VersionInfo where
  version : Option String := none
  model : Option String := none
  serial : Option String := none
  image : Option String := none
  deriving DecidableEq, Repr

def VersionInfo.isEmpty (v : VersionInfo) : Bool :=
  v.version.isNone && v.model.isNone && v.serial.isNone && v.image.isNone

structure Device where
  name : String
  hostName : Option String := none
  source : Option String := none
  version : VersionInfo := {}
  ports : SortedMap String Port := .empty
  vlans : SortedMap UInt16 Vlan := .empty
  /-- The users with their passwords, as far as these are known. -/
  users : SortedMap String (Option String) := .empty
  arp : List ArpRow := []
  macTable : List MacRow := []
  commands : List String := []
  deriving DecidableEq

def trimmed (s : String) : String := String.ofList (trim s.toList)

namespace Port

def blank (name : String) : Port := { name }

def addSubInterface (p : Port) (id : UInt32) : Port :=
  { p with subInterfaces := p.subInterfaces.insert id }

def addConnection (p : Port) (mac : Mac) : Port :=
  { p with connections := p.connections.insert mac }

def joinVlan (p : Port) (id : UInt16) : Port := { p with vlans := p.vlans.insert id }

end Port

namespace Vlan

def blank (id : UInt16) : Vlan := { id }

def addPort (v : Vlan) (name : String) : Vlan := { v with ports := v.ports.insert name }

def addMac (v : Vlan) (mac : Mac) : Vlan := { v with macs := v.macs.insert mac }

/-- The member `old` under the name `new`. -/
def renamePort (old new : String) (v : Vlan) : Vlan :=
  if old ∈ v.ports then { v with ports := (v.ports.erase old).insert new } else v

end Vlan

def MacRow.renamePort (old new : String) (r : MacRow) : MacRow :=
  if r.port = old then { r with port := new } else r

namespace Device

def blank (name : String) : Device := { name := trimmed name }

instance : Inhabited Device := ⟨blank ""⟩

/-! ## Ports -/

/-- The name under which a port is stored: the name itself, otherwise the first name of the same
interface. -/
def portKey? (d : Device) (name : String) : Option String :=
  if d.ports.contains name then some name
  else d.ports.keys.find? fun key => Interface.same key.toList name.toList

def port? (d : Device) (name : String) : Option Port :=
  (d.portKey? name).bind d.ports.find?

/-- Gives a stored port a new name, everywhere. -/
def renamePort (d : Device) (old new : String) : Device :=
  { d with
    ports :=
      match d.ports.find? old with
      | some p => (d.ports.erase old).insert new { p with name := new }
      | none => d.ports
    vlans := d.vlans.mapValues (Vlan.renamePort old new)
    macTable := d.macTable.map (MacRow.renamePort old new) }

/-- Sees to it that there is a port of the given name: finds it under another spelling, which a
longer one replaces, or adds it. Answers the key of the port. It is the name of the port as well,
since a port is renamed nowhere else (`Linked.own_name`); were the name changed by hand, what is
recorded of the port below would still go by the key. -/
def openPort (d : Device) (name : String) : String × Device :=
  let name := trimmed name
  match d.portKey? name with
  | some key =>
    if key.utf8ByteSize < name.utf8ByteSize then (name, d.renamePort key name) else (key, d)
  | none => (name, { d with ports := d.ports.insert name (.blank name) })

/-- Applies `f` to the port stored under `key`. -/
def modifyPort (d : Device) (key : String) (f : Port → Port) : Device :=
  match d.ports.find? key with
  | some p => { d with ports := d.ports.insert key (f p) }
  | none => d

/-- Opens a port and applies `f` to it. -/
def editPort (d : Device) (name : String) (f : Port → Port) : Device :=
  let (key, d) := d.openPort name
  d.modifyPort key f

/-! ## VLANs -/

def vlan? (d : Device) (id : UInt16) : Option Vlan := d.vlans.find? id

/-- Applies `f` to a VLAN, which is added when it is new. -/
def editVlan (d : Device) (id : UInt16) (f : Vlan → Vlan) : Device :=
  { d with vlans := d.vlans.alter id (.blank id) f }

/-- Makes a port a member of a VLAN, on both sides. The VLAN knows the port by its key. -/
def addVlanMember (d : Device) (port : String) (id : UInt16) : Device :=
  let (key, d) := d.openPort port
  (d.modifyPort key (·.joinVlan id)).editVlan id (·.addPort key)

/-! ## Tables, users and commands -/

/-- Records an address learned behind a port and, if so, in a VLAN. The row knows the port by its
key. -/
def addMacRow (d : Device) (vlan : Option UInt16) (mac : Mac) (port : String) : Device :=
  let (key, d) := d.openPort port
  let d := d.modifyPort key (·.addConnection mac)
  let d :=
    match vlan with
    | some id => (d.addVlanMember key id).editVlan id (·.addMac mac)
    | none => d
  { d with macTable := d.macTable ++ [{ vlan, mac, port := key }] }

/-- Records an address resolution; at the interface of a VLAN, the VLAN knows the address too. -/
def addArpRow (d : Device) (row : ArpRow) : Device :=
  let d :=
    match Interface.vlanId? row.interface.toList with
    | some id => d.editVlan id (·.addMac row.mac)
    | none => d
  { d with arp := d.arp ++ [row] }

/-- Adds a user whose password is not known, unless the user is known already. -/
def addUser (d : Device) (user : String) : Device :=
  { d with users := d.users.alter user none id }

def addPassword (d : Device) (user password : String) : Device :=
  { d with users := d.users.insert user (some password) }

def addCommand (d : Device) (command : String) : Device :=
  { d with commands := d.commands ++ [command] }

end Device

end HostSurvey
