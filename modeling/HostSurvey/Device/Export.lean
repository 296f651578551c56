import HostSurvey.Device.Basic
import HostSurvey.Device.Fault
import HostSurvey.Interface.Numbering
import HostSurvey.Tree.Edit

/-!
# Devices as trees

The tree of a device names it and lists its ports, VLANs, tables, users and
commands, as far as there are any. A port whose number has no slot is exported
as a management interface under its whole name.
-/

namespace HostSurvey

open TraitTree

namespace Interface

/-- Stores the parts of an interface number; the first part that cannot be stored ends it, and the
parts before it remain. -/
def place (t : TraitTree) (numbering : List Char) : TraitTree × Option ImportFault :=
  match placement? numbering with
  | none => (t, some (.noSlot (String.ofList numbering)))
  | some parts =>
    let (t, fault) := t.putReadAll parts
    (t, fault.map .tree)

end Interface

/-- Stores what there is of an optional value. -/
def putIf {α : Type} (value : Option α) (put : TraitTree → α → Except TraitFault TraitTree)
    (t : TraitTree) : Except TraitFault TraitTree :=
  match value with
  | some a => put t a
  | none => .ok t

def putTextIf (key : Trait) (value : Option String) (t : TraitTree) :
    Except TraitFault TraitTree :=
  putIf value (fun t s => t.putText key s) t

/-- Stores a list of nodes, one for each item; nothing when there are no items. -/
def putNodes {α : Type} (key : Trait) (items : List α) (node : α → Except TraitFault TraitTree)
    (t : TraitTree) : Except TraitFault TraitTree :=
  if items.isEmpty then .ok t
  else do t.put key (.list (← items.mapM node))

namespace Port

/-- The node of a port whose number has no slot, or that has no number. -/
def managementNode (p : Port) : Except TraitFault TraitTree :=
  (TraitTree.empty .managementInterfaceEntry).putText .interfaceName p.name

/-- The node of a port with its name and number alone. -/
def namedNode (p : Port) : Except TraitFault TraitTree :=
  match Interface.split? p.name.toList with
  | none => p.managementNode
  | some (kind, numbers) =>
    match Interface.placement? numbers with
    | none => p.managementNode
    | some parts =>
      match (TraitTree.empty .interfaceListEntry).putReadAll parts with
      | (_, some fault) => .error fault
      | (t, none) => t.putText .interfaceName (String.ofList kind)

def subInterfaceNode (id : UInt32) : Except TraitFault TraitTree :=
  (TraitTree.empty .subInterfaceEntry).put .subInterfaceId (.int id.toInt32)

def toTree (p : Port) : Except TraitFault TraitTree := do
  let t ← p.namedNode
  let t ← putIf p.mac (fun t m => t.put .macAddr (.long m.toInt64)) t
  let t ← putTextIf .description p.description t
  let t ← putTextIf .hardware p.hardware t
  let t ← putIf p.ip (fun t ip => t.put .ipv4 (.int ip.toInt32)) t
  let t ← putIf p.cidr (fun t n => t.put .cidr (.int n.toUInt32.toInt32)) t
  let t ← putTextIf .interfaceStatus p.status t
  let t ← putTextIf .lineStatus p.lineStatus t
  let t ← putTextIf .switchportMode (if p.trunk then some "trunk" else none) t
  let t ←
    if p.vlans.isEmpty then .ok t
    else t.put .ifSpVlanList (.ints (p.vlans.toList.map fun id => id.toUInt32.toInt32))
  putNodes .subInterfaceList p.subInterfaces.toList subInterfaceNode t

end Port

def Vlan.toTree (v : Vlan) : Except TraitFault TraitTree := do
  let t ← (TraitTree.empty .vlan).put .vlanId (.int v.id.toUInt32.toInt32)
  let t ← putTextIf .description v.name t
  let t ← putIf v.ip (fun t ip => t.put .ipv4 (.int ip.toInt32)) t
  putIf v.cidr (fun t n => t.put .cidr (.int n.toUInt32.toInt32)) t

def MacRow.toTree (r : MacRow) : Except TraitFault TraitTree := do
  let t ← (TraitTree.empty .switchInterfaces).put .macAddr (.long r.mac.toInt64)
  let t ← t.putText .interfaceName r.port
  putIf r.vlan (fun t id => t.put .vlanId (.int id.toUInt32.toInt32)) t

def ArpRow.toTree (r : ArpRow) : Except TraitFault TraitTree := do
  let t ← (TraitTree.empty .arpEntry).putText .proto r.protocol
  let t ← t.putRead .ipv4 r.ip.chars
  let t ← t.put .macAddr (.long r.mac.toInt64)
  t.putText .interfaceName r.interface

def VersionInfo.toTree (v : VersionInfo) : Except TraitFault TraitTree := do
  let t ← putTextIf .versionNo v.version (.empty .versionConfig)
  let t ← putTextIf .versionModel v.model t
  let t ← putTextIf .versionSerialNo v.serial t
  putTextIf .versionSoftwareImage v.image t

def userNode (user : String × Option String) : Except TraitFault TraitTree := do
  let t ← (TraitTree.empty .usernameEntry).putText .username user.1
  putTextIf .password user.2 t

def Device.toTree (d : Device) : Except TraitFault TraitTree := do
  let t ← (TraitTree.empty .root).putText .deviceName d.name
  let t ← putTextIf .hostName d.hostName t
  let t ← putNodes .interfaceList d.ports.values Port.toTree t
  let t ← putNodes .vlanList d.vlans.values Vlan.toTree t
  let t ← putNodes .macTable d.macTable MacRow.toTree t
  let t ← putNodes .arpTable d.arp ArpRow.toTree t
  let t ←
    if d.version.isEmpty then .ok t
    else do t.put .versionConfig (.branch (← d.version.toTree))
  let t ← putNodes .usernameList d.users.entries userNode t
  if d.commands.isEmpty then .ok t else t.put .processedCommands (.texts d.commands)

end HostSurvey
