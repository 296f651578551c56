import HostSurvey.Sorted.Rank

/-!
# Traits

The closed set of things that a survey records about a device. Every trait has
a name in written trees, a label in messages, and the kind of value that may
stand under it. Traits are ordered as they are listed.
-/

namespace HostSurvey

inductive Trait where
  | root | switchInterfaces | subInterfaceList | subInterfaceEntry | subInterfaceId | interfaceList
  | interfaceListEntry | interfaceModule | interfaceSlot | interfaceId | interfaceName
  | managementInterfaceEntry | interfaceStatus | lineStatus | switchportMode | ipv4 | ipv4Src
  | ipv4Dst | ipv4Netmask | cidr | hardware | description | portDeprecated | macTable
  | ciscoRunningConfig | vlanList | vlan | vlanId | versionConfig | versionNo | versionModel
  | versionSerialNo | versionSoftwareImage | processedCommands | macAddr | timestamp | offset
  | payload | portDst | portSrc | ethertype | proto | frameNo | usernameList | usernameEntry
  | username | password | manufacturer | serialNumber | packetSize | deviceName | hostName
  | ifSpVlanList | ifTunnel | comment | commands | arpTable | arpEntry
  deriving DecidableEq, Repr

namespace Trait

def all : List Trait :=
  [.root, .switchInterfaces, .subInterfaceList, .subInterfaceEntry, .subInterfaceId,
  .interfaceList, .interfaceListEntry, .interfaceModule, .interfaceSlot, .interfaceId,
  .interfaceName, .managementInterfaceEntry, .interfaceStatus, .lineStatus, .switchportMode, .ipv4,
  .ipv4Src, .ipv4Dst, .ipv4Netmask, .cidr, .hardware, .description, .portDeprecated, .macTable,
  .ciscoRunningConfig, .vlanList, .vlan, .vlanId, .versionConfig, .versionNo, .versionModel,
  .versionSerialNo, .versionSoftwareImage, .processedCommands, .macAddr, .timestamp, .offset,
  .payload, .portDst, .portSrc, .ethertype, .proto, .frameNo, .usernameList, .usernameEntry,
  .username, .password, .manufacturer, .serialNumber, .packetSize, .deviceName, .hostName,
  .ifSpVlanList, .ifTunnel, .comment, .commands, .arpTable, .arpEntry]

/-- What a trait is called in messages. -/
def label : Trait → String
  | .root => "Root"
  | .switchInterfaces => "SwitchInterfaces"
  | .subInterfaceList => "SubInterfaceList"
  | .subInterfaceEntry => "SubInterfaceEntry"
  | .subInterfaceId => "SubInterfaceId"
  | .interfaceList => "InterfaceList"
  | .interfaceListEntry => "InterfaceListEntry"
  | .interfaceModule => "InterfaceModule"
  | .interfaceSlot => "InterfaceSlot"
  | .interfaceId => "InterfaceId"
  | .interfaceName => "InterfaceName"
  | .managementInterfaceEntry => "ManagementInterfaceEntry"
  | .interfaceStatus => "InterfaceStatus"
  | .lineStatus => "LineStatus"
  | .switchportMode => "SwitchportMode"
  | .ipv4 => "Ipv4"
  | .ipv4Src => "Ipv4Src"
  | .ipv4Dst => "Ipv4Dst"
  | .ipv4Netmask => "Ipv4Netmask"
  | .cidr => "Cidr"
  | .hardware => "Hardware"
  | .description => "Description"
  | .portDeprecated => "PortDeprecated"
  | .macTable => "MacTable"
  | .ciscoRunningConfig => "CiscoRunningConfig"
  | .vlanList => "VlanList"
  | .vlan => "Vlan"
  | .vlanId => "VlanId"
  | .versionConfig => "VersionConfig"
  | .versionNo => "VersionNo"
  | .versionModel => "VersionModel"
  | .versionSerialNo => "VersionSerialNo"
  | .versionSoftwareImage => "VersionSoftwareImage"
  | .processedCommands => "ProcessedCommands"
  | .macAddr => "MacAddr"
  | .timestamp => "Timestamp"
  | .offset => "Offset"
  | .payload => "Payload"
  | .portDst => "PortDst"
  | .portSrc => "PortSrc"
  | .ethertype => "Ethertype"
  | .proto => "Proto"
  | .frameNo => "FrameNo"
  | .usernameList => "UsernameList"
  | .usernameEntry => "UsernameEntry"
  | .username => "Username"
  | .password => "Password"
  | .manufacturer => "Manufacturer"
  | .serialNumber => "SerialNumber"
  | .packetSize => "PacketSize"
  | .deviceName => "DeviceName"
  | .hostName => "HostName"
  | .ifSpVlanList => "IfSpVlanList"
  | .ifTunnel => "IfTunnel"
  | .comment => "Comment"
  | .commands => "Commands"
  | .arpTable => "ArpTable"
  | .arpEntry => "ArpEntry"

/-- What a trait is called in a tree. -/
def name : Trait → String
  | .root => "ROOT"
  | .switchInterfaces => "SWITCH_INTERFACES"
  | .subInterfaceList => "SUB_INTERFACE_LIST"
  | .subInterfaceEntry => "SUB_INTERFACE_ENTRY"
  | .subInterfaceId => "SUB_INTERFACE_ID"
  | .interfaceList => "INTERFACE_LIST"
  | .interfaceListEntry => "INTERFACE_LIST_ENTRY"
  | .interfaceModule => "INTERFACE_MODULE"
  | .interfaceSlot => "INTERFACE_SLOT"
  | .interfaceId => "INTERFACE_ID"
  | .interfaceName => "INTERFACE_NAME"
  | .managementInterfaceEntry => "MANAGEMENT_INTERFACE_ENTRY"
  | .interfaceStatus => "INTERFACE_STATUS"
  | .lineStatus => "LINE_STATUS"
  | .switchportMode => "SWITCHPORT_MODE"
  | .ipv4 => "IPv4"
  | .ipv4Src => "IPv4_SRC"
  | .ipv4Dst => "IPv4_DST"
  | .ipv4Netmask => "IPv4_NETMASK"
  | .cidr => "CIDR"
  | .hardware => "HARDWARE"
  | .description => "DESCRIPTION"
  | .portDeprecated => "PORT_DEPRECATED"
  | .macTable => "MAC_TABLE"
  | .ciscoRunningConfig => "CISCO_RUNNING_CONFIG"
  | .vlanList => "VLAN_LIST"
  | .vlan => "VLAN"
  | .vlanId => "VLAN_ID"
  | .versionConfig => "VERSION_CONFIG"
  | .versionNo => "VERSION_NO"
  | .versionModel => "VERSION_MODEL"
  | .versionSerialNo => "VERSION_SERIAL_NO"
  | .versionSoftwareImage => "VERSION_SOFTWARE_IMAGE"
  | .processedCommands => "PROCESSED_COMMANDS"
  | .macAddr => "MAC_ADDR"
  | .timestamp => "TIMESTAMP"
  | .offset => "OFFSET"
  | .payload => "PAYLOAD"
  | .portDst => "PORT_DST"
  | .portSrc => "PORT_SRC"
  | .ethertype => "ETHERTYPE"
  | .proto => "PROTO"
  | .frameNo => "FRAME_NO"
  | .usernameList => "USERNAME_LIST"
  | .usernameEntry => "USERNAME_ENTRY"
  | .username => "USERNAME"
  | .password => "PASSWORD"
  | .manufacturer => "MANUFACTURER"
  | .serialNumber => "SERIALNUMBER"
  | .packetSize => "PACKET_SIZE"
  | .deviceName => "DEVICE_NAME"
  | .hostName => "HOST_NAME"
  | .ifSpVlanList => "IF_SP_VLAN_LIST"
  | .ifTunnel => "IF_TUNNEL"
  | .comment => "COMMENT"
  | .commands => "COMMANDS"
  | .arpTable => "ARP_TABLE"
  | .arpEntry => "ARP_ENTRY"

/-! ## Order -/

theorem all_getElem?_ctorIdx (t : Trait) : all[t.ctorIdx]? = some t := by cases t <;> rfl

instance : Ranked Trait where
  rank := Trait.ctorIdx
  eq_of_rank_eq a b h := by
    have ha := all_getElem?_ctorIdx a
    rw [h, all_getElem?_ctorIdx b] at ha
    exact (Option.some.inj ha).symm

instance : Ord Trait := ⟨Ranked.compareRank⟩

instance : Std.TransOrd Trait := inferInstanceAs (Std.TransCmp Ranked.compareRank)

instance : Std.LawfulEqOrd Trait := inferInstanceAs (Std.LawfulEqCmp Ranked.compareRank)

end Trait

/-! ## Kinds of values -/

/-- What may stand under a trait. -/
inductive ValueKind where
  | anything | text | int | long | bytes | branch | list
  deriving DecidableEq, Repr

def ValueKind.name : ValueKind → String
  | .anything => "Object"
  | .text => "String"
  | .int => "Integer"
  | .long => "Long"
  | .bytes => "Bytes"
  | .branch => "TraitMap"
  | .list => "List"

namespace Trait

def kind : Trait → ValueKind
  | .root => .anything
  | .switchInterfaces | .subInterfaceList | .interfaceList | .macTable | .ciscoRunningConfig
  | .vlanList | .processedCommands | .usernameList | .ifSpVlanList | .comment | .commands
  | .arpTable => .list
  | .subInterfaceEntry | .interfaceListEntry | .managementInterfaceEntry | .vlan | .versionConfig
  | .usernameEntry | .arpEntry => .branch
  | .subInterfaceId | .interfaceModule | .interfaceSlot | .interfaceId | .ipv4 | .ipv4Src
  | .ipv4Dst | .ipv4Netmask | .cidr | .portDeprecated | .vlanId | .offset | .frameNo
  | .packetSize => .int
  | .macAddr | .timestamp => .long
  | .payload => .bytes
  | .interfaceName | .interfaceStatus | .lineStatus | .switchportMode | .hardware | .description
  | .versionNo | .versionModel | .versionSerialNo | .versionSoftwareImage | .portDst | .portSrc
  | .ethertype | .proto | .username | .password | .manufacturer | .serialNumber | .deviceName
  | .hostName | .ifTunnel => .text

/-- What a node of this identity has to hold to be complete. -/
def required : Trait → List Trait
  | .interfaceListEntry => [.interfaceId, .interfaceName, .macAddr]
  | .subInterfaceEntry => [.subInterfaceId]
  | .managementInterfaceEntry => [.interfaceName]
  | .vlan => [.vlanId]
  | .usernameEntry => [.username]
  | .arpEntry => [.ipv4, .macAddr]
  | _ => []

end Trait

end HostSurvey
