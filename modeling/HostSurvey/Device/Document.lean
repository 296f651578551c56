import HostSurvey.Device.Basic
import HostSurvey.Json.Value

/-!
# Devices as documents

Every field is written, in the order of the types; what is not known is null.
Ports, VLANs and users are objects by name or number.
-/

namespace HostSurvey

def macOrNull (m : Option Mac) : Json := .textOrNull (m.map Mac.text)

def ipOrNull (ip : Option Ipv4) : Json := .textOrNull (ip.map Ipv4.text)

def byteOrNull (n : Option UInt8) : Json := .natOrNull (n.map UInt8.toNat)

def macList (s : SortedSet Mac) : Json := .array (s.toList.map fun m => .text m.text)

namespace Port

def toJson (p : Port) : Json :=
  .record [
    ("name", .text p.name),
    ("description", .textOrNull p.description),
    ("hardware", .textOrNull p.hardware),
    ("mac", macOrNull p.mac),
    ("ip", ipOrNull p.ip),
    ("cidr", byteOrNull p.cidr),
    ("status", .textOrNull p.status),
    ("line_status", .textOrNull p.lineStatus),
    ("line_detail", .textOrNull p.lineDetail),
    ("trunk", .bool p.trunk),
    ("vlans", .array (p.vlans.toList.map fun id => .nat id.toNat)),
    ("sub_interfaces", .array (p.subInterfaces.toList.map fun id => .nat id.toNat)),
    ("connections", macList p.connections)]

end Port

namespace Vlan

def toJson (v : Vlan) : Json :=
  .record [
    ("id", .nat v.id.toNat),
    ("name", .textOrNull v.name),
    ("ip", ipOrNull v.ip),
    ("cidr", byteOrNull v.cidr),
    ("ports", .array (v.ports.toList.map .text)),
    ("macs", macList v.macs)]

end Vlan

def ArpRow.toJson (r : ArpRow) : Json :=
  .record [
    ("protocol", .text r.protocol),
    ("ip", .text r.ip.text),
    ("age", .natOrNull (r.age.map UInt32.toNat)),
    ("mac", .text r.mac.text),
    ("kind", .text r.kind),
    ("interface", .text r.interface)]

def MacRow.toJson (r : MacRow) : Json :=
  .record [
    ("vlan", .natOrNull (r.vlan.map UInt16.toNat)),
    ("mac", .text r.mac.text),
    ("port", .text r.port)]

def VersionInfo.toJson (v : VersionInfo) : Json :=
  .record [
    ("version", .textOrNull v.version),
    ("model", .textOrNull v.model),
    ("serial", .textOrNull v.serial),
    ("image", .textOrNull v.image)]

def Device.toJson (d : Device) : Json :=
  .record [
    ("name", .text d.name),
    ("host_name", .textOrNull d.hostName),
    ("source", .textOrNull d.source),
    ("version", d.version.toJson),
    ("ports", .record (d.ports.entries.map fun e => (e.1, e.2.toJson))),
    ("vlans", .record (d.vlans.entries.map fun e => (toString e.1.toNat, e.2.toJson))),
    ("users", .record (d.users.entries.map fun e => (e.1, .textOrNull e.2))),
    ("arp", .array (d.arp.map ArpRow.toJson)),
    ("mac_table", .array (d.macTable.map MacRow.toJson)),
    ("commands", .array (d.commands.map .text))]

end HostSurvey
