import HostSurvey.Device.Basic
import HostSurvey.Report.Line
import HostSurvey.Tree.Outline

/-!
# Reports on devices

One block for each device with its ports and VLANs in columns, and the outline
of its tree.
-/

namespace HostSurvey.Report

/-- An address with its length, as far as they are known. -/
def addressText (ip : Option Ipv4) (cidr : Option UInt8) : String :=
  match ip, cidr with
  | some ip, some n => ip.text ++ "/" ++ toString n.toNat
  | some ip, none => ip.text
  | none, _ => ""

def versionLines (v : VersionInfo) : List String :=
  [("Version", v.version), ("Model", v.model), ("Serial", v.serial), ("Image", v.image)].filterMap
    fun (label, value) => value.map fun s => labelled label (Colour.yellow.paint s)

def portLine (p : Port) : String :=
  framed ("  " ++ padded 24 p.name ++ " " ++ padded 22 (p.status.getD "-") ++ " " ++
    padded 17 ((p.mac.map Mac.text).getD "") ++ " " ++ padded 18 (addressText p.ip p.cidr) ++ " " ++
    String.intercalate "," (p.vlans.toList.map fun id => toString id.toNat) ++
    if p.trunk then " (trunk)" else "")

def portLines (p : Port) : List String :=
  portLine p ::
    if p.connections.isEmpty then []
    else [framed ("    sees " ++ toString p.connections.size ++ " address(es)")]

def vlanLine (v : Vlan) : String :=
  framed ("  " ++ padded 6 (toString v.id.toNat) ++ " " ++ padded 20 (v.name.getD "") ++ " " ++
    padded 16 (addressText v.ip none) ++ " " ++ toString v.ports.size ++ " port(s), " ++
    toString v.macs.size ++ " address(es)")

/-- A title and lines below it; nothing when there are no lines. -/
def titled (title : String) (lines : List String) : List String :=
  if lines.isEmpty then [] else bar "" :: framed (Colour.blue.paint title) :: lines

def userLine (user : String × Option String) : String :=
  labelled "User" (Colour.yellow.paint user.1 ++ " (password " ++
    (if user.2.isSome then "set" else "none") ++ ")")

def arpLines (d : Device) : List String :=
  if d.arp.isEmpty then [] else [bar "", labelled "ARP entries" (toString d.arp.length)]

def deviceLines (d : Device) : List String :=
  [bar "", framed ("Device " ++ Colour.red.paint d.name)] ++
    (d.source.map (labelled "Source")).toList ++
    versionLines d.version ++
    [labelled "Commands" (String.intercalate ", " d.commands)] ++
    titled "Ports" (d.ports.values.flatMap portLines) ++
    titled "VLANs" (d.vlans.values.map vlanLine) ++
    arpLines d ++
    d.users.entries.map userLine ++
    [framed ""]

def devicesLines (ds : List Device) : List String := heading "Devices" ++ ds.flatMap deviceLines

def treeLines (name : String) (t : TraitTree) : List String :=
  heading name ++ (textLines t.outline).map bar

end HostSurvey.Report
