import HostSurvey.Device.Basic
import HostSurvey.Text.Blank

/-!
# Address tables

Rows are words in columns. A row that has not the right number of words, or
whose addresses cannot be read, is passed over, and so are headings.
-/

namespace HostSurvey.AddressTable

open Text

/-! ## Address resolution -/

def arpRow? (line : List Char) : Option ArpRow :=
  match words line with
  | [protocol, ip, age, mac, kind, interface] => do
    return {
      protocol := String.ofList protocol
      ip := ← Ipv4.parse? ip
      age := Decimal.readUInt32 age
      mac := ← Mac.parse? mac
      kind := String.ofList kind
      interface := String.ofList interface }
  | _ => none

/-- Reads a table of resolved addresses; says whether it has any row. -/
def readArp (lines : List (List Char)) (d : Device) : Bool × Device :=
  let rows := lines.filterMap arpRow?
  (!rows.isEmpty, rows.foldl Device.addArpRow d)

/-! ## Learned addresses -/

/-- The order of the four columns. -/
inductive MacLayout where
  /-- Address, type, VLAN, port. -/
  | addressFirst
  /-- VLAN, address, type, port. -/
  | vlanFirst
  deriving DecidableEq, Repr

/-- Words of rows that are no learned addresses. -/
def reserved : List (List Char) := ["All".toList, "CPU".toList]

/-- The words for the VLAN, the address and the port. -/
def MacLayout.pick (layout : MacLayout) : List (List Char) →
    Option (List Char × List Char × List Char)
  | [a, b, c, port] =>
    match layout with
    | .addressFirst => some (c, a, port)
    | .vlanFirst => some (a, b, port)
  | _ => none

def MacLayout.parse? (layout : MacLayout) (line : List Char) : Option MacRow := do
  let columns := words line
  let (vlan, mac, port) ← layout.pick columns
  if columns.any fun w => reserved.contains w then none
  return {
    vlan := some (← Decimal.readUInt16 vlan)
    mac := ← Mac.parse? mac
    port := String.ofList port }

/-- Reads a table of learned addresses; says whether it has any row. -/
def MacLayout.read (layout : MacLayout) (lines : List (List Char)) (d : Device) : Bool × Device :=
  let rows := lines.filterMap layout.parse?
  (!rows.isEmpty, rows.foldl (fun d r => d.addMacRow r.vlan r.mac r.port) d)

end HostSurvey.AddressTable
