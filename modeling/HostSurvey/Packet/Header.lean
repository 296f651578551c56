import HostSurvey.Packet.Flags
import HostSurvey.Packet.Window
import HostSurvey.Text.Decimal

/-!
# Packet headers

`Header` holds what filters look at. `Header.ofFrame` decodes an Ethernet frame
with at most one VLAN tag that carries IPv4 with TCP or UDP, and gives the
offset of the transport payload with it. What is not there, or not of that
kind, leaves its fields at zero. Acknowledgement and sequence numbers are kept
as text, since rules compare them as text.
-/

namespace HostSurvey

structure Header where
  src : UInt16 := 0
  dst : UInt16 := 0
  eth : UInt16 := 0
  ttl : UInt8 := 0
  proto : UInt8 := 0
  dsize : UInt32 := 0
  window : UInt16 := 0
  size : UInt32 := 0
  frame : UInt64 := 0
  flags : String := ""
  ack : String := ""
  seq : String := ""
  deriving DecidableEq, Repr, Inhabited

namespace Header

def ethertypeIpv4 : UInt16 := 0x0800
def ethertypeVlan : UInt16 := 0x8100
def protoTcp : UInt8 := 6
def protoUdp : UInt8 := 17

def isTcp (h : Header) : Bool := h.proto == protoTcp

/-- Two bytes as a number in network order. -/
def word (data : Bytes) (offset : Nat) : UInt16 := (data.number offset 2 .big).toUInt16

/-- Four bytes as the decimal text of a number in network order. -/
def wordText (data : Bytes) (offset : Nat) : String :=
  String.ofList (Text.Decimal.ofNat (data.number offset 4 .big))

/-- The ethertype behind an optional VLAN tag, and where the network header starts. -/
def link (data : Bytes) : UInt16 × Nat :=
  if word data 12 = ethertypeVlan then (word data 16, 18) else (word data 12, 14)

/-- Fills in the transport header at `l4`, and gives the start of its payload. -/
def transport (h : Header) (data : Bytes) (l4 : Nat) : Header × Nat :=
  if h.proto = protoTcp then
    let control := word data (l4 + 12)
    ({ h with
        src := word data l4
        dst := word data (l4 + 2)
        seq := wordText data (l4 + 4)
        ack := wordText data (l4 + 8)
        flags := Flags.names (control &&& 0x01FF)
        window := word data (l4 + 14) },
      l4 + (control >>> 12).toNat * 4)
  else if h.proto = protoUdp then
    ({ h with src := word data l4, dst := word data (l4 + 2) }, l4 + 8)
  else (h, l4)

/-- Decodes a frame. A total length of zero means that the datagram fills the frame. -/
def ofFrame (frame : UInt64) (data : Bytes) : Header × Nat :=
  let (eth, ip) := link data
  let h : Header := { eth, frame, size := data.length.toUInt32 }
  if eth ≠ ethertypeIpv4 ∨ data.length < ip + 20 then (h, min ip data.length)
  else
    let first := ((data.byte? ip).getD 0).toNat
    if first / 16 ≠ 4 then (h, ip)
    else
      let total := (word data (ip + 2)).toNat
      let ending := if total = 0 then data.length else min (ip + total) data.length
      let h := { h with
        ttl := (data.byte? (ip + 8 : Nat)).getD 0
        proto := (data.byte? (ip + 9 : Nat)).getD 0 }
      let (h, start) := h.transport data (ip + max (first % 16 * 4) 20)
      let start := min start data.length
      ({ h with dsize := (ending - start).toUInt32 }, start)

end Header

end HostSurvey
