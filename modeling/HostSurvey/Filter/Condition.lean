import HostSurvey.Packet.Header
import HostSurvey.Sorted.Rank

/-!
# Conditions on packet headers

A condition constrains one field of a header, by a value or by a range with
both ends included. Four fields exist in TCP packets alone; a condition on one
of them refuses every other packet. Flags are compared as sets, and the texts
of acknowledgement and sequence numbers without blanks around them.
-/

namespace HostSurvey

inductive Field where
  | ack
  | seq
  | flags
  | dsize
  | dstPort
  | srcPort
  | ethertype
  | transportProtocol
  | ttl
  | window
  deriving DecidableEq, Repr

namespace Field

def name : Field → String
  | ack => "Ack"
  | seq => "Seq"
  | flags => "Flags"
  | dsize => "Dsize"
  | dstPort => "DstPort"
  | srcPort => "SrcPort"
  | ethertype => "Ethertype"
  | transportProtocol => "TransportProtocol"
  | ttl => "Ttl"
  | window => "Window"

def rank : Field → Nat
  | ack => 0
  | seq => 1
  | flags => 2
  | dsize => 3
  | dstPort => 4
  | srcPort => 5
  | ethertype => 6
  | transportProtocol => 7
  | ttl => 8
  | window => 9

instance : Ranked Field where
  rank := rank
  eq_of_rank_eq a b h := by cases a <;> cases b <;> simp_all [rank]

instance : Ord Field := ⟨Ranked.compareRank⟩

instance : Std.TransOrd Field := inferInstanceAs (Std.TransCmp Ranked.compareRank)

instance : Std.LawfulEqOrd Field := inferInstanceAs (Std.LawfulEqCmp Ranked.compareRank)

/-- The fields of TCP packets alone. -/
def tcpOnly : Field → Bool
  | ack | seq | flags | window => true
  | _ => false

end Field

inductive Condition where
  | ack (text : String)
  | seq (text : String)
  | flags (text : String)
  | dsize (value : UInt32)
  | dsizeWithin (min max : UInt32)
  | dstPort (value : UInt16)
  | dstPortRange (min max : UInt16)
  | srcPort (value : UInt16)
  | srcPortRange (min max : UInt16)
  | ethertype (value : UInt16)
  | transportProtocol (value : UInt8)
  | ttl (value : UInt8)
  | ttlWithin (min max : UInt8)
  | window (value : UInt16)
  deriving DecidableEq, Repr

namespace Condition

def field : Condition → Field
  | ack _ => .ack
  | seq _ => .seq
  | flags _ => .flags
  | dsize _ | dsizeWithin _ _ => .dsize
  | dstPort _ | dstPortRange _ _ => .dstPort
  | srcPort _ | srcPortRange _ _ => .srcPort
  | ethertype _ => .ethertype
  | transportProtocol _ => .transportProtocol
  | ttl _ | ttlWithin _ _ => .ttl
  | window _ => .window

def checkRange (field : String) (min max : Nat) : Except RuleFault Unit :=
  if min ≤ max then .ok () else .error (.emptyRange field min max)

/-- A condition has to be able to hold: its range is not empty and its flags are known. -/
def check : Condition → Except RuleFault Unit
  | dsizeWithin min max => checkRange "DsizeWithin" min.toNat max.toNat
  | dstPortRange min max => checkRange "DstPortRange" min.toNat max.toNat
  | srcPortRange min max => checkRange "SrcPortRange" min.toNat max.toNat
  | ttlWithin min max => checkRange "TTLWithin" min.toNat max.toNat
  | flags text => (Flags.parse text).map fun _ => ()
  | _ => .ok ()

/-- Equal but for blanks at the ends. -/
def sameTrimmed (a b : String) : Bool := Text.trim a.toList == Text.trim b.toList

/-- Both texts name flags, and the same ones. -/
def sameFlags (a b : String) : Bool :=
  match Flags.parse a, Flags.parse b with
  | .ok wanted, .ok seen => wanted == seen
  | _, _ => false

/-- Whether the header's value satisfies the condition. -/
def holds (h : Header) : Condition → Bool
  | ack text => sameTrimmed text h.ack
  | seq text => sameTrimmed text h.seq
  | flags text => sameFlags text h.flags
  | dsize value => h.dsize == value
  | dsizeWithin min max => min ≤ h.dsize && h.dsize ≤ max
  | dstPort value => h.dst == value
  | dstPortRange min max => min ≤ h.dst && h.dst ≤ max
  | srcPort value => h.src == value
  | srcPortRange min max => min ≤ h.src && h.src ≤ max
  | ethertype value => h.eth == value
  | transportProtocol value => h.proto == value
  | ttl value => h.ttl == value
  | ttlWithin min max => min ≤ h.ttl && h.ttl ≤ max
  | window value => h.window == value

/-- A condition accepts a header that has its field and satisfies it. -/
def accepts (c : Condition) (h : Header) : Bool :=
  (!c.field.tcpOnly || h.isTcp) && c.holds h

end Condition

end HostSurvey
