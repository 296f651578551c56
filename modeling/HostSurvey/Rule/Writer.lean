import HostSurvey.Json.Value
import HostSurvey.Rule.Reader

/-!
# Writing rule documents

Every record is written as an object with all its fields, every choice as its
label or as an object with one member.
-/

namespace HostSurvey.Rule

open Json

def word {α : Type} [DecidableEq α] (table : List (String × α)) (a : α) : Json :=
  textOrNull ((table.find? fun e => e.2 = a).map Prod.fst)

def boundJson : Bound → Json
  | .position p => word positions p
  | .offset n => int n

def rangeJson (min max : Nat) : Json := record [("min", nat min), ("max", nat max)]

def conditionJson : Condition → Json
  | .ack t => record [("Ack", text t)]
  | .seq t => record [("Seq", text t)]
  | .flags t => record [("Flags", text t)]
  | .dsize n => record [("Dsize", nat n.toNat)]
  | .dsizeWithin min max => record [("DsizeWithin", rangeJson min.toNat max.toNat)]
  | .dstPort n => record [("DstPort", nat n.toNat)]
  | .dstPortRange min max => record [("DstPortRange", rangeJson min.toNat max.toNat)]
  | .srcPort n => record [("SrcPort", nat n.toNat)]
  | .srcPortRange min max => record [("SrcPortRange", rangeJson min.toNat max.toNat)]
  | .ethertype n => record [("Ethertype", nat n.toNat)]
  | .transportProtocol n => record [("TransportProtocol", nat n.toNat)]
  | .ttl n => record [("Ttl", nat n.toNat)]
  | .ttlWithin min max => record [("TtlWithin", rangeJson min.toNat max.toNat)]
  | .window n => record [("Window", nat n.toNat)]

def headerJson (h : Header) : Json :=
  record [
    ("src", nat h.src.toNat), ("dst", nat h.dst.toNat), ("eth", nat h.eth.toNat),
    ("ttl", nat h.ttl.toNat), ("proto", nat h.proto.toNat), ("dsize", nat h.dsize.toNat),
    ("window", nat h.window.toNat), ("size", nat h.size.toNat), ("frame", nat h.frame.toNat),
    ("flags", text h.flags), ("ack", text h.ack), ("seq", text h.seq)]

def operationJson : Operation → Json
  | .anchor op => record [("Anchor", record [
      ("cursor", word marks op.cursor),
      ("position", (op.position.map (word positions)).getD .null),
      ("relative", .bool op.relative), ("offset", int op.offset)])]
  | .byteJump op => record [("ByteJump", record [
      ("offset", int op.offset), ("relative", .bool op.relative), ("bytes", nat op.bytes),
      ("endian", word endians op.endian), ("post_offset", int op.postOffset)])]
  | .byteTest op => record [("ByteTest", record [
      ("test", word comparisons op.test), ("value", int op.value), ("offset", int op.offset),
      ("relative", .bool op.relative), ("bytes", nat op.bytes), ("endian", word endians op.endian),
      ("post_offset", int op.postOffset)])]
  | .isDataAt op => record [("IsDataAt", record [
      ("offset", int op.offset), ("relative", .bool op.relative)])]
  | .search op => record [("Match", record [
      ("pattern", textOrNull op.pattern), ("content", textOrNull op.content),
      ("offset", int op.offset), ("depth", nat op.depth), ("relative", .bool op.relative),
      ("no_case", .bool op.noCase), ("move_cursor", .bool op.moveCursor)])]
  | .extract op => record [("Extract", record [
      ("name", text op.name), ("from", boundJson op.start), ("to", boundJson op.stop),
      ("max_length", nat op.maxLength), ("endian", word endians op.endian),
      ("convert", word contents op.convert)])]

def findingJson (f : Finding) : Json :=
  record [
    ("direction", text f.direction.label), ("confidence", nat f.confidence.toNat),
    ("category", textOrNull (f.category.map Category.label)),
    ("role", textOrNull (f.role.map Role.label)),
    ("details", record (f.details.entries.map fun e => (e.1, text e.2)))]

def payloadJson (p : Payload) : Json :=
  record [
    ("name", text p.name), ("always", .array (p.always.map findingJson)),
    ("operations", .array (p.operations.map operationJson)),
    ("return", (p.onMatch.map findingJson).getD .null)]

def filterGroupJson (g : FilterGroup) : Json :=
  record [("for", text g.target), ("conditions", .array (g.conditions.map conditionJson))]

def fingerprintJson (f : Fingerprint) : Json :=
  record [
    ("name", text f.name), ("author", text f.author), ("description", text f.description),
    ("filters", .array (f.filters.map filterGroupJson)),
    ("payloads", .array (f.payloads.map payloadJson))]

end HostSurvey.Rule
