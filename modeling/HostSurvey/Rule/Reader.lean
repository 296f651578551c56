import HostSurvey.Json.Finite
import HostSurvey.Json.Reader
import HostSurvey.Json.Shape
import HostSurvey.Rule.Document

/-!
# Reading rule documents

The JSON forms of rules, of headers and of their parts, and `readDocument`,
which takes the text of one fingerprint or of a list of them.
-/

namespace HostSurvey.Rule

open Json Json.Shape

/-! ## Words -/

def category : Shape Category := oneOf (Category.all.map fun c => (c.label, c))

def role : Shape Role := oneOf (Role.all.map fun r => (r.label, r))

def direction : Shape Direction := oneOf (Direction.all.map fun d => (d.label, d))

def marks : List (String × Mark) := [("START", .start), ("MAIN", .main), ("END", .stop)]

def mark : Shape Mark := oneOf marks

def positions : List (String × Position) :=
  [("START_OF_PAYLOAD", .startOfPayload), ("END_OF_PAYLOAD", .endOfPayload),
    ("CURSOR_START", .cursorStart), ("CURSOR_MAIN", .cursorMain), ("CURSOR_END", .cursorEnd)]

def position : Shape Position := oneOf positions

def endians : List (String × Endian) := [("BIG", .big), ("LITTLE", .little)]

def endian : Shape Endian := oneOf endians

def comparisons : List (String × Comparison) :=
  [("GT", .gt), ("LT", .lt), ("GTE", .gte), ("LTE", .lte), ("AND", .and), ("OR", .or), ("EQ", .eq)]

def comparison : Shape Comparison := oneOf comparisons

def contents : List (String × Content) :=
  [("HEX", .hex), ("INTEGER", .integer), ("RAW_BYTES", .rawBytes), ("STRING", .string), ("IP", .ip),
    ("UUID", .uuid)]

def content : Shape Content := oneOf contents

def bound : Shape Bound := fun v =>
  match position v with
  | some p => some (.position p)
  | none => (offset v).map .offset

/-! ## Conditions and headers -/

/-- The two ends of a range. -/
def range {α β : Type} (f : Shape α) (make : α → α → β) : Shape β := fun v => do
  let [min, max] ← fields ["min", "max"] v | none
  return make (← required f min) (← required f max)

def conditionForms : List (String × Shape Condition) :=
  [("Ack", fun v => (string v).map .ack),
    ("Seq", fun v => (string v).map .seq),
    ("Flags", fun v => (string v).map .flags),
    ("Dsize", fun v => (uint32 v).map .dsize),
    ("DsizeWithin", range uint32 .dsizeWithin),
    ("DstPort", fun v => (uint16 v).map .dstPort),
    ("DstPortRange", range uint16 .dstPortRange),
    ("SrcPort", fun v => (uint16 v).map .srcPort),
    ("SrcPortRange", range uint16 .srcPortRange),
    ("Ethertype", fun v => (uint16 v).map .ethertype),
    ("TransportProtocol", fun v => (uint8 v).map .transportProtocol),
    ("Ttl", fun v => (uint8 v).map .ttl),
    ("TtlWithin", range uint8 .ttlWithin),
    ("Window", fun v => (uint16 v).map .window)]

/-- A choice among forms that all carry something. -/
def oneForm {α : Type} (forms : List (String × Shape α)) : Shape α := fun v => do
  let (label, carried) ← choice v
  let form ← forms.lookup label
  form (← carried)

def condition : Shape Condition := oneForm conditionForms

def header : Shape Header := fun v => do
  let [src, dst, eth, ttl, proto, dsize, window, size, frame, flags, ack, seq] ←
    fields ["src", "dst", "eth", "ttl", "proto", "dsize", "window", "size", "frame", "flags", "ack",
      "seq"] v | none
  return {
    src := ← optional 0 uint16 src
    dst := ← optional 0 uint16 dst
    eth := ← optional 0 uint16 eth
    ttl := ← optional 0 uint8 ttl
    proto := ← optional 0 uint8 proto
    dsize := ← optional 0 uint32 dsize
    window := ← optional 0 uint16 window
    size := ← optional 0 uint32 size
    frame := ← optional 0 uint64 frame
    flags := ← optional "" string flags
    ack := ← optional "" string ack
    seq := ← optional "" string seq }

/-! ## Operations -/

def anchor : Shape Anchor := fun v => do
  let [cursor, point, relative, distance] ←
    fields ["cursor", "position", "relative", "offset"] v | none
  return {
    cursor := ← optional .main mark cursor
    position := ← optional none (nullable position) point
    relative := ← optional false bool relative
    offset := ← optional 0 offset distance }

def byteJump : Shape ByteJump := fun v => do
  let [distance, relative, bytes, order, postOffset] ←
    fields ["offset", "relative", "bytes", "endian", "post_offset"] v | none
  return {
    offset := ← optional 0 offset distance
    relative := ← optional false bool relative
    bytes := ← optional 0 Shape.size bytes
    endian := ← optional .big endian order
    postOffset := ← optional 0 offset postOffset }

def byteTest : Shape ByteTest := fun v => do
  let [test, value, distance, relative, bytes, order, postOffset] ←
    fields ["test", "value", "offset", "relative", "bytes", "endian", "post_offset"] v | none
  return {
    test := ← required comparison test
    value := ← required offset value
    offset := ← optional 0 offset distance
    relative := ← optional false bool relative
    bytes := ← optional 0 Shape.size bytes
    endian := ← optional .big endian order
    postOffset := ← optional 0 offset postOffset }

def isDataAt : Shape IsDataAt := fun v => do
  let [distance, relative] ← fields ["offset", "relative"] v | none
  return {
    offset := ← optional 0 offset distance
    relative := ← optional false bool relative }

def search : Shape Match := fun v => do
  let [pattern, literal, distance, depth, relative, noCase, moveCursor] ←
    fields ["pattern", "content", "offset", "depth", "relative", "no_case", "move_cursor"] v | none
  return {
    pattern := ← optional none (nullable string) pattern
    content := ← optional none (nullable string) literal
    offset := ← optional 0 offset distance
    depth := ← optional 0 Shape.size depth
    relative := ← optional false bool relative
    noCase := ← optional false bool noCase
    moveCursor := ← optional false bool moveCursor }

def extract : Shape Extract := fun v => do
  let [name, start, stop, maxLength, order, convert] ←
    fields ["name", "from", "to", "max_length", "endian", "convert"] v | none
  return {
    name := ← required string name
    start := ← optional (.position .startOfPayload) bound start
    stop := ← required bound stop
    maxLength := ← optional 1024 Shape.size maxLength
    endian := ← optional .big endian order
    convert := ← optional .hex content convert }

def operationForms : List (String × Shape Operation) :=
  [("Anchor", fun v => (anchor v).map .anchor),
    ("ByteJump", fun v => (byteJump v).map .byteJump),
    ("ByteTest", fun v => (byteTest v).map .byteTest),
    ("IsDataAt", fun v => (isDataAt v).map .isDataAt),
    ("Match", fun v => (search v).map .search),
    ("Extract", fun v => (extract v).map .extract)]

def operation : Shape Operation := oneForm operationForms

/-! ## Documents -/

def finding : Shape Finding := fun v => do
  let [way, confidence, kind, part, details] ←
    fields ["direction", "confidence", "category", "role", "details"] v | none
  return {
    direction := ← optional .source direction way
    confidence := ← optional 0 uint8 confidence
    category := ← optional none (nullable category) kind
    role := ← optional none (nullable role) part
    details := .ofList (← optional [] strings details) }

def payload : Shape Payload := fun v => do
  let [name, always, operations, onMatch] ←
    fields ["name", "always", "operations", "return"] v | none
  return {
    name := ← optional "" string name
    always := ← optional [] (list finding) always
    operations := ← optional [] (list operation) operations
    onMatch := ← optional none (nullable finding) onMatch }

def filterGroup : Shape FilterGroup := fun v => do
  let [target, conditions] ← fields ["for", "conditions"] v | none
  return {
    target := ← required string target
    conditions := ← optional [] (list condition) conditions }

def fingerprint : Shape Fingerprint := fun v => do
  let [name, author, description, filters, payloads] ←
    fields ["name", "author", "description", "filters", "payloads"] v | none
  return {
    name := ← required string name
    author := ← optional "" string author
    description := ← optional "" string description
    filters := ← optional [] (list filterGroup) filters
    payloads := ← optional [] (list payload) payloads }

/-- The deepest nesting of a list of fingerprints. -/
def depthLimit : Nat := 127

/-- A list of fingerprints, or one of them. A list is preferred, and it has to be sound and not too
deep in all its parts; a single fingerprint may hold anything where its fields do not look. -/
def document (v : Json) : Option (List Fingerprint) :=
  let listed := if v.isSound && v.depth ≤ depthLimit then list fingerprint v else none
  match listed with
  | some many => some many
  | none => (fingerprint v).map fun one => [one]

/-- The fingerprints of a text, each of them checked. -/
def readDocument (text : List Char) : Except RuleFault (List Fingerprint) := do
  let some many := (Json.read? text).bind document | .error .malformed
  many.forM Fingerprint.check
  return many

end HostSurvey.Rule
