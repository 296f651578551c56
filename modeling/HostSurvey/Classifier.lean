import HostSurvey.Rule.Document
import HostSurvey.Rule.Reader

/-!
# Classifying packets

A classifier holds the programs of all payloads and an engine with one rule for
each filter group; the rule's action says which payload it leads to. A packet
runs the program of every payload that some accepted group leads to, once each,
in the order of the documents. Packets come as frames, or as headers with their
payload.
-/

namespace HostSurvey

/-- A payload, by the places of its fingerprint in the documents and of itself in it. -/
structure Target where
  fingerprint : Nat
  payload : Nat
  deriving DecidableEq, Repr

namespace Target

instance : Ord Target := ⟨compareLex (compareOn fingerprint) (compareOn payload)⟩

instance : Std.TransOrd Target := inferInstanceAs (Std.TransCmp (compareLex _ _))

theorem compare_eq_lt {s t : Target} :
    compare s t = .lt ↔
      s.fingerprint < t.fingerprint ∨ s.fingerprint = t.fingerprint ∧ s.payload < t.payload := by
  change compareLex (compareOn fingerprint) (compareOn payload) s t = .lt ↔ _
  simp only [compareLex, compareOn, Ordering.then_eq_lt, Nat.compare_eq_lt, Nat.compare_eq_eq]

instance : Std.LawfulEqOrd Target where
  eq_of_compare {s t} h := by
    change compareLex (compareOn fingerprint) (compareOn payload) s t = .eq at h
    simp only [compareLex, compareOn, Ordering.then_eq_eq, Nat.compare_eq_eq] at h
    cases s
    cases t
    simpa using h

end Target

structure Classifier where
  /-- The programs of the payloads of each fingerprint, in the order of the documents. -/
  programs : List (List Payload.Program) := []
  engine : Filter.Engine Target := {}

namespace Classifier

/-! ## Compiling -/

def compilePayloads [Pattern.Engine] (f : Fingerprint) :
    Except RuleFault (List Payload.Program) :=
  f.payloads.mapM (Payload.compile f.name)

/-- Adds the rule of a filter group of the `i`-th fingerprint. -/
def addGroup (i : Nat) (f : Fingerprint) (e : Filter.Engine Target) (g : FilterGroup) :
    Except RuleFault (Filter.Engine Target) :=
  match f.payloadIndex? g.target with
  | none => .ok e
  | some j =>
    match e.add ⟨f.name ++ "/" ++ g.target, g.conditions, ⟨i, j⟩⟩ with
    | (.ok _, e) => .ok e
    | (.error fault, _) => .error fault

/-- Checks and compiles one fingerprint, the `i`-th one. -/
def add [Pattern.Engine] (c : Classifier) (f : Fingerprint) (i : Nat) :
    Except RuleFault Classifier := do
  f.check
  let programs ← compilePayloads f
  let engine ← f.filters.foldlM (addGroup i f) c.engine
  return { programs := c.programs ++ [programs], engine }

def ofFingerprints [Pattern.Engine] (fs : List Fingerprint) : Except RuleFault Classifier :=
  fs.zipIdx.foldlM (fun c (f, i) => c.add f i) {}

/-! ## Running -/

/-- The payloads that some rule accepting the header leads to, each once and in order. -/
def targets (c : Classifier) (h : Header) : SortedSet Target :=
  .ofList ((c.engine.matching h).filterMap fun i => (c.engine.rules[i]?).map (·.action))

def program? (c : Classifier) (t : Target) : Option Payload.Program :=
  (c.programs[t.fingerprint]?).bind fun payloads => payloads[t.payload]?

/-- A way to run a program on the state of a host. -/
abbrev Runner (σ : Type) := Payload.Program → Cursor → σ → Bool × Cursor × σ

/-- How far a classification has got. The cursor is shared by all programs. -/
structure Progress (σ : Type) where
  cursor : Cursor := .origin
  matched : List String := []
  host : σ

/-- A name goes behind those that are there already, once. -/
def note (matched : List String) (name : String) : List String :=
  if matched.contains name then matched else matched ++ [name]

/-- Runs the program of a payload with the cursor reset, and notes its fingerprint if it
succeeds. -/
def visit {σ : Type} (c : Classifier) (run : Runner σ) (s : Progress σ) (t : Target) :
    Progress σ :=
  match c.program? t with
  | none => s
  | some p =>
    match run p s.cursor.reset s.host with
    | (true, cursor, host) => { cursor, matched := note s.matched p.fingerprint, host }
    | (false, cursor, host) => { s with cursor, host }

/-- Runs the programs of all payloads that the header leads to. -/
def visitAll {σ : Type} (c : Classifier) (h : Header) (run : Runner σ) (host : σ) : Progress σ :=
  (c.targets h).toList.foldl (c.visit run) { host }

/-- The fingerprints that a payload with this header matches, in the order of their first success,
and the profile. -/
def classify (c : Classifier) (h : Header) (data : Bytes) (host : HostProfile) :
    List String × HostProfile :=
  let s := c.visitAll h (fun p cursor host => p.run data cursor host) host
  (s.matched, s.host)

/-! ## Frames -/

/-- The transport payload of a frame without the padding behind it, as far as it was captured. -/
def payloadOf (frame : Bytes) (h : Header) (offset : Nat) : Bytes :=
  let stop := min (offset + h.dsize.toNat) frame.length
  if offset ≤ stop then (frame.take stop).drop offset else []

/-- Decodes a frame and classifies its payload. -/
def classifyFrame (c : Classifier) (number : UInt64) (frame : Bytes) (host : HostProfile) :
    Header × List String × HostProfile :=
  let (h, offset) := Header.ofFrame number frame
  (h, c.classify h (payloadOf frame h offset) host)

/-! ## Records and reports -/

/-- A captured packet: with a header, the payload holds the transport payload alone; without one,
the whole frame. The payload is in hexadecimal digits with any blanks between them. -/
structure PacketRecord where
  frame : UInt64 := 0
  payload : String
  header : Option Header := none
  deriving DecidableEq

structure Report where
  frame : UInt64
  src : UInt16
  dst : UInt16
  proto : UInt8
  fingerprints : List String
  host : HostProfile

def PacketRecord.bytes (r : PacketRecord) : Except RuleFault Bytes :=
  (Text.Hex.decode (Text.Utf8.encode (r.payload.toList.filter fun c => !Text.isBlank c))).mapError
    .badHex

/-- The header given with a payload: the record's number counts, and a payload size of zero
stands for the size of the payload. -/
def complete (h : Header) (frame : UInt64) (data : Bytes) : Header :=
  { h with frame, dsize := if h.dsize = 0 then data.length.toUInt32 else h.dsize }

/-- Classifies one record into a fresh profile whose attributes are all bound. -/
def report (c : Classifier) (r : PacketRecord) : Except RuleFault Report := do
  let data ← r.bytes
  let (h, matched, host) :=
    match r.header with
    | some given =>
      let h := complete given r.frame data
      (h, c.classify h data .blank)
    | none => c.classifyFrame r.frame data .blank
  return { frame := h.frame, src := h.src, dst := h.dst, proto := h.proto, fingerprints := matched,
           host := host.bind }

open Json.Shape in
def packetRecord : Shape PacketRecord := fun v => do
  let [frame, payload, header] ← fields ["frame", "payload", "fields"] v | none
  return {
    frame := ← optional 0 uint64 frame
    payload := ← required string payload
    header := ← optional none (nullable Rule.header) header }

/-- The records of a text that holds a list of them. -/
def readRecords (text : List Char) : Except RuleFault (List PacketRecord) :=
  match (Json.read? text).bind (Json.Shape.list packetRecord) with
  | some records => .ok records
  | none => .error .malformed

def Report.toJson (r : Report) : Json :=
  .record [
    ("frame", .nat r.frame.toNat), ("src", .nat r.src.toNat), ("dst", .nat r.dst.toNat),
    ("proto", .nat r.proto.toNat), ("fingerprints", .array (r.fingerprints.map .text)),
    ("details", r.host.toJson)]

end Classifier

end HostSurvey
