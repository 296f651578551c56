import HostSurvey.Payload.Operation
import HostSurvey.Pattern.Engine
import HostSurvey.Rule.Fault

/-!
# Payload programs

A program is a payload whose searches are compiled, their patterns by whatever
engine there is. Its steps run in order on a cursor and stage what they extract,
until one of them fails. The extracts of a failing program are dropped, and it
records nothing but what it records in any case.
-/

namespace HostSurvey

namespace Payload

/-- What a search looks for. -/
inductive Needle where
  | pattern (p : Pattern)
  | content (bytes : Bytes)

inductive Step where
  | anchor (op : Anchor)
  | byteJump (op : ByteJump)
  | byteTest (op : ByteTest)
  | isDataAt (op : IsDataAt)
  | search (op : Match) (needle : Needle)
  | extract (op : Extract)

structure Program where
  fingerprint : String
  name : String
  always : List Finding
  steps : List Step
  onMatch : Option Finding

/-- Bytes extracted by a step, to be stored once the whole program succeeds. -/
structure Staged where
  name : String
  bytes : Bytes
  convert : Content
  endian : Endian
  deriving DecidableEq

/-! ## Compiling -/

/-- The bytes of a literal search; spaces between the digits do not count. -/
def literal (content : String) : Except RuleFault Bytes :=
  (Text.Hex.decode (Text.Utf8.encode (content.toList.filter (· ≠ ' ')))).mapError .badHex

def needle [Pattern.Engine] (fingerprint payload : String) (m : Match) :
    Except RuleFault Needle :=
  match m.pattern, m.content with
  | some pattern, _ =>
    match Pattern.compile? m.noCase pattern with
    | some p => .ok (.pattern p)
    | none => .error .badPattern
  | none, some content =>
    if m.isEmpty then .error (.emptyMatch fingerprint payload)
    else (literal content).map .content
  | none, none => .error (.emptyMatch fingerprint payload)

def compileStep [Pattern.Engine] (fingerprint payload : String) :
    Operation → Except RuleFault Step
  | .anchor op => .ok (.anchor op)
  | .byteJump op => .ok (.byteJump op)
  | .byteTest op => .ok (.byteTest op)
  | .isDataAt op => .ok (.isDataAt op)
  | .search op => (needle fingerprint payload op).map (.search op)
  | .extract op => .ok (.extract op)

/-- The program of a payload of the given fingerprint. -/
def compile [Pattern.Engine] (fingerprint : String) (p : Payload) :
    Except RuleFault Program := do
  let steps ← p.operations.mapM (compileStep fingerprint p.name)
  return { fingerprint, name := p.name, always := p.always, steps, onMatch := p.onMatch }

/-! ## Running -/

def anchor (op : Anchor) (data : Bytes) (c : Cursor) : Cursor :=
  c.set op.cursor <|
    if op.relative then saturate (c.main + op.offset)
    else
      match op.position with
      | some p => saturate (p.resolve data c + op.offset)
      | none => op.offset

/-- The number in one to four bytes, four when zero or more are asked for; `none` when the data is
too short. -/
def readNumber (data : Bytes) (offset : Int) (bytes : Nat) (e : Endian) : Option Nat :=
  let length := if bytes = 0 then 4 else min bytes 4
  if (data.window offset length).length < length then none else some (data.number offset length e)

/-- Moves the main mark by the number read, if that stays inside the data. -/
def byteJump (op : ByteJump) (data : Bytes) (c : Cursor) : Option Cursor := do
  let length ← readNumber data (c.place op.offset op.relative) op.bytes op.endian
  let distance := saturate (length + op.postOffset)
  let target := if op.relative then saturate (c.main + distance) else distance
  if 0 ≤ target ∧ target < data.length then some { c with main := target } else none

/-- Whether the test holds, and the cursor, moved on as soon as a number could be read. -/
def byteTest (op : ByteTest) (data : Bytes) (c : Cursor) : Bool × Cursor :=
  match readNumber data (c.place op.offset op.relative) op.bytes op.endian with
  | none => (false, c)
  | some input =>
    (op.test.holds input op.value, if op.postOffset = 0 then c else c.forward op.postOffset)

def isDataAt (op : IsDataAt) (data : Bytes) (c : Cursor) : Bool :=
  let offset := c.place op.offset op.relative
  0 ≤ offset && offset < data.length

/-- A hit of a search, with the place that the main mark moves to. -/
structure Found where
  start : Int
  stop : Int
  main : Int

/-- Searches a window: behind a pattern's hit, or at the start of a literal one. -/
def Needle.find? (n : Needle) (data : Bytes) (offset : Int) (length : Nat) : Option Found :=
  match n with
  | .pattern p =>
    (p.find? (data.window offset length)).map fun hit =>
      ⟨offset + hit.start, offset + hit.stop, offset + hit.stop⟩
  | .content bytes =>
    (data.find? bytes offset length).map fun start =>
      ⟨start, start + bytes.length, start⟩

/-- Searches `depth` bytes from an offset inside the data, or all that are left. -/
def search (op : Match) (n : Needle) (data : Bytes) (c : Cursor) : Option Cursor := do
  let offset := c.place op.offset op.relative
  if 0 ≤ offset ∧ offset < data.length then
    let remaining := data.length - offset.toNat
    let length := if op.depth = 0 then remaining else min op.depth remaining
    let found ← n.find? data offset length
    if op.moveCursor then some { start := found.start, main := found.main, stop := found.stop }
    else some { c with main := found.main }
  else none

/-- The bytes between two bounds, in the order of the endianness; `none` without any. -/
def extract (op : Extract) (data : Bytes) (c : Cursor) : Option Staged :=
  let bytes :=
    op.endian.arrange
      (data.extract (op.start.resolve data c) (op.stop.resolve data c) op.maxLength)
  if bytes.isEmpty then none
  else some { name := op.name, bytes, convert := op.convert, endian := op.endian }

/-- One step: whether it succeeds, the cursor after it, and what it stages. -/
def Step.run (s : Step) (data : Bytes) (c : Cursor) : Bool × Cursor × Option Staged :=
  match s with
  | .anchor op => (true, Payload.anchor op data c, none)
  | .byteJump op =>
    match Payload.byteJump op data c with
    | some c => (true, c, none)
    | none => (false, c, none)
  | .byteTest op =>
    let (ok, c) := Payload.byteTest op data c
    (ok, c, none)
  | .isDataAt op => (Payload.isDataAt op data c, c, none)
  | .search op n =>
    match Payload.search op n data c with
    | some c => (true, c, none)
    | none => (false, c, none)
  | .extract op => (true, c, Payload.extract op data c)

/-- Runs steps one after another, up to the first that fails: whether all succeed, the last cursor,
and what is staged by then, behind what was staged before. -/
def execute (data : Bytes) : List Step → Cursor → List Staged → Bool × Cursor × List Staged
  | [], c, staged => (true, c, staged)
  | s :: steps, c, staged =>
    match s.run data c with
    | (false, c, _) => (false, c, staged)
    | (true, c, out) => execute data steps c (staged ++ out.toList)

/-- The bytes, to be rendered in the extract's own way. -/
def Staged.pending (s : Staged) : Pending := ⟨s.bytes, s.convert.render s.endian⟩

def Staged.store (s : Staged) (p : HostProfile) : HostProfile := p.putPending s.name s.pending

namespace Program

/-- Records what holds in any case. -/
def begin (p : Program) (host : HostProfile) : HostProfile :=
  p.always.foldl (fun host f => f.record p.fingerprint host) host

/-- Stores the extracts and records the finding of a success. -/
def succeed (p : Program) (staged : List Staged) (host : HostProfile) : HostProfile :=
  let stored := staged.foldl (fun host s => s.store host) host
  match p.onMatch with
  | some f => f.record p.fingerprint stored
  | none => stored.addName p.fingerprint

/-- Runs the program: whether it succeeded, the cursor it left, and the profile. -/
def run (p : Program) (data : Bytes) (c : Cursor) (host : HostProfile) :
    Bool × Cursor × HostProfile :=
  let host := p.begin host
  match execute data p.steps c [] with
  | (false, c, _) => (false, c, host)
  | (true, c, staged) => (true, c, p.succeed staged host)

end Program

end Payload

end HostSurvey
