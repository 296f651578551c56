import HostSurvey.Packet.Cursor
import HostSurvey.Payload.Content
import HostSurvey.Profile.Host

/-!
# Payload operations

A payload of a fingerprint is a straight sequence of operations that share a
cursor, with findings to record when all of them succeed and findings to record
in any case. These are the documents; `Payload.Program` runs them.
-/

namespace HostSurvey

/-- Points that an offset can be taken from. -/
inductive Position where
  | startOfPayload
  | endOfPayload
  | cursorStart
  | cursorMain
  | cursorEnd
  deriving DecidableEq, Repr

def Position.resolve (p : Position) (data : Bytes) (c : Cursor) : Int :=
  match p with
  | startOfPayload => 0
  | endOfPayload => data.length
  | cursorStart => c.start
  | cursorMain => c.main
  | cursorEnd => c.stop

/-- The end of an extract: a point or an offset. -/
inductive Bound where
  | position (p : Position)
  | offset (n : Int)
  deriving DecidableEq, Repr

def Bound.resolve (b : Bound) (data : Bytes) (c : Cursor) : Int :=
  match b with
  | position p => p.resolve data c
  | offset n => n

/-- Comparisons of a number in the payload with a constant; `and` and `or` combine bits and ask
whether any is left. -/
inductive Comparison where
  | gt
  | lt
  | gte
  | lte
  | and
  | or
  | eq
  deriving DecidableEq, Repr

/-- The bits of a signed 64-bit number. -/
def bits64 (n : Int) : BitVec 64 := BitVec.ofInt 64 n

def Comparison.holds (t : Comparison) (input value : Int) : Bool :=
  match t with
  | gt => value < input
  | lt => input < value
  | gte => value ≤ input
  | lte => input ≤ value
  | and => bits64 input &&& bits64 value != 0
  | or => bits64 input ||| bits64 value != 0
  | eq => input == value

/-- Sets one mark of the cursor. -/
structure Anchor where
  cursor : Mark := .main
  position : Option Position := none
  relative : Bool := false
  offset : Int := 0
  deriving DecidableEq, Repr

/-- Reads a length and moves the main mark by it. -/
structure ByteJump where
  offset : Int := 0
  relative : Bool := false
  bytes : Nat := 0
  endian : Endian := .big
  postOffset : Int := 0
  deriving DecidableEq, Repr

/-- Compares a number in the payload with a constant. -/
structure ByteTest where
  test : Comparison
  value : Int
  offset : Int := 0
  relative : Bool := false
  bytes : Nat := 0
  endian : Endian := .big
  postOffset : Int := 0
  deriving DecidableEq, Repr

/-- Asks whether the payload reaches a place. -/
structure IsDataAt where
  offset : Int := 0
  relative : Bool := false
  deriving DecidableEq, Repr

/-- Searches for a pattern or for bytes given in hexadecimal digits. -/
structure Match where
  pattern : Option String := none
  content : Option String := none
  offset : Int := 0
  depth : Nat := 0
  relative : Bool := false
  noCase : Bool := false
  moveCursor : Bool := false
  deriving DecidableEq, Repr

/-- Whether there is nothing to search for. -/
def Match.isEmpty (m : Match) : Bool :=
  m.pattern.isNone && (m.content.all fun content => (Text.trim content.toList).isEmpty)

/-- Copies bytes that are stored under a name. -/
structure Extract where
  name : String
  start : Bound := .position .startOfPayload
  stop : Bound
  maxLength : Nat := 1024
  endian : Endian := .big
  convert : Content := .hex
  deriving DecidableEq, Repr

inductive Operation where
  | anchor (op : Anchor)
  | byteJump (op : ByteJump)
  | byteTest (op : ByteTest)
  | isDataAt (op : IsDataAt)
  | search (op : Match)
  | extract (op : Extract)
  deriving DecidableEq, Repr

/-- What a fingerprint says about a host. -/
structure Finding where
  direction : Direction := .source
  confidence : UInt8 := 0
  category : Option Category := none
  role : Option Role := none
  details : SortedMap String String := .empty
  deriving DecidableEq

/-- Records a finding under the name of its fingerprint. -/
def Finding.record (f : Finding) (fingerprint : String) (p : HostProfile) : HostProfile :=
  let named := (p.addName fingerprint).raise f.confidence.toNat
  let placed : HostProfile :=
    { named with
      direction := f.direction
      category := f.category.getD named.category
      role := f.role.getD named.role }
  f.details.entries.foldl (fun p e => p.put e.1 e.2) placed

structure Payload where
  name : String := ""
  /-- Recorded whenever the payload runs. -/
  always : List Finding := []
  operations : List Operation := []
  /-- Recorded when every operation succeeds. -/
  onMatch : Option Finding := none
  deriving DecidableEq

end HostSurvey
