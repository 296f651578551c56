import HostSurvey.Filter.Condition
import HostSurvey.Sorted.Map

/-!
# Indexes of rules by field

For one field an index answers which rules have a condition that accepts a
value. Rules stand under the single values they name and under ranges with both
ends included. `Indexes` has an index for each of the ten fields.
-/

namespace HostSurvey.Filter

structure FieldIndex (κ : Type) [Ord κ] where
  exact : SortedMap κ (List Nat) := .empty
  ranges : List (κ × κ × Nat) := []

namespace FieldIndex

variable {κ : Type} [Ord κ]

/-- The rules that some range holds `k` for. -/
def inRanges [LE κ] [DecidableLE κ] (x : FieldIndex κ) (k : κ) : List Nat :=
  (x.ranges.filter fun r => r.1 ≤ k && k ≤ r.2.1).map fun r => r.2.2

/-- The rules that accept `k`, in order. -/
def lookup [DecidableEq κ] [LE κ] [DecidableLE κ] (x : FieldIndex κ) (k : κ) : SortedSet Nat :=
  (SortedSet.ofList ((x.exact.find? k).getD [])).insertAll (x.inRanges k)

def insertRange (x : FieldIndex κ) (min max : κ) (rule : Nat) : FieldIndex κ :=
  { x with ranges := x.ranges ++ [(min, max, rule)] }

variable [DecidableEq κ] [LE κ] [DecidableLE κ]

theorem mem_lookup {x : FieldIndex κ} {k : κ} {r : Nat} :
    r ∈ x.lookup k ↔ r ∈ x.inRanges k ∨ r ∈ (x.exact.find? k).getD [] := by
  simp [lookup, SortedSet.ofList]

@[simp] theorem not_mem_lookup_empty (k : κ) (r : Nat) :
    r ∉ FieldIndex.lookup ({} : FieldIndex κ) k := by
  simp [mem_lookup, inRanges]

@[simp] theorem mem_lookup_insertRange (x : FieldIndex κ) (min max k : κ) (rule r : Nat) :
    r ∈ (x.insertRange min max rule).lookup k ↔
      (r = rule ∧ min ≤ k ∧ k ≤ max) ∨ r ∈ x.lookup k := by
  simp only [mem_lookup, inRanges, insertRange, List.filter_append, List.map_append,
    List.mem_append]
  by_cases h : min ≤ k ∧ k ≤ max
  · simp [h, or_comm, or_left_comm]
  · have hk : (decide (min ≤ k) && decide (k ≤ max)) = false := by simpa using h
    simp [h, hk]

variable [Std.TransOrd κ] [Std.LawfulEqOrd κ]

def insert (x : FieldIndex κ) (k : κ) (rule : Nat) : FieldIndex κ :=
  { x with exact := x.exact.alter k [] (· ++ [rule]) }

@[simp] theorem mem_lookup_insert (x : FieldIndex κ) (j k : κ) (rule r : Nat) :
    r ∈ (x.insert j rule).lookup k ↔ (r = rule ∧ j = k) ∨ r ∈ x.lookup k := by
  have hr : (x.insert j rule).inRanges k = x.inRanges k := rfl
  rw [mem_lookup, mem_lookup, hr]
  simp only [insert, SortedMap.alter, SortedMap.find?_insert]
  by_cases h : j = k
  · subst h
    simp only [↓reduceIte, Option.getD_some, List.mem_append, List.mem_singleton]
    grind
  · simp [h]

end FieldIndex

/-! ## The indexes of all fields -/

structure Indexes where
  ack : FieldIndex String := {}
  seq : FieldIndex String := {}
  flags : FieldIndex UInt16 := {}
  dsize : FieldIndex UInt32 := {}
  dst : FieldIndex UInt16 := {}
  src : FieldIndex UInt16 := {}
  eth : FieldIndex UInt16 := {}
  proto : FieldIndex UInt8 := {}
  ttl : FieldIndex UInt8 := {}
  window : FieldIndex UInt16 := {}

/-- The text without blanks around it. -/
def trimmed (s : String) : String := String.ofList (Text.trim s.toList)

namespace Indexes

/-- Puts a rule into the index of a condition's field. Flags are read for it, and may be unknown. -/
def insert (x : Indexes) (rule : Nat) : Condition → Except RuleFault Indexes
  | .ack text => .ok { x with ack := x.ack.insert (trimmed text) rule }
  | .seq text => .ok { x with seq := x.seq.insert (trimmed text) rule }
  | .flags text => (Flags.parse text).map fun bits => { x with flags := x.flags.insert bits rule }
  | .dsize value => .ok { x with dsize := x.dsize.insert value rule }
  | .dsizeWithin min max => .ok { x with dsize := x.dsize.insertRange min max rule }
  | .dstPort value => .ok { x with dst := x.dst.insert value rule }
  | .dstPortRange min max => .ok { x with dst := x.dst.insertRange min max rule }
  | .srcPort value => .ok { x with src := x.src.insert value rule }
  | .srcPortRange min max => .ok { x with src := x.src.insertRange min max rule }
  | .ethertype value => .ok { x with eth := x.eth.insert value rule }
  | .transportProtocol value => .ok { x with proto := x.proto.insert value rule }
  | .ttl value => .ok { x with ttl := x.ttl.insert value rule }
  | .ttlWithin min max => .ok { x with ttl := x.ttl.insertRange min max rule }
  | .window value => .ok { x with window := x.window.insert value rule }

/-- Puts a rule into the indexes of all its conditions, up to the first that cannot be indexed; what
stands before that one stays. -/
def insertAll (rule : Nat) : List Condition → Indexes → Option RuleFault × Indexes
  | [], x => (none, x)
  | c :: cs, x =>
    match x.insert rule c with
    | .ok x => insertAll rule cs x
    | .error fault => (some fault, x)

def byAck (x : Indexes) (text : String) : SortedSet Nat := x.ack.lookup (trimmed text)

def bySeq (x : Indexes) (text : String) : SortedSet Nat := x.seq.lookup (trimmed text)

/-- The rules whose flags are those of the text; none for a text that does not name flags. -/
def byFlags (x : Indexes) (text : String) : SortedSet Nat :=
  match Flags.parse text with
  | .ok bits => x.flags.lookup bits
  | .error _ => .empty

/-- The rules that accept the header's value in a field. -/
def lookup (x : Indexes) (h : Header) : Field → SortedSet Nat
  | .ack => x.byAck h.ack
  | .seq => x.bySeq h.seq
  | .flags => x.byFlags h.flags
  | .dsize => x.dsize.lookup h.dsize
  | .dstPort => x.dst.lookup h.dst
  | .srcPort => x.src.lookup h.src
  | .ethertype => x.eth.lookup h.eth
  | .transportProtocol => x.proto.lookup h.proto
  | .ttl => x.ttl.lookup h.ttl
  | .window => x.window.lookup h.window

/-- The same, where only TCP packets have the fields of TCP. -/
def candidates (x : Indexes) (h : Header) (field : Field) : SortedSet Nat :=
  if field.tcpOnly && !h.isTcp then .empty else x.lookup h field

end Indexes

end HostSurvey.Filter
