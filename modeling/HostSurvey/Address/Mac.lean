import HostSurvey.Sorted.Rank
import HostSurvey.Text.Blank
import HostSurvey.Text.Hex

/-!
# Hardware addresses

An address is a number of 48 bits. Dots, colons and hyphens between its twelve
hexadecimal digits do not count; it is always shown in six pairs.
-/

namespace HostSurvey

structure Mac where
  bits : BitVec 48
  deriving DecidableEq, Repr

namespace Mac

open Text

/-- The address in the low 48 bits of a number. -/
def ofNat (n : Nat) : Mac := ⟨BitVec.ofNat 48 n⟩

def toNat (m : Mac) : Nat := m.bits.toNat

instance : Inhabited Mac := ⟨ofNat 0⟩

instance : Ranked Mac where
  rank := toNat
  eq_of_rank_eq a b h := by
    cases a; cases b
    exact congrArg Mac.mk (BitVec.eq_of_toNat_eq h)

instance : Ord Mac := ⟨Ranked.compareRank⟩

instance : Std.TransOrd Mac := inferInstanceAs (Std.TransCmp Ranked.compareRank)

instance : Std.LawfulEqOrd Mac := inferInstanceAs (Std.LawfulEqCmp Ranked.compareRank)

/-- The six bytes, most significant first. -/
def octets (m : Mac) : Bytes :=
  [40, 32, 24, 16, 8, 0].map fun start => UInt8.ofBitVec (m.bits.extractLsb' start 8)

def text (m : Mac) : String :=
  String.intercalate ":" (m.octets.map fun b => String.ofList (Hex.pair 97 b))

/-- The number that hexadecimal digits write. -/
def hexNumber? (s : List Char) : Option Nat :=
  s.foldlM (fun n c => (Hex.value c.toNat).map (n * 16 + ·)) 0

/-- The number behind an optional plus sign. -/
def unsignedHex? : List Char → Option Nat
  | [] => none
  | ['+'] => none
  | '+' :: s => hexNumber? s
  | s => hexNumber? s

def isSeparator (c : Char) : Bool := c == '.' || c == ':' || c == '-'

/-- An address in twelve bytes of text, separators aside. -/
def parse? (s : List Char) : Option Mac :=
  let digits := (trim s).filter fun c => !isSeparator c
  if (Utf8.encode digits).length = 12 then (unsignedHex? digits).map ofNat else none

end Mac

end HostSurvey
