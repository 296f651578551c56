import HostSurvey.Text.Ascii

/-!
# Decimal numbers

A number is written with ASCII digits and an optional sign. Digits are read
from the left, and the first one that does not fit decides the fault: a text
can be too large before it is malformed.
-/

namespace HostSurvey.Text.Decimal

inductive Fault where
  | empty
  | invalidDigit
  | tooLarge
  | tooSmall
  deriving DecidableEq, Repr

def Fault.message : Fault → String
  | .empty => "cannot parse integer from empty string"
  | .invalidDigit => "invalid digit found in string"
  | .tooLarge => "number too large to fit in target type"
  | .tooSmall => "number too small to fit in target type"

/-- Appends digits to `acc` while the value stays within `limit`. -/
def readDigits (limit : Nat) (overflow : Fault) : Nat → List Char → Except Fault Nat
  | acc, [] => .ok acc
  | acc, c :: s =>
    if isAsciiDigit c then
      let n := acc * 10 + (c.toNat - 48)
      if n ≤ limit then readDigits limit overflow n s else .error overflow
    else .error .invalidDigit

/-- Digits that may not be missing. -/
def readMagnitude (limit : Nat) (overflow : Fault) (s : List Char) : Except Fault Nat :=
  if s.isEmpty then .error .invalidDigit else readDigits limit overflow 0 s

/-- A natural number up to `limit`, a plus sign allowed. -/
def readNat (limit : Nat) : List Char → Except Fault Nat
  | [] => .error .empty
  | '+' :: s => readMagnitude limit .tooLarge s
  | s => readMagnitude limit .tooLarge s

/-- An integer from `-(limit + 1)` to `limit`, either sign allowed. -/
def readInt (limit : Nat) : List Char → Except Fault Int
  | [] => .error .empty
  | '+' :: s => (readMagnitude limit .tooLarge s).map Int.ofNat
  | '-' :: s => (readMagnitude (limit + 1) .tooSmall s).map fun n => -(n : Int)
  | s => (readMagnitude limit .tooLarge s).map Int.ofNat

def readUInt8 (s : List Char) : Option UInt8 := (readNat 255 s).toOption.map Nat.toUInt8

def readUInt16 (s : List Char) : Option UInt16 := (readNat 65535 s).toOption.map Nat.toUInt16

def readUInt32 (s : List Char) : Option UInt32 := (readNat 4294967295 s).toOption.map Nat.toUInt32

def readInt32 (s : List Char) : Except Fault Int32 := (readInt 2147483647 s).map Int32.ofInt

/-- The number that a row of ASCII digits writes. -/
def value (s : List Char) : Nat := s.foldl (fun n c => n * 10 + (c.toNat - 48)) 0

/-- The decimal digits of a number, without leading zeros. -/
def ofNat (n : Nat) : List Char := Nat.toDigits 10 n

end HostSurvey.Text.Decimal
