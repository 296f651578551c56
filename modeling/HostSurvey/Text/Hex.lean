import HostSurvey.Text.Utf8

/-!
# Hexadecimal text

Two digits a byte, high half first. `decode` accepts digits of either case; a
fault names what it stands on.
-/

namespace HostSurvey.Text.Hex

/-- The digit of a value below sixteen, letters from `ten` on. -/
def digit (ten : Nat) (n : Nat) : Char :=
  if n < 10 then Char.ofNat (48 + n) else Char.ofNat (ten + (n - 10))

def pair (ten : Nat) (b : UInt8) : List Char := [digit ten (b.toNat / 16), digit ten (b.toNat % 16)]

def upper (s : Bytes) : List Char := s.flatMap (pair 65)

def lower (s : Bytes) : List Char := s.flatMap (pair 97)

/-- The value of an ASCII hexadecimal digit. -/
def value (n : Nat) : Option Nat :=
  if 48 ≤ n ∧ n ≤ 57 then some (n - 48)
  else if 65 ≤ n ∧ n ≤ 70 then some (n - 55)
  else if 97 ≤ n ∧ n ≤ 102 then some (n - 87)
  else none

inductive Fault where
  | oddLength
  | invalid (byte : UInt8) (position : Nat)
  deriving DecidableEq, Repr

def digitAt (b : UInt8) (position : Nat) : Except Fault Nat :=
  match value b.toNat with
  | some n => .ok n
  | none => .error (.invalid b position)

def pairs (position : Nat) : Bytes → Except Fault Bytes
  | high :: low :: rest => do
    let h ← digitAt high position
    let l ← digitAt low (position + 1)
    let tail ← pairs (position + 2) rest
    return (h * 16 + l).toUInt8 :: tail
  | _ => .ok []

/-- The bytes that a text, itself given as bytes, writes. An odd number of digits is refused
before any digit is read. -/
def decode (s : Bytes) : Except Fault Bytes :=
  if s.length % 2 = 0 then pairs 0 s else .error .oddLength

/-- A byte as a quoted character, with escapes for quotes, backslashes and what does not print. -/
def quoted (b : UInt8) : List Char :=
  let n := b.toNat
  let inner :=
    if n = 0 then ['\\', '0']
    else if n = 9 then ['\\', 't']
    else if n = 10 then ['\\', 'n']
    else if n = 13 then ['\\', 'r']
    else if n = 39 then ['\\', '\'']
    else if n = 92 then ['\\', '\\']
    else if n < 32 ∨ (127 ≤ n ∧ n ≤ 160) ∨ n = 173 then
      "\\u\x7b".toList ++ (if n < 16 then [digit 97 n] else pair 97 b) ++ ['\x7d']
    else [Char.ofNat n]
  '\'' :: inner ++ ['\'']

def Fault.message : Fault → String
  | .oddLength => "Odd number of digits"
  | .invalid b position =>
    "Invalid character " ++ String.ofList (quoted b) ++ " at position " ++ toString position

theorem value_digit_lower : ∀ n < 16, value (digit 97 n).toNat = some n := by decide

theorem value_digit_upper : ∀ n < 16, value (digit 65 n).toNat = some n := by decide

end HostSurvey.Text.Hex
