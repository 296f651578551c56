import HostSurvey.Text.Blank
import HostSurvey.Text.Decimal

/-!
# IPv4 addresses

Addresses and masks are 32 bits. They are written as four decimal numbers
without leading zeros between dots; `parseNetwork` also takes a prefix length
or a mask behind the address.
-/

namespace HostSurvey

structure Ipv4 where
  bits : UInt32
  deriving DecidableEq, Repr, Inhabited

namespace Ipv4

open Text

def chars (ip : Ipv4) : List Char :=
  let n := ip.bits.toNat
  Decimal.ofNat (n / 16777216) ++ '.' :: Decimal.ofNat (n / 65536 % 256) ++
    '.' :: Decimal.ofNat (n / 256 % 256) ++ '.' :: Decimal.ofNat (n % 256)

def text (ip : Ipv4) : String := String.ofList ip.chars

/-- One of the four numbers: one to three digits, no leading zero, at most 255. -/
def octet? (s : List Char) : Option Nat :=
  if s.isEmpty || 3 < s.length || !s.all isAsciiDigit || (s.head? == some '0' && 1 < s.length) then
    none
  else
    let n := Decimal.value s
    if n ≤ 255 then some n else none

def parse? (s : List Char) : Option Ipv4 :=
  match (fields (· == '.') s).map octet? with
  | [some a, some b, some c, some d] => some ⟨(((a * 256 + b) * 256 + c) * 256 + d).toUInt32⟩
  | _ => none

/-- How many bits are set; for a mask, the length of its network part. -/
def bitCount (ip : Ipv4) : UInt8 :=
  ((List.range 32).filter fun i => ip.bits.toNat.testBit i).length.toUInt8

/-- What stands behind an address: a mask if it has a dot, otherwise a length up to 32. -/
def suffix? (s : List Char) : Option UInt8 :=
  if s.contains '.' then (parse? s).map bitCount
  else (Decimal.readUInt8 s).bind fun n => if n ≤ 32 then some n else none

/-- An address with an optional length or mask, separated by blanks or slashes. Anything with a
colon is refused, and what follows the suffix is passed over. -/
def parseNetwork? (s : List Char) : Option (Ipv4 × Option UInt8) :=
  if s.contains ':' then none
  else
    match tokens (fun c => c == '/' || isBlank c) s with
    | [] => none
    | [address] => (parse? address).map (·, none)
    | address :: suffix :: _ => do
      let ip ← parse? address
      let length ← suffix? suffix
      return (ip, some length)

end Ipv4

end HostSurvey
