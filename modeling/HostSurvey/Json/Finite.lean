import HostSurvey.Json.Value
import HostSurvey.Text.Decimal

/-!
# Sound values

A value is sound when all its strings spell texts and all its numbers can be
read in double precision. A number is read in two steps, each of which rounds:
its first digits, as many as make a number below 2^64, give a double, and that
is multiplied by a power of ten that is a double too. The number is out of range
when the product is infinite.
-/

namespace HostSurvey.Json

open Text

/-- Takes up digits as long as the number they make with `n` stays below 2^64. -/
def takeDigits (n : Nat) : List Char → Nat × List Char
  | [] => (n, [])
  | c :: s =>
    let m := n * 10 + Decimal.value [c]
    if m < 18446744073709551616 then takeDigits m s else (n, c :: s)

/-- A number without its sign: the digits of its whole part and of its fraction, and its
exponent. -/
structure Numeral where
  whole : List Char
  fraction : List Char
  exponent : Int

def Numeral.ofLiteral (literal : List Char) : Numeral :=
  let mantissa := literal.takeWhile fun c => c ≠ 'e' && c ≠ 'E'
  let tail := literal.dropWhile fun c => c ≠ 'e' && c ≠ 'E'
  let power : Int := Decimal.value (tail.filter isAsciiDigit)
  { whole := (mantissa.takeWhile (· ≠ '.')).filter isAsciiDigit
    fraction := (mantissa.dropWhile (· ≠ '.')).filter isAsciiDigit
    exponent := if tail.contains '-' then -power else power }

/-- The first digits, and the power of ten that they are taken by. Digits of the whole part that
are left out still count as places, digits of the fraction as none. -/
def Numeral.significand (n : Numeral) : Nat × Int :=
  let (whole, rest) := takeDigits 0 n.whole
  let (digits, left) := takeDigits whole n.fraction
  (digits, n.exponent + rest.length - (n.fraction.length - left.length : Nat))

/-- The nearest multiple of `unit`, of two the even one. -/
def nearestMultiple (n unit : Nat) : Nat :=
  let down := n / unit
  let rest := n % unit
  if 2 * rest < unit ∨ (2 * rest = unit ∧ down % 2 = 0) then down * unit else (down + 1) * unit

/-- A number and its nearest multiple are at most half a unit apart. -/
theorem nearestMultiple_near {n unit : Nat} (h : 0 < unit) :
    2 * n ≤ 2 * nearestMultiple n unit + unit ∧ 2 * nearestMultiple n unit ≤ 2 * n + unit := by
  have h1 := Nat.div_add_mod n unit
  have h2 := Nat.mod_lt n h
  have h3 : (n / unit + 1) * unit = unit * (n / unit) + unit := by
    rw [Nat.add_mul, Nat.one_mul, Nat.mul_comm]
  simp only [nearestMultiple]
  split
  · rw [Nat.mul_comm (n / unit) unit]
    omega
  · rw [h3]
    omega

/-- The nearest number with 53 significant bits. -/
def roundDouble (n : Nat) : Nat := nearestMultiple n (1 <<< (n.log2 - 52))

theorem roundDouble_eq_self {n : Nat} (h : n.log2 ≤ 52) : roundDouble n = n := by
  have h1 : n.log2 - 52 = 0 := by omega
  simp [roundDouble, h1, nearestMultiple, Nat.mod_one]

/-- The least number that rounds to infinity. -/
def overflow : Nat := Nat.pow 2 1024 - Nat.pow 2 970

/-- Whether a number can be read. A power of ten that is no double leaves zero alone in range. -/
def isFinite (literal : String) : Bool :=
  let (digits, power) := (Numeral.ofLiteral literal.toList).significand
  if digits = 0 ∨ power < 0 then true
  else if 308 < power then false
  else roundDouble digits * roundDouble (Nat.pow 10 power.toNat) < overflow

mutual

def isSound : Json → Bool
  | .number literal => isFinite literal
  | .string s => s.isSome
  | .array items => allSound items
  | .object members => membersSound members
  | _ => true

def allSound : List Json → Bool
  | [] => true
  | v :: vs => isSound v && allSound vs

def membersSound : List (Option String × Json) → Bool
  | [] => true
  | (label, v) :: ms => label.isSome && isSound v && membersSound ms

end

end HostSurvey.Json
