import HostSurvey.Text.Ascii
import HostSurvey.Text.Blank
import HostSurvey.Text.Decimal
import HostSurvey.Text.Digit

/-!
# Interface names

A name has a type and a number, such as `GigabitEthernet` and `0/1`, and the
type may be abbreviated. Two names are of the same interface when their numbers
agree and one type is the beginning of the other.
-/

namespace HostSurvey.Interface

open Text

/-- Digits with single slashes between groups of them. -/
def isNumbering (s : List Char) : Bool :=
  (fields (· == '/') s).all fun group => !group.isEmpty && group.all isDigit

/-- Everything before the first digit, without blanks at its end, and everything from there. -/
def split? (name : List Char) : Option (List Char × List Char) :=
  let s := trim name
  let kind := trimEnd (s.takeWhile fun c => !isDigit c)
  let numbers := s.dropWhile fun c => !isDigit c
  if !kind.isEmpty && isNumbering numbers then some (kind, numbers) else none

/-- One text begins with the other, whatever the case of ASCII letters. -/
def abbreviates (s t : List Char) : Bool :=
  (lowered s).isPrefixOf (lowered t) || (lowered t).isPrefixOf (lowered s)

def same (a b : List Char) : Bool :=
  sameLetters a b ||
    match split? a, split? b with
    | some (kind, numbers), some (kind', numbers') => numbers == numbers' && abbreviates kind kind'
    | _, _ => false

/-! ## Kinds of interfaces -/

def isDigitOrSlash (c : Char) : Bool := isDigit c || c == '/'

/-- The stretches of digits and slashes that can be the number of a port: each begins behind at
least one character and only characters that are no digits, later places first. -/
def numberings (word : List Char) : List (List Char) :=
  let before := (word.takeWhile fun c => !isDigit c).length
  ((List.range before).reverse.map fun i => word.drop (i + 1)).filter fun s =>
    3 ≤ (s.takeWhile isDigitOrSlash).length

def hasSlash (s : List Char) : Bool := (s.takeWhile isDigitOrSlash).contains '/'

/-- The first word is the name of a port with a slot: its number is at least three characters
long and has a slash. -/
def isPhysical (line : List Char) : Bool :=
  match numberings (firstWord line) with
  | [] => false
  | s :: _ => hasSlash s

/-- The number is followed by a dot and digits up to the end. -/
def hasSubNumber (s : List Char) : Bool :=
  match s.dropWhile isDigitOrSlash with
  | '.' :: sub => !sub.isEmpty && sub.all isDigit
  | _ => false

/-- The first word is the name of a port with a sub-interface. -/
def isSubInterface (line : List Char) : Bool :=
  match (numberings (firstWord line)).filter hasSubNumber with
  | [] => false
  | s :: _ => hasSlash s

/-- The number of the VLAN that a name such as `Vlan10` stands for. -/
def vlanId? (name : List Char) : Option UInt16 :=
  let s := trim name
  if lowered (s.take 4) = ['v', 'l', 'a', 'n'] then Decimal.readUInt16 (trim (s.drop 4)) else none

theorem same_refl (a : List Char) : same a a = true := by simp [same, sameLetters_refl]

theorem abbreviates_comm (s t : List Char) : abbreviates s t = abbreviates t s := Bool.or_comm ..

theorem same_comm (a b : List Char) : same a b = same b a := by
  unfold same
  rw [sameLetters_comm a b]
  cases split? a <;> cases split? b <;> simp [abbreviates_comm, Bool.beq_comm]

end HostSurvey.Interface
