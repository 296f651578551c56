import HostSurvey.Json.Value
import HostSurvey.Text.Decimal

/-!
# Shapes of JSON values

A shape takes a value to what it describes, or to `none`. A record may be
written as an object, where unknown labels are passed over and a known one may
stand once, or as an array of its fields in order, where fields may be missing
at the end. A choice is a label alone or an object with one member.
-/

namespace HostSurvey

abbrev Shape (α : Type) := Json → Option α

namespace Json.Shape

def string : Shape String
  | .string s => s
  | _ => none

def bool : Shape Bool
  | .bool b => some b
  | _ => none

/-- A number written as an integer; `-0` is none. -/
def int : Shape Int
  | .number literal =>
    match literal.toList with
    | ['-', '0'] => none
    | '-' :: s =>
      if s.all Text.isAsciiDigit then some (-Text.Decimal.value s) else none
    | s => if s.all Text.isAsciiDigit then some (Text.Decimal.value s) else none
  | _ => none

def between (low high : Int) : Shape Int := fun v =>
  (int v).bind fun n => if low ≤ n ∧ n ≤ high then some n else none

def nat (limit : Nat) : Shape Nat := fun v => (between 0 limit v).map Int.toNat

def uint8 : Shape UInt8 := fun v => (nat 255 v).map Nat.toUInt8

def uint16 : Shape UInt16 := fun v => (nat 65535 v).map Nat.toUInt16

def uint32 : Shape UInt32 := fun v => (nat 4294967295 v).map Nat.toUInt32

def uint64 : Shape UInt64 := fun v => (nat 18446744073709551615 v).map Nat.toUInt64

/-- A length or count of at most 64 bits. -/
def size : Shape Nat := nat 18446744073709551615

/-- A signed offset of 64 bits. -/
def offset : Shape Int := between (-9223372036854775808) 9223372036854775807

def list {α : Type} (f : Shape α) : Shape (List α)
  | .array items => items.mapM f
  | _ => none

def nullable {α : Type} (f : Shape α) : Shape (Option α)
  | .null => some none
  | v => (f v).map some

/-- The members labelled `name`. -/
def labelled (name : String) (members : List (Option String × Json)) : List Json :=
  members.filterMap fun m => if m.1 = some name then some m.2 else none

/-- The member labelled `name`, if any; refused when there are several. -/
def single (members : List (Option String × Json)) (name : String) : Option (Option Json) :=
  match labelled name members with
  | [] => some none
  | [v] => some (some v)
  | _ => none

/-- The fields of a record, in the order of `names`, each with its value if it is given. -/
def fields (names : List String) : Shape (List (Option Json))
  | .object members =>
    if members.all fun m => m.1.isSome then names.mapM (single members) else none
  | .array items =>
    if items.length ≤ names.length then
      some (items.map some ++ List.replicate (names.length - items.length) none)
    else none
  | _ => none

/-- A field that has to be there. -/
def required {α : Type} (f : Shape α) (v : Option Json) : Option α := v.bind f

/-- A field that is `default` when it is missing. -/
def optional {α : Type} (default : α) (f : Shape α) : Option Json → Option α
  | none => some default
  | some v => f v

/-- The label of a choice and what it carries. -/
def choice : Shape (String × Option Json)
  | .string (some label) => some (label, none)
  | .object [(some label, v)] => some (label, some v)
  | _ => none

/-- One of a table of labels that carry nothing. -/
def oneOf {α : Type} (table : List (String × α)) : Shape α := fun v => do
  let (label, carried) ← choice v
  match carried with
  | none | some .null => table.lookup label
  | some _ => none

/-- Every label of an object with its text; of equal labels the last one counts. -/
def strings : Shape (List (String × String))
  | .object members => members.mapM fun m => do
    let label ← m.1
    let value ← string m.2
    return (label, value)
  | _ => none

end Json.Shape

end HostSurvey
