/-!
# JSON values

A number keeps the text it was written with, and an object the order and the
repetitions of its members. A string whose escapes leave a surrogate without
its partner is well formed but spells no text; it is `none` here, both as a
value and as a label.
-/

namespace HostSurvey

inductive Json where
  | null
  | bool (value : Bool)
  | number (literal : String)
  | string (text : Option String)
  | array (items : List Json)
  | object (members : List (Option String × Json))
  deriving Inhabited, Repr

namespace Json

def text (s : String) : Json := .string (some s)

def nat (n : Nat) : Json := .number (toString n)

def int (n : Int) : Json := .number (toString n)

def textOrNull : Option String → Json
  | none => .null
  | some s => text s

def natOrNull : Option Nat → Json
  | none => .null
  | some n => nat n

/-- An object with the given members in order. -/
def record (members : List (String × Json)) : Json :=
  .object (members.map fun m => (some m.1, m.2))

mutual

/-- The levels of nesting, one for each array and object around the innermost value. -/
def depth : Json → Nat
  | .array items => depthItems items + 1
  | .object members => depthMembers members + 1
  | _ => 0

def depthItems : List Json → Nat
  | [] => 0
  | v :: vs => max (depth v) (depthItems vs)

def depthMembers : List (Option String × Json) → Nat
  | [] => 0
  | (_, v) :: ms => max (depth v) (depthMembers ms)

end

end Json

end HostSurvey
