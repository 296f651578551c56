import HostSurvey.Filter.Index
import HostSurvey.Packet.Cursor

/-!
# Rule engines

A rule is a list of conditions: those on one field are alternatives, and every
field that is mentioned has to be satisfied. `Rule.accepts` says so directly.
`Engine.matching` finds the rules that accept a header through the indexes of
the fields that some rule mentions.
-/

namespace HostSurvey.Filter

structure Rule (α : Type) where
  name : String
  conditions : List Condition
  action : α

namespace Rule

variable {α : Type}

/-- The fields that the rule constrains. -/
def fields (r : Rule α) : SortedSet Field := .ofList (r.conditions.map Condition.field)

/-- Every constrained field has a condition that accepts the header, and there is such a field. -/
def accepts (r : Rule α) (h : Header) : Bool :=
  !r.fields.isEmpty && r.fields.toList.all fun field =>
    (r.conditions.filter fun c => c.field == field).any fun c => c.accepts h

end Rule

/-- Rules in firing order, their indexes, and the fields that one of them mentions. -/
structure Engine (α : Type) where
  rules : List (Rule α) := []
  indexes : Indexes := {}
  used : SortedSet Field := .empty

namespace Engine

variable {α : Type}

def empty : Engine α := {}

instance : Inhabited (Engine α) := ⟨empty⟩

/-- Appends a rule whose conditions are indexed under its place, and gives this place. All
conditions are checked first, and a fault leaves the engine as far as it got. -/
def add (e : Engine α) (r : Rule α) : Except RuleFault Nat × Engine α :=
  match r.conditions.forM Condition.check with
  | .error fault => (.error fault, e)
  | .ok () =>
    let place := e.rules.length
    match Indexes.insertAll place r.conditions e.indexes with
    | (some fault, indexes) => (.error fault, { e with indexes })
    | (none, indexes) =>
      (.ok place,
        { rules := e.rules ++ [r], indexes, used := e.used.insertAll r.fields.toList })

/-- The candidates in every field that is mentioned. -/
def table (e : Engine α) (h : Header) : List (Field × SortedSet Nat) :=
  e.used.toList.map fun field => (field, e.indexes.candidates h field)

/-- Whether the rule at `i` is a candidate in all its fields. -/
def selects (table : List (Field × SortedSet Nat)) (i : Nat) (r : Rule α) : Bool :=
  !r.fields.isEmpty && r.fields.toList.all fun field =>
    match table.lookup field with
    | some found => decide (i ∈ found)
    | none => false

/-- The indices of the rules that accept the header, in order. -/
def matching (e : Engine α) (h : Header) : List Nat :=
  let table := e.table h
  (e.rules.zipIdx.filter fun r => selects table r.2 r.1).map Prod.snd

/-- Runs the actions of the rules that accept the header, in order, on a state and a cursor that
they share; the cursor is reset before each. The answer names the rules whose action succeeded. -/
def fire {σ : Type} (e : Engine α) (h : Header) (run : Rule α → Cursor → σ → Bool × Cursor × σ)
    (s : σ) : List Nat × σ :=
  let (fired, _, s) := (e.matching h).foldl (fun (fired, c, s) i =>
    match e.rules[i]? with
    | none => (fired, c, s)
    | some r =>
      let (ok, c, s) := run r c.reset s
      (if ok then fired ++ [i] else fired, c, s)) ([], .origin, s)
  (fired, s)

/-- Whether one rule leaves a field free or has a condition on it that passes `test`. -/
def passes (e : Engine α) (rule : Nat) (field : Field) (test : Condition → Bool) : Bool :=
  match e.rules[rule]? with
  | none => false
  | some r =>
    !(r.fields.toList.contains field) ||
      (r.conditions.filter fun c => c.field == field).any test

/-- Whether one rule's conditions on the time to live admit a value. -/
def admitsTtl (e : Engine α) (rule : Nat) (ttl : UInt8) : Bool :=
  e.passes rule .ttl fun
    | .ttl value => value == ttl
    | .ttlWithin min max => min ≤ ttl && ttl ≤ max
    | _ => false

/-- Whether one rule's conditions on the payload size admit a value. -/
def admitsDsize (e : Engine α) (rule : Nat) (dsize : UInt32) : Bool :=
  e.passes rule .dsize fun
    | .dsize value => value == dsize
    | .dsizeWithin min max => min ≤ dsize && dsize ≤ max
    | _ => false

end Engine

end HostSurvey.Filter
