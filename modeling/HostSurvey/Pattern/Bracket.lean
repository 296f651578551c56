import HostSurvey.Pattern.Escape

/-!
# Sets in brackets

`readSet` reads a set behind its `[`: members, ranges, named ASCII sets, sets
within sets and the operators `&&`, `--` and `~~`, which all bind alike and to
the left. With each set comes the number of levels that are nested in it.
-/

namespace HostSurvey.Pattern

/-- The ASCII sets that brackets within brackets can name. -/
def asciiNamed? (name : List Char) : Option CharSet :=
  match String.ofList name with
  | "alnum" => some ⟨[(48, 57), (65, 90), (97, 122)]⟩
  | "alpha" => some ⟨[(65, 90), (97, 122)]⟩
  | "ascii" => some (.range 0 127)
  | "blank" => some ⟨[(9, 9), (32, 32)]⟩
  | "cntrl" => some ⟨[(0, 31), (127, 127)]⟩
  | "digit" => some (.range 48 57)
  | "graph" => some (.range 33 126)
  | "lower" => some (.range 97 122)
  | "print" => some (.range 32 126)
  | "punct" => some ⟨[(33, 47), (58, 64), (91, 96), (123, 126)]⟩
  | "space" => some ⟨[(9, 13), (32, 32)]⟩
  | "upper" => some (.range 65 90)
  | "word" => some ⟨[(48, 57), (65, 90), (95, 95), (97, 122)]⟩
  | "xdigit" => some ⟨[(48, 57), (65, 70), (97, 102)]⟩
  | _ => none

/-- A named set behind its `[`, such as `:^alpha:]`; `none` when it is none. -/
def readNamed (f : Flags) : List Char → Option (CharSet × List Char)
  | ':' :: s =>
    let (negated, s) :=
      match s with
      | '^' :: s => (true, s)
      | s => (false, s)
    let (name, rest) := s.span (· ≠ ':')
    match rest with
    | ':' :: ']' :: rest => (asciiNamed? name).map fun set => (f.close negated set, rest)
    | _ => none
  | _ => none

/-- The number of a set's literal: outside Unicode mode a byte, written as ASCII or with two
hexadecimal digits. -/
def Flags.literal? (f : Flags) (c : Char) (byte : Bool) : Option Nat :=
  if f.unicode || byte || c.toNat < 128 then some c.toNat else none

/-- An atom as a member of a set. -/
def Flags.member? (f : Flags) : Atom → Option CharSet
  | .literal c byte => (f.literal? c byte).map .single
  | .shorthand p negated => some (f.shorthand p negated)
  | .property set negated => if f.unicode then some (f.close negated set) else none
  | .look _ => none

def readAtom (f : Flags) : List Char → Option (Atom × List Char)
  | [] => none
  | '\\' :: s => readEscape f s
  | c :: s => some (.literal c false, s)

/-- One member of a set, or a range. A hyphen before `]` or another hyphen makes no range. -/
def readMember (f : Flags) (s : List Char) : Option (CharSet × List Char) := do
  let (a, s) ← readAtom f s
  match f.skip s with
  | [] => none
  | '-' :: rest =>
    if f.peek rest = some ']' ∨ f.peek rest = some '-' then
      return (← f.member? a, '-' :: rest)
    else
      let (b, rest) ← readAtom f (f.skip rest)
      match a, b with
      | .literal a abyte, .literal b bbyte =>
        guard (a.toNat ≤ b.toNat)
        return (.range (← f.literal? a abyte) (← f.literal? b bbyte), rest)
      | _, _ => none
  | s => return (← f.member? a, s)

/-- Members read so far: their union, how many they are, and the most levels in one of them. -/
structure Members where
  set : CharSet := .empty
  count : Nat := 0
  levels : Nat := 0

namespace Members

def add (m : Members) (set : CharSet) (levels : Nat) : Members :=
  ⟨m.set.union set, m.count + 1, max m.levels levels⟩

/-- Several members are one level more than each of them. -/
def depth (m : Members) : Nat := if m.count < 2 then m.levels else m.levels + 1

end Members

inductive SetOp where
  | inter
  | diff
  | symmDiff

/-- The left side of an operator: the set, its levels, and the operator. -/
structure Pending where
  set : CharSet
  levels : Nat
  op : SetOp

/-- What members make together with what waits to the left of them, and its levels. -/
def Flags.combine (f : Flags) (left : Option Pending) (m : Members) : CharSet × Nat :=
  match left with
  | none => (m.set, m.depth)
  | some left =>
    let a := f.close false left.set
    let b := f.close false m.set
    let set :=
      match left.op with
      | .inter => a.inter f.top b
      | .diff => a.diff f.top b
      | .symmDiff => a.symmDiff f.top b
    (set, max left.levels m.depth + 1)

def Flags.pending (f : Flags) (left : Option Pending) (m : Members) (op : SetOp) : Pending :=
  let (set, levels) := f.combine left m
  ⟨set, levels, op⟩

/-- Hyphens at the start of a set stand for themselves. -/
def readHyphens (f : Flags) : Nat → Members → List Char → Option (Members × List Char)
  | 0, _, _ => none
  | _ + 1, _, [] => none
  | fuel + 1, m, c :: s =>
    if c = '-' then readHyphens f fuel (m.add (.single 45) 0) (f.skip s) else some (m, c :: s)

/-- The start of a set behind its `[`: whether it is negated, and the hyphens and the closing
bracket that stand for themselves there. -/
def readOpening (f : Flags) (s : List Char) : Option (Bool × Members × List Char) := do
  let (negated, s) :=
    match f.skip s with
    | '^' :: s => (true, f.skip s)
    | s => (false, s)
  let (m, s) ← readHyphens f (s.length + 1) {} s
  match m.count, s with
  | 0, ']' :: s =>
    let s := f.skip s
    guard (!s.isEmpty)
    return (negated, m.add (.single 93) 0, s)
  | _, s => return (negated, m, s)

mutual

/-- A set behind its `[`, its levels, and what follows its `]`. -/
def readSet (f : Flags) : Nat → List Char → Option (CharSet × Nat × List Char)
  | 0, _ => none
  | fuel + 1, s => do
    let (negated, m, s) ← readOpening f s
    let (set, levels, s) ← readMembers f fuel none m s
    return (f.close negated set, levels + 1, s)

/-- Members up to the closing bracket; `left` waits for what they make. -/
def readMembers (f : Flags) :
    Nat → Option Pending → Members → List Char → Option (CharSet × Nat × List Char)
  | 0, _, _, _ => none
  | fuel + 1, left, m, s =>
    match f.skip s with
    | [] => none
    | '[' :: s =>
      match readNamed f s with
      | some (named, s) => readMembers f fuel left (m.add named 0) s
      | none => do
        let (inner, levels, s) ← readSet f fuel s
        readMembers f fuel left (m.add inner levels) s
    | ']' :: s =>
      let (set, levels) := f.combine left m
      some (set, levels, s)
    | '&' :: '&' :: s => readMembers f fuel (some (f.pending left m .inter)) {} s
    | '-' :: '-' :: s => readMembers f fuel (some (f.pending left m .diff)) {} s
    | '~' :: '~' :: s => readMembers f fuel (some (f.pending left m .symmDiff)) {} s
    | s => do
      let (member, s) ← readMember f s
      readMembers f fuel left (m.add member 0) s

end

end HostSurvey.Pattern
