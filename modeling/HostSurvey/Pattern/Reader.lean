import HostSurvey.Pattern.Bracket
import HostSurvey.Pattern.Footprint
import HostSurvey.Text.Decimal

/-!
# Reading patterns

`read?` takes a pattern to its expression, or to `none` when it is malformed,
nested too deeply or too large. An item that is repeated, grouped, or one of
several in a sequence, a choice or a set is nested one level deeper.
-/

namespace HostSurvey.Pattern

open Text

/-! ## Repetitions -/

/-- A count, at most 32 bits, with blanks around it. -/
def readCount (f : Flags) (s : List Char) : Option (Nat × List Char) := do
  let (digits, s) := f.collect isAsciiDigit (s.dropWhile isBlank)
  guard (!digits.isEmpty)
  let n := Decimal.value digits
  guard (n ≤ 4294967295)
  return (n, s.dropWhile isBlank)

/-- The counts of a repetition behind its `{`, through the closing brace. -/
def readCounts (f : Flags) (s : List Char) : Option ((Nat × Option Nat) × List Char) := do
  let (low, s) ← readCount f (f.skip s)
  match s with
  | '}' :: s => return ((low, some low), s)
  | ',' :: s =>
    match f.skip s with
    | '}' :: s => return ((low, none), s)
    | s =>
      let (high, s) ← readCount f s
      guard (low ≤ high)
      let '}' :: s := s | none
      return ((low, some high), s)
  | _ => none

/-- A repetition of `e`, lazy if a question mark follows. -/
def Flags.times (f : Flags) (e : Expr) (counts : Nat × Option Nat) (s : List Char) :
    Expr × List Char :=
  match s with
  | '?' :: s => (e.repeated counts.1 counts.2 f.swapGreed, s)
  | s => (e.repeated counts.1 counts.2 (!f.swapGreed), s)

/-! ## Groups -/

/-- The groups opened so far. -/
structure Groups where
  count : Nat := 0
  names : List (List Char) := []

def Groups.add (g : Groups) (names : List (List Char)) : Groups :=
  ⟨g.count + 1, names ++ g.names⟩

/-- A group's name up to its `>`. -/
def readName (s : List Char) : Option (List Char × List Char) := do
  let (name, rest) := s.span (· ≠ '>')
  let _ :: rest := rest | none
  let first :: others := name | none
  guard (first = '_' ∨ isAlphabetic first)
  guard <| others.all fun c =>
    c = '_' ∨ c = '.' ∨ c = '[' ∨ c = ']' ∨ isAlphabetic c ∨ isNumber c
  return (name, rest)

/-- What a parenthesis opens: a group with its flags, its number if it has one, and the groups up
to it; or flags alone. -/
inductive Opening where
  | group (f : Flags) (number : Option Nat) (groups : Groups) (rest : List Char)
  | setFlags (f : Flags) (rest : List Char)

/-- The opening of a group behind its `(`. Looking ahead or behind is refused. -/
def readGroup (f : Flags) (groups : Groups) (s : List Char) : Option Opening :=
  let number := some (groups.count + 1)
  match f.skip s with
  | '?' :: '=' :: _ | '?' :: '!' :: _ | '?' :: '<' :: '=' :: _ | '?' :: '<' :: '!' :: _ => none
  | '?' :: 'P' :: '<' :: s | '?' :: '<' :: s => do
    let (name, s) ← readName s
    guard (name ∉ groups.names)
    return .group f number (groups.add [name]) s
  | '?' :: s => do
    let (inner, bare, ending, s) ← f.read [] true s
    if ending = ':' then return .group inner none groups s
    guard (!bare)
    return .setFlags inner s
  | s => some (.group f number (groups.add []) s)

/-- An expression with the number of levels nested in it. -/
structure Item where
  expr : Expr
  levels : Nat

namespace Item

/-- The levels of several items together; more than one of them are a level of their own. -/
def depth (levels : List Nat) : Nat :=
  levels.foldl max 0 + if levels.length < 2 then 0 else 1

def plain (e : Expr) : Item := ⟨e, 0⟩

/-- A group around an item. -/
def grouped (item : Item) (number : Option Nat) : Item :=
  ⟨match number with
    | some n => .group n item.expr
    | none => item.expr, item.levels + 1⟩

end Item

/-- What has been read of a group: its finished alternatives and the parts of the current one,
latest first. A part is `none` where flags were set. -/
structure Progress where
  flags : Flags
  groups : Groups
  branches : List Item := []
  parts : List (Option Item) := []

namespace Progress

def push (p : Progress) (item : Item) : Progress := { p with parts := some item :: p.parts }

/-- The current alternative. -/
def branch (p : Progress) : Item :=
  ⟨.concat ((p.parts.reverse.filterMap id).map (·.expr)),
    Item.depth (p.parts.map fun part => (part.map (·.levels)).getD 0)⟩

def finish (p : Progress) : Item :=
  let branches := p.branches.reverse ++ [p.branch]
  ⟨.choice (branches.map (·.expr)), Item.depth (branches.map (·.levels))⟩

/-- Repeats the latest part. -/
def repeatLast (p : Progress) (counts : Nat × Option Nat) (s : List Char) :
    Option (Progress × List Char) :=
  match p.parts with
  | some item :: parts =>
    let (e, s) := p.flags.times item.expr counts s
    some ({ p with parts := some ⟨e, item.levels + 1⟩ :: parts }, s)
  | _ => none

end Progress

/-! ## Expressions -/

/-- A group's content up to its closing parenthesis or the end, with the groups opened so far. -/
def readBranches : Nat → Progress → List Char → Option (Item × Groups × List Char)
  | 0, _, _ => none
  | fuel + 1, p, s =>
    let f := p.flags
    match f.skip s with
    | [] => some (p.finish, p.groups, [])
    | ')' :: s => some (p.finish, p.groups, ')' :: s)
    | '|' :: s => readBranches fuel { p with branches := p.branch :: p.branches, parts := [] } s
    | '(' :: s => do
      match ← readGroup f p.groups s with
      | .setFlags f s => readBranches fuel { p with flags := f, parts := none :: p.parts } s
      | .group inner number groups s =>
        let (item, groups, s) ← readBranches fuel { flags := inner, groups } s
        let ')' :: s := s | none
        readBranches fuel ({ p with groups }.push (item.grouped number)) s
    | '[' :: s => do
      let (set, levels, s) ← readSet f fuel s
      readBranches fuel (p.push ⟨f.one set, levels⟩) s
    | '?' :: s => (p.repeatLast (0, some 1) s).bind fun (p, s) => readBranches fuel p s
    | '*' :: s => (p.repeatLast (0, none) s).bind fun (p, s) => readBranches fuel p s
    | '+' :: s => (p.repeatLast (1, none) s).bind fun (p, s) => readBranches fuel p s
    | '{' :: s => do
      guard (p.parts.head?.any Option.isSome)
      let (counts, s) ← readCounts f s
      let (p, s) ← p.repeatLast counts (f.skip s)
      readBranches fuel p s
    | '\\' :: s => do
      let (a, s) ← readEscape f s
      let e ← f.atom? a
      readBranches fuel (p.push (.plain e)) s
    | '.' :: s => readBranches fuel (p.push (.plain f.dot)) s
    | '^' :: s => readBranches fuel (p.push (.plain (.look f.lineStart))) s
    | '$' :: s => readBranches fuel (p.push (.plain (.look f.lineEnd))) s
    | c :: s => readBranches fuel (p.push (.plain (f.literal c false))) s

/-- The most levels that a pattern may nest. -/
def levelLimit : Nat := 250

/-- The expression of a pattern; `none` for a malformed or an oversized one. -/
def read? (ignoreCase : Bool) (s : List Char) : Option Expr := do
  let flags : Flags := { ignoreCase }
  let (item, _, rest) ← readBranches (s.length + 1) { flags, groups := {} } s
  guard (rest.isEmpty && item.levels ≤ levelLimit && item.expr.fits)
  return item.expr

end HostSurvey.Pattern
