import HostSurvey.Pattern.Encoding
import HostSurvey.Pattern.Expr

/-!
# How much storage a pattern takes

A pattern is refused when an automaton for it needs more than `storageLimit`
bytes. The automaton reads bytes, forward from the start of a hit or backward
from its end, and both have to fit. A state takes 32 bytes, a transition of a
state that has several takes 8 and a way of a branching state 4.

`lay` adds the states of an expression to those that are there. States for
encoded characters are shared where their ways on are the same. What can be
shared is looked up in a table where parts that fall into one slot replace each
other, so the same set may take a little more room in one place than in another.
-/

namespace HostSurvey.Pattern

/-! ## Storage -/

/-- How many states there are, and the bytes of the lists in them. -/
structure Storage where
  states : Nat
  lists : Nat

def storageLimit : Nat := 10485760

namespace Storage

def bytes (s : Storage) : Nat := 32 * s.states + s.lists

/-- With some more states and bytes of lists. -/
def add (s : Storage) (states lists : Nat) : Storage := ⟨s.states + states, s.lists + lists⟩

def within (s : Storage) : Option Storage := if s.bytes ≤ storageLimit then some s else none

/-- The same storage with some more, as long as it stays within the limit. -/
def grow (s : Storage) (states lists : Nat) : Option Storage := (s.add states lists).within

end Storage

/-- Takes a step `n` times, as long as what it needs is there. -/
def repeatedly (step : Storage → Option Storage) : Nat → Storage → Option Storage
  | 0, s => some s
  | n + 1, s =>
    match step s with
    | some s => repeatedly step n s
    | none => none

/-! ## Shared states -/

/-- States that have been laid out, by what they do; each is kept in the slot that the hash of
its key falls into. -/
abbrev Shared := Array (Option (List Nat × Nat))

/-- The FNV-1a hash. -/
def hashKey (key : List Nat) : UInt64 :=
  key.foldl (fun h n => (h ^^^ n.toUInt64) * 1099511628211) 14695981039346656037

def Shared.slot (t : Shared) (key : List Nat) : Nat := (hashKey key % t.size.toUInt64).toNat

def Shared.find? (t : Shared) (key : List Nat) : Option Nat :=
  match t.getD (t.slot key) none with
  | some (k, state) => if k = key then some state else none
  | none => none

def Shared.insert (t : Shared) (key : List Nat) (state : Nat) : Shared :=
  t.setIfInBounds (t.slot key) (some (key, state))

/-- The state for a key: one that is there, or a new one with `lists` bytes of lists. -/
def share (key : List Nat) (lists : Nat) (s : Storage) (t : Shared) : Nat × Storage × Shared :=
  match t.find? key with
  | some state => (state, s, t)
  | none => (s.states, s.add 1 lists, t.insert key s.states)

inductive Direction where
  | forward
  | backward
  deriving DecidableEq, Repr

/-- The state that reads one of some encodings on the way to `target`, all with the same states
before it. Encodings that start with the same range go on in one state. -/
def layEncodings (target : Nat) :
    Nat → List ByteRanges → Storage → Shared → Nat × Storage × Shared
  | 0, _, s, t => (target, s, t)
  | length + 1, encodings, s, t =>
    let groups := encodings.splitBy fun a b => a.head? == b.head?
    let (key, s, t) := groups.foldl (fun (key, s, t) group =>
      match group with
      | (r :: rest) :: _ =>
        let (next, s, t) :=
          if rest.isEmpty then (target, s, t)
          else layEncodings target length (group.map (·.drop 1)) s t
        (key ++ [r.1, r.2, next], s, t)
      | _ => (key, s, t)) (([] : List Nat), s, t)
    share key (8 * groups.length) s t

/-- The state that reads an encoding from its end on the way to `target`. -/
def layReversed (target : Nat) (encoding : ByteRanges) (s : Storage) (t : Shared) :
    Storage × Shared :=
  (encoding.foldl (fun (next, s, t) r => share [next, r.1, r.2] 0 s t) (target, s, t)).2

/-- The states of a set of characters. -/
def laySet (d : Direction) (set : CharSet) (s : Storage) : Storage :=
  if set.isAscii then s.add 2 (8 * set.runs.length)
  else
    match d with
    | .forward =>
      (layEncodings s.states 4 set.encodings (s.add 1 0) (Array.replicate 10000 none)).2.1
    | .backward =>
      let encodings := set.encodings
      let start := (s.add 2 (4 * encodings.length), (Array.replicate 1000 none : Shared))
      (encodings.foldl (fun (l, t) e => layReversed (s.states + 1) e l t) start).1

/-! ## Words -/

/-- The literals of a choice that has nothing else. -/
def Expr.words? : Expr → Option (List Bytes)
  | .literal bytes => some [bytes]
  | .alt a b => a.words?.bind fun v => b.words?.map fun w => v ++ w
  | _ => none

/-- The words between those that are over. -/
def unfinished : List Bytes → List (List Bytes)
  | [] => [[]]
  | w :: ws =>
    if w.isEmpty then [] :: unfinished ws
    else
      match unfinished ws with
      | [] => [[w]]
      | l :: ls => (w :: l) :: ls

/-- The states that tell some words apart byte by byte, an earlier word before a later one. Where
a word is over, the words behind it are told apart anew. -/
def layWords : Nat → List Bytes → Storage → Storage
  | 0, _, s => s
  | length + 1, words, s =>
    if words.all (·.isEmpty) then s
    else
      let runs := unfinished words
      let full := runs.filter fun run => !run.isEmpty
      let s := s.add 1 (4 * (full.length + runs.length - 1))
      full.foldl (fun s (run : List Bytes) =>
        let heads := (run.filterMap (·.head?)).eraseDups
        let s := s.add 1 (if heads.length = 1 then 0 else 8 * heads.length)
        heads.foldl (fun s b =>
          layWords length ((run.filter fun w => w.head? = some b).map (·.drop 1)) s) s) s

/-! ## Expressions -/

/-- The states of an expression; `inside` marks an alternative behind the first one of a choice,
which shares the branching state of that choice. -/
def lay (d : Direction) : Bool → Expr → Storage → Option Storage
  | _, .empty, s => s.grow 1 0
  | _, .literal bytes, s => s.grow bytes.length 0
  | _, .char set, s => (laySet d set s).within
  | _, .byte set, s => s.grow 2 (8 * set.runs.length)
  | _, .look _, s => s.grow 1 0
  | _, .group _ e, s =>
    match d with
    | .forward => (s.grow 1 0).bind fun s => (lay d false e s).bind fun s => s.grow 1 0
    | .backward => lay d false e s
  | _, .seq a b, s =>
    match d with
    | .forward => (lay d false a s).bind fun s => lay d false b s
    | .backward => (lay d false b s).bind fun s => lay d false a s
  | inside, .alt a b, s =>
    match if inside then none else (Expr.alt a b).words? with
    | some words =>
      let words := if d = .forward then words else words.map (·.reverse)
      let longest := words.foldl (fun n w => max n w.length) 0
      (layWords (longest + 1) words (s.add 1 0)).within
    | none =>
      (if inside then s.grow 0 4 else s.grow 2 8).bind fun s =>
        (lay d false a s).bind fun s => lay d true b s
  | _, .times e 0 (some 1) _, s =>
    (s.grow 1 8).bind fun s => (lay d false e s).bind fun s => s.grow 1 0
  | _, .times e min (some max) _, s =>
    if min = max then repeatedly (lay d false e) min s
    else
      (repeatedly (lay d false e) min s).bind fun s =>
        (s.grow (if min = 0 then 2 else 1) 0).bind fun s =>
          repeatedly (fun s => (s.grow 1 8).bind fun s => lay d false e s) (max - min) s
  | _, .times e 0 none _, s =>
    if e.takesSome then (s.grow 1 8).bind fun s => lay d false e s
    else (lay d false e s).bind fun s => s.grow 3 16
  | _, .times e (n + 1) none _, s =>
    (repeatedly (lay d false e) (n + 1) s).bind fun s => s.grow 1 8

/-- What stands before an expression: the loop that looks for a start, or a single state where the
start is known, and in front of a hit the state that keeps where it begins. -/
def Expr.preamble (e : Expr) : Direction → Storage
  | .forward => if e.startsText then ⟨2, 0⟩ else ⟨4, 16⟩
  | .backward => if e.endsText then ⟨1, 0⟩ else ⟨3, 16⟩

/-- What stands behind an expression: the state that accepts, and behind a hit the state that
keeps where it ends. -/
def Expr.closing : Direction → Nat
  | .forward => 2
  | .backward => 1

/-- Whether the automaton of one direction stays within the limit. -/
def Expr.fitsIn (e : Expr) (d : Direction) : Bool :=
  ((lay d false e (e.preamble d)).bind fun s => s.grow (Expr.closing d) 0).isSome

def Expr.fits (e : Expr) : Bool := e.fitsIn .forward && e.fitsIn .backward

end HostSurvey.Pattern
