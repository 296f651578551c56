import HostSurvey.Pattern.Engine
import HostSurvey.Pattern.Program
import HostSurvey.Pattern.Reader
import HostSurvey.Text.Utf8
import Std.Data.HashSet

/-!
# Searching with patterns

An engine whose searches give the leftmost hit and, of several hits there, the
one that the pattern prefers: earlier alternatives before later ones, and
repetitions as long or as short as they ask to be. Every way through the program
is tried in order of preference, and none twice from one position. No way leaves
the data (`inside_of_runFrom`).
-/

namespace HostSurvey

namespace Pattern

open Text

/-! ## Characters around a position -/

/-- One side of a position. -/
inductive Side where
  | edge
  | broken
  | char (c : Char)
  deriving DecidableEq

/-- The encoded character at the head of `s`, with its length in bytes. -/
def charAt? (s : Bytes) : Option (Char × Nat) :=
  match s with
  | [] => none
  | b :: s =>
    match Utf8.next b s with
    | (some c, rest) => some (c, s.length + 1 - rest.length)
    | (none, _) => none

def sideAfter (data : Array UInt8) (i : Nat) : Side :=
  if data.size ≤ i then .edge
  else
    match charAt? (data.extract i (i + 4)).toList with
    | some (c, _) => .char c
    | none => .broken

/-- The nearest byte before `i`, at most four back, that continues no character. -/
def startBefore (data : Array UInt8) (i : Nat) : Nat :=
  let continues := fun k => 0x80 ≤ data.getD k 0 && data.getD k 0 ≤ 0xBF
  if !continues (i - 1) || i ≤ 1 then i - 1
  else if !continues (i - 2) || i ≤ 2 then i - 2
  else if !continues (i - 3) || i ≤ 3 then i - 3
  else i - 4

/-- The character before `i` is the one that starts at the nearest byte that can start one. -/
def sideBefore (data : Array UInt8) (i : Nat) : Side :=
  if i = 0 then .edge
  else
    match charAt? (data.extract (startBefore data i) i).toList with
    | some (c, _) => .char c
    | none => .broken

def Side.isWord : Side → Bool
  | .char c => isWordChar c
  | _ => false

/-! ## Conditions on positions -/

/-- Whether the byte at `i` is an ASCII letter, digit or underscore. -/
def asciiWordAt (data : Array UInt8) (i : Nat) : Bool :=
  match data[i]? with
  | some b => (asciiShorthand .word).mem b.toNat
  | none => false

def wordBefore (unicode : Bool) (data : Array UInt8) (i : Nat) : Bool :=
  if unicode then (sideBefore data i).isWord else 0 < i && asciiWordAt data (i - 1)

def wordAfter (unicode : Bool) (data : Array UInt8) (i : Nat) : Bool :=
  if unicode then (sideAfter data i).isWord else asciiWordAt data i

/-- Whether a condition holds at position `i`. Among characters, the absence of a boundary and the
half boundaries need whole characters on the sides they look at. -/
def Assertion.holds (data : Array UInt8) (i : Nat) : Assertion → Bool
  | .textStart => i == 0
  | .textEnd => i == data.size
  | .lineStart => i == 0 || data[i - 1]? == some 10
  | .lineEnd => i == data.size || data[i]? == some 10
  | .lineStartCrlf =>
    i == 0 || data[i - 1]? == some 10 || (data[i - 1]? == some 13 && data[i]? != some 10)
  | .lineEndCrlf =>
    i == data.size || data[i]? == some 13 ||
      (data[i]? == some 10 && (i == 0 || data[i - 1]? != some 13))
  | .wordBoundary u => wordBefore u data i != wordAfter u data i
  | .notWordBoundary false => wordBefore false data i == wordAfter false data i
  | .notWordBoundary true =>
    sideBefore data i != .broken && sideAfter data i != .broken &&
      wordBefore true data i == wordAfter true data i
  | .wordStart u => !wordBefore u data i && wordAfter u data i
  | .wordEnd u => wordBefore u data i && !wordAfter u data i
  | .wordStartHalf false => !wordBefore false data i
  | .wordStartHalf true => sideBefore data i != .broken && !wordBefore true data i
  | .wordEndHalf false => !wordAfter false data i
  | .wordEndHalf true => sideAfter data i != .broken && !wordAfter true data i

/-! ## Runs -/

/-- A place in a run: an address and a position. -/
structure Place where
  address : Nat
  position : Nat

/-- The places that an instruction leads to, preferred ones first; `none` at the end of a hit. -/
def Inst.next (data : Array UInt8) (p : Place) : Inst → Option (List Place)
  | .char set =>
    match charAt? (data.extract p.position (p.position + 4)).toList with
    | some (c, size) =>
      some (if set.mem c.toNat then [⟨p.address + 1, p.position + size⟩] else [])
    | none => some []
  | .byte set =>
    match data[p.position]? with
    | some b => some (if set.mem b.toNat then [⟨p.address + 1, p.position + 1⟩] else [])
    | none => some []
  | .look a => some (if a.holds data p.position then [⟨p.address + 1, p.position⟩] else [])
  | .fork first second => some [⟨first, p.position⟩, ⟨second, p.position⟩]
  | .jump target => some [⟨target, p.position⟩]
  | .accept => none

/-- Follows the places on the stack, the top one first, to the end of a hit. `seen` holds the
places that have been tried, each at most once in a whole search, as address times the number of
positions plus position. -/
def run (program : Array Inst) (data : Array UInt8) :
    Nat → List Place → Std.HashSet Nat → Option Nat × Std.HashSet Nat
  | 0, _, seen => (none, seen)
  | _ + 1, [], seen => (none, seen)
  | fuel + 1, p :: stack, seen =>
    let mark := p.address * (data.size + 1) + p.position
    if seen.contains mark then run program data fuel stack seen
    else
      let seen := seen.insert mark
      match program[p.address]? with
      | none => run program data fuel stack seen
      | some inst =>
        match inst.next data p with
        | none => (some p.position, seen)
        | some places => run program data fuel (places ++ stack) seen

/-- Tries every start from `start` on, `n` of them. A place is entered once and leads to at most
two others. -/
def runFrom (program : Array Inst) (data : Array UInt8) :
    Nat → Nat → Std.HashSet Nat → Option (Nat × Nat)
  | 0, _, _ => none
  | n + 1, start, seen =>
    match run program data (2 * (program.size * (data.size + 1)) + 2) [⟨0, start⟩] seen with
    | (some stop, _) => some (start, stop)
    | (none, seen) => runFrom program data n (start + 1) seen

/-! ## Bounds -/

/-- The place lies between a start and the end of the data. -/
def Place.Inside (data : Array UInt8) (start : Nat) (p : Place) : Prop :=
  start ≤ p.position ∧ p.position ≤ data.size

section Bounds

variable {program : Array Inst} {data : Array UInt8} {start : Nat} {p : Place}

theorem le_length_of_charAt? {s : Bytes} {c : Char} {size : Nat}
    (h : charAt? s = some (c, size)) : size ≤ s.length := by
  cases s with
  | nil => cases h
  | cons b s =>
    simp only [charAt?] at h
    split at h
    · obtain ⟨-, rfl⟩ := Prod.mk.inj (Option.some.inj h)
      exact Nat.sub_le _ _
    · cases h

theorem inside_of_next {inst : Inst} {places : List Place} (hp : p.Inside data start)
    (h : inst.next data p = some places) : ∀ q ∈ places, q.Inside data start := by
  obtain ⟨hstart, hend⟩ := hp
  cases inst with
  | char set =>
    simp only [Inst.next] at h
    split at h
    · rename_i c size hc
      have hsize := le_length_of_charAt? hc
      simp only [Array.length_toList, Array.size_extract] at hsize
      cases Option.some.inj h
      split
      · rw [List.forall_mem_singleton]
        exact ⟨Nat.le_add_right_of_le hstart, by show p.position + size ≤ data.size; omega⟩
      · simp
    · cases h
      simp
  | byte set =>
    simp only [Inst.next] at h
    split at h
    · rename_i b hb
      have hlt := (Array.getElem?_eq_some_iff.1 hb).1
      cases Option.some.inj h
      split
      · rw [List.forall_mem_singleton]
        exact ⟨Nat.le_succ_of_le hstart, hlt⟩
      · simp
    · cases h
      simp
  | look a =>
    cases Option.some.inj h
    split <;> simp [Place.Inside, hstart, hend]
  | fork first second =>
    cases Option.some.inj h
    simp [Place.Inside, hstart, hend]
  | jump target =>
    cases Option.some.inj h
    simp [Place.Inside, hstart, hend]
  | accept => cases h

/-- A run that begins inside the data ends inside of it. -/
theorem inside_of_run {fuel : Nat} {stack : List Place} {seen : Std.HashSet Nat} {stop : Nat}
    (hstack : ∀ p ∈ stack, p.Inside data start)
    (h : (run program data fuel stack seen).1 = some stop) :
    start ≤ stop ∧ stop ≤ data.size := by
  induction fuel generalizing stack seen with
  | zero => cases h
  | succ fuel ih =>
    cases stack with
    | nil => cases h
    | cons p stack =>
      rw [List.forall_mem_cons] at hstack
      simp only [run] at h
      split at h
      · exact ih hstack.2 h
      · split at h
        · exact ih hstack.2 h
        · split at h
          · cases Option.some.inj h
            exact hstack.1
          · rename_i places hplaces
            refine ih (fun q hq => ?_) h
            rcases List.mem_append.1 hq with hq | hq
            · exact inside_of_next hstack.1 hplaces q hq
            · exact hstack.2 q hq

theorem inside_of_runFrom {n first stop : Nat} {seen : Std.HashSet Nat}
    (hn : start + n ≤ data.size + 1)
    (h : runFrom program data n start seen = some (first, stop)) :
    first ≤ stop ∧ stop ≤ data.size := by
  induction n generalizing start seen with
  | zero => cases h
  | succ n ih =>
    simp only [runFrom] at h
    split at h
    · rename_i hrun
      have hfirst : ∀ p ∈ [(⟨0, start⟩ : Place)], p.Inside data start := fun p hp => by
        rw [List.mem_singleton.1 hp]
        exact ⟨Nat.le_refl start, by show start ≤ data.size; omega⟩
      cases Option.some.inj h
      exact inside_of_run hfirst (congrArg Prod.fst hrun)
    · exact ih (by omega) h

end Bounds

/-! ## The engine -/

/-- The pattern that a program searches for. -/
def ofProgram (program : Array Inst) : Pattern where
  find? data :=
    match h : runFrom program data.toArray (data.length + 1) 0 ∅ with
    | some (start, stop) =>
      have hinside := inside_of_runFrom (by simp) h
      some ⟨start, stop, hinside.1, by simpa using hinside.2⟩
    | none => none

/-- Compiles what `read?` reads; of the Unicode properties it knows those of `namedProperty?`. -/
instance (priority := low) searching : Engine where
  compile? ignoreCase text := (read? ignoreCase text.toList).map fun e => ofProgram e.program

end Pattern

end HostSurvey
