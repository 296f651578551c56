import HostSurvey.Pattern.Expr
import HostSurvey.Text.Blank

/-!
# Pattern flags

Flags hold from where they are set to the end of their group. With the flag
`x`, blanks and comments between tokens are passed over: `Flags.skip` passes
over them, `Flags.collect` reads a run of characters that may have them in
between.
-/

namespace HostSurvey.Pattern

open Text

structure Flags where
  ignoreCase : Bool := false
  multiLine : Bool := false
  dotAll : Bool := false
  swapGreed : Bool := false
  unicode : Bool := true
  crlf : Bool := false
  verbose : Bool := false
  deriving DecidableEq, Repr

/-- What follows blanks and comments, in a verbose pattern. -/
def dropComments : List Char → List Char
  | [] => []
  | c :: s =>
    if isBlank c then dropComments s
    else if c = '#' then dropComments ((s.dropWhile (· ≠ '\n')).drop 1)
    else c :: s
termination_by s => s.length
decreasing_by
  · simp
  · have h1 : (s.dropWhile (· ≠ '\n')).length ≤ s.length := (List.dropWhile_sublist _).length_le
    simp only [List.length_cons, List.length_drop]
    omega

theorem length_dropComments_le (s : List Char) : (dropComments s).length ≤ s.length := by
  fun_induction dropComments s with
  | case1 => exact Nat.le_refl _
  | case2 c s h ih => exact Nat.le_succ_of_le ih
  | case3 s h ih =>
    have h1 : (s.dropWhile (· ≠ '\n')).length ≤ s.length := (List.dropWhile_sublist _).length_le
    simp only [List.length_drop, List.length_cons] at ih ⊢
    omega
  | case4 c s => exact Nat.le_refl _

namespace Flags

def skip (f : Flags) (s : List Char) : List Char := if f.verbose then dropComments s else s

theorem length_skip_le (f : Flags) (s : List Char) : (f.skip s).length ≤ s.length := by
  unfold skip
  split
  · exact length_dropComments_le s
  · exact Nat.le_refl _

/-- The longest run of characters that pass `p`, blanks and comments left out, and what follows. -/
def collect (f : Flags) (p : Char → Bool) : List Char → List Char × List Char
  | [] => ([], [])
  | c :: s =>
    if p c then
      let (cs, rest) := f.collect p (f.skip s)
      (c :: cs, rest)
    else ([], c :: s)
termination_by s => s.length
decreasing_by exact Nat.lt_succ_of_le (f.length_skip_le s)

/-- The character that decides what a hyphen in a set means: the next one behind it. A verbose
pattern passes over blanks and one comment sign, but not over the comment behind that sign. -/
def peek (f : Flags) (s : List Char) : Option Char :=
  if f.verbose then
    match s.dropWhile isBlank with
    | '#' :: rest => (rest.dropWhile isBlank).head?.or s.head?
    | rest => rest.head?.or s.head?
  else s.head?

/-- One flag set or cleared; `none` for an unknown letter. -/
def set? (f : Flags) (value : Bool) : Char → Option Flags
  | 'i' => some { f with ignoreCase := value }
  | 'm' => some { f with multiLine := value }
  | 's' => some { f with dotAll := value }
  | 'U' => some { f with swapGreed := value }
  | 'u' => some { f with unicode := value }
  | 'R' => some { f with crlf := value }
  | 'x' => some { f with verbose := value }
  | _ => none

/-- Flags up to the `:` or `)` that ends them, whether there are none, and what ended them. No
letter may come twice, at most one `-` turns the rest off, and something has to follow it. -/
def read (f : Flags) (seen : List Char) (value : Bool) :
    List Char → Option (Flags × Bool × Char × List Char)
  | [] => none
  | c :: s =>
    if c = ':' ∨ c = ')' then
      if seen.head? = some '-' then none else some (f, seen.isEmpty, c, s)
    else if c ∈ seen then none
    else if c = '-' then f.read (c :: seen) false s
    else (f.set? value c).bind fun f => f.read (c :: seen) value s

/-! ## What the flags make of sets and literals -/

/-- The last number that a set can hold, of a character or of a byte. -/
def top (f : Flags) : Nat := if f.unicode then 0x10FFFF else 255

def compl (f : Flags) (set : CharSet) : CharSet := set.compl f.top

/-- The set with case ignored if the flags say so, then complemented if asked. -/
def close (f : Flags) (negated : Bool) (set : CharSet) : CharSet :=
  let set := if f.ignoreCase then (if f.unicode then set.anyCase else set.anyAsciiCase) else set
  if negated then f.compl set else set

/-- One character of the set in Unicode mode, one byte otherwise. -/
def one (f : Flags) (set : CharSet) : Expr := if f.unicode then .ofSet set else .ofByteSet set

/-- A literal, either case of it if case is ignored. Outside Unicode mode only ASCII letters have
two cases, and a character beyond ASCII stands for its encoding. -/
def literal (f : Flags) (c : Char) (byte : Bool) : Expr :=
  if !f.unicode && byte && 128 ≤ c.toNat then .literal [c.toNat.toUInt8]
  else if f.ignoreCase && (f.unicode || c.toNat < 128) then
    f.one (f.close false (.single c.toNat))
  else .literal (Utf8.encodeChar c)

/-- Any one character or byte, but for line ends unless the flags include them. -/
def dot (f : Flags) : Expr :=
  f.one <| f.compl <|
    if f.dotAll then .empty
    else if f.crlf then .ofRuns [(10, 10), (13, 13)]
    else .single 10

def lineStart (f : Flags) : Assertion :=
  if f.multiLine then (if f.crlf then .lineStartCrlf else .lineStart) else .textStart

def lineEnd (f : Flags) : Assertion :=
  if f.multiLine then (if f.crlf then .lineEndCrlf else .lineEnd) else .textEnd

end Flags

end HostSurvey.Pattern
