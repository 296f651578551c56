import HostSurvey.Text.CaseFold
import HostSurvey.Text.Digit
import HostSurvey.Text.Letter

/-!
# Sets of characters

A set of code points is the list of its runs, from first to last, in ascending
order and with gaps between them, so that equal sets have equal lists. The same
lists describe sets of bytes, where the code points stop at 255.
-/

namespace HostSurvey.Pattern

open Text

structure CharSet where
  runs : List (Nat × Nat)
  deriving DecidableEq, Repr

namespace CharSet

def mem (s : CharSet) (n : Nat) : Bool := s.runs.any fun r => r.1 ≤ n && n ≤ r.2

def empty : CharSet := ⟨[]⟩

/-- The runs with one more run put in, joined with those that it touches. -/
def addRun (low high : Nat) : List (Nat × Nat) → List (Nat × Nat)
  | [] => [(low, high)]
  | (a, b) :: rest =>
    if high + 1 < a then (low, high) :: (a, b) :: rest
    else if b + 1 < low then (a, b) :: addRun low high rest
    else addRun (min low a) (max high b) rest

def add (s : CharSet) (low high : Nat) : CharSet := ⟨addRun low high s.runs⟩

def range (low high : Nat) : CharSet := ⟨[(low, high)]⟩

def single (n : Nat) : CharSet := range n n

def ofRuns (l : List (Nat × Nat)) : CharSet := l.foldl (fun s r => s.add r.1 r.2) empty

def union (a b : CharSet) : CharSet := b.runs.foldl (fun s r => s.add r.1 r.2) a

/-- What lies between the runs from `next` up to `top`. -/
def gaps (top : Nat) : Nat → List (Nat × Nat) → List (Nat × Nat)
  | next, [] => if next ≤ top then [(next, top)] else []
  | next, (a, b) :: rest =>
    if next < a then (next, a - 1) :: gaps top (b + 1) rest else gaps top (b + 1) rest

/-- The code points up to `top` that are not in the set. -/
def compl (top : Nat) (s : CharSet) : CharSet := ⟨gaps top 0 s.runs⟩

def diff (top : Nat) (a b : CharSet) : CharSet := compl top (union (compl top a) b)

def inter (top : Nat) (a b : CharSet) : CharSet := diff top a (compl top b)

def symmDiff (top : Nat) (a b : CharSet) : CharSet := diff top (union a b) (inter top a b)

/-- Closed under simple case folding: with a member, all that fold alike. -/
def anyCase (s : CharSet) : CharSet :=
  let folded := foldPairs.foldl (fun t p => if s.mem p.1 then t.add p.2 p.2 else t) s
  foldPairs.foldl (fun t p => if folded.mem p.2 then t.add p.1 p.1 else t) folded

/-- Closed under the case of ASCII letters. -/
def anyAsciiCase (s : CharSet) : CharSet :=
  (List.range 26).foldl
    (fun t k =>
      if s.mem (65 + k) || s.mem (97 + k) then (t.add (65 + k) (65 + k)).add (97 + k) (97 + k)
      else t)
    s

/-- Whether all members are below 128. -/
def isAscii (s : CharSet) : Bool := s.runs.all fun r => r.2 < 128

end CharSet

/-! ## Properties -/

/-- The Unicode properties a pattern can name. -/
inductive Property where
  | letter
  | capital
  | small
  | number
  | digit
  | blank
  | word
  deriving DecidableEq, Repr

/-- The members of runs whose members are a fixed distance apart. -/
def ofSpacedRuns (l : List (Nat × Nat × Nat)) : CharSet :=
  .ofRuns <| l.flatMap fun r =>
    if r.2.2 = 1 then [(r.1, r.2.1)]
    else (List.range ((r.2.1 - r.1) / r.2.2 + 1)).map fun k =>
      (r.1 + k * r.2.2, r.1 + k * r.2.2)

def capitals : CharSet := ofSpacedRuns capitalRuns

def smalls : CharSet := ofSpacedRuns smallRuns

def digits : CharSet := .ofRuns (digitZeros.map fun first => (first, first + 9))

def blanks : CharSet :=
  ⟨[(0x09, 0x0D), (0x20, 0x20), (0x85, 0x85), (0xA0, 0xA0), (0x1680, 0x1680), (0x2000, 0x200A),
    (0x2028, 0x2029), (0x202F, 0x202F), (0x205F, 0x205F), (0x3000, 0x3000)]⟩

def Property.set : Property → CharSet
  | .letter => ⟨letterRuns⟩
  | .capital => capitals
  | .small => smalls
  | .number => ⟨numberRuns⟩
  | .digit => digits
  | .blank => blanks
  | .word => ⟨wordRuns⟩

end HostSurvey.Pattern
