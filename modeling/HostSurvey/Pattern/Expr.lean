import HostSurvey.Pattern.CharSet
import HostSurvey.Text.Utf8

/-!
# Pattern expressions

What a pattern says once its flags are resolved: every set already ignores
case where it should, and every part knows whether it is about characters or
about single bytes.

Expressions are built by `ofSet`, `ofByteSet`, `concat`, `choice` and `repeated`,
which bring them into a simple form: literals that meet are joined, sequences
and choices do not stand directly in one another, alternatives that are sets are
one set, and what all alternatives start with is said once.
-/

namespace HostSurvey.Pattern

open Text

/-- Conditions on a position that consume nothing. `lineEnd` and `lineStart` are for lines ended
by a line feed, the `Crlf` forms for lines ended by either or both of carriage return and line
feed. The `Half` forms look at one side alone. -/
inductive Assertion where
  | textStart
  | textEnd
  | lineStart
  | lineEnd
  | lineStartCrlf
  | lineEndCrlf
  | wordBoundary (unicode : Bool)
  | notWordBoundary (unicode : Bool)
  | wordStart (unicode : Bool)
  | wordEnd (unicode : Bool)
  | wordStartHalf (unicode : Bool)
  | wordEndHalf (unicode : Bool)
  deriving DecidableEq, Repr

inductive Expr where
  | empty
  /-- Some bytes, one behind the other. -/
  | literal (bytes : Bytes)
  /-- One encoded character of the set. -/
  | char (set : CharSet)
  /-- One byte of the set. -/
  | byte (set : CharSet)
  | look (a : Assertion)
  /-- A group whose bounds are kept under a number. -/
  | group (number : Nat) (e : Expr)
  | seq (a b : Expr)
  | alt (a b : Expr)
  /-- From `min` to `max` times; greedy takes as many as it can, otherwise as few. -/
  | times (e : Expr) (min : Nat) (max : Option Nat) (greedy : Bool)
  deriving DecidableEq, Repr

namespace Expr

/-! ## Lengths -/

/-- The least number of characters or bytes in a match, `none` where nothing can match. -/
def minLength : Expr → Option Nat
  | empty => some 0
  | literal bytes => some bytes.length
  | char set => if set = .empty then none else some 1
  | byte set => if set = .empty then none else some 1
  | look _ => some 0
  | group _ e => e.minLength
  | seq a b => a.minLength.bind fun m => b.minLength.map fun n => m + n
  | alt a b => a.minLength.bind fun m => b.minLength.map fun n => Nat.min m n
  | times e min _ _ => e.minLength.map fun m => min * m

/-- Whether every match is known to be empty. -/
def takesNothing : Expr → Bool
  | empty => true
  | literal bytes => bytes.isEmpty
  | char _ => false
  | byte _ => false
  | look _ => true
  | group _ e => e.takesNothing
  | seq a b => a.takesNothing && b.takesNothing
  | alt a b => a.takesNothing && b.takesNothing
  | times e _ max _ => max.isSome && e.takesNothing

/-- Whether a match has to take something. -/
def takesSome (e : Expr) : Bool := e.minLength.any fun n => 0 < n

/-- Whether a match has to start where the text does. -/
def startsText : Expr → Bool
  | look a => a == .textStart
  | group _ e => e.startsText
  | seq a b => a.startsText || (a.takesNothing && b.startsText)
  | alt a b => a.startsText && b.startsText
  | times e min _ _ => 0 < min && e.startsText
  | _ => false

/-- Whether a match has to end where the text does. -/
def endsText : Expr → Bool
  | look a => a == .textEnd
  | group _ e => e.endsText
  | seq a b => b.endsText || (b.takesNothing && a.endsText)
  | alt a b => a.endsText && b.endsText
  | times e min _ _ => 0 < min && e.endsText
  | _ => false

/-! ## Sets -/

/-- One character of a set; a set with one member is a literal. -/
def ofSet (set : CharSet) : Expr :=
  match set.runs with
  | [(a, b)] => if a = b then literal (Utf8.encodeChar (Char.ofNat a)) else char set
  | _ => char set

/-- One byte of a set. -/
def ofByteSet (set : CharSet) : Expr :=
  match set.runs with
  | [(a, b)] => if a = b then literal [a.toUInt8] else byte set
  | _ => byte set

/-! ## Sequences -/

/-- The parts of a sequence. -/
def parts : Expr → List Expr
  | empty => []
  | seq a b => a.parts ++ b.parts
  | e => [e]

def joinLiterals : List Expr → List Expr
  | [] => []
  | literal a :: rest =>
    match joinLiterals rest with
    | literal b :: more => literal (a ++ b) :: more
    | more => literal a :: more
  | e :: rest => e :: joinLiterals rest

def chain : List Expr → Expr
  | [] => empty
  | [e] => e
  | e :: es => seq e (chain es)

def concat (es : List Expr) : Expr := chain (joinLiterals (es.flatMap parts))

/-! ## Choices -/

/-- The alternatives of a choice. -/
def branches : Expr → List Expr
  | alt a b => a.branches ++ b.branches
  | e => [e]

def alternatives : List Expr → Expr
  | [] => empty
  | [e] => e
  | e :: es => alt e (alternatives es)

/-- The character that a literal consists of. -/
def character? : Expr → Option CharSet
  | literal bytes =>
    match Utf8.decode bytes with
    | some [c] => some (.single c.toNat)
    | _ => none
  | _ => none

/-- The byte that a literal consists of. -/
def singleByte? : Expr → Option CharSet
  | literal [b] => some (.single b.toNat)
  | _ => none

def charSet? : Expr → Option CharSet
  | char set => some set
  | byte set => if set.isAscii then some set else none
  | _ => none

def byteSet? : Expr → Option CharSet
  | byte set => some set
  | char set => if set.isAscii then some set else none
  | _ => none

/-- The union of sets, if each of the expressions is one. -/
def unionOf? (set? : Expr → Option CharSet) (es : List Expr) : Option CharSet :=
  (es.mapM set?).map fun sets => sets.foldl .union .empty

/-- Alternatives that are sets, or literals of one character or byte, as one set. -/
def merged? (es : List Expr) : Option Expr :=
  ((unionOf? character? es).map ofSet).or <| ((unionOf? singleByte? es).map ofByteSet).or <|
    ((unionOf? charSet? es).map ofSet).or <| (unionOf? byteSet? es).map ofByteSet

def anyOf (es : List Expr) : Expr :=
  match es.flatMap branches with
  | [e] => e
  | es => (merged? es).getD (alternatives es)

def isSeq : Expr → Bool
  | seq _ _ => true
  | _ => false

/-- What two lists of parts both start with. -/
def shared : List Expr → List Expr → List Expr
  | a :: as, b :: bs => if a = b then a :: shared as bs else []
  | _, _ => []

/-- The parts that all of some sequences start with. -/
def sharedStart : List Expr → List Expr
  | e :: es =>
    if !es.isEmpty && (e :: es).all isSeq then es.foldl (fun l e => shared l e.parts) e.parts
    else []
  | [] => []

/-- A choice, the earlier alternatives preferred. -/
def choice (es : List Expr) : Expr :=
  let es := es.flatMap branches
  match sharedStart es with
  | [] => anyOf es
  | start => concat (start ++ [anyOf (es.map fun e => concat (e.parts.drop start.length))])

/-! ## Repetitions -/

/-- A repetition. What takes nothing is not worth a second round. -/
def repeated (e : Expr) (min : Nat) (max : Option Nat) (greedy : Bool) : Expr :=
  let (min, max) :=
    if e.takesNothing then (Nat.min min 1, some (Nat.min (max.getD 1) 1)) else (min, max)
  match min, max with
  | 0, some 0 => empty
  | 1, some 1 => e
  | min, max => times e min max greedy

end Expr

end HostSurvey.Pattern
