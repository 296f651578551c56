import HostSurvey.Pattern.Expr

/-!
# Pattern programs

An expression is laid out as a list of instructions that fall through to the
next one. `code e at` is the layout of `e` from address `at` on; it ends at the
address behind its last instruction, which is `e.size` addresses on. Of the two
ways of a fork the first one is preferred.
-/

namespace HostSurvey.Pattern

inductive Inst where
  | char (set : CharSet)
  | byte (set : CharSet)
  | look (a : Assertion)
  | fork (first second : Nat)
  | jump (target : Nat)
  | accept
  deriving Repr

/-- A fork that prefers to go on with a repetition when it is greedy, to leave it otherwise. -/
def Inst.decide (greedy : Bool) (goOn leave : Nat) : Inst :=
  if greedy then .fork goOn leave else .fork leave goOn

/-- The number of instructions of an expression. -/
def Expr.size : Expr → Nat
  | .empty => 0
  | .literal bytes => bytes.length
  | .char _ => 1
  | .byte _ => 1
  | .look _ => 1
  | .group _ e => e.size
  | .seq a b => a.size + b.size
  | .alt a b => a.size + b.size + 2
  | .times e min (some max) _ => min * e.size + (max - min) * (e.size + 1)
  | .times e 0 none _ => e.size + 2
  | .times e (n + 1) none _ => n * e.size + e.size + 1

/-- `n` copies of `size` instructions laid out one behind the other. -/
def copies (layout : Nat → List Inst) (size n start : Nat) : List Inst :=
  (List.range n).flatMap fun i => layout (start + i * size)

/-- Up to `n` optional copies, each behind the one before it; leaving any of them leaves all. -/
def options (greedy : Bool) (layout : Nat → List Inst) (size n start : Nat) : List Inst :=
  (List.range n).flatMap fun i =>
    .decide greedy (start + i * (size + 1) + 1) (start + n * (size + 1)) ::
      layout (start + i * (size + 1) + 1)

/-- A copy that is repeated as long as it goes on matching. -/
def loop (greedy : Bool) (layout : Nat → List Inst) (size start : Nat) : List Inst :=
  layout start ++ [.decide greedy start (start + size + 1)]

/-- What is repeated any number of times. A part that can match nothing is tried once before the
loop decides, so that an empty round is preferred where the part prefers it. -/
def star (greedy takesSome : Bool) (layout : Nat → List Inst) (size start : Nat) : List Inst :=
  .decide greedy (start + 1) (start + size + 2) ::
    if takesSome then layout (start + 1) ++ [.jump start]
    else loop greedy layout size (start + 1)

def code : Expr → Nat → List Inst
  | .empty, _ => []
  | .literal bytes, _ => bytes.map fun b => .byte (.single b.toNat)
  | .char set, _ => [.char set]
  | .byte set, _ => [.byte set]
  | .look a, _ => [.look a]
  | .group _ e, start => code e start
  | .seq a b, start => code a start ++ code b (start + a.size)
  | .alt a b, start =>
    .fork (start + 1) (start + a.size + 2) :: code a (start + 1) ++
      .jump (start + a.size + b.size + 2) :: code b (start + a.size + 2)
  | .times e min (some max) greedy, start =>
    copies (code e) e.size min start ++
      options greedy (code e) e.size (max - min) (start + min * e.size)
  | .times e 0 none greedy, start => star greedy e.takesSome (code e) e.size start
  | .times e (n + 1) none greedy, start =>
    copies (code e) e.size n start ++ loop greedy (code e) e.size (start + n * e.size)

/-- The program of an expression, from address zero, accepting at its end. -/
def Expr.program (e : Expr) : Array Inst := (code e 0 ++ [Inst.accept]).toArray

end HostSurvey.Pattern
