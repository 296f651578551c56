/-!
# Cursors

Three marks into a payload. They are signed, since a mark can be set before the
first byte; arithmetic on them stops at the ends of the 64-bit range.
-/

namespace HostSurvey

/-- The nearest number in the signed 64-bit range. -/
def saturate (n : Int) : Int :=
  max (-9223372036854775808) (min n 9223372036854775807)

inductive Mark where
  | start
  | main
  | stop
  deriving DecidableEq, Repr, Inhabited

structure Cursor where
  start : Int := 0
  main : Int := 0
  stop : Int := 0
  deriving DecidableEq, Repr, Inhabited

namespace Cursor

/-- All marks at the first byte. -/
def origin : Cursor := {}

/-- Puts all marks back to the first byte. -/
def reset (_ : Cursor) : Cursor := origin

def get (c : Cursor) : Mark → Int
  | .start => c.start
  | .main => c.main
  | .stop => c.stop

def set (c : Cursor) (m : Mark) (offset : Int) : Cursor :=
  match m with
  | .start => { c with start := offset }
  | .main => { c with main := offset }
  | .stop => { c with stop := offset }

/-- Moves the main mark. -/
def forward (c : Cursor) (distance : Int) : Cursor :=
  { c with main := saturate (c.main + distance) }

/-- `offset` itself, or counted from the main mark. -/
def place (c : Cursor) (offset : Int) (relative : Bool) : Int :=
  if relative then saturate (c.main + offset) else offset

end Cursor

end HostSurvey
