import HostSurvey.Text.Utf8

/-!
# Reading captured bytes

Captures are often cut short, so every read is clamped to the bytes that are
there: what lies outside gives a shorter or an empty answer. `window` is the
part of `[offset, offset + length)` inside the data, and every other read goes
through it or through `extract`.
-/

namespace HostSurvey

/-- The order of the bytes of a number, most significant first or last. -/
inductive Endian where
  | big
  | little
  deriving DecidableEq, Repr, Inhabited

/-- Bytes in the order `big` from bytes in the order `e`, and back. -/
def Endian.arrange (e : Endian) (s : Bytes) : Bytes :=
  match e with
  | .big => s
  | .little => s.reverse

namespace Bytes

/-- The bytes of `[offset, offset + length)`. -/
def window (data : Bytes) (offset : Int) (length : Nat) : Bytes :=
  if offset < 0 then [] else (data.drop offset.toNat).take length

def byte? (data : Bytes) (offset : Int) : Option UInt8 := (data.window offset 1).head?

/-- The last address, -1 without bytes. -/
def lastAddress (data : Bytes) : Int := data.length - 1

/-- The number whose digits to the base 256 are `s`, most significant first. -/
def value (s : Bytes) : Nat := s.foldl (fun n b => n * 256 + b.toNat) 0

/-- The number in up to four bytes at `offset`. -/
def number (data : Bytes) (offset : Int) (length : Nat) (e : Endian) : Nat :=
  value (e.arrange (data.window offset (min length 4)))

/-- The text in a window, with U+FFFD for what is no UTF-8. -/
def text (data : Bytes) (offset : Int) (length : Nat) : String :=
  String.ofList (Text.Utf8.lossy (data.window offset length))

/-- The index of the first occurrence of `pat`. -/
def indexOf? (pat : Bytes) : Bytes → Option Nat
  | [] => if pat.isEmpty then some 0 else none
  | b :: s => if pat.isPrefixOf (b :: s) then some 0 else (indexOf? pat s).map (· + 1)

/-- The address of the first occurrence of a nonempty `pat` inside a window. -/
def find? (data pat : Bytes) (offset : Int) (length : Nat) : Option Nat :=
  if pat.isEmpty then none
  else (indexOf? pat (data.window offset length)).map (· + offset.toNat)

/-- Whether four bytes stand at `offset` and make up `n`. -/
def holdsNumber (data : Bytes) (offset : Int) (n : Nat) : Bool :=
  (data.window offset 4).length == 4 && data.number offset 4 .big == n

/-- At most `length` bytes from the lower of two bounds up to the higher one. `start` has to lie
inside the data, `stop` may also be its end. -/
def extract (data : Bytes) (start stop : Int) (length : Nat) : Bytes :=
  if 0 ≤ start ∧ start < data.length ∧ 0 ≤ stop ∧ stop ≤ data.length then
    let low := min start stop
    let high := max start stop
    (data.drop low.toNat).take (min length (high - low).toNat)
  else []

theorem length_window_le (data : Bytes) (offset : Int) (length : Nat) :
    (data.window offset length).length ≤ length := by
  simp only [window]
  split
  · simp
  · simp only [List.length_take]
    omega

theorem length_window_le_remaining (data : Bytes) (offset : Int) (length : Nat) :
    (data.window offset length).length ≤ data.length - offset.toNat := by
  simp only [window]
  split
  · simp
  · simp only [List.length_take, List.length_drop]
    omega

/-- A number fits the bits of its bytes. -/
theorem value_lt (s : Bytes) : value s < 1 <<< (8 * s.length) := by
  suffices h : ∀ n, s.foldl (fun n b => n * 256 + b.toNat) n < (n + 1) <<< (8 * s.length) by
    simpa [value] using h 0
  intro n
  induction s generalizing n with
  | nil => simp
  | cons b s ih =>
    have hb : b.toNat < 256 := b.toNat_lt
    have step : n * 256 + b.toNat + 1 ≤ (n + 1) <<< 8 := by omega
    have split : 8 * (b :: s).length = 8 + 8 * s.length := by rw [List.length_cons]; omega
    rw [split, Nat.shiftLeft_add]
    refine Nat.lt_of_lt_of_le (ih _) ?_
    rw [Nat.shiftLeft_eq _ (8 * s.length), Nat.shiftLeft_eq _ (8 * s.length)]
    exact Nat.mul_le_mul_right _ step

end Bytes

end HostSurvey
