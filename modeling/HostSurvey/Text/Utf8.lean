/-!
# UTF-8

`next` reads one character from a byte and the bytes behind it; a broken part
ends where no well-formed character could go on. `lossy` puts U+FFFD for each
broken part, and `encode` writes characters as bytes.
-/

namespace HostSurvey

abbrev Bytes := List UInt8

namespace Text.Utf8

/-- The `n` continuation bytes of a character begun with the value `acc`; the first of them lies
between `lo` and `hi`. Without them, what is left from the first byte that does not fit. -/
def follow : Nat → UInt8 → UInt8 → Nat → Bytes → Option Char × Bytes
  | 0, _, _, acc, s => (some (Char.ofNat acc), s)
  | _ + 1, _, _, _, [] => (none, [])
  | n + 1, lo, hi, acc, b :: s =>
    if lo ≤ b ∧ b ≤ hi then follow n 0x80 0xBF (acc * 64 + b.toNat % 64) s else (none, b :: s)

/-- The character that `b` and the bytes behind it spell, `none` for a broken part, and the bytes
after it. -/
def next (b : UInt8) (s : Bytes) : Option Char × Bytes :=
  if b < 0x80 then (some (Char.ofNat b.toNat), s)
  else if 0xC2 ≤ b ∧ b ≤ 0xDF then follow 1 0x80 0xBF (b.toNat % 32) s
  else if b = 0xE0 then follow 2 0xA0 0xBF 0 s
  else if b = 0xED then follow 2 0x80 0x9F 13 s
  else if 0xE1 ≤ b ∧ b ≤ 0xEF then follow 2 0x80 0xBF (b.toNat % 16) s
  else if b = 0xF0 then follow 3 0x90 0xBF 0 s
  else if 0xF1 ≤ b ∧ b ≤ 0xF3 then follow 3 0x80 0xBF (b.toNat % 8) s
  else if b = 0xF4 then follow 3 0x80 0x8F 4 s
  else (none, s)

theorem length_follow_le (n : Nat) (lo hi : UInt8) (acc : Nat) (s : Bytes) :
    (follow n lo hi acc s).2.length ≤ s.length := by
  induction n generalizing lo hi acc s with
  | zero => simp [follow]
  | succ n ih =>
    cases s with
    | nil => simp [follow]
    | cons b s =>
      simp only [follow]
      split
      · exact Nat.le_trans (ih ..) (by simp)
      · simp

theorem length_next_le (b : UInt8) (s : Bytes) : (next b s).2.length ≤ s.length := by
  unfold next
  repeat' split
  all_goals first
    | exact Nat.le_refl _
    | exact length_follow_le ..

/-- The characters of `s`, with U+FFFD for each broken part. -/
def lossy : Bytes → List Char
  | [] => []
  | b :: s => (next b s).1.getD '\uFFFD' :: lossy (next b s).2
termination_by s => s.length
decreasing_by exact Nat.lt_succ_of_le (length_next_le b s)

/-- The bytes of a well-formed text, `none` when some part is broken. -/
def decode : Bytes → Option (List Char)
  | [] => some []
  | b :: s =>
    match (next b s).1 with
    | none => none
    | some c => (decode (next b s).2).map (c :: ·)
termination_by s => s.length
decreasing_by exact Nat.lt_succ_of_le (length_next_le b s)

def encodeChar (c : Char) : Bytes :=
  let n := c.toNat
  if n < 0x80 then [n.toUInt8]
  else if n < 0x800 then [(0xC0 + n / 64).toUInt8, (0x80 + n % 64).toUInt8]
  else if n < 0x10000 then
    [(0xE0 + n / 4096).toUInt8, (0x80 + n / 64 % 64).toUInt8, (0x80 + n % 64).toUInt8]
  else
    [(0xF0 + n / 262144).toUInt8, (0x80 + n / 4096 % 64).toUInt8, (0x80 + n / 64 % 64).toUInt8,
      (0x80 + n % 64).toUInt8]

def encode (s : List Char) : Bytes := s.flatMap encodeChar

end Text.Utf8

end HostSurvey
