import HostSurvey.Proofs.ByteOrder
import HostSurvey.Proofs.MachineWords
import Mathlib.Data.Nat.Digits.Lemmas

/-!
# Numbers in the bytes that are there

A number is read from as many of its bytes as lie inside the data, four at most
(`available`). These bytes are its digits to the base 256 in the order that is
asked for, so that the number fits them and they are found again from it. A
machine collects it in a word of 32 bits by shifts, which drop what leaves the
word at its high end; nothing does.
-/

namespace HostSurvey

open Rule

/-- The bytes as digits to the base 256, least significant first. -/
def Endian.digits (e : Endian) (s : Bytes) : List Nat :=
  match e with
  | .big => s.reverse.map UInt8.toNat
  | .little => s.map UInt8.toNat

namespace Bytes

theorem lowFirst_eq_ofDigits (s : Bytes) : lowFirst s = Nat.ofDigits 256 (s.map UInt8.toNat) := by
  induction s with
  | nil => rfl
  | cons b s ih => rw [lowFirst, ih, List.map_cons, Nat.ofDigits_cons]

theorem value_arrange_eq_ofDigits (e : Endian) (s : Bytes) :
    value (e.arrange s) = Nat.ofDigits 256 (e.digits s) := by
  cases e with
  | big =>
    have hreverse := value_reverse s.reverse
    rw [List.reverse_reverse, lowFirst_eq_ofDigits] at hreverse
    exact hreverse
  | little => exact (value_reverse s).trans (lowFirst_eq_ofDigits s)

theorem arrange_arrange (e : Endian) (s : Bytes) : e.arrange (e.arrange s) = s := by
  cases e with
  | big => rfl
  | little => exact List.reverse_reverse s

/-! ## The bytes of a number -/

/-- How many bytes of a number of `length` bytes lie inside the data. -/
def available (data : Bytes) (offset : Int) (length : Nat) : Nat :=
  if 0 ≤ offset then min (min length 4) (data.length - offset.toNat) else 0

/-- The bytes that a number is read from. -/
def held (data : Bytes) (offset : Int) (length : Nat) : Bytes :=
  (data.drop offset.toNat).take (data.available offset length)

variable (data : Bytes) (offset : Int) (length : Nat)

theorem length_held : (data.held offset length).length = data.available offset length := by
  rw [held, List.length_take, List.length_drop, available]
  split <;> omega

theorem window_eq_held : data.window offset (min length 4) = data.held offset length := by
  rw [window, held, available]
  split
  · rw [if_neg (by omega), List.take_zero]
  · rw [if_pos (by omega), List.take_eq_take_iff, List.length_drop]
    omega

theorem number_eq_value (e : Endian) :
    data.number offset length e = value (e.arrange (data.held offset length)) := by
  rw [number, window_eq_held]

theorem available_of_outside (h : offset < 0 ∨ data.length ≤ offset) :
    data.available offset length = 0 := by
  rw [available]
  split <;> omega

end Bytes

namespace Machine

/-- Collects bytes in a word, which drops what it shifts out. -/
def shiftIn (s : Bytes) : UInt32 := s.foldl (fun n b => n <<< 8 ||| b.toUInt32) 0

/-- Reads a number of up to four bytes into a word. -/
def numberWord (data : Bytes) (offset : Int) (length : Nat) (e : Endian) : Checked UInt32 := do
  let bytes ← window data offset (min length 4)
  return shiftIn (e.arrange bytes)

/-- A shift by a byte multiplies by 256 what stays in the word, and leaves room for the byte. -/
theorem toNat_shift_or (n : UInt32) (b : UInt8) :
    (n <<< 8 ||| b.toUInt32).toNat = (n.toNat * 256 + b.toNat) % 4294967296 := by
  have hb : b.toNat < 2 ^ 8 := b.toNat_lt
  have hshift : (n <<< 8).toNat = (n.toNat % 16777216) <<< 8 := by
    rw [UInt32.toNat_shiftLeft, Nat.shiftLeft_eq, Nat.shiftLeft_eq]
    have height : (8 : UInt32).toNat % 32 = 8 := rfl
    rw [height]
    omega
  rw [UInt32.toNat_or, UInt8.toNat_toUInt32, hshift, ← Nat.shiftLeft_add_eq_or_of_lt hb,
    Nat.shiftLeft_eq]
  omega

/-- What is collected is the number in the last four bytes. -/
theorem toNat_shiftIn (s : Bytes) : (shiftIn s).toNat = s.value % 4294967296 := by
  induction s using List.reverseRecOn with
  | nil => rfl
  | append_singleton s b ih =>
    have hstep : shiftIn (s ++ [b]) = shiftIn s <<< 8 ||| b.toUInt32 := by
      rw [shiftIn, List.foldl_append]
      rfl
    rw [hstep, toNat_shift_or, ih, Bytes.value_concat]
    omega

end Machine

namespace Bytes

theorem value_lt_word {s : Bytes} (h : s.length ≤ 4) : s.value < 4294967296 :=
  Nat.lt_of_lt_of_le s.value_lt_pow (Nat.pow_le_pow_right (by decide) h)

theorem number_lt (data : Bytes) (offset : Int) (length : Nat) (e : Endian) :
    data.number offset length e < 256 ^ data.available offset length := by
  rw [number_eq_value, ← length_held, ← e.length_arrange]
  exact value_lt_pow _

/-- The bytes that a number was read from are found again. -/
theorem arrange_bigEndian_number (data : Bytes) (offset : Int) (length : Nat) (e : Endian) :
    e.arrange (bigEndian (data.available offset length) (data.number offset length e)) =
      data.held offset length := by
  rw [number_eq_value, ← length_held, ← e.length_arrange, bigEndian_value, arrange_arrange]

theorem numberWord_eq {data : Bytes} {offset : Int} (hdata : data.IsHeld)
    (hoffset : IsOffset offset) (length : Nat) (e : Endian) :
    ∃ w, Machine.numberWord data offset length e = .ok w ∧
      w.toNat = data.number offset length e := by
  have hfour : (e.arrange (data.window offset (min length 4))).length ≤ 4 := by
    rw [e.length_arrange]
    exact (data.length_window_le offset _).trans (Nat.min_le_right _ _)
  refine ⟨Machine.shiftIn (e.arrange (data.window offset (min length 4))), ?_, ?_⟩
  · rw [Machine.numberWord, Machine.window_eq hdata hoffset]
    rfl
  · rw [Machine.toNat_shiftIn, Nat.mod_eq_of_lt (value_lt_word hfour), number]

/-- A number is read from as many of its bytes as lie inside the data, up to four, and is 0 where
there is none. They are its digits in the order that is asked for: it fits them, and written in as
many bytes in this order it gives them back. A word of 32 bits holds all of it. -/
theorem number_of_available (data : Bytes) (offset : Int) (length : Nat) (e : Endian) :
    let k := data.available offset length
    let n := data.number offset length e
    (offset < 0 ∨ data.length ≤ offset → k = 0 ∧ n = 0) ∧
    n = Nat.ofDigits 256 (e.digits ((data.drop offset.toNat).take k)) ∧
    n < 256 ^ k ∧
    e.arrange (bigEndian k n) = (data.drop offset.toNat).take k ∧
    (data.IsHeld → IsOffset offset →
      ∃ w, Machine.numberWord data offset length e = .ok w ∧ w.toNat = n) := by
  intro k n
  have hlt : n < 256 ^ k := data.number_lt offset length e
  refine ⟨fun hout => ?_, ?_, hlt, data.arrange_bigEndian_number offset length e,
    fun hdata hoffset => numberWord_eq hdata hoffset length e⟩
  · have hnone : k = 0 := data.available_of_outside offset length hout
    rw [hnone, Nat.pow_zero, Nat.lt_one_iff] at hlt
    exact ⟨hnone, hlt⟩
  · exact (data.number_eq_value offset length e).trans (value_arrange_eq_ofDigits e _)

def cutShort : Bytes := [0xDE, 0xAD, 0xBE, 0xEF, 0x00, 0x01, 0x02, 0xF3]

/-- Two of four bytes are left at the end; the greatest length stands for four; nothing is read far
before the data or at its end. -/
theorem number_of_available_cutShort :
    (∃ w, Machine.numberWord cutShort 6 4 .little = .ok w ∧ w.toNat = 0xF302 ∧
      Endian.little.arrange (bigEndian 2 0xF302) = [0x02, 0xF3]) ∧
    (∃ w, Machine.numberWord cutShort 0 18446744073709551615 .big = .ok w ∧
      w.toNat = 0xDEADBEEF) ∧
    cutShort.number (-9223372036854775808) 4 .big = 0 ∧ cutShort.number 8 4 .little = 0 := by
  have hheld : cutShort.IsHeld := by decide
  obtain ⟨-, -, -, hback, hlast⟩ := number_of_available cutShort 6 4 .little
  obtain ⟨-, -, -, -, hlong⟩ := number_of_available cutShort 0 18446744073709551615 .big
  obtain ⟨hbefore, -⟩ := number_of_available cutShort (-9223372036854775808) 4 .big
  obtain ⟨hend, -⟩ := number_of_available cutShort 8 4 .little
  obtain ⟨w, hw, hwn⟩ := hlast hheld (by decide)
  obtain ⟨v, hv, hvn⟩ := hlong hheld (by decide)
  exact ⟨⟨w, hw, hwn.trans rfl, hback⟩, ⟨v, hv, hvn.trans rfl⟩, (hbefore (.inl (by decide))).2,
    (hend (.inr (by decide))).2⟩

end Bytes

end HostSurvey
