import HostSurvey.Proofs.NetworkOrder
import Mathlib.Data.List.Induction

/-!
# Numbers in bytes of either order

Bytes tell a number with their most significant byte first or last, and reversing
them exchanges the two. As many bytes tell as many numbers: the bytes are found
again from their number. In two's complement the upper half of these numbers
stands for the negative ones.
-/

namespace HostSurvey

namespace Bytes

variable {s t : Bytes}

/-- The number whose digits to the base 256 are `s`, least significant first. -/
def lowFirst : Bytes → Nat
  | [] => 0
  | b :: s => b.toNat + 256 * lowFirst s

theorem value_reverse (s : Bytes) : value s.reverse = lowFirst s := by
  induction s with
  | nil => rfl
  | cons b s ih =>
    rw [List.reverse_cons, value_concat, ih, lowFirst]
    omega

theorem value_lt_pow (s : Bytes) : value s < 256 ^ s.length := by
  have h := value_lt s
  rwa [Nat.one_shiftLeft, Nat.pow_mul] at h

theorem value_append (s t : Bytes) : value (s ++ t) = value s * 256 ^ t.length + value t := by
  -- from the end, since the number is collected from the front
  induction t using List.reverseRecOn with
  | nil => simp [value]
  | append_singleton t b ih =>
    rw [← List.append_assoc, value_concat, ih, value_concat, List.length_append,
      List.length_singleton, Nat.pow_succ, Nat.add_mul, Nat.mul_assoc, Nat.add_assoc]

/-- The last bytes tell the remainder of the number. -/
theorem value_drop (s : Bytes) {n : Nat} (h : n ≤ s.length) :
    value (s.drop (s.length - n)) = value s % 256 ^ n := by
  have hlength : (s.drop (s.length - n)).length = n := by
    rw [List.length_drop]
    omega
  have hsplit := value_append (s.take (s.length - n)) (s.drop (s.length - n))
  have hlast := value_lt_pow (s.drop (s.length - n))
  rw [List.take_append_drop, hlength] at hsplit
  rw [hlength] at hlast
  rw [hsplit, Nat.mul_add_mod', Nat.mod_eq_of_lt hlast]

theorem bigEndian_value (s : Bytes) : bigEndian s.length (value s) = s := by
  induction s using List.reverseRecOn with
  | nil => rfl
  | append_singleton s b ih =>
    have hb : b.toNat < 256 := b.toNat_lt
    have hhigh : (value s * 256 + b.toNat) / 256 = value s := by omega
    have hlow : (value s * 256 + b.toNat).toUInt8 = b := by
      rw [← UInt8.toNat_inj, Nat.toUInt8, UInt8.toNat_ofNat']
      omega
    rw [List.length_append, List.length_singleton, value_concat, bigEndian, hhigh, ih, hlow]

theorem value_inj (hlength : s.length = t.length) : value s = value t ↔ s = t := by
  constructor
  · intro h
    rw [← bigEndian_value s, ← bigEndian_value t, hlength, h]
  · exact congrArg value

/-! ## Two's complement -/

/-- The number that `n` stands for in so many bytes. -/
def twosComplement (width n : Nat) : Int :=
  if 2 * n < 256 ^ width then n else n - (256 ^ width : Nat)

theorem twosComplement_emod {width n : Nat} (h : n < 256 ^ width) :
    twosComplement width n % (256 ^ width : Nat) = n := by
  rw [twosComplement]
  split
  · exact Int.emod_eq_of_lt (by omega) (by omega)
  · rw [Int.sub_emod_right]
    exact Int.emod_eq_of_lt (by omega) (by omega)

theorem twosComplement_bounds {width n : Nat} (h : n < 256 ^ width) :
    -(256 ^ width : Nat) ≤ 2 * twosComplement width n ∧
      2 * twosComplement width n < (256 ^ width : Nat) := by
  rw [twosComplement]
  split <;> omega

/-- The last bytes of a number in two's complement are those of its digits. -/
theorem twosComplement_emod_of_le {width n k : Nat} (h : n < 256 ^ width) (hk : k ≤ width) :
    twosComplement width n % (256 ^ k : Nat) = (n % 256 ^ k : Nat) := by
  have hdvd : ((256 ^ k : Nat) : Int) ∣ (256 ^ width : Nat) :=
    Int.natCast_dvd_natCast.2 (Nat.pow_dvd_pow 256 hk)
  rw [← Int.emod_emod_of_dvd _ hdvd, twosComplement_emod h]
  rfl

end Bytes

/-- The number in bytes of the given order. -/
def Endian.value (e : Endian) (s : Bytes) : Nat :=
  match e with
  | .big => s.value
  | .little => s.lowFirst

theorem Endian.value_arrange (e : Endian) (s : Bytes) : (e.arrange s).value = e.value s := by
  cases e with
  | big => rfl
  | little => exact s.value_reverse

@[simp] theorem Endian.length_arrange (e : Endian) (s : Bytes) :
    (e.arrange s).length = s.length := by
  cases e with
  | big => rfl
  | little => exact List.length_reverse

end HostSurvey
