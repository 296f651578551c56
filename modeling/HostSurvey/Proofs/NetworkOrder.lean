import HostSurvey.Packet.Header
import Mathlib.Algebra.Ring.Nat

/-!
# Numbers in network order

`bigEndian width n` writes a number in `width` bytes, and reading them gives the
number back. A read behind a known beginning is a read of what follows it, and a
read of the first bytes of a capture falls into one of three cases: it is whole,
nothing of it is left, or the end of the bytes parts it.
-/

namespace HostSurvey

namespace Bytes

/-! ## Writing numbers -/

/-- The last `width` digits of a number to the base 256, most significant first. -/
def bigEndian : Nat → Nat → Bytes
  | 0, _ => []
  | width + 1, n => bigEndian width (n / 256) ++ [n.toUInt8]

@[simp] theorem length_bigEndian (width n : Nat) : (bigEndian width n).length = width := by
  induction width generalizing n with
  | zero => rfl
  | succ width ih => simp [bigEndian, ih]

theorem value_concat (s : Bytes) (b : UInt8) : value (s ++ [b]) = value s * 256 + b.toNat := by
  simp [value]

theorem value_bigEndian {width n : Nat} (h : n < 256 ^ width) : value (bigEndian width n) = n := by
  induction width generalizing n with
  | zero =>
    rw [Nat.pow_zero, Nat.lt_one_iff] at h
    rw [h]
    rfl
  | succ width ih =>
    have hhigh : n / 256 < 256 ^ width := by
      rw [Nat.div_lt_iff_lt_mul (by decide)]
      rwa [Nat.pow_succ] at h
    have hlow : n.toUInt8.toNat = n % 256 := rfl
    rw [bigEndian, value_concat, ih hhigh, hlow]
    omega

/-! ## Reads behind a known beginning -/

theorem window_append {pre : Bytes} {offset : Nat} (h : pre.length = offset) (s : Bytes)
    (k length : Nat) :
    (pre ++ s).window ((offset + k : Nat) : Int) length = s.window (k : Int) length := by
  have hsign (n : Nat) : ¬ (n : Int) < 0 := by omega
  unfold window
  rw [if_neg (hsign _), if_neg (hsign _), Int.toNat_natCast, Int.toNat_natCast, ← h,
    List.drop_length_add_append]

theorem number_append {pre : Bytes} {offset : Nat} (h : pre.length = offset) (s : Bytes)
    (k length : Nat) :
    (pre ++ s).number ((offset + k : Nat) : Int) length .big = s.number (k : Int) length .big := by
  unfold number
  rw [window_append h]

/-- A byte is a number of one byte. -/
theorem toNat_byte? (data : Bytes) (offset : Int) :
    ((data.byte? offset).getD 0).toNat = data.number offset 1 .big := by
  have hlength := length_window_le data offset 1
  have hone : min 1 4 = 1 := rfl
  unfold byte? number
  rw [hone]
  match hwindow : data.window offset 1 with
  | [] => rfl
  | [b] => simp [Endian.arrange, value]
  | a :: b :: s => simp [hwindow] at hlength

/-- A number that was written is read back. -/
theorem number_bigEndian {width n : Nat} (hwidth : width ≤ 4) (h : n < 256 ^ width) (s : Bytes) :
    (bigEndian width n ++ s).number ((0 : Nat) : Int) width .big = n := by
  have hread : (bigEndian width n ++ s).window ((0 : Nat) : Int) width = bigEndian width n := by
    unfold window
    rw [if_neg (by decide), Int.toNat_natCast, List.drop_zero, List.take_left' (by simp)]
  unfold number
  rw [Nat.min_eq_left hwidth, hread]
  exact value_bigEndian h

/-! ## Fields one after another -/

/-- Fields in network order, each a width and a number. -/
def layout (fields : List (Nat × Nat)) : Bytes := fields.flatMap fun f => bigEndian f.1 f.2

def width (fields : List (Nat × Nat)) : Nat := (fields.map Prod.fst).sum

@[simp] theorem length_layout (fields : List (Nat × Nat)) :
    (layout fields).length = width fields := by
  simp [layout, width]

theorem layout_append (fields others : List (Nat × Nat)) :
    layout (fields ++ others) = layout fields ++ layout others := List.flatMap_append

/-- A field is read back where the fields in front of it end. -/
theorem number_layout {pre : Bytes} {offset : Nat} (hpre : pre.length = offset)
    {fields before after : List (Nat × Nat)} {w n : Nat}
    (hfields : fields = before ++ (w, n) :: after) (hw : w ≤ 4) (hn : n < 256 ^ w) (rest : Bytes) :
    number (pre ++ (layout fields ++ rest)) ((offset + width before : Nat) : Int) w .big = n := by
  have hsplit : layout fields ++ rest =
      layout before ++ (bigEndian w n ++ (layout after ++ rest)) := by
    rw [hfields, layout_append, List.append_assoc]
    simp [layout]
  rw [number_append hpre, hsplit]
  refine (number_append (length_layout before) _ 0 w).trans ?_
  exact number_bigEndian hw hn _

/-! ## Reads of a capture that was cut -/

/-- The first bytes of a capture read as the whole one does, where they hold all of a number. -/
theorem number_take_of_le {offset width n : Nat} (h : offset + width ≤ n) (data : Bytes) :
    number (data.take n) offset width .big = data.number offset width .big := by
  have hsign : ¬ (offset : Int) < 0 := by omega
  unfold number window
  rw [if_neg hsign, if_neg hsign, Int.toNat_natCast, List.drop_take, List.take_take]
  congr 3
  omega

/-- Nothing is read behind the end. -/
theorem number_of_length_le {data : Bytes} {offset : Nat} (h : data.length ≤ offset) (width : Nat) :
    data.number offset width .big = 0 := by
  have hsign : ¬ (offset : Int) < 0 := by omega
  unfold number window
  rw [if_neg hsign, Int.toNat_natCast, List.drop_eq_nil_of_le h, List.take_nil]
  rfl

/-- Where the end parts a number, the bytes up to it make up what is read. -/
theorem number_of_parted {data : Bytes} {offset width : Nat} (hwidth : width ≤ 4)
    (h : data.length < offset + width) :
    data.number offset width .big = value (data.drop offset) := by
  have hsign : ¬ (offset : Int) < 0 := by omega
  unfold number window
  rw [if_neg hsign, Int.toNat_natCast, Nat.min_eq_left hwidth, List.take_of_length_le]
  · rfl
  · rw [List.length_drop]
    omega

theorem byte?_take_of_lt {offset n : Nat} (h : offset < n) (data : Bytes) :
    byte? (data.take n) offset = data.byte? offset := by
  have hsign : ¬ (offset : Int) < 0 := by omega
  unfold byte? window
  rw [if_neg hsign, if_neg hsign, Int.toNat_natCast, List.drop_take, List.take_take]
  congr 2
  omega

end Bytes

end HostSurvey
