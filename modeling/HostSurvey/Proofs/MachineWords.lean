import HostSurvey.Proofs.LiteralSearch
import HostSurvey.Proofs.RuleDocuments

/-!
# Reading bytes with machine words

The reads of `Bytes` count with numbers of any size. A machine has words, which
a sum, a difference or a number from another kind of word may not fit, and
slices, whose bounds have to lie in order inside the bytes. The definitions here
do the reads that way and stop at the first fault. Bytes that a machine can hold
are read without one, at any 64-bit offset and any length, and give what the
reads of `Bytes` give.
-/

namespace HostSurvey

open Rule

/-- No machine holds more bytes than the greatest signed address. -/
def Bytes.IsHeld (data : Bytes) : Prop := data.length ≤ 9223372036854775807

instance (data : Bytes) : Decidable data.IsHeld :=
  inferInstanceAs (Decidable (data.length ≤ 9223372036854775807))

theorem isOffset_saturate (n : Int) : IsOffset (saturate n) := by
  simp only [IsOffset, saturate]
  omega

namespace Machine

inductive Fault where
  | overflow
  | slice
  deriving DecidableEq, Repr

abbrev Checked (α : Type) := Except Fault α

@[simp] theorem ok_bind {α β : Type} (a : α) (f : α → Checked β) :
    (Except.ok a : Checked α) >>= f = f a := rfl

@[simp] theorem pure_eq_ok {α : Type} (a : α) : (pure a : Checked α) = .ok a := rfl

/-! ## Words and slices -/

/-- A number as a signed word of 64 bits. -/
def signed (n : Int) : Checked Int := if IsOffset n then .ok n else .error .overflow

/-- A number as an unsigned word of 64 bits. -/
def unsigned (n : Int) : Checked Nat :=
  if 0 ≤ n ∧ n ≤ 18446744073709551615 then .ok n.toNat else .error .overflow

/-- A number as an unsigned word of 32 bits. -/
def word (n : Nat) : Checked Nat := if n < 4294967296 then .ok n else .error .overflow

/-- The bytes from `start` up to `stop`. -/
def slice (data : Bytes) (start stop : Nat) : Checked Bytes :=
  if start ≤ stop ∧ stop ≤ data.length then .ok ((data.drop start).take (stop - start))
  else .error .slice

theorem signed_eq_ok {n : Int} (h : IsOffset n) : signed n = .ok n := if_pos h

theorem unsigned_eq_ok {n : Int} (h : 0 ≤ n ∧ n ≤ 18446744073709551615) : unsigned n = .ok n.toNat :=
  if_pos h

theorem slice_eq_ok {data : Bytes} {start stop : Nat} (h : start ≤ stop ∧ stop ≤ data.length) :
    slice data start stop = .ok ((data.drop start).take (stop - start)) := if_pos h

theorem isOffset_length {data : Bytes} (h : data.IsHeld) : IsOffset data.length := by
  simp only [Bytes.IsHeld] at h
  simp only [IsOffset]
  omega

/-! ## Reads -/

/-- The end of a window stops at the greatest word and at the end of the bytes. -/
def window (data : Bytes) (offset : Int) (length : Nat) : Checked Bytes :=
  if offset < 0 then .ok []
  else do
    let start ← unsigned offset
    if data.length ≤ start then return []
    slice data start (min (min (start + length) 18446744073709551615) data.length)

/-- Collects a number byte by byte. -/
def number (data : Bytes) (offset : Int) (length : Nat) (e : Endian) : Checked Nat := do
  let bytes ← window data offset (min length 4)
  (e.arrange bytes).foldlM (fun n b => word (n * 256 + b.toNat)) 0

/-- Counts a hit inside the window from the first byte of the data. -/
def find? (data pat : Bytes) (offset : Int) (length : Nat) : Checked (Option Nat) :=
  if pat.isEmpty then .ok none
  else do
    match Bytes.indexOf? pat (← window data offset length) with
    | none => return none
    | some i => return some (← unsigned (i + (← unsigned offset)))

def extract (data : Bytes) (start stop : Int) (length : Nat) : Checked Bytes := do
  let last ← signed data.length
  if 0 ≤ start ∧ start < last ∧ 0 ≤ stop ∧ stop ≤ last then
    let low := min start stop
    let high := min (saturate (low + min length 9223372036854775807)) (max start stop)
    slice data (← unsigned low) (← unsigned high)
  else return []

section Agreement

variable {data : Bytes} {offset : Int}

theorem window_eq (hdata : data.IsHeld) (hoffset : IsOffset offset) (length : Nat) :
    window data offset length = .ok (data.window offset length) := by
  simp only [Bytes.IsHeld] at hdata
  simp only [IsOffset] at hoffset
  rw [window, Bytes.window]
  split
  · rfl
  · rw [unsigned_eq_ok (by omega), ok_bind]
    split
    · rename_i hlast
      rw [List.drop_eq_nil_of_le hlast, List.take_nil]
      rfl
    · rw [slice_eq_ok (by omega), Except.ok.injEq, List.take_eq_take_iff, List.length_drop]
      omega

/-- Up to four bytes never fill a word of 32 bits. -/
theorem foldlM_word (s : Bytes) (n : Nat) (h : (n + 1) * 256 ^ s.length ≤ 4294967296) :
    s.foldlM (fun n b => word (n * 256 + b.toNat)) n =
      .ok (s.foldl (fun n b => n * 256 + b.toNat) n) := by
  induction s generalizing n with
  | nil => rfl
  | cons b s ih =>
    have hb : b.toNat < 256 := b.toNat_lt
    have hnext : (n * 256 + b.toNat + 1) * 256 ^ s.length ≤ 4294967296 := by
      refine Nat.le_trans ?_ h
      rw [List.length_cons, Nat.pow_succ', ← Nat.mul_assoc]
      exact Nat.mul_le_mul_right _ (by omega)
    have hword : n * 256 + b.toNat < 4294967296 := by
      have := Nat.mul_le_mul_left (n * 256 + b.toNat + 1) (Nat.one_le_pow s.length 256 (by decide))
      omega
    rw [List.foldlM_cons, word, if_pos hword, ok_bind, List.foldl_cons, ih _ hnext]

theorem number_eq (hdata : data.IsHeld) (hoffset : IsOffset offset) (length : Nat) (e : Endian) :
    number data offset length e = .ok (data.number offset length e) := by
  have hlength : (e.arrange (data.window offset (min length 4))).length ≤ 4 := by
    have := data.length_window_le offset (min length 4)
    cases e <;> simp only [Endian.arrange, List.length_reverse] <;> omega
  rw [number, window_eq hdata hoffset, ok_bind, foldlM_word]
  · rfl
  · have := Nat.pow_le_pow_right (n := 256) (by decide) hlength
    omega

theorem find?_eq (hdata : data.IsHeld) (hoffset : IsOffset offset) (pat : Bytes) (length : Nat) :
    find? data pat offset length = .ok (data.find? pat offset length) := by
  simp only [Bytes.IsHeld] at hdata
  simp only [IsOffset] at hoffset
  rw [find?, Bytes.find?]
  split
  · rfl
  · rename_i hpat
    rw [window_eq hdata hoffset, ok_bind]
    cases hi : Bytes.indexOf? pat (data.window offset length) with
    | none => rfl
    | some i =>
      -- the hit lies inside the window, so its address lies inside the data
      have hpre := (Bytes.indexOf?_eq_some_iff.1 hi).1.length_le
      have hpos : 0 < pat.length := List.length_pos_iff.2 (by simpa using hpat)
      have hwindow := data.length_window_le_remaining offset length
      have hneg : ¬ offset < 0 := by
        intro hneg
        rw [Bytes.window, if_pos hneg, List.drop_nil, List.length_nil] at hpre
        omega
      rw [List.length_drop] at hpre
      have hsum : ((i : Int) + offset.toNat).toNat = i + offset.toNat := by omega
      simp only
      rw [unsigned_eq_ok (by omega), ok_bind, unsigned_eq_ok (by omega), ok_bind, pure_eq_ok, hsum,
        Option.map_some]

/-- The end of an extract is not changed by the words that it is computed with. -/
theorem min_saturate_add {low high : Int} (h : 0 ≤ low ∧ low ≤ high ∧ high ≤ 9223372036854775807)
    (length : Nat) :
    min (saturate (low + min length 9223372036854775807)) high =
      low + (min length (high - low).toNat : Nat) := by
  simp only [saturate]
  omega

theorem extract_eq (hdata : data.IsHeld) (start stop : Int) (length : Nat) :
    extract data start stop length = .ok (data.extract start stop length) := by
  rw [extract, signed_eq_ok (isOffset_length hdata), ok_bind, Bytes.extract]
  simp only [Bytes.IsHeld] at hdata
  split
  · rename_i h
    have hlow : 0 ≤ min start stop ∧ min start stop ≤ max start stop := by omega
    have hhigh : max start stop ≤ data.length := by omega
    simp only
    generalize min start stop = low at *
    generalize max start stop = high at *
    rw [min_saturate_add ⟨hlow.1, hlow.2, by omega⟩]
    generalize hn : min length (high - low).toNat = n
    have hbytes : (low + n).toNat - low.toNat = n := by omega
    rw [unsigned_eq_ok (by omega), ok_bind, unsigned_eq_ok (by omega), ok_bind,
      slice_eq_ok (by omega), hbytes]
  · rfl

end Agreement

end Machine

end HostSurvey
