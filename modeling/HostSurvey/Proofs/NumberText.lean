import HostSurvey.Address.Ipv4
import HostSurvey.Proofs.FlagNames
import HostSurvey.Proofs.Spelling
import HostSurvey.Text.Digit

/-!
# Numbers in text

Digits are read until one of them does not fit. What fits is exactly the digits of
a number within the limit, and an address is read back from its own text.
-/

namespace HostSurvey

namespace Text

/-- The code points of blank characters. -/
def blankCodes : List Nat :=
  [0x09, 0x0A, 0x0B, 0x0C, 0x0D, 0x20, 0x85, 0xA0, 0x1680, 0x2000, 0x2001, 0x2002, 0x2003, 0x2004,
    0x2005, 0x2006, 0x2007, 0x2008, 0x2009, 0x200A, 0x2028, 0x2029, 0x202F, 0x205F, 0x3000]

theorem mem_blankCodes_of_isBlank {c : Char} (h : isBlank c = true) : c.toNat ∈ blankCodes := by
  simp only [isBlank, Bool.or_eq_true, Bool.and_eq_true, decide_eq_true_eq, beq_iff_eq] at h
  simp only [blankCodes, List.mem_cons, List.not_mem_nil, or_false]
  omega

/-- No digit is a blank. -/
theorem isBlank_of_isDigit {c : Char} (h : isDigit c = true) : isBlank c = false := by
  have hnone : (blankCodes.all fun n =>
      !digitZeros.any fun first => first ≤ n && n < first + 10) = true := by decide
  rw [Bool.eq_false_iff]
  intro hblank
  have hdigit := List.all_eq_true.1 hnone _ (mem_blankCodes_of_isBlank hblank)
  rw [isDigit] at h
  rw [h] at hdigit
  cases hdigit

theorem isDigit_of_isBlank {c : Char} (h : isBlank c = true) : isDigit c = false := by
  by_contra hdigit
  rw [isBlank_of_isDigit (by simpa using hdigit)] at h
  cases h

/-- Digits stand without blanks around them. -/
theorem trim_of_digits {s : List Char} (h : ∀ c ∈ s, isDigit c = true) : trim s = s :=
  trim_of_unbroken fun c hc => isBlank_of_isDigit (h c hc)

namespace Decimal

variable {limit acc n : Nat} {overflow : Fault} {s : List Char}

/-- The number that digits write behind the digits of `acc`. -/
def valueFrom (acc : Nat) (s : List Char) : Nat := s.foldl (fun n c => n * 10 + (c.toNat - 48)) acc

theorem le_valueFrom (acc : Nat) (s : List Char) : acc ≤ valueFrom acc s := by
  induction s generalizing acc with
  | nil => exact Nat.le_refl acc
  | cons c s ih =>
    have hstep : acc ≤ acc * 10 + (c.toNat - 48) := by omega
    exact hstep.trans (ih _)

/-- What is read is the value of ASCII digits that stays within the limit. -/
theorem readDigits_eq_ok_iff (hacc : acc ≤ limit) :
    readDigits limit overflow acc s = .ok n ↔
      s.all isAsciiDigit = true ∧ valueFrom acc s = n ∧ n ≤ limit := by
  induction s generalizing acc with
  | nil =>
    simp only [readDigits, valueFrom, List.foldl_nil, List.all_nil, true_and, Except.ok.injEq]
    constructor
    · rintro rfl
      exact ⟨rfl, hacc⟩
    · exact And.left
  | cons c s ih =>
    have hvalue : valueFrom acc (c :: s) = valueFrom (acc * 10 + (c.toNat - 48)) s := rfl
    rw [readDigits, List.all_cons, hvalue]
    by_cases hc : isAsciiDigit c = true
    · rw [if_pos hc, hc, Bool.true_and]
      by_cases hfits : acc * 10 + (c.toNat - 48) ≤ limit
      · rw [if_pos hfits, ih hfits]
      · rw [if_neg hfits]
        -- digits that follow only make the number larger
        constructor
        · intro h
          cases h
        · rintro ⟨-, hn, hle⟩
          have hgrows := le_valueFrom (acc * 10 + (c.toNat - 48)) s
          omega
    · simp [hc]

/-- Digits without a sign in front are read as a natural number. -/
theorem readInt32_of_digits (hs : s ≠ []) (hdigits : ∀ c ∈ s, isDigit c = true) :
    readInt32 s =
      (readDigits 2147483647 .tooLarge 0 s).map fun n => Int32.ofInt (Int.ofNat n) := by
  cases s with
  | nil => exact absurd rfl hs
  | cons c s =>
    have hc : isDigit c = true := hdigits c List.mem_cons_self
    have hplus : c ≠ '+' := by
      rintro rfl
      exact absurd hc (by decide)
    have hminus : c ≠ '-' := by
      rintro rfl
      exact absurd hc (by decide)
    have hread : readInt 2147483647 (c :: s) =
        (readMagnitude 2147483647 .tooLarge (c :: s)).map Int.ofNat := by
      unfold readInt
      split
      · rename_i h
        cases h
      · rename_i h
        exact absurd (List.cons.inj h).1 hplus
      · rename_i h
        exact absurd (List.cons.inj h).1 hminus
      · rfl
    have hmagnitude : readMagnitude 2147483647 .tooLarge (c :: s) =
        readDigits 2147483647 .tooLarge 0 (c :: s) := if_neg (by simp)
    rw [readInt32, hread, hmagnitude]
    cases readDigits 2147483647 .tooLarge 0 (c :: s) <;> rfl

/-- Digits that write a number of 31 bits. -/
def Fits (s : List Char) : Prop := s.all isAsciiDigit = true ∧ value s ≤ 2147483647

instance (s : List Char) : Decidable (Fits s) :=
  inferInstanceAs (Decidable (s.all isAsciiDigit = true ∧ value s ≤ 2147483647))

theorem readInt32_of_fits (hs : s ≠ []) (hdigits : ∀ c ∈ s, isDigit c = true) (h : Fits s) :
    readInt32 s = .ok (Int32.ofInt (Int.ofNat (value s))) := by
  have hread : readDigits 2147483647 .tooLarge 0 s = .ok (value s) :=
    (readDigits_eq_ok_iff (Nat.zero_le _)).2 ⟨h.1, rfl, h.2⟩
  rw [readInt32_of_digits hs hdigits, hread]
  rfl

theorem readInt32_of_not_fits (hs : s ≠ []) (hdigits : ∀ c ∈ s, isDigit c = true)
    (h : ¬ Fits s) : ∃ fault, readInt32 s = .error fault := by
  rw [readInt32_of_digits hs hdigits]
  cases hread : readDigits 2147483647 .tooLarge 0 s with
  | error fault => exact ⟨fault, rfl⟩
  | ok n =>
    obtain ⟨hascii, hvalue, hle⟩ := (readDigits_eq_ok_iff (Nat.zero_le _)).1 hread
    have hsame : value s = n := hvalue
    exact absurd ⟨hascii, hsame.trans_le hle⟩ h

theorem isDigit_of_mem_ofNat {c : Char} (h : c ∈ ofNat n) : isDigit c = true := by
  have hdigit := Nat.isDigit_of_mem_toDigits (by decide) (by decide) h
  simp only [Char.isDigit, Bool.and_eq_true, decide_eq_true_eq] at hdigit
  exact isDigit_of_ascii hdigit

end Decimal

end Text

namespace Ipv4

open Text

theorem octet?_ofNat {n : Nat} (h : n < 256) : octet? (Decimal.ofNat n) = some n := by
  have hall : ∀ n < 256, octet? (Decimal.ofNat n) = some n := by decide +kernel
  exact hall n h

theorem ne_dot_of_mem_ofNat (n : Nat) : ∀ c ∈ Decimal.ofNat n, (c == '.') = false := by
  intro c hc
  have hdigit := Decimal.isDigit_of_mem_ofNat hc
  rw [beq_eq_false_iff_ne]
  rintro rfl
  exact absurd hdigit (by decide)

/-- An address is read back from its text. -/
theorem parse?_chars (ip : Ipv4) : parse? ip.chars = some ip := by
  have hbits := ip.bits.toNat_lt
  have ha : ip.bits.toNat / 16777216 < 256 := by omega
  have hb : ip.bits.toNat / 65536 % 256 < 256 := Nat.mod_lt _ (by decide)
  have hc : ip.bits.toNat / 256 % 256 < 256 := Nat.mod_lt _ (by decide)
  have hd : ip.bits.toNat % 256 < 256 := Nat.mod_lt _ (by decide)
  unfold parse? chars
  simp only [List.append_assoc, List.cons_append]
  rw [fields_append (ne_dot_of_mem_ofNat _) rfl, fields_append (ne_dot_of_mem_ofNat _) rfl,
    fields_append (ne_dot_of_mem_ofNat _) rfl, fields_eq_singleton (ne_dot_of_mem_ofNat _)]
  simp only [List.map_cons, List.map_nil, octet?_ofNat ha, octet?_ofNat hb, octet?_ofNat hc,
    octet?_ofNat hd]
  have hvalue : ((ip.bits.toNat / 16777216 * 256 + ip.bits.toNat / 65536 % 256) * 256 +
      ip.bits.toNat / 256 % 256) * 256 + ip.bits.toNat % 256 = ip.bits.toNat := by omega
  rw [hvalue]
  exact congrArg (fun b => some (Ipv4.mk b)) (UInt32.ofNat_toNat)

/-- The text of an address has no blanks. -/
theorem unbroken_chars (ip : Ipv4) : Unbroken ip.chars := by
  have hnumber (n : Nat) : Unbroken (Decimal.ofNat n) := fun c hc =>
    isBlank_of_isDigit (Decimal.isDigit_of_mem_ofNat hc)
  have hjoin {s t : List Char} (hs : Unbroken s) (ht : Unbroken t) : Unbroken (s ++ '.' :: t) :=
    List.forall_mem_append.2 ⟨hs, List.forall_mem_cons.2 ⟨by decide, ht⟩⟩
  exact hjoin (hjoin (hjoin (hnumber _) (hnumber _)) (hnumber _)) (hnumber _)

end Ipv4

end HostSurvey
