import HostSurvey.Json.Finite
import HostSurvey.Json.Printer
import HostSurvey.Json.Reader
import HostSurvey.Json.Shape
import HostSurvey.Proofs.NumberText
import Mathlib.Data.List.TakeDrop
import Mathlib.Data.Option.Basic

/-!
# Numbers and strings of JSON

A whole number is read back from its sign and digits, and a string from its
characters, escaped or not. A number below 2^64 is in range and has the shape of
an integer.
-/

namespace HostSurvey

open Text

/-! ## Decimal digits -/

namespace Text.Decimal

theorem value_ofNat (n : Nat) : value (ofNat n) = n := by
  have hfold (acc : Nat) (s : List Char) :
      s.foldl (fun n c => n * 10 + (c.toNat - 48)) acc = Nat.ofDigitChars 10 s acc := by
    induction s generalizing acc with
    | nil => rfl
    | cons c s ih =>
      rw [List.foldl_cons, ih, Nat.ofDigitChars_cons, Nat.mul_comm acc 10]
      rfl
  rw [value, hfold]
  exact Nat.ofDigitChars_ten_toDigits

theorem isAsciiDigit_of_mem_ofNat {n : Nat} {c : Char} (h : c ∈ ofNat n) :
    isAsciiDigit c = true :=
  Nat.isDigit_of_mem_toDigits (by decide) (by decide) h

theorem exists_digit_ofNat (n : Nat) : ∃ c s, ofNat n = c :: s ∧ isAsciiDigit c = true := by
  obtain ⟨c, s, hs⟩ := List.exists_cons_of_ne_nil (Nat.toDigits_ne_nil : Nat.toDigits 10 n ≠ [])
  exact ⟨c, s, hs, isAsciiDigit_of_mem_ofNat (n := n)
    (by rw [ofNat, hs]; exact List.mem_cons_self)⟩

/-- No sign stands before digits. -/
theorem ofNat_append_ne_minus (n : Nat) (rest s : List Char) : ofNat n ++ rest ≠ '-' :: s := by
  obtain ⟨c, t, ht, hc⟩ := exists_digit_ofNat n
  rw [ht]
  rintro ⟨⟩
  exact absurd hc (by decide)

/-- Only zero is written with a zero in front. -/
theorem exists_head_ofNat {n : Nat} (h : 0 < n) : ∃ c s, ofNat n = c :: s ∧ c ≠ '0' := by
  induction n using Nat.strongRecOn with
  | ind n ih =>
    have hdigit : ∀ d < 10, 0 < d → d.digitChar ≠ '0' := by decide
    rw [ofNat, Nat.toDigits_eq_if (by decide)]
    split
    · rename_i hlt
      exact ⟨_, [], rfl, hdigit n hlt h⟩
    · rename_i hle
      obtain ⟨c, s, hs, hc⟩ := ih (n / 10) (by omega) (by omega)
      exact ⟨c, s ++ [(n % 10).digitChar], by rw [← ofNat, hs]; rfl, hc⟩

end Text.Decimal

namespace Json

/-! ## Whole numbers -/

/-- The sign and the digits of a number. -/
def integerText : Int → List Char
  | .ofNat n => Decimal.ofNat n
  | .negSucc n => '-' :: Decimal.ofNat (n + 1)

theorem int_eq (n : Int) : int n = .number (String.ofList (integerText n)) := by
  cases n with
  | ofNat n => exact congrArg Json.number Nat.repr_eq_ofList_toDigits
  | negSucc n =>
    refine congrArg Json.number ?_
    have hrepr : toString (Int.negSucc n) = "-" ++ Nat.repr (n + 1) := rfl
    rw [hrepr, Nat.repr_eq_ofList_toDigits]
    exact String.toList_injective (by simp [integerText, Decimal.ofNat])

/-- The first character of a number, which tells it from all other values. -/
def StartsNumber (c : Char) : Prop := c = '-' ∨ isAsciiDigit c = true

theorem StartsNumber.ne {c d : Char} (h : StartsNumber c)
    (hd : d ∈ [' ', '\n', '\t', '\r', 'n', 't', 'f', '"', '[', ']', '\x7b']) : c ≠ d := by
  have hother : ([' ', '\n', '\t', '\r', 'n', 't', 'f', '"', '[', ']', '\x7b'].all fun d =>
      d != '-' && !isAsciiDigit d) = true := by decide
  rintro rfl
  have hc := List.all_eq_true.1 hother c hd
  obtain rfl | h := h
  · cases hc
  · simp [h] at hc

theorem StartsNumber.isSpace {c : Char} (h : StartsNumber c) : isSpace c = false := by
  simp [Json.isSpace, h.ne]

theorem startsNumber_of_mem_integerText {n : Int} {c : Char} (h : c ∈ integerText n) :
    StartsNumber c := by
  cases n with
  | ofNat n => exact .inr (Decimal.isAsciiDigit_of_mem_ofNat h)
  | negSucc n =>
    obtain rfl | h := List.mem_cons.1 h
    · exact .inl rfl
    · exact .inr (Decimal.isAsciiDigit_of_mem_ofNat h)

theorem exists_head_integerText (n : Int) : ∃ c s, integerText n = c :: s ∧ StartsNumber c := by
  cases n with
  | negSucc n => exact ⟨'-', _, rfl, .inl rfl⟩
  | ofNat n =>
    obtain ⟨c, s, hs, hdigit⟩ := Decimal.exists_digit_ofNat n
    exact ⟨c, s, hs, .inr hdigit⟩

/-- What stands behind a number does not belong to it. -/
def EndsNumber (rest : List Char) : Prop :=
  ∀ c ∈ rest.head?, isAsciiDigit c = false ∧ c ≠ '.' ∧ c ≠ 'e' ∧ c ≠ 'E'

theorem digits_append {s rest : List Char} (hs : ∀ c ∈ s, isAsciiDigit c = true)
    (hrest : EndsNumber rest) : digits (s ++ rest) = (s, rest) := by
  obtain ⟨htake, hdrop⟩ := span_append hs fun c hc => (hrest c hc).1
  rw [digits, List.span_eq_takeWhile_dropWhile, htake, hdrop]

theorem readWhole_ofNat (n : Nat) {rest : List Char} (hrest : EndsNumber rest) :
    readWhole (Decimal.ofNat n ++ rest) = some (Decimal.ofNat n, rest) := by
  rw [readWhole, digits_append (fun _ => Decimal.isAsciiDigit_of_mem_ofNat) hrest]
  obtain rfl | hpos := Nat.eq_zero_or_pos n
  · rfl
  · obtain ⟨c, s, hs, hc⟩ := Decimal.exists_head_ofNat hpos
    rw [hs]
    split
    · rename_i h
      cases h
    · rename_i h
      exact absurd (List.cons.inj (Prod.mk.inj h).1).1 hc
    · rename_i h
      exact absurd (List.cons.inj (Prod.mk.inj h).1).1 hc
    · rename_i h
      cases h
      rfl

theorem readFraction_of_ends {rest : List Char} (hrest : EndsNumber rest) :
    readFraction rest = some ([], rest) := by
  unfold readFraction
  split
  · exact absurd rfl (hrest '.' rfl).2.1
  · rfl

theorem readExponent_of_ends {rest : List Char} (hrest : EndsNumber rest) :
    readExponent rest = some ([], rest) := by
  cases rest with
  | nil => rfl
  | cons c rest =>
    obtain ⟨-, -, he, hE⟩ := hrest c rfl
    simp [readExponent, he, hE]

theorem readNumber_integerText (n : Int) {rest : List Char} (hrest : EndsNumber rest) :
    readNumber (integerText n ++ rest) = some (int n, rest) := by
  rw [int_eq]
  cases n with
  | ofNat n =>
    have hsign := Decimal.ofNat_append_ne_minus n rest
    -- the match takes `hsign` from the context: these digits are read without a sign
    simp [readNumber, integerText, readWhole_ofNat n hrest, readFraction_of_ends hrest,
      readExponent_of_ends hrest]
  | negSucc n =>
    simp [readNumber, integerText, readWhole_ofNat (n + 1) hrest, readFraction_of_ends hrest,
      readExponent_of_ends hrest]

/-- A whole number has the shape of an integer. -/
theorem Shape.int_int (n : Int) : Shape.int (Json.int n) = some n := by
  have hall (n : Nat) : (Decimal.ofNat n).all isAsciiDigit = true :=
    List.all_eq_true.2 fun _ => Decimal.isAsciiDigit_of_mem_ofNat
  rw [int_eq, Shape.int, String.toList_ofList]
  cases n with
  | ofNat n =>
    have hsign (s : List Char) : Decimal.ofNat n ≠ '-' :: s := by
      simpa using Decimal.ofNat_append_ne_minus n [] s
    rw [integerText]
    split
    · exact absurd ‹_› (hsign _)
    · exact absurd ‹_› (hsign _)
    · simp [hall, Decimal.value_ofNat]
  | negSucc n =>
    have hzero : Decimal.ofNat (n + 1) ≠ ['0'] := by
      obtain ⟨c, t, ht, hc⟩ := Decimal.exists_head_ofNat (Nat.succ_pos n)
      rw [ht]
      rintro ⟨⟩
      exact hc rfl
    rw [integerText]
    split
    · rename_i h
      exact absurd (List.cons.inj h).2 hzero
    · rename_i h
      rw [← (List.cons.inj h).2, if_pos (hall _), Decimal.value_ofNat]
      rfl
    · rename_i h
      exact absurd rfl (h _)

/-! ### Range -/

/-- All digits are taken up when the number stays below 2^64. -/
theorem takeDigits_eq {n : Nat} {s : List Char}
    (h : Decimal.valueFrom n s < 18446744073709551616) :
    takeDigits n s = (Decimal.valueFrom n s, []) := by
  induction s generalizing n with
  | nil => rfl
  | cons c s ih =>
    have hc : Decimal.value [c] = c.toNat - 48 := by simp [Decimal.value]
    have hstep : Decimal.valueFrom n (c :: s) = Decimal.valueFrom (n * 10 + (c.toNat - 48)) s := rfl
    have hle := Decimal.le_valueFrom (n * 10 + (c.toNat - 48)) s
    rw [hstep] at h ⊢
    rw [takeDigits, hc, if_pos (Nat.lt_of_le_of_lt hle h), ih h]

theorem roundDouble_le (n : Nat) : roundDouble n ≤ 2 * n := by
  by_cases hn : n.log2 ≤ 52
  · rw [roundDouble_eq_self hn]
    omega
  · have hpos : n ≠ 0 := by rintro rfl; exact hn (by decide)
    have hunit : 1 <<< (n.log2 - 52) ≤ n := by
      rw [Nat.one_shiftLeft]
      exact Nat.le_trans (Nat.pow_le_pow_right (by decide) (Nat.sub_le _ _)) (Nat.log2_self_le hpos)
    have hpositive : 0 < 1 <<< (n.log2 - 52) := by
      rw [Nat.one_shiftLeft]
      exact Nat.two_pow_pos _
    have hnear : 2 * nearestMultiple n (1 <<< (n.log2 - 52)) ≤ 2 * n + 1 <<< (n.log2 - 52) :=
      (nearestMultiple_near hpositive).2
    rw [roundDouble]
    omega

theorem filter_integerText (n : Int) :
    (integerText n).filter isAsciiDigit = Decimal.ofNat n.natAbs := by
  have hdigits (n : Nat) : (Decimal.ofNat n).filter isAsciiDigit = Decimal.ofNat n :=
    List.filter_eq_self.2 fun _ => Decimal.isAsciiDigit_of_mem_ofNat
  cases n with
  | ofNat n => exact hdigits n
  | negSucc n =>
    rw [integerText, List.filter_cons_of_neg (by decide), hdigits, Int.natAbs_negSucc]

theorem ofLiteral_integerText (n : Int) :
    Numeral.ofLiteral (integerText n) =
      { whole := Decimal.ofNat n.natAbs, fraction := [], exponent := 0 } := by
  have hplain (c : Char) (hc : c ∈ integerText n) : c ≠ 'e' ∧ c ≠ 'E' ∧ c ≠ '.' := by
    refine ⟨?_, ?_, ?_⟩ <;>
    · rintro rfl
      exact absurd (startsNumber_of_mem_integerText hc) (by simp [StartsNumber, isAsciiDigit])
  have hmantissa : (integerText n).takeWhile (fun c => c ≠ 'e' && c ≠ 'E') = integerText n :=
    List.takeWhile_eq_self_iff.2 fun c hc => by simp [hplain c hc]
  have htail : (integerText n).dropWhile (fun c => c ≠ 'e' && c ≠ 'E') = [] :=
    List.dropWhile_eq_nil_iff.2 fun c hc => by simp [hplain c hc]
  have hwhole : (integerText n).takeWhile (fun c => decide (c ≠ '.')) = integerText n :=
    List.takeWhile_eq_self_iff.2 fun c hc => by simp [hplain c hc]
  have hfraction : (integerText n).dropWhile (fun c => decide (c ≠ '.')) = [] :=
    List.dropWhile_eq_nil_iff.2 fun c hc => by simp [hplain c hc]
  simp only [Numeral.ofLiteral, hmantissa, htail, hwhole, hfraction, filter_integerText]
  rfl

theorem isFinite_integerText {n : Int} (h : n.natAbs < 18446744073709551616) :
    isFinite (String.ofList (integerText n)) = true := by
  have htake : takeDigits 0 (Decimal.ofNat n.natAbs) = (n.natAbs, []) := by
    have hvalue : Decimal.valueFrom 0 (Decimal.ofNat n.natAbs) = n.natAbs :=
      Decimal.value_ofNat n.natAbs
    rw [takeDigits_eq (by rw [hvalue]; exact h), hvalue]
  have hround : roundDouble n.natAbs * roundDouble 1 < overflow := by
    have hlimit : 2 * 18446744073709551616 < overflow := by decide +kernel
    have hle := roundDouble_le n.natAbs
    have hone : roundDouble 1 = 1 := by decide
    rw [hone]
    omega
  simp only [isFinite, String.toList_ofList, ofLiteral_integerText, Numeral.significand, htake,
    takeDigits]
  simp [hround]

/-! ## Strings -/

/-- A character is escaped by a letter or by the digits of its code point, or stands for itself. -/
theorem escape_cases (c : Char) :
    (∃ e, escape c = ['\\', e] ∧ e ≠ 'u' ∧ escaped? e = some c) ∨
      (∃ a b, escape c = ['\\', 'u', '0', '0', a, b] ∧ unit? '0' '0' a b = some c.toNat) ∨
      (escape c = [c] ∧ c ≠ '"' ∧ c ≠ '\\' ∧ 0x20 ≤ c.toNat) := by
  by_cases hshort : c ∈ ['"', '\\', '\x08', '\x0c', '\n', '\r', '\t']
  · left
    revert c
    simp only [List.forall_mem_cons]
    exact ⟨⟨'"', rfl, by decide, rfl⟩, ⟨'\\', rfl, by decide, rfl⟩, ⟨'b', rfl, by decide, rfl⟩,
      ⟨'f', rfl, by decide, rfl⟩, ⟨'n', rfl, by decide, rfl⟩, ⟨'r', rfl, by decide, rfl⟩,
      ⟨'t', rfl, by decide, rfl⟩, by simp⟩
  · right
    simp only [List.mem_cons, List.not_mem_nil, or_false, not_or] at hshort
    obtain ⟨hquote, hslash, hrest⟩ := hshort
    simp only [escape, hquote, hslash, hrest, ↓reduceIte]
    split
    · rename_i hlow
      have hcontrol : ∀ n < 0x20, unit? '0' '0' (Hex.digit 97 (n.toUInt8.toNat / 16))
          (Hex.digit 97 (n.toUInt8.toNat % 16)) = some n := by decide +kernel
      exact .inl ⟨_, _, rfl, hcontrol c.toNat hlow⟩
    · rename_i hhigh
      exact .inr ⟨rfl, hquote, hslash, Nat.le_of_not_lt hhigh⟩

/-- A character is read as its code point, whether or not it is escaped. -/
theorem readUnits_escape (c : Char) (s : List Char) :
    readUnits (escape c ++ s) = (readUnits s).map fun r => (c.toNat :: r.1, r.2) := by
  obtain ⟨e, h, hne, he⟩ | ⟨a, b, h, hunit⟩ | ⟨h, hquote, hslash, hlow⟩ := escape_cases c
  · rw [h]
    cases hs : readUnits s <;> simp [readUnits, hne, he, hs]
  · rw [h]
    cases hs : readUnits s <;> simp [readUnits, hunit, hs]
  · rw [h]
    cases hs : readUnits s <;> simp [readUnits, hslash, hlow, hs]

theorem readUnits_quoted (s rest : List Char) :
    readUnits (s.flatMap escape ++ '"' :: rest) = some (s.map Char.toNat, rest) := by
  induction s with
  | nil => rfl
  | cons c s ih =>
    rw [List.flatMap_cons, List.append_assoc, readUnits_escape, ih]
    rfl

/-- A code point is no surrogate. -/
theorem not_surrogate (c : Char) : c.toNat < 0xD800 ∨ 0xDFFF < c.toNat := by
  obtain h | ⟨h, -⟩ := c.valid
  · exact .inl h
  · exact .inr h

theorem joinUnits_map (s : List Char) : joinUnits (s.map Char.toNat) = some s := by
  induction s with
  | nil => rfl
  | cons c s ih =>
    have hc := not_surrogate c
    cases s with
    | nil => simp [joinUnits, show ¬ (0xD800 ≤ c.toNat ∧ c.toNat < 0xE000) by omega]
    | cons d s =>
      rw [List.map_cons, List.map_cons, joinUnits]
      rw [List.map_cons] at ih
      simp [ih, show ¬ (0xD800 ≤ c.toNat ∧ c.toNat < 0xDC00) by omega,
        show ¬ (0xDC00 ≤ c.toNat ∧ c.toNat < 0xE000) by omega]

/-- What stands behind the opening quote of a text. -/
theorem readString_quoted (s : String) (rest : List Char) :
    readString (s.toList.flatMap escape ++ '"' :: rest) = some (some s, rest) := by
  simp [readString, readUnits_quoted, joinUnits_map]

end Json

end HostSurvey
