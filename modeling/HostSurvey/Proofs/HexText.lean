import HostSurvey.Proofs.CharacterBytes
import HostSurvey.Proofs.FrameRecords
import HostSurvey.Proofs.Spelling

/-!
# Texts of hexadecimal digits

Decoding is told by what is written: a text is decoded to the bytes whose digits
it is, in either case (`Spells`), and no other text is decoded.
-/

namespace HostSurvey.Text.Hex

open FirstFault

/-- The text writes the bytes in hexadecimal digits, each of either case. -/
def Spells (text : List Char) (s : Bytes) : Prop := lowered text = lower s

instance (text : List Char) (s : Bytes) : Decidable (Spells text s) :=
  inferInstanceAs (Decidable (_ = _))

/-! ## Lower case byte by byte -/

/-- The lower case of a byte that is an ASCII capital, any other byte unchanged. -/
def lowerByte (b : UInt8) : UInt8 := if 65 ≤ b.toNat ∧ b.toNat ≤ 90 then b + 32 else b

theorem toNat_lowerByte (b : UInt8) :
    (lowerByte b).toNat = if 65 ≤ b.toNat ∧ b.toNat ≤ 90 then b.toNat + 32 else b.toNat := by
  unfold lowerByte
  split
  · rw [UInt8.toNat_add]
    show (b.toNat + 32) % 256 = b.toNat + 32
    omega
  · rfl

/-- Bytes that are no capitals are their own lower case. -/
theorem map_lowerByte_eq_self {s : Bytes} (h : ∀ b ∈ s, ¬ (65 ≤ b.toNat ∧ b.toNat ≤ 90)) :
    s.map lowerByte = s :=
  (List.map_congr_left fun b hb => if_neg (h b hb)).trans (List.map_id s)

theorem encodeChar_lower (c : Char) :
    Utf8.encodeChar (Text.lower c) = (Utf8.encodeChar c).map lowerByte := by
  by_cases hcapital : 'A' ≤ c ∧ c ≤ 'Z'
  · have hlow : 65 ≤ c.toNat := hcapital.1
    have hhigh : c.toNat ≤ 90 := hcapital.2
    have hmoved : (Text.lower c).toNat = c.toNat + 32 := by
      have hvalid : (c.toNat + 32).isValidChar := .inl (by omega)
      rw [Text.lower, if_pos hcapital, Char.ofNat, dif_pos hvalid]
      rfl
    have hcode (d : Char) (hd : d.toNat < 0x80) : Utf8.encodeChar d = [d.toNat.toUInt8] := by
      simp only [Utf8.encodeChar, if_pos hd]
    rw [hcode _ (by omega), hcode c (by omega), hmoved, List.map_singleton, List.singleton_inj,
      ← UInt8.toNat_inj, toNat_lowerByte, Utf8.toNat_toUInt8 (by omega),
      Utf8.toNat_toUInt8 (by omega), if_pos ⟨hlow, hhigh⟩]
  · rw [Text.lower, if_neg hcapital]
    refine (map_lowerByte_eq_self fun x hx => ?_).symm
    rcases Utf8.encodeChar_cases c with ⟨hascii, h⟩ | ⟨-, b, t, h, hfirst, hinner⟩
    · rw [h, List.mem_singleton] at hx
      rw [hx, Utf8.toNat_toUInt8 (by omega)]
      exact hcapital
    · rw [h, List.mem_cons] at hx
      rcases hx with rfl | hx
      · omega
      · have := (hinner x hx).1
        omega

theorem encode_lowered (text : List Char) :
    Utf8.encode (lowered text) = (Utf8.encode text).map lowerByte := by
  induction text with
  | nil => rfl
  | cons c text ih =>
    rw [Utf8.encode_cons, List.map_append, ← ih, ← encodeChar_lower]
    rfl

/-! ## Digits -/

theorem toNat_digit_lower :
    ∀ n < 16, (digit 97 n).toNat = if n < 10 then 48 + n else 87 + n := by decide

/-- A byte has the value of the digit that its lower case is. -/
theorem value_eq_some_iff {b : UInt8} {n : Nat} :
    value b.toNat = some n ↔ n < 16 ∧ lowerByte b = (digit 97 n).toNat.toUInt8 := by
  have hbyte (hn : n < 16) : lowerByte b = (digit 97 n).toNat.toUInt8 ↔
      (if 65 ≤ b.toNat ∧ b.toNat ≤ 90 then b.toNat + 32 else b.toNat) =
        if n < 10 then 48 + n else 87 + n := by
    have hsmall : (digit 97 n).toNat < 256 := by
      rw [toNat_digit_lower n hn]
      split <;> omega
    rw [← UInt8.toNat_inj, toNat_lowerByte, Utf8.toNat_toUInt8 hsmall, toNat_digit_lower n hn]
  by_cases hn : n < 16
  · rw [hbyte hn]
    unfold value
    repeat' split
    all_goals simp only [Option.some.injEq, reduceCtorEq, false_iff, hn, true_and]
    all_goals omega
  · refine ⟨fun h => absurd ?_ hn, fun h => absurd h.1 hn⟩
    unfold value at h
    repeat' split at h
    all_goals simp only [Option.some.injEq, reduceCtorEq] at h
    all_goals omega

theorem digitAt_eq_ok_iff {b : UInt8} {position n : Nat} :
    digitAt b position = .ok n ↔ value b.toNat = some n := by
  unfold digitAt
  split <;> simp_all

/-! ## Decoding -/

/-- The two digits of a byte. -/
theorem eq_toUInt8_iff {b : UInt8} {high low : Nat} (hhigh : high < 16) (hlow : low < 16) :
    b = (high * 16 + low).toUInt8 ↔ high = b.toNat / 16 ∧ low = b.toNat % 16 := by
  rw [← UInt8.toNat_inj, Utf8.toNat_toUInt8 (by omega)]
  omega

theorem pairs_cons_eq_ok_iff {position : Nat} {high low : UInt8} {raw s : Bytes} :
    pairs position (high :: low :: raw) = .ok s ↔
      ∃ i j tail, value high.toNat = some i ∧ value low.toNat = some j ∧
        pairs (position + 2) raw = .ok tail ∧ s = (i * 16 + j).toUInt8 :: tail := by
  simp only [pairs, bind_eq_ok_iff, digitAt_eq_ok_iff]
  constructor
  · rintro ⟨i, hi, j, hj, tail, htail, hs⟩
    cases hs
    exact ⟨i, j, tail, hi, hj, htail, rfl⟩
  · rintro ⟨i, j, tail, hi, hj, htail, rfl⟩
    exact ⟨i, hi, j, hj, tail, htail, rfl⟩

theorem pairs_eq_ok_iff {position : Nat} {raw s : Bytes} (heven : raw.length % 2 = 0) :
    pairs position raw = .ok s ↔ raw.map lowerByte = Utf8.encode (lower s) := by
  induction s generalizing position raw with
  | nil =>
    match raw with
    | [] => exact ⟨fun _ => rfl, fun _ => rfl⟩
    | [_] => simp at heven
    | high :: low :: raw =>
      rw [pairs_cons_eq_ok_iff]
      exact ⟨nofun, nofun⟩
  | cons b s ih =>
    rw [encode_lower_cons]
    match raw with
    | [] => exact ⟨nofun, nofun⟩
    | [_] => simp at heven
    | high :: low :: raw =>
      have hraw : raw.length % 2 = 0 := by
        rw [List.length_cons, List.length_cons] at heven
        omega
      have hb : b.toNat / 16 < 16 := by
        have := b.toNat_lt
        omega
      have hb' : b.toNat % 16 < 16 := Nat.mod_lt _ (by decide)
      have hpairs : pairs (position + 2) raw = .ok s ↔
          raw.map lowerByte = Utf8.encode (lower s) := ih hraw
      rw [pairs_cons_eq_ok_iff, List.map_cons, List.map_cons, List.cons.injEq, List.cons.injEq,
        ← hpairs]
      constructor
      · rintro ⟨i, j, tail, hi, hj, htail, h⟩
        obtain ⟨hi16, hi⟩ := value_eq_some_iff.1 hi
        obtain ⟨hj16, hj⟩ := value_eq_some_iff.1 hj
        obtain ⟨hbyte, rfl⟩ := List.cons.inj h
        obtain ⟨rfl, rfl⟩ := (eq_toUInt8_iff hi16 hj16).1 hbyte
        exact ⟨hi, hj, htail⟩
      · rintro ⟨hi, hj, htail⟩
        refine ⟨_, _, s, value_eq_some_iff.2 ⟨hb, hi⟩, value_eq_some_iff.2 ⟨hb', hj⟩, htail, ?_⟩
        rw [← (eq_toUInt8_iff hb hb').2 ⟨rfl, rfl⟩]

theorem length_encode_lower (s : Bytes) : (Utf8.encode (lower s)).length = 2 * s.length := by
  induction s with
  | nil => rfl
  | cons b s ih =>
    rw [encode_lower_cons, List.length_cons, List.length_cons, ih, List.length_cons]
    omega

/-- Bytes are decoded to the bytes whose digits their lower cases are. -/
theorem decode_eq_ok_iff {raw s : Bytes} :
    decode raw = .ok s ↔ raw.map lowerByte = Utf8.encode (lower s) := by
  unfold decode
  split
  · rename_i heven
    exact pairs_eq_ok_iff heven
  · rename_i hodd
    refine ⟨nofun, fun h => ?_⟩
    have hlength := congrArg List.length h
    rw [List.length_map, length_encode_lower] at hlength
    omega

/-- A text is decoded to the bytes that it writes, and only then. -/
theorem decode_encode_eq_ok_iff {text : List Char} {s : Bytes} :
    decode (Utf8.encode text) = .ok s ↔ Spells text s := by
  rw [decode_eq_ok_iff, ← encode_lowered, Utf8.encode_inj]
  rfl

end HostSurvey.Text.Hex
