import HostSurvey.Proofs.SectionFiles
import Mathlib.Data.String.Basic

/-!
# The bytes of characters

The first byte of a character is none of those that follow inside a character.
So a text whose bytes stand in the bytes of another text starts and ends at
characters of it: what is in common byte by byte is in common character by
character.
-/

namespace HostSurvey.Text.Utf8

/-- A byte of a character behind its first one. -/
def IsInner (b : UInt8) : Prop := 0x80 ≤ b.toNat ∧ b.toNat < 0xC0

theorem isInner_of_lt {k : Nat} (h : k < 64) : IsInner (0x80 + k).toUInt8 := by
  unfold IsInner
  rw [toNat_toUInt8 (by omega)]
  omega

/-- An ASCII character is one byte; any other has a first byte of its own kind and inner ones. -/
theorem encodeChar_cases (c : Char) :
    (c.toNat < 0x80 ∧ encodeChar c = [c.toNat.toUInt8]) ∨
      0x80 ≤ c.toNat ∧ ∃ b t, encodeChar c = b :: t ∧ 0xC0 ≤ b.toNat ∧ ∀ x ∈ t, IsInner x := by
  have hscalar := toNat_cases c
  have hlow : IsInner (0x80 + c.toNat % 64).toUInt8 :=
    isInner_of_lt (Nat.mod_lt _ (by decide))
  have hmiddle : IsInner (0x80 + c.toNat / 64 % 64).toUInt8 :=
    isInner_of_lt (Nat.mod_lt _ (by decide))
  have hhigh : IsInner (0x80 + c.toNat / 4096 % 64).toUInt8 :=
    isInner_of_lt (Nat.mod_lt _ (by decide))
  by_cases hone : c.toNat < 0x80
  · refine .inl ⟨hone, ?_⟩
    simp only [encodeChar, if_pos hone]
  · refine .inr ⟨by omega, ?_⟩
    simp only [encodeChar, if_neg hone]
    split
    · refine ⟨_, [_], rfl, ?_, List.forall_mem_singleton.2 hlow⟩
      rw [toNat_toUInt8 (by omega)]
      omega
    · split
      · refine ⟨_, [_, _], rfl, ?_,
          List.forall_mem_cons.2 ⟨hmiddle, List.forall_mem_singleton.2 hlow⟩⟩
        rw [toNat_toUInt8 (by omega)]
        omega
      · refine ⟨_, [_, _, _], rfl, ?_,
          List.forall_mem_cons.2 ⟨hhigh,
            List.forall_mem_cons.2 ⟨hmiddle, List.forall_mem_singleton.2 hlow⟩⟩⟩
        rw [toNat_toUInt8 (by omega)]
        omega

theorem exists_encodeChar (c : Char) :
    ∃ b t, encodeChar c = b :: t ∧ ¬ IsInner b ∧ ∀ x ∈ t, IsInner x := by
  rcases encodeChar_cases c with ⟨hlow, h⟩ | ⟨-, b, t, h, hfirst, hinner⟩
  · refine ⟨_, [], h, fun hinner => ?_, by simp⟩
    rw [IsInner, toNat_toUInt8 (by omega)] at hinner
    omega
  · exact ⟨b, t, h, fun hb => by unfold IsInner at hb; omega, hinner⟩

theorem encode_cons (c : Char) (s : List Char) : encode (c :: s) = encodeChar c ++ encode s := rfl

theorem encode_append (s t : List Char) : encode (s ++ t) = encode s ++ encode t :=
  List.flatMap_append

theorem encode_inj {s t : List Char} : encode s = encode t ↔ s = t := by
  refine ⟨fun h => ?_, fun h => h ▸ rfl⟩
  rw [← lossy_encode s, h, lossy_encode]

theorem length_encodeChar (c : Char) : (encodeChar c).length = c.utf8Size := by
  have hsize : c.utf8Size = if c.toNat ≤ 0x7F then 1 else if c.toNat ≤ 0x7FF then 2
      else if c.toNat ≤ 0xFFFF then 3 else 4 := by
    unfold Char.utf8Size
    simp only [UInt32.le_iff_toNat_le]
    rfl
  rw [hsize]
  unfold encodeChar
  simp only
  repeat' split
  all_goals first
    | rfl
    | omega

/-- The bytes of a string are counted as its characters are written. -/
theorem length_encode (s : String) : (encode s.toList).length = s.utf8ByteSize := by
  conv => rhs; rw [← String.ofList_toList (s := s), String.utf8ByteSize_ofList]
  induction s.toList with
  | nil => rfl
  | cons c l ih =>
    rw [encode_cons, List.length_append, length_encodeChar, ih, String.utf8Len_cons, Nat.add_comm]

/-- An ASCII text has a byte for each character. -/
theorem length_encode_of_ascii {s : List Char} (h : ∀ c ∈ s, c.toNat < 0x80) :
    (encode s).length = s.length := by
  induction s with
  | nil => rfl
  | cons c s ih =>
    obtain ⟨hc, hs⟩ := List.forall_mem_cons.1 h
    have hone : encodeChar c = [c.toNat.toUInt8] := by simp only [encodeChar, if_pos hc]
    rw [encode_cons, List.length_append, ih hs, hone, List.length_singleton, List.length_cons,
      Nat.add_comm]

/-! ## Stretches of texts -/

theorem encode_isPrefix_iff {s t : List Char} : encode s <+: encode t ↔ s <+: t := by
  refine ⟨fun h => ?_, fun ⟨u, hu⟩ => ⟨encode u, by rw [← hu, encode_append]⟩⟩
  induction s generalizing t with
  | nil => exact List.nil_prefix
  | cons c s ih =>
    obtain ⟨y, hy⟩ := h
    obtain ⟨b, u, hchar, hnext⟩ := next_encodeChar c
    cases t with
    | nil =>
      rw [encode_cons, hchar] at hy
      cases hy
    | cons d t =>
      obtain ⟨b', u', hchar', hnext'⟩ := next_encodeChar d
      rw [encode_cons, encode_cons, hchar, hchar', List.append_assoc, List.cons_append,
        List.cons_append, List.cons.injEq] at hy
      obtain ⟨rfl, hy⟩ := hy
      -- one reading of the same bytes gives both characters and what is behind them
      have hread := hnext (encode s ++ y)
      rw [hy, hnext', Prod.mk.injEq, Option.some.injEq] at hread
      obtain ⟨rfl, hrest⟩ := hread
      exact (List.prefix_cons_inj d).2 (ih ⟨y, hrest.symm⟩)

/-- Bytes that stand in the bytes of a text and start like a character start at a character. -/
theorem isInfix_of_append_eq {s t : List Char} {x y : Bytes} (hne : s ≠ [])
    (h : x ++ (encode s ++ y) = encode t) : s <:+: t := by
  induction t generalizing x with
  | nil =>
    obtain ⟨c, s', rfl⟩ := List.exists_cons_of_ne_nil hne
    obtain ⟨b, u, hchar, -, -⟩ := exists_encodeChar c
    rw [encode_cons, hchar] at h
    simp [encode] at h
  | cons d t ih =>
    cases x with
    | nil => exact (encode_isPrefix_iff.1 ⟨y, h⟩).isInfix
    | cons a x =>
      obtain ⟨c, s, rfl⟩ := List.exists_cons_of_ne_nil hne
      obtain ⟨b, u, hchar, hfirst, -⟩ := exists_encodeChar c
      obtain ⟨b', u', hchar', -, hinner⟩ := exists_encodeChar d
      have htail : x ++ (encode (c :: s) ++ y) = u' ++ encode t := by
        rw [encode_cons d, hchar', List.cons_append, List.cons_append, List.cons.injEq] at h
        exact h.2
      have hsuffix : t <:+: d :: t := (List.suffix_cons d t).isInfix
      rcases List.append_eq_append_iff.1 htail with ⟨w, hu, hw⟩ | ⟨w, -, hw⟩
      · cases w with
        | nil => exact (ih (x := []) hw).trans hsuffix
        | cons z w =>
          -- the first byte of the text would be an inner one of this character
          rw [encode_cons c, hchar, List.cons_append, List.cons_append, List.cons_append,
            List.cons.injEq] at hw
          exact absurd (hinner z (by simp [hu])) (hw.1 ▸ hfirst)
      · exact (ih hw.symm).trans hsuffix

/-- A text stands in another one if and only if its bytes do. -/
theorem encode_isInfix_iff {s t : List Char} : encode s <:+: encode t ↔ s <:+: t := by
  constructor
  · rintro ⟨x, y, h⟩
    by_cases hne : s = []
    · subst hne
      exact List.nil_infix
    · exact isInfix_of_append_eq hne (List.append_assoc x _ y ▸ h)
  · rintro ⟨u, v, rfl⟩
    exact ⟨encode u, encode v, by rw [encode_append, encode_append]⟩

end HostSurvey.Text.Utf8
