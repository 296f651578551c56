import HostSurvey.Show.Command
import Mathlib.Data.List.Infix
import Mathlib.Order.Bounds.Basic

/-!
# The longest stretch in common

`longestCommon` is worked out row by row, from the agreements of each part of a
list with each part of the other one. It is the greatest length of a list that
stands in one piece in both.
-/

namespace HostSurvey

section Lengths

variable {α : Type} {s t : List α} {n : Nat}

/-- The lengths of the lists that stand in one piece in both. -/
def commonLengths (s t : List α) : Set Nat := { n | ∃ w, w <:+: s ∧ w <:+: t ∧ w.length = n }

theorem zero_mem_commonLengths (s t : List α) : 0 ∈ commonLengths s t :=
  ⟨[], List.nil_infix, List.nil_infix, rfl⟩

theorem le_length_of_mem_commonLengths (h : n ∈ commonLengths s t) : n ≤ s.length := by
  obtain ⟨w, hs, -, rfl⟩ := h
  exact hs.length_le

theorem commonLengths_comm (s t : List α) : commonLengths s t = commonLengths t s := by
  ext n
  exact exists_congr fun w => and_left_comm

theorem length_mem_commonLengths_iff : s.length ∈ commonLengths s t ↔ s <:+: t := by
  refine ⟨fun ⟨w, hs, ht, hw⟩ => ?_, fun h => ⟨s, List.infix_refl s, h, rfl⟩⟩
  rwa [← hs.eq_of_length hw]

end Lengths

section Longest

variable {α : Type} [DecidableEq α] {s t : List α}

theorem isGreatest_agreement (s t : List α) :
    IsGreatest { n | ∃ w, w <+: s ∧ w <+: t ∧ w.length = n } (agreement s t) := by
  refine ⟨⟨s.take (agreement s t), List.take_prefix _ s, ?_, ?_⟩, ?_⟩
  · rw [take_agreement]
    exact List.take_prefix _ t
  · rw [List.length_take, Nat.min_eq_left (agreement_le_length s t)]
  · rintro n ⟨w, hs, ht, rfl⟩
    induction w generalizing s t with
    | nil => exact Nat.zero_le _
    | cons a w ih =>
      obtain ⟨s, rfl⟩ := hs
      obtain ⟨t, rfl⟩ := ht
      simp only [List.cons_append, agreement, ↓reduceIte, List.length_cons]
      exact Nat.succ_le_succ (ih _ _ (List.prefix_append w s) (List.prefix_append w t))

/-- The starts of one list that stand anywhere in the other one. -/
theorem isGreatest_longestAgreement (s t : List α) :
    IsGreatest { n | ∃ w, w <+: s ∧ w <:+: t ∧ w.length = n } (longestAgreement s t) := by
  induction t with
  | nil =>
    refine ⟨⟨[], List.nil_prefix, List.nil_infix, rfl⟩, ?_⟩
    rintro n ⟨w, -, ht, rfl⟩
    rw [List.infix_nil.1 ht]
    rfl
  | cons b t ih =>
    have hsplit : { n | ∃ w, w <+: s ∧ w <:+: b :: t ∧ w.length = n } =
        { n | ∃ w, w <+: s ∧ w <+: b :: t ∧ w.length = n } ∪
          { n | ∃ w, w <+: s ∧ w <:+: t ∧ w.length = n } := by
      ext n
      simp only [Set.mem_union, Set.mem_ofPred_eq, List.infix_cons_iff, or_and_right, and_or_left,
        exists_or]
    rw [hsplit]
    exact (isGreatest_agreement s (b :: t)).union ih

theorem isGreatest_longestCommon (s t : List α) :
    IsGreatest (commonLengths s t) (longestCommon s t) := by
  induction s with
  | nil => exact ⟨zero_mem_commonLengths [] t, fun n hn => le_length_of_mem_commonLengths hn⟩
  | cons a s ih =>
    have hsplit : commonLengths (a :: s) t =
        { n | ∃ w, w <+: a :: s ∧ w <:+: t ∧ w.length = n } ∪ commonLengths s t := by
      ext n
      simp only [commonLengths, Set.mem_union, Set.mem_ofPred_eq, List.infix_cons_iff, or_and_right,
        exists_or]
    rw [hsplit, longestCommon_cons]
    exact (isGreatest_longestAgreement (a :: s) t).union ih

theorem longestCommon_le_length (s t : List α) : longestCommon s t ≤ s.length :=
  le_length_of_mem_commonLengths (isGreatest_longestCommon s t).1

/-- All of a list is in common with another one if and only if it stands in it. -/
theorem longestCommon_eq_length_iff : longestCommon s t = s.length ↔ s <:+: t := by
  rw [← length_mem_commonLengths_iff]
  refine ⟨fun h => h ▸ (isGreatest_longestCommon s t).1, fun h => ?_⟩
  exact Nat.le_antisymm (longestCommon_le_length s t) ((isGreatest_longestCommon s t).2 h)

theorem longestCommon_comm (s t : List α) : longestCommon s t = longestCommon t s := by
  have h := isGreatest_longestCommon t s
  rw [commonLengths_comm] at h
  exact (isGreatest_longestCommon s t).unique h

end Longest

/-- Bytes of this length stand in one piece in both, and none that are longer do. So it does not
matter which of the two comes first, no more is in common than the shorter one has, and all of the
first one is exactly where it stands in the other one. -/
theorem longestCommon_of_bytes (a b : Bytes) :
    IsGreatest (commonLengths a b) (longestCommon a b) ∧
    longestCommon a b = longestCommon b a ∧
    longestCommon a b ≤ min a.length b.length ∧
    (longestCommon a b = a.length ↔ a <:+: b) := by
  refine ⟨isGreatest_longestCommon a b, longestCommon_comm a b, le_min ?_ ?_,
    longestCommon_eq_length_iff⟩
  · exact longestCommon_le_length a b
  · rw [longestCommon_comm]
    exact longestCommon_le_length b a

example :
    longestCommon (Registry.bytesOf "run".toList) (Registry.bytesOf "running-config".toList) = 3 ∧
      longestCommon (Registry.bytesOf "xyz".toList) (Registry.bytesOf "arp".toList) = 0 := by
  decide

end HostSurvey
