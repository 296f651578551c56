import HostSurvey.Proofs.MachineWords

/-!
# Bytes between two bounds

An extract takes its bounds in either order and a length that may be larger than
any of them. `IsSlice data low high part` says without reference to an algorithm
that `part` stands in the data from `low` up to `high`. What is extracted is the
slice from the lower bound to the higher one or to the end of the length,
whichever comes first, and words of a machine are wide enough to find it.
-/

namespace HostSurvey

namespace Bytes

variable {data part : Bytes} {low high start stop : Int}

/-- The bytes of `part` stand in the data from the address `low` up to the address `high`. -/
def IsSlice (data : Bytes) (low high : Int) (part : Bytes) : Prop :=
  ∃ before behind, data = before ++ part ++ behind ∧ (before.length : Int) = low ∧
    low + part.length = high

/-- Between two addresses of the data there is one slice. -/
theorem isSlice_iff (h : 0 ≤ low ∧ low ≤ high ∧ high ≤ data.length) :
    data.IsSlice low high part ↔ (data.drop low.toNat).take (high - low).toNat = part := by
  constructor
  · rintro ⟨before, behind, rfl, rfl, rfl⟩
    have hlength : ((before.length : Int) + part.length - before.length).toNat = part.length := by
      omega
    rw [Int.toNat_natCast, hlength, List.append_assoc, List.drop_left, List.take_left]
  · rintro rfl
    refine ⟨data.take low.toNat, data.drop (low.toNat + (high - low).toNat), ?_, ?_, ?_⟩
    · rw [← List.drop_drop, List.append_assoc, List.take_append_drop, List.take_append_drop]
    · rw [List.length_take]
      omega
    · rw [List.length_take, List.length_drop]
      omega

/-- The first bound lies inside the data, the second one may also be its end. -/
def Bounds (data : Bytes) (start stop : Int) : Prop :=
  (0 ≤ start ∧ start < data.length) ∧ 0 ≤ stop ∧ stop ≤ data.length

instance (data : Bytes) (start stop : Int) : Decidable (data.Bounds start stop) :=
  inferInstanceAs (Decidable ((0 ≤ start ∧ start < data.length) ∧ 0 ≤ stop ∧ stop ≤ data.length))

theorem extract_of_bounds (h : data.Bounds start stop) (length : Nat) :
    data.extract start stop length =
      (data.drop (min start stop).toNat).take
        (min length (max start stop - min start stop).toNat) :=
  if_pos ⟨h.1.1, h.1.2, h.2⟩

theorem extract_of_not_bounds (h : ¬ data.Bounds start stop) (length : Nat) :
    data.extract start stop length = [] :=
  if_neg fun hin => h ⟨⟨hin.1, hin.2.1⟩, hin.2.2⟩

/-- Inside the bounds, an extract is a slice that starts at the lower one. -/
theorem extract_eq_iff (h : data.Bounds start stop) (length : Nat) :
    data.extract start stop length = part ↔
      data.IsSlice (min start stop) (min (min start stop + length) (max start stop)) part := by
  obtain ⟨⟨hstart, hinside⟩, hstop, hlast⟩ := h
  have hcount : (min (min start stop + length) (max start stop) - min start stop).toNat =
      min length (max start stop - min start stop).toNat := by omega
  rw [extract_of_bounds ⟨⟨hstart, hinside⟩, hstop, hlast⟩, isSlice_iff (by omega), hcount]

theorem length_extract_le (data : Bytes) (start stop : Int) (length : Nat) :
    (data.extract start stop length).length ≤ length ∧
      ((data.extract start stop length).length : Int) ≤ max start stop - min start stop := by
  by_cases h : data.Bounds start stop
  · rw [extract_of_bounds h, List.length_take]
    omega
  · rw [extract_of_not_bounds h, List.length_nil]
    omega

/-- Nothing is extracted outside the bounds. Inside them it is just the slice from the lower bound
up to the higher one, or as far as the length reaches, in the order of its bytes or reversed. The
machine finds it for bounds and a length of any size. -/
theorem extract_between_bounds (data : Bytes) (start stop : Int) (length : Nat) :
    let low := min start stop
    let high := max start stop
    let little := Endian.little.arrange (data.extract start stop length)
    (data.IsHeld →
      Machine.extract data start stop length = .ok (data.extract start stop length)) ∧
    (¬ data.Bounds start stop → data.extract start stop length = [] ∧ little = []) ∧
    (data.Bounds start stop → ∀ part,
      (data.extract start stop length = part ↔
        data.IsSlice low (min (low + length) high) part) ∧
      (little = part ↔ data.IsSlice low (min (low + length) high) part.reverse)) ∧
    ∀ e : Endian, (e.arrange (data.extract start stop length)).length ≤ length ∧
      ((e.arrange (data.extract start stop length)).length : Int) ≤ high - low := by
  intro low high little
  have hlittle : little = (data.extract start stop length).reverse := rfl
  refine ⟨fun hdata => Machine.extract_eq hdata start stop length, fun hout => ?_,
    fun hin part => ⟨extract_eq_iff hin length, ?_⟩, fun e => ?_⟩
  · rw [hlittle, extract_of_not_bounds hout]
    exact ⟨rfl, rfl⟩
  · rw [hlittle, List.reverse_eq_iff]
    exact extract_eq_iff hin length
  · have hlength := data.length_extract_le start stop length
    cases e with
    | big => exact hlength
    | little => rwa [Endian.arrange, List.length_reverse]

def marked : Bytes := [0xDE, 0xAD, 0xBE, 0xEF, 0x00, 0x01, 0x02, 0x03]

/-- With the bounds reversed, the length counts from the lower one; the greatest length reaches to
the higher one, which is the end, and a first bound at the end or far before the data is outside. -/
theorem extract_between_bounds_reversed :
    (Machine.extract marked 4 1 2 = .ok [0xAD, 0xBE] ∧ marked.IsSlice 1 3 [0xAD, 0xBE] ∧
      Endian.little.arrange (marked.extract 4 1 2) = [0xBE, 0xAD]) ∧
    (Machine.extract marked 6 8 18446744073709551615 = .ok [0x02, 0x03] ∧
      marked.IsSlice 6 8 [0x02, 0x03]) ∧
    Machine.extract marked 8 7 4 = .ok [] ∧
    Machine.extract marked (-9223372036854775808) 9223372036854775807 4 = .ok [] := by
  obtain ⟨hback, -, hbackSlice, -⟩ := extract_between_bounds marked 4 1 2
  obtain ⟨hlong, -, hlongSlice, -⟩ := extract_between_bounds marked 6 8 18446744073709551615
  obtain ⟨hend, hendNone, -⟩ := extract_between_bounds marked 8 7 4
  obtain ⟨hfar, hfarNone, -⟩ :=
    extract_between_bounds marked (-9223372036854775808) 9223372036854775807 4
  have hheld : marked.IsHeld := by decide
  exact ⟨⟨hback hheld, ((hbackSlice (by decide) _).1).1 rfl, rfl⟩,
    ⟨hlong hheld, ((hlongSlice (by decide) _).1).1 rfl⟩,
    (hend hheld).trans (congrArg Except.ok (hendNone (by decide)).1),
    (hfar hheld).trans (congrArg Except.ok (hfarNone (by decide)).1)⟩

end Bytes

end HostSurvey
