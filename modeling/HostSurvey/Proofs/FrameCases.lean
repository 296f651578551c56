import HostSurvey.Packet.Header

/-!
# Frames that carry IPv4

Decoding a frame has two outcomes. Where the frame carries an IPv4 datagram
whose fixed header is there, the network header and then the transport header
are read; any other frame tells its ethertype and nothing more.
-/

namespace HostSurvey.Header

/-- The ethertype is that of IPv4, and a header of version 4 has room behind it. -/
def CarriesIpv4 (data : Bytes) : Prop :=
  (link data).1 = ethertypeIpv4 ∧ (link data).2 + 20 ≤ data.length ∧
    ((data.byte? (link data).2).getD 0).toNat / 16 = 4

/-- The header without what the headers behind the ethertype tell. -/
def ofLink (number : UInt64) (data : Bytes) : Header :=
  { eth := (link data).1, frame := number, size := data.length.toUInt32 }

/-- The header without what the transport header tells. -/
def ofNetwork (number : UInt64) (data : Bytes) : Header :=
  { ofLink number data with
    ttl := (data.byte? ((link data).2 + 8 : Nat)).getD 0
    proto := (data.byte? ((link data).2 + 9 : Nat)).getD 0 }

/-- Where the transport header starts. -/
def transportStart (data : Bytes) : Nat :=
  (link data).2 + max (((data.byte? (link data).2).getD 0).toNat % 16 * 4) 20

/-- Where the datagram ends, as far as it was captured. -/
def datagramEnd (data : Bytes) : Nat :=
  let total := (word data ((link data).2 + 2)).toNat
  if total = 0 then data.length else min ((link data).2 + total) data.length

theorem ofFrame_of_carriesIpv4 {data : Bytes} (h : CarriesIpv4 data) (number : UInt64) :
    ofFrame number data =
      let (told, stop) := (ofNetwork number data).transport data (transportStart data)
      ({ told with dsize := (datagramEnd data - min stop data.length).toUInt32 },
        min stop data.length) := by
  obtain ⟨hethertype, hlong, hversion⟩ := h
  have hread : ¬ ((link data).1 ≠ ethertypeIpv4 ∨ data.length < (link data).2 + 20) := by
    rintro (hne | hshort)
    · exact hne hethertype
    · omega
  unfold ofFrame
  simp only
  rw [if_neg hread, if_neg (Decidable.not_not.2 hversion)]
  rfl

theorem ofFrame_of_not_carriesIpv4 {data : Bytes} (h : ¬ CarriesIpv4 data) (number : UInt64) :
    ofFrame number data = (ofLink number data, min (link data).2 data.length) := by
  unfold ofFrame
  simp only
  split
  · rfl
  · rename_i hread
    obtain ⟨hethertype, hlong⟩ := not_or.1 hread
    have hversion : ((data.byte? (link data).2).getD 0).toNat / 16 ≠ 4 := fun hversion =>
      h ⟨Decidable.not_not.1 hethertype, by omega, hversion⟩
    rw [if_pos hversion, Nat.min_eq_left (by omega)]
    rfl

end HostSurvey.Header
