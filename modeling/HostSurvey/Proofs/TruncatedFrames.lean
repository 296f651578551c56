import HostSurvey.Proofs.FrameCases
import HostSurvey.Proofs.NetworkOrder

/-!
# Frames that were cut short

A capture may hold only the first bytes of a frame. A field that the cut leaves
whole is that of the full frame, and one behind the cut is blank. A field of
several bytes that the cut parts is neither: its bytes up to the cut are read as
a smaller number.
-/

namespace HostSurvey

namespace Bytes

/-- The data ends inside the `width` bytes at `offset`. -/
def Parts (data : Bytes) (offset width : Nat) : Prop :=
  offset < data.length ∧ data.length < offset + width

instance (data : Bytes) (offset width : Nat) : Decidable (data.Parts offset width) :=
  inferInstanceAs (Decidable (_ ∧ _))

theorem number_take_cases (data : Bytes) (n offset : Nat) {width : Nat} (hwidth : width ≤ 4) :
    number (data.take n) offset width .big = number data offset width .big ∨
      number (data.take n) offset width .big = 0 ∨
      Parts (data.take n) offset width ∧
        number (data.take n) offset width .big = value ((data.take n).drop offset) := by
  by_cases hwhole : offset + width ≤ n
  · exact .inl (number_take_of_le hwhole data)
  · by_cases hbehind : (data.take n).length ≤ offset
    · exact .inr (.inl (number_of_length_le hbehind width))
    · have hcut : (data.take n).length < offset + width := by
        rw [List.length_take]
        omega
      exact .inr (.inr ⟨⟨by omega, hcut⟩, number_of_parted hwidth hcut⟩)

end Bytes

namespace Header

open Bytes (Parts value)

/-- A field of a cut frame is that of the full one or blank. -/
def KeptOrBlank {α : Type} (blanks : List α) (full cut : α) : Prop := cut = full ∨ cut ∈ blanks

/-- A field of a cut frame is that of the full one or blank, or the cut parts it and it is read
from the bytes up to the cut. -/
def KeptOrParted {α : Type} (data : Bytes) (offset width : Nat) (read : Nat → α) (blanks : List α)
    (full cut : α) : Prop :=
  KeptOrBlank blanks full cut ∨
    Parts data offset width ∧ cut = read (value (data.drop offset))

/-- Cutting a frame only blanks fields. -/
structure Degrades (cut full : Header) : Prop where
  eth : KeptOrBlank [0] full.eth cut.eth
  ttl : KeptOrBlank [0] full.ttl cut.ttl
  proto : KeptOrBlank [0] full.proto cut.proto
  src : KeptOrBlank [0] full.src cut.src
  dst : KeptOrBlank [0] full.dst cut.dst
  window : KeptOrBlank [0] full.window cut.window
  flags : KeptOrBlank [""] full.flags cut.flags
  seq : KeptOrBlank ["", "0"] full.seq cut.seq
  ack : KeptOrBlank ["", "0"] full.ack cut.ack

/-- Where the ethertype stands: behind the VLAN tag if there is one. -/
def ethertypeStart (data : Bytes) : Nat := if word data 12 = ethertypeVlan then 16 else 12

def readWord (n : Nat) : UInt16 := n.toUInt16

def readText (n : Nat) : String := String.ofList (Text.Decimal.ofNat n)

def readFlags (n : Nat) : String := Flags.names (n.toUInt16 &&& 0x01FF)

/-- The fields of a frame of which `data` are the first bytes. -/
structure CutShort (data : Bytes) (cut full : Header) : Prop where
  eth : KeptOrParted data (ethertypeStart data) 2 readWord [0] full.eth cut.eth
  ttl : KeptOrBlank [0] full.ttl cut.ttl
  proto : KeptOrBlank [0] full.proto cut.proto
  src : KeptOrParted data (transportStart data) 2 readWord [0] full.src cut.src
  dst : KeptOrParted data (transportStart data + 2) 2 readWord [0] full.dst cut.dst
  seq : KeptOrParted data (transportStart data + 4) 4 readText ["", "0"] full.seq cut.seq
  ack : KeptOrParted data (transportStart data + 8) 4 readText ["", "0"] full.ack cut.ack
  flags : KeptOrParted data (transportStart data + 12) 2 readFlags [""] full.flags cut.flags
  window : KeptOrParted data (transportStart data + 14) 2 readWord [0] full.window cut.window

theorem keptOrBlank_self {α : Type} {blanks : List α} (x : α) : KeptOrBlank blanks x x := .inl rfl

theorem keptOrParted_blank {α : Type} {data : Bytes} {offset width : Nat} {read : Nat → α}
    {blanks : List α} {full cut : α} (h : cut ∈ blanks) :
    KeptOrParted data offset width read blanks full cut :=
  .inl (.inr h)

/-- What is made of a number in a cut frame. -/
theorem keptOrParted_number {α : Type} (frame : Bytes) (n offset : Nat) {width : Nat}
    (hwidth : width ≤ 4) {read : Nat → α} {blanks : List α} (hzero : read 0 ∈ blanks) :
    KeptOrParted (frame.take n) offset width read blanks
      (read (frame.number offset width .big))
      (read (Bytes.number (frame.take n) offset width .big)) := by
  obtain h | h | ⟨hparts, h⟩ := Bytes.number_take_cases frame n offset hwidth
  · exact .inl (.inl (congrArg read h))
  · exact .inl (.inr (by rwa [h]))
  · exact .inr ⟨hparts, congrArg read h⟩

/-! ## The ethertype -/

theorem link_eq (data : Bytes) :
    link data = (word data (ethertypeStart data), ethertypeStart data + 2) := by
  unfold link ethertypeStart
  split <;> rfl

/-- Fewer than two bytes do not make up the type of a VLAN tag. -/
theorem ethertypeStart_of_short {data : Bytes} (h : data.length < 14) :
    ethertypeStart data = 12 := by
  have hlength : (data.drop 12).length ≤ 1 := by
    rw [List.length_drop]
    omega
  have hsmall : data.number (12 : Nat) 2 .big < 256 := by
    rw [Bytes.number_of_parted (by decide) h]
    refine Nat.lt_of_lt_of_le (Bytes.value_lt _) ?_
    rw [Nat.one_shiftLeft]
    exact Nat.pow_le_pow_right (by decide : 0 < 2) (by omega : 8 * (data.drop 12).length ≤ 8)
  have hne : word data 12 ≠ ethertypeVlan := by
    intro heq
    have htoNat : (word data 12).toNat = data.number (12 : Nat) 2 .big :=
      Nat.mod_eq_of_lt (Nat.lt_trans hsmall (by decide))
    rw [heq] at htoNat
    rw [← htoNat] at hsmall
    exact absurd hsmall (by decide)
  unfold ethertypeStart
  rw [if_neg hne]

theorem word_take {frame : Bytes} {n offset : Nat} (h : offset + 2 ≤ n) :
    word (frame.take n) offset = word frame offset :=
  congrArg Nat.toUInt16 (Bytes.number_take_of_le h frame)

theorem ethertypeStart_take {frame : Bytes} {n : Nat} (h : 14 ≤ n) :
    ethertypeStart (frame.take n) = ethertypeStart frame := by
  unfold ethertypeStart
  rw [word_take h]

theorem eth_take (frame : Bytes) (n : Nat) :
    KeptOrParted (frame.take n) (ethertypeStart (frame.take n)) 2 readWord [0] (link frame).1
      (link (frame.take n)).1 := by
  rw [link_eq, link_eq]
  by_cases h : 14 ≤ n
  · rw [ethertypeStart_take h]
    exact keptOrParted_number frame n _ (by decide) (List.mem_singleton.2 rfl)
  · -- the full frame may have its ethertype elsewhere, but this one holds no whole ethertype
    have hshort : (frame.take n).length < 14 := by
      rw [List.length_take]
      omega
    rw [ethertypeStart_of_short hshort]
    by_cases hnone : (frame.take n).length ≤ 12
    · refine keptOrParted_blank (List.mem_singleton.2 ?_)
      exact congrArg Nat.toUInt16 (Bytes.number_of_length_le hnone 2)
    · refine .inr ⟨⟨by omega, hshort⟩, ?_⟩
      exact congrArg Nat.toUInt16 (Bytes.number_of_parted (by decide) hshort)

/-! ## The headers behind it -/

theorem carriesIpv4_of_take {frame : Bytes} {n : Nat} (h : CarriesIpv4 (frame.take n)) :
    CarriesIpv4 frame ∧ link (frame.take n) = link frame ∧ (link frame).2 + 20 ≤ n := by
  obtain ⟨hethertype, hlong, hversion⟩ := h
  rw [List.length_take] at hlong
  have hstart : ethertypeStart (frame.take n) = ethertypeStart frame := by
    refine ethertypeStart_take ?_
    omega
  have hlink : link (frame.take n) = link frame := by
    rw [link_eq] at hlong
    rw [link_eq, link_eq, word_take (by omega), hstart]
  rw [hlink] at hethertype hlong hversion
  rw [Bytes.byte?_take_of_lt (by omega)] at hversion
  exact ⟨⟨hethertype, by omega, hversion⟩, hlink, by omega⟩

theorem ofNetwork_take {frame : Bytes} {n : Nat} (hlink : link (frame.take n) = link frame)
    (hn : (link frame).2 + 20 ≤ n) (number : UInt64) :
    ofNetwork number (frame.take n) =
      { ofNetwork number frame with size := (frame.take n).length.toUInt32 } := by
  unfold ofNetwork ofLink
  rw [hlink, Bytes.byte?_take_of_lt (by omega), Bytes.byte?_take_of_lt (by omega)]

theorem transportStart_take {frame : Bytes} {n : Nat} (hlink : link (frame.take n) = link frame)
    (hn : (link frame).2 + 20 ≤ n) : transportStart (frame.take n) = transportStart frame := by
  unfold transportStart
  rw [hlink, Bytes.byte?_take_of_lt (by omega)]

theorem cutShort_transport {frame : Bytes} {n : Nat} (hlink : link (frame.take n) = link frame)
    (hn : (link frame).2 + 20 ≤ n) (number : UInt64) :
    CutShort (frame.take n)
      ((ofNetwork number (frame.take n)).transport (frame.take n) (transportStart frame)).1
      ((ofNetwork number frame).transport frame (transportStart frame)).1 := by
  have hstart := transportStart_take hlink hn
  have hword (k : Nat) :
      KeptOrParted (frame.take n) (transportStart (frame.take n) + k) 2 readWord [0]
        (word frame (transportStart frame + k))
        (word (frame.take n) (transportStart frame + k)) := by
    rw [hstart]
    exact keptOrParted_number frame n _ (by decide) (List.mem_singleton.2 rfl)
  have htext (k : Nat) : KeptOrParted (frame.take n) (transportStart (frame.take n) + k) 4 readText
      ["", "0"] (wordText frame (transportStart frame + k))
      (wordText (frame.take n) (transportStart frame + k)) := by
    rw [hstart]
    exact keptOrParted_number frame n _ (by decide) (by decide)
  have hflags : KeptOrParted (frame.take n) (transportStart (frame.take n) + 12) 2 readFlags [""]
      (Flags.names (word frame (transportStart frame + 12) &&& 0x01FF))
      (Flags.names (word (frame.take n) (transportStart frame + 12) &&& 0x01FF)) := by
    rw [hstart]
    exact keptOrParted_number frame n _ (by decide) (by decide)
  have hblank {α : Type} {offset width : Nat} {read : Nat → α} {blanks : List α} {x : α} :
      KeptOrParted (frame.take n) offset width read blanks x x := .inl (keptOrBlank_self x)
  rw [ofNetwork_take hlink hn]
  unfold transport
  simp only
  by_cases htcp : (ofNetwork number frame).proto = protoTcp
  · rw [if_pos htcp, if_pos htcp]
    exact ⟨hblank, keptOrBlank_self _, keptOrBlank_self _, hword 0, hword 2, htext 4, htext 8,
      hflags, hword 14⟩
  · rw [if_neg htcp, if_neg htcp]
    by_cases hudp : (ofNetwork number frame).proto = protoUdp
    · rw [if_pos hudp, if_pos hudp]
      exact ⟨hblank, keptOrBlank_self _, keptOrBlank_self _, hword 0, hword 2, hblank, hblank,
        hblank, hblank⟩
    · rw [if_neg hudp, if_neg hudp]
      exact ⟨hblank, keptOrBlank_self _, keptOrBlank_self _, hblank, hblank, hblank, hblank,
        hblank, hblank⟩

/-- A frame that was cut before its network header was whole tells its ethertype alone. -/
theorem cutShort_ofLink (number : UInt64) (frame : Bytes) (n : Nat) {full : Header}
    (heth : full.eth = (link frame).1) :
    CutShort (frame.take n) (ofLink number (frame.take n)) full := by
  have hword {offset : Nat} {x : UInt16} :
      KeptOrParted (frame.take n) offset 2 readWord [0] x (0 : UInt16) :=
    keptOrParted_blank (by decide)
  have hbyte {x : UInt8} : KeptOrBlank [0] x (0 : UInt8) := .inr (by decide)
  have htext {offset width : Nat} {read : Nat → String} {blanks : List String} {x : String}
      (h : "" ∈ blanks) : KeptOrParted (frame.take n) offset width read blanks x "" :=
    keptOrParted_blank h
  refine ⟨?_, hbyte, hbyte, hword, hword, htext (by decide), htext (by decide), htext (by decide),
    hword⟩
  rw [heth]
  exact eth_take frame n

theorem eth_ofFrame (number : UInt64) (frame : Bytes) :
    (ofFrame number frame).1.eth = (link frame).1 := by
  by_cases h : CarriesIpv4 frame
  · rw [ofFrame_of_carriesIpv4 h]
    unfold transport
    simp only
    split
    · rfl
    · split <;> rfl
  · rw [ofFrame_of_not_carriesIpv4 h]
    rfl

/-- The cut parts a field of several bytes. -/
def PartsField (data : Bytes) : Prop :=
  Parts data (ethertypeStart data) 2 ∨
    ∃ field ∈ [(0, 2), (2, 2), (4, 4), (8, 4), (12, 2), (14, 2)],
      Parts data (transportStart data + field.1) field.2

theorem CutShort.degrades {data : Bytes} {cut full : Header} (h : CutShort data cut full)
    (hwhole : ¬ PartsField data) : Degrades cut full := by
  have hkept {α : Type} {k width : Nat} {read : Nat → α} {blanks : List α} {x y : α}
      (hfield : (k, width) ∈ [(0, 2), (2, 2), (4, 4), (8, 4), (12, 2), (14, 2)])
      (h : KeptOrParted data (transportStart data + k) width read blanks x y) :
      KeptOrBlank blanks x y :=
    h.resolve_right fun hparted => hwhole (.inr ⟨(k, width), hfield, hparted.1⟩)
  refine ⟨h.eth.resolve_right fun hparted => hwhole (.inl hparted.1), h.ttl, h.proto, ?_, ?_, ?_,
    ?_, ?_, ?_⟩
  · exact hkept (k := 0) (by decide) h.src
  · exact hkept (by decide) h.dst
  · exact hkept (by decide) h.window
  · exact hkept (by decide) h.flags
  · exact hkept (by decide) h.seq
  · exact hkept (by decide) h.ack

/-- Of a frame that was cut short, each field is that of the full frame or blank, or the cut parts
it and what is left of it is read. So the cut only blanks fields where it parts none. -/
theorem ofFrame_take (number : UInt64) (frame : Bytes) (n : Nat) :
    CutShort (frame.take n) (ofFrame number (frame.take n)).1 (ofFrame number frame).1 ∧
      (¬ PartsField (frame.take n) →
        Degrades (ofFrame number (frame.take n)).1 (ofFrame number frame).1) := by
  suffices h : CutShort (frame.take n) (ofFrame number (frame.take n)).1 (ofFrame number frame).1
    from ⟨h, h.degrades⟩
  by_cases hcut : CarriesIpv4 (frame.take n)
  · obtain ⟨hfull, hlink, hn⟩ := carriesIpv4_of_take hcut
    rw [ofFrame_of_carriesIpv4 hcut, ofFrame_of_carriesIpv4 hfull, transportStart_take hlink hn]
    obtain ⟨heth, httl, hproto, hsrc, hdst, hseq, hack, hflags, hwindow⟩ :=
      cutShort_transport hlink hn number
    exact ⟨heth, httl, hproto, hsrc, hdst, hseq, hack, hflags, hwindow⟩
  · rw [ofFrame_of_not_carriesIpv4 hcut]
    exact cutShort_ofLink number frame n (eth_ofFrame number frame)

/-- A segment from port 49152 to port 502. -/
def toPort502 : Bytes :=
  [0x00, 0x11, 0x22, 0x33, 0x44, 0x55, 0x66, 0x77, 0x88, 0x99, 0xAA, 0xBB, 0x08, 0x00,
    0x45, 0, 0, 44, 0, 1, 0x40, 0, 64, 6, 0, 0, 10, 0, 0, 2, 10, 0, 0, 1,
    0xC0, 0x00, 0x01, 0xF6, 0, 0, 0, 42, 0, 0, 0, 7, 0x50, 0x12, 0x20, 0x00, 0, 0, 0, 0,
    0, 1, 0, 0]

/-- Cut behind the first byte of the port 502, the frame goes to port 1. -/
theorem not_degrades_toPort502 :
    ¬ Degrades (ofFrame 3 (toPort502.take 37)).1 (ofFrame 3 toPort502).1 := by
  have hcut : (ofFrame 3 (toPort502.take 37)).1.dst = 1 := by decide
  have hfull : (ofFrame 3 toPort502).1.dst = 502 := by decide
  intro h
  have hdst := h.dst
  rw [hcut, hfull] at hdst
  exact absurd hdst (by unfold KeptOrBlank; decide)

end Header

end HostSurvey
