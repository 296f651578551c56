import HostSurvey.Address.Ipv4
import HostSurvey.Address.Mac
import HostSurvey.Proofs.FlagNames
import HostSurvey.Proofs.FrameCases
import HostSurvey.Proofs.NetworkOrder

/-!
# Decoding undoes encoding

`Frame` is an Ethernet frame with an optional VLAN tag that carries TCP or UDP
over IPv4, `Frame.encode` its bytes. The headers of IPv4 and TCP have up to ten
words of options, and padding may follow the datagram. Decoding the bytes gives
the header fields back and finds the payload without the padding.
-/

namespace HostSurvey

open Bytes (layout width)

/-! ## Frames -/

/-- The options of a header: up to ten words of four bytes. -/
structure HeaderOptions where
  bytes : Bytes
  whole : bytes.length % 4 = 0
  short : bytes.length ≤ 40

namespace HeaderOptions

/-- The length of a header in words: five, and the options. -/
def headerWords (o : HeaderOptions) : Nat := 5 + o.bytes.length / 4

theorem headerWords_lt (o : HeaderOptions) : o.headerWords < 16 := by
  have := o.short
  unfold headerWords
  omega

theorem headerWords_mul_four (o : HeaderOptions) : o.headerWords * 4 = 20 + o.bytes.length := by
  have := o.whole
  unfold headerWords
  omega

end HeaderOptions

structure TcpHeader where
  src : UInt16
  dst : UInt16
  seq : UInt32
  ack : UInt32
  /-- The bits between the length of the header and the flags. -/
  reserved : Fin 8
  flags : UInt16
  nineFlags : flags.toNat < 512
  window : UInt16
  checksum : UInt16
  urgent : UInt16
  options : HeaderOptions

namespace TcpHeader

/-- The length of the header in words, the reserved bits and the flags. -/
def control (t : TcpHeader) : UInt16 :=
  ((t.options.headerWords * 8 + t.reserved) * 512 + t.flags.toNat).toUInt16

def fields (t : TcpHeader) : List (Nat × Nat) :=
  [(2, t.src.toNat), (2, t.dst.toNat), (4, t.seq.toNat), (4, t.ack.toNat), (2, t.control.toNat),
    (2, t.window.toNat), (2, t.checksum.toNat), (2, t.urgent.toNat)]

theorem toNat_control (t : TcpHeader) :
    t.control.toNat = (t.options.headerWords * 8 + t.reserved) * 512 + t.flags.toNat := by
  have hwords := t.options.headerWords_lt
  have hreserved := t.reserved.isLt
  have hflags := t.nineFlags
  refine Nat.mod_eq_of_lt ?_
  omega

/-- The low nine bits are the flags. -/
theorem control_and_flags (t : TcpHeader) : t.control &&& 0x01FF = t.flags := by
  have hflags := t.nineFlags
  have hmask : (0x01FF : UInt16).toNat = 2 ^ 9 - 1 := rfl
  rw [← UInt16.toNat_inj, UInt16.toNat_and, hmask, Nat.and_two_pow_sub_one_eq_mod, toNat_control]
  omega

/-- The high four bits are the length in words. -/
theorem control_shiftRight (t : TcpHeader) :
    (t.control >>> 12).toNat = t.options.headerWords := by
  have hreserved := t.reserved.isLt
  have hflags := t.nineFlags
  have hshift : (12 : UInt16).toNat % 16 = 12 := rfl
  rw [UInt16.toNat_shiftRight, hshift, Nat.shiftRight_eq_div_pow, toNat_control]
  omega

end TcpHeader

structure UdpHeader where
  src : UInt16
  dst : UInt16
  length : UInt16
  checksum : UInt16

def UdpHeader.fields (u : UdpHeader) : List (Nat × Nat) :=
  [(2, u.src.toNat), (2, u.dst.toNat), (2, u.length.toNat), (2, u.checksum.toNat)]

inductive TransportHeader where
  | tcp (header : TcpHeader)
  | udp (header : UdpHeader)

namespace TransportHeader

def proto : TransportHeader → UInt8
  | tcp _ => 6
  | udp _ => 17

def encode : TransportHeader → Bytes
  | tcp t => layout t.fields ++ t.options.bytes
  | udp u => layout u.fields

end TransportHeader

structure NetworkHeader where
  service : UInt8
  id : UInt16
  /-- The flags and the offset of a fragment. -/
  fragment : UInt16
  ttl : UInt8
  checksum : UInt16
  src : Ipv4
  dst : Ipv4
  options : HeaderOptions

def NetworkHeader.fields (n : NetworkHeader) (total : UInt16) (proto : UInt8) :
    List (Nat × Nat) :=
  [(1, 4 * 16 + n.options.headerWords), (1, n.service.toNat), (2, total.toNat),
    (2, n.id.toNat), (2, n.fragment.toNat), (1, n.ttl.toNat), (1, proto.toNat),
    (2, n.checksum.toNat), (4, n.src.bits.toNat), (4, n.dst.bits.toNat)]

structure Frame where
  destination : Mac
  source : Mac
  tag : Option UInt16
  network : NetworkHeader
  transport : TransportHeader
  payload : Bytes
  padding : Bytes
  short : 20 + network.options.bytes.length + transport.encode.length + payload.length ≤ 65535

namespace Frame

/-- The total length of the datagram. -/
def total (f : Frame) : Nat :=
  20 + f.network.options.bytes.length + f.transport.encode.length + f.payload.length

def linkFields (f : Frame) : List (Nat × Nat) :=
  [(6, f.destination.toNat), (6, f.source.toNat)] ++
    (match f.tag with
    | some control => [(2, 0x8100), (2, control.toNat)]
    | none => []) ++
    [(2, 0x0800)]

/-- Where the network header starts. -/
def start (f : Frame) : Nat := width f.linkFields

def networkFields (f : Frame) : List (Nat × Nat) :=
  f.network.fields f.total.toUInt16 f.transport.proto

def encode (f : Frame) : Bytes :=
  layout f.linkFields ++
    (layout f.networkFields ++
      (f.network.options.bytes ++ (f.transport.encode ++ (f.payload ++ f.padding))))

end Frame

/-! ## Reading the fields -/

namespace Header

/-- Two bytes among the fields that start at `offset`, behind `k` bytes of them. -/
theorem word_layout {pre : Bytes} {offset : Nat} (hpre : pre.length = offset)
    {fields before after : List (Nat × Nat)} {n : UInt16}
    (hfields : fields = before ++ (2, n.toNat) :: after) {k : Nat} (hk : width before = k)
    (rest : Bytes) : word (pre ++ (layout fields ++ rest)) (offset + k) = n := by
  unfold word
  rw [← hk, Bytes.number_layout hpre hfields (by decide) n.toNat_lt]
  exact UInt16.ofNat_toNat

theorem wordText_layout {pre : Bytes} {offset : Nat} (hpre : pre.length = offset)
    {fields before after : List (Nat × Nat)} {n : UInt32}
    (hfields : fields = before ++ (4, n.toNat) :: after) {k : Nat} (hk : width before = k)
    (rest : Bytes) : wordText (pre ++ (layout fields ++ rest)) (offset + k) = toString n.toNat := by
  unfold wordText
  rw [← hk, Bytes.number_layout hpre hfields (by decide) n.toNat_lt]
  rfl

theorem toNat_byte_layout {pre : Bytes} {offset : Nat} (hpre : pre.length = offset)
    {fields before after : List (Nat × Nat)} {n : Nat}
    (hfields : fields = before ++ (1, n) :: after) (hn : n < 256) {k : Nat} (hk : width before = k)
    (rest : Bytes) :
    ((Bytes.byte? (pre ++ (layout fields ++ rest)) ((offset + k : Nat) : Int)).getD 0).toNat =
      n := by
  rw [Bytes.toNat_byte?, ← hk]
  exact Bytes.number_layout hpre hfields (by decide) hn rest

theorem transport_tcp {h : Header} (hproto : h.proto = protoTcp) {pre : Bytes} {start : Nat}
    (hpre : pre.length = start) (t : TcpHeader) (rest : Bytes) :
    h.transport (pre ++ ((TransportHeader.tcp t).encode ++ rest)) start =
      ({ h with
          src := t.src
          dst := t.dst
          seq := toString t.seq.toNat
          ack := toString t.ack.toNat
          flags := Flags.names t.flags
          window := t.window },
        start + (TransportHeader.tcp t).encode.length) := by
  have hlength : (TransportHeader.tcp t).encode.length = 20 + t.options.bytes.length := by
    simp [TransportHeader.encode, TcpHeader.fields, width]
  have hword (before : List (Nat × Nat)) (k : Nat) (n : UInt16) {after : List (Nat × Nat)}
      (hfields : t.fields = before ++ (2, n.toNat) :: after) (hk : width before = k) :=
    word_layout hpre hfields hk (t.options.bytes ++ rest)
  have htext (before : List (Nat × Nat)) (k : Nat) (n : UInt32) {after : List (Nat × Nat)}
      (hfields : t.fields = before ++ (4, n.toNat) :: after) (hk : width before = k) :=
    wordText_layout hpre hfields hk (t.options.bytes ++ rest)
  have hsrc := hword [] 0 t.src rfl rfl
  have hdst := hword [_] 2 t.dst rfl rfl
  have hseq := htext [_, _] 4 t.seq rfl rfl
  have hack := htext [_, _, _] 8 t.ack rfl rfl
  have hcontrol := hword [_, _, _, _] 12 t.control rfl rfl
  have hwindow := hword [_, _, _, _, _] 14 t.window rfl rfl
  have hencode : (TransportHeader.tcp t).encode ++ rest =
      layout t.fields ++ (t.options.bytes ++ rest) := List.append_assoc ..
  unfold transport
  simp only
  rw [if_pos hproto, hencode, hlength, ← hsrc, hdst, hseq, hack, hcontrol, hwindow,
    t.control_and_flags, t.control_shiftRight, t.options.headerWords_mul_four]
  rfl

theorem transport_udp {h : Header} (hproto : h.proto = protoUdp) {pre : Bytes} {start : Nat}
    (hpre : pre.length = start) (u : UdpHeader) (rest : Bytes) :
    h.transport (pre ++ ((TransportHeader.udp u).encode ++ rest)) start =
      ({ h with src := u.src, dst := u.dst }, start + (TransportHeader.udp u).encode.length) := by
  have hlength : (TransportHeader.udp u).encode.length = 8 := by
    simp [TransportHeader.encode, UdpHeader.fields, width]
  have htcp : h.proto ≠ protoTcp := by
    rw [hproto]
    decide
  have hword (before : List (Nat × Nat)) (k : Nat) (n : UInt16) {after : List (Nat × Nat)}
      (hfields : u.fields = before ++ (2, n.toNat) :: after) (hk : width before = k) :
      word (pre ++ ((TransportHeader.udp u).encode ++ rest)) (start + k) = n :=
    word_layout hpre hfields hk rest
  have hsrc := hword [] 0 u.src rfl rfl
  have hdst := hword [_] 2 u.dst rfl rfl
  unfold transport
  simp only
  rw [if_neg htcp, if_pos hproto, hlength, hdst, ← hsrc]
  rfl

theorem link_encode (f : Frame) : link f.encode = (ethertypeIpv4, f.start) := by
  have hword (before : List (Nat × Nat)) (k : Nat) (n : UInt16) {after : List (Nat × Nat)}
      (hfields : f.linkFields = before ++ (2, n.toNat) :: after) (hk : width before = k) :
      word f.encode k = n := by
    have hpre : ([] : Bytes).length = 0 := rfl
    have := word_layout hpre hfields hk (layout f.networkFields ++
      (f.network.options.bytes ++ (f.transport.encode ++ (f.payload ++ f.padding))))
    rwa [Nat.zero_add] at this
  unfold link Frame.start
  cases htag : f.tag with
  | none =>
    have hfields : f.linkFields =
        [(6, f.destination.toNat), (6, f.source.toNat)] ++ (2, ethertypeIpv4.toNat) :: [] := by
      simp [Frame.linkFields, htag, ethertypeIpv4]
    rw [hword _ 12 ethertypeIpv4 hfields rfl, if_neg (by decide), hfields]
    rfl
  | some control =>
    have hfields : f.linkFields = [(6, f.destination.toNat), (6, f.source.toNat)] ++
        (2, ethertypeVlan.toNat) :: [(2, control.toNat), (2, ethertypeIpv4.toNat)] := by
      simp [Frame.linkFields, htag, ethertypeIpv4, ethertypeVlan]
    rw [hword _ 12 ethertypeVlan hfields rfl, if_pos rfl,
      hword [_, _, _, _] 16 ethertypeIpv4 hfields rfl, hfields]
    rfl

/-- The words of a text are the names of the bits that are set. -/
def NamesExactly (text : String) (bits : UInt16) : Prop :=
  Text.words text.toList =
    (Flags.table.filter fun flag => bits &&& flag.2 != 0).map fun flag => flag.1.toList

/-- The header holds the fields of a transport header. -/
def Tells (h : Header) : TransportHeader → Prop
  | .tcp t =>
    h.proto = 6 ∧ h.src = t.src ∧ h.dst = t.dst ∧ h.seq = toString t.seq.toNat ∧
      h.ack = toString t.ack.toNat ∧ NamesExactly h.flags t.flags ∧ h.window = t.window
  | .udp u =>
    h.proto = 17 ∧ h.src = u.src ∧ h.dst = u.dst ∧ h.seq = "" ∧ h.ack = "" ∧ h.flags = "" ∧
      h.window = 0

theorem Tells.withSize {h : Header} {t : TransportHeader} (htells : h.Tells t) (n : UInt32) :
    { h with dsize := n }.Tells t := by
  cases t <;> exact htells

/-- The transport header is read behind whatever stands in front of it, and its length is added. -/
theorem transport_encode {h : Header} {t : TransportHeader} (hproto : h.proto = t.proto)
    (hblank : h.seq = "" ∧ h.ack = "" ∧ h.flags = "" ∧ h.window = 0) {pre : Bytes} {start : Nat}
    (hpre : pre.length = start) (rest : Bytes) :
    ∃ told : Header, h.transport (pre ++ (t.encode ++ rest)) start =
        (told, start + t.encode.length) ∧ told.Tells t ∧ told.frame = h.frame ∧
      told.eth = h.eth ∧ told.ttl = h.ttl ∧ told.size = h.size := by
  cases t with
  | tcp t =>
    exact ⟨_, transport_tcp hproto hpre t rest,
      ⟨hproto, rfl, rfl, rfl, rfl, Flags.words_names t.flags, rfl⟩, rfl, rfl, rfl, rfl⟩
  | udp u =>
    obtain ⟨hseq, hack, hflags, hwindow⟩ := hblank
    exact ⟨_, transport_udp hproto hpre u rest,
      ⟨hproto, rfl, rfl, hseq, hack, hflags, hwindow⟩, rfl, rfl, rfl, rfl⟩

/-! ## The network header -/

section Network

variable (f : Frame)

theorem length_linkFields : (layout f.linkFields).length = f.start := Bytes.length_layout _

theorem toNat_byte_network (before : List (Nat × Nat)) {after : List (Nat × Nat)} {n : Nat}
    (hfields : f.networkFields = before ++ (1, n) :: after) (hn : n < 256) {k : Nat}
    (hk : width before = k) :
    ((f.encode.byte? ((f.start + k : Nat) : Int)).getD 0).toNat = n :=
  toNat_byte_layout (length_linkFields f) hfields hn hk _

theorem version_network :
    ((f.encode.byte? (f.start : Int)).getD 0).toNat = 4 * 16 + f.network.options.headerWords := by
  have hwords := f.network.options.headerWords_lt
  have hbyte := toNat_byte_network f [] (k := 0) rfl (by omega) rfl
  rwa [Nat.add_zero] at hbyte

theorem ttl_network : (f.encode.byte? ((f.start + 8 : Nat) : Int)).getD 0 = f.network.ttl :=
  UInt8.toNat_inj.1 <|
    toNat_byte_network f [_, _, _, _, _] rfl f.network.ttl.toNat_lt rfl

theorem proto_network : (f.encode.byte? ((f.start + 9 : Nat) : Int)).getD 0 = f.transport.proto :=
  UInt8.toNat_inj.1 <|
    toNat_byte_network f [_, _, _, _, _, _] rfl f.transport.proto.toNat_lt rfl

theorem total_network : (word f.encode (f.start + 2)).toNat = f.total := by
  have hshort : f.total < 65536 := Nat.lt_succ_of_le f.short
  have hfields : f.networkFields = [_, _] ++ (2, f.total.toUInt16.toNat) :: _ := rfl
  have hread : word f.encode (f.start + 2) = f.total.toUInt16 :=
    word_layout (length_linkFields f) hfields rfl _
  rw [hread]
  exact Nat.mod_eq_of_lt hshort

/-- The transport header, the payload and the padding stand behind the options. -/
theorem encode_eq :
    ∃ pre : Bytes, pre.length = f.start + (20 + f.network.options.bytes.length) ∧
      f.encode = pre ++ (f.transport.encode ++ (f.payload ++ f.padding)) := by
  refine ⟨layout f.linkFields ++ (layout f.networkFields ++ f.network.options.bytes), ?_, ?_⟩
  · rw [List.length_append, List.length_append, length_linkFields, Bytes.length_layout]
    rfl
  · simp only [Frame.encode, List.append_assoc]

theorem length_encode :
    f.encode.length = f.start + f.total + f.padding.length := by
  obtain ⟨pre, hpre, hencode⟩ := encode_eq f
  rw [hencode]
  simp only [List.length_append, hpre, Frame.total]
  omega

theorem carriesIpv4_encode : CarriesIpv4 f.encode := by
  have hwords := f.network.options.headerWords_lt
  refine ⟨by rw [link_encode], ?_, ?_⟩
  · rw [link_encode, length_encode]
    unfold Frame.total
    omega
  · rw [link_encode, version_network]
    omega

theorem transportStart_encode :
    transportStart f.encode = f.start + (20 + f.network.options.bytes.length) := by
  have hwords := f.network.options.headerWords_lt
  have hlength := f.network.options.headerWords_mul_four
  unfold transportStart
  rw [link_encode, version_network]
  omega

/-- The padding does not belong to the datagram. -/
theorem datagramEnd_encode : datagramEnd f.encode = f.start + f.total := by
  have htotal : f.total ≠ 0 := by
    unfold Frame.total
    omega
  have hlength := length_encode f
  unfold datagramEnd
  rw [link_encode, total_network]
  simp only
  rw [if_neg htotal]
  omega

end Network

/-- Decoding an encoded frame gives back what was put in: the fields of the headers, the length of
the frame, and where the payload stands and how long it is without the padding. -/
theorem ofFrame_encode (number : UInt64) (f : Frame) (hsize : f.encode.length < 2 ^ 32) :
    ∃ h offset, ofFrame number f.encode = (h, offset) ∧
      h.frame = number ∧ h.eth = 0x0800 ∧ h.ttl = f.network.ttl ∧ h.Tells f.transport ∧
      h.size.toNat = f.encode.length ∧ h.dsize.toNat = f.payload.length ∧
      f.encode.drop offset = f.payload ++ f.padding ∧
      offset + f.payload.length + f.padding.length = f.encode.length := by
  obtain ⟨pre, hpre, hencode⟩ := encode_eq f
  have hlength := length_encode f
  have htotal : f.total = 20 + f.network.options.bytes.length + f.transport.encode.length +
      f.payload.length := rfl
  have hshort := f.short
  have hproto : (ofNetwork number f.encode).proto = f.transport.proto := by
    unfold ofNetwork
    simp only [link_encode, proto_network]
  obtain ⟨told, htransport, htells, hframe, heth, httl, hsize'⟩ :=
    transport_encode hproto ⟨rfl, rfl, rfl, rfl⟩ hpre (f.payload ++ f.padding)
  rw [← hencode] at htransport
  have hstop : min (f.start + (20 + f.network.options.bytes.length) + f.transport.encode.length)
      f.encode.length = pre.length + f.transport.encode.length := by omega
  rw [ofFrame_of_carriesIpv4 (carriesIpv4_encode f), transportStart_encode, htransport]
  refine ⟨_, _, rfl, hframe, ?_, ?_, ?_, ?_, ?_, ?_, ?_⟩
  · rw [heth]
    simp only [ofNetwork, ofLink, link_encode]
    rfl
  · rw [httl]
    simp only [ofNetwork, link_encode, ttl_network]
  · exact htells.withSize _
  · rw [hsize']
    exact Nat.mod_eq_of_lt hsize
  · rw [hstop, datagramEnd_encode]
    refine (Nat.mod_eq_of_lt ?_).trans ?_ <;> omega
  · rw [hstop, hencode, ← List.append_assoc, ← List.length_append, List.drop_left]
  · rw [hstop]
    omega

/-- A segment with options in both headers behind a tag, two bytes of payload and padding. -/
def optioned : Frame where
  destination := Mac.ofNat 0x001122334455
  source := Mac.ofNat 0x66778899AABB
  tag := some 0x2001
  network := {
    service := 0, id := 1, fragment := 0x4000, ttl := 64, checksum := 0
    src := ⟨0x0A000001⟩, dst := ⟨0x0A000002⟩
    options := ⟨[1, 1, 1, 0], rfl, by decide⟩ }
  transport := .tcp {
    src := 502, dst := 50000, seq := 42, ack := 7, reserved := 5
    flags := 0x112, nineFlags := by decide
    window := 1024, checksum := 0, urgent := 0
    options := ⟨[2, 4, 5, 0xB4, 1, 1, 1, 0], rfl, by decide⟩ }
  payload := [0xCA, 0xFE]
  padding := [0, 0, 0]
  short := by decide

theorem ofFrame_optioned :
    optioned.encode.length < 2 ^ 32 ∧
      (∃ h offset, ofFrame 3 optioned.encode = (h, offset) ∧
        h.frame = 3 ∧ h.eth = 0x0800 ∧ h.ttl = 64 ∧ h.Tells optioned.transport ∧
        h.size.toNat = optioned.encode.length ∧ h.dsize.toNat = 2 ∧
        optioned.encode.drop offset = [0xCA, 0xFE, 0, 0, 0] ∧
        offset + 2 + 3 = optioned.encode.length) ∧
      ofFrame 3 optioned.encode =
        ({ src := 502, dst := 50000, eth := 0x0800, ttl := 64, proto := 6, dsize := 2,
           window := 1024, size := 75, frame := 3, flags := "NS ACK SYN", ack := "7",
           seq := "42" }, 70) := by
  have hsize : optioned.encode.length < 2 ^ 32 := by decide
  exact ⟨hsize, ofFrame_encode 3 optioned hsize, by decide +kernel⟩

end Header

end HostSurvey
