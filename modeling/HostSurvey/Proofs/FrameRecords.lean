import HostSurvey.Classifier
import HostSurvey.Pattern.Search
import HostSurvey.Proofs.FirstFault

/-!
# Frames and payloads give one report

A packet is recorded as a whole frame, or as the header that was decoded from it
with its transport payload. Decoding says where the payload starts and how long
it is. Both lie inside the frame, however the lengths in its headers are made
up, so the payload is a plain stretch of the frame and the two records are
classified alike.
-/

namespace HostSurvey

/-! ## Hexadecimal text -/

namespace Text.Hex

theorem isBlank_digit_lower : ∀ n < 16, isBlank (digit 97 n) = false := by decide

theorem encodeChar_digit_lower :
    ∀ n < 16, Utf8.encodeChar (digit 97 n) = [(digit 97 n).toNat.toUInt8] := by decide

theorem value_byte_digit_lower : ∀ n < 16, value (digit 97 n).toNat.toUInt8.toNat = some n := by
  decide

theorem filter_not_isBlank_lower (s : Bytes) : (lower s).filter (fun c => !isBlank c) = lower s := by
  rw [List.filter_eq_self]
  intro c hc
  obtain ⟨b, _, hb⟩ := List.mem_flatMap.1 hc
  have hhigh : b.toNat / 16 < 16 := by have := b.toNat_lt; omega
  have hlow : b.toNat % 16 < 16 := Nat.mod_lt _ (by decide)
  simp only [pair, List.mem_cons, List.not_mem_nil, or_false] at hb
  rcases hb with rfl | rfl
  · rw [isBlank_digit_lower _ hhigh]; rfl
  · rw [isBlank_digit_lower _ hlow]; rfl

theorem encode_lower_cons (b : UInt8) (s : Bytes) :
    Utf8.encode (lower (b :: s)) =
      (digit 97 (b.toNat / 16)).toNat.toUInt8 :: (digit 97 (b.toNat % 16)).toNat.toUInt8 ::
        Utf8.encode (lower s) := by
  have hhigh : b.toNat / 16 < 16 := by have := b.toNat_lt; omega
  have hlow : b.toNat % 16 < 16 := Nat.mod_lt _ (by decide)
  simp [Utf8.encode, lower, pair, encodeChar_digit_lower _ hhigh, encodeChar_digit_lower _ hlow]

theorem pairs_encode_lower (position : Nat) (s : Bytes) :
    pairs position (Utf8.encode (lower s)) = .ok s := by
  induction s generalizing position with
  | nil => rfl
  | cons b s ih =>
    have hhigh : b.toNat / 16 < 16 := by have := b.toNat_lt; omega
    have hlow : b.toNat % 16 < 16 := Nat.mod_lt _ (by decide)
    have hbyte : (b.toNat / 16 * 16 + b.toNat % 16).toUInt8 = b := by
      rw [Nat.div_add_mod']
      exact UInt8.ofNat_toNat
    rw [encode_lower_cons]
    simp only [pairs, digitAt, value_byte_digit_lower _ hhigh, value_byte_digit_lower _ hlow, ih]
    exact congrArg (fun b => Except.ok (b :: s)) hbyte

theorem decode_encode_lower (s : Bytes) : decode (Utf8.encode (lower s)) = .ok s := by
  have heven : (Utf8.encode (lower s)).length % 2 = 0 := by
    induction s with
    | nil => rfl
    | cons b s ih =>
      rw [encode_lower_cons, List.length_cons, List.length_cons]
      omega
  unfold decode
  rw [if_pos heven, pairs_encode_lower]

end Text.Hex

/-! ## Where the payload of a frame lies -/

namespace Header

/-- The number of a frame is handed on and decides nothing. -/
theorem ofFrame_numbered (number other : UInt64) (data : Bytes) :
    ofFrame number data =
      ({ (ofFrame other data).1 with frame := number }, (ofFrame other data).2) := by
  unfold ofFrame
  simp only
  split
  · rfl
  · split
    · rfl
    · unfold transport
      simp only
      split
      · rfl
      · split <;> rfl

/-- The payload starts inside the frame and ends inside it. -/
theorem ofFrame_bounds (number : UInt64) (data : Bytes) :
    (ofFrame number data).2 ≤ data.length ∧
      (ofFrame number data).2 + (ofFrame number data).1.dsize.toNat ≤ data.length := by
  unfold ofFrame
  simp only
  split
  · exact ⟨Nat.min_le_right .., Nat.min_le_right ..⟩
  · rename_i hlong
    have hip : (link data).2 + 20 ≤ data.length := by omega
    split
    · have hstart : (link data).2 ≤ data.length := by omega
      exact ⟨hstart, hstart⟩
    · -- start and end are both cut off at the end of the frame, and the size is their difference
      simp only
      generalize (transport _ data _).2 = start
      generalize (word data ((link data).2 + 2)).toNat = total
      set ending := if total = 0 then data.length else min ((link data).2 + total) data.length
      have hending : ending ≤ data.length := by
        simp only [ending]
        split
        · exact Nat.le_refl _
        · exact Nat.min_le_right ..
      have hsize : (ending - min start data.length).toUInt32.toNat ≤
          ending - min start data.length := Nat.mod_le ..
      omega

end Header

/-! ## Two records of one packet -/

namespace Classifier

/-- The payload of a frame is the stretch that its header and the offset name. -/
theorem classifyFrame_eq (c : Classifier) (number other : UInt64) (frame : Bytes)
    (host : HostProfile) :
    c.classifyFrame number frame host =
      let (h, offset) := Header.ofFrame other frame
      ({ h with frame := number },
        c.classify { h with frame := number } ((frame.drop offset).take h.dsize.toNat) host) := by
  have hstop := (Header.ofFrame_bounds other frame).2
  unfold classifyFrame payloadOf
  rw [Header.ofFrame_numbered number other frame]
  simp only
  rw [Nat.min_eq_left hstop, if_pos (Nat.le_add_right ..), List.drop_take, Nat.add_sub_cancel_left]

/-- A payload as long as its header says leaves the header as it is, but for the number. -/
theorem complete_eq {h : Header} {data : Bytes} (hsize : data.length = h.dsize.toNat)
    (number : UInt64) : complete h number data = { h with frame := number } := by
  unfold complete
  rw [hsize]
  split
  · rename_i hzero
    rw [hzero]
    rfl
  · rfl

/-- The text writes the bytes in hexadecimal digits, of any case and with blanks anywhere. -/
def Writes (text : String) (data : Bytes) : Prop :=
  ({ payload := text } : PacketRecord).bytes = .ok data

theorem writes_lower (data : Bytes) : Writes (String.ofList (Text.Hex.lower data)) data := by
  unfold Writes PacketRecord.bytes
  rw [String.toList_ofList, Text.Hex.filter_not_isBlank_lower, Text.Hex.decode_encode_lower]
  rfl

/-- What is reported of a packet with the header, given its fingerprints and its profile. -/
def Report.of (h : Header) (outcome : List String × HostProfile) : Report :=
  { frame := h.frame, src := h.src, dst := h.dst, proto := h.proto, fingerprints := outcome.1,
    host := outcome.2.bind }

theorem report_frame {text : String} {frame : Bytes} (htext : Writes text frame) (c : Classifier)
    (number : UInt64) :
    c.report { frame := number, payload := text } =
      .ok (.of (c.classifyFrame number frame .blank).1 (c.classifyFrame number frame .blank).2) := by
  have hbytes : ({ frame := number, payload := text } : PacketRecord).bytes = .ok frame := htext
  unfold report
  rw [hbytes]
  rfl

theorem report_payload {text : String} {data : Bytes} (htext : Writes text data) (c : Classifier)
    (number : UInt64) (h : Header) :
    c.report { frame := number, payload := text, header := some h } =
      .ok (.of (complete h number data) (c.classify (complete h number data) data .blank)) := by
  have hbytes : ({ frame := number, payload := text, header := some h } : PacketRecord).bytes =
      .ok data := htext
  unfold report
  rw [hbytes]
  rfl

/-- A frame, and its decoded header (under any number) with the payload that the header points at,
give one report. The payload lies in the frame and is as long as the header says. -/
theorem report_frame_eq_report_payload (c : Classifier) (number other : UInt64) (frame : Bytes) :
    ∃ h offset, Header.ofFrame other frame = (h, offset) ∧
      offset ≤ frame.length ∧ offset + h.dsize.toNat ≤ frame.length ∧
      ((frame.drop offset).take h.dsize.toNat).length = h.dsize.toNat ∧
      (∀ host, c.classifyFrame number frame host =
        ({ h with frame := number },
          c.classify { h with frame := number } ((frame.drop offset).take h.dsize.toNat) host)) ∧
      ∀ text text', Writes text frame → Writes text' ((frame.drop offset).take h.dsize.toNat) →
        ∃ r, c.report { frame := number, payload := text } = .ok r ∧
          c.report { frame := number, payload := text', header := some h } = .ok r := by
  have hbounds := Header.ofFrame_bounds other frame
  have hframe := c.classifyFrame_eq number other frame
  cases hdecoded : Header.ofFrame other frame with
  | mk h offset =>
    rw [hdecoded] at hbounds hframe
    obtain ⟨hstart, hstop⟩ : offset ≤ frame.length ∧ offset + h.dsize.toNat ≤ frame.length :=
      hbounds
    have hlength : ((frame.drop offset).take h.dsize.toNat).length = h.dsize.toNat := by
      rw [List.length_take, List.length_drop]
      omega
    refine ⟨h, offset, rfl, hstart, hstop, hlength, hframe, fun text text' htext htext' => ?_⟩
    refine ⟨_, report_frame htext c number, ?_⟩
    rw [report_payload htext' c number h, complete_eq hlength, hframe]

/-- A tagged frame whose datagram has 30 bytes, the last two of them payload, with padding behind
it. -/
def padded : Bytes :=
  [0, 0, 0, 0, 0, 0, 0, 0, 0, 0, 0, 0, 0x81, 0x00, 0, 5, 0x08, 0x00,
    0x45, 0, 0, 30, 0, 0, 0, 0, 0x40, 17, 0, 0, 10, 0, 0, 1, 10, 0, 0, 2,
    0, 9, 0, 7, 0, 10, 0, 0, 0xAB, 0xCD, 0, 0, 0]

def echo : Fingerprint :=
  { name := "Echo", filters := [⟨"text", [.dstPort 7, .dsizeWithin 1 2]⟩],
    payloads := [{ name := "text", operations := [.isDataAt { offset := 1 }] }] }

theorem report_padded :
    ∃ c h r, ofFingerprints [echo] = .ok c ∧ Header.ofFrame 0 padded = (h, 46) ∧
      Writes (String.ofList (Text.Hex.lower padded)) padded ∧ Writes "aB C d" [0xAB, 0xCD] ∧
      c.report { frame := 7, payload := String.ofList (Text.Hex.lower padded) } = .ok r ∧
      c.report { frame := 7, payload := "aB C d", header := some h } = .ok r ∧
      r.fingerprints = ["Echo"] ∧ r.frame = 7 := by
  obtain ⟨c, hc, hmatched⟩ : ∃ c, ofFingerprints [echo] = .ok c ∧
      (c.classifyFrame 7 padded .blank).2.1 = ["Echo"] := ⟨_, rfl, by decide⟩
  obtain ⟨h, offset, hdecoded, -, -, -, -, hreports⟩ :=
    c.report_frame_eq_report_payload 7 0 padded
  obtain ⟨hoffset, hpayload⟩ : offset = 46 ∧ (padded.drop offset).take h.dsize.toNat =
      [0xAB, 0xCD] := by
    cases hdecoded
    decide
  subst hoffset
  have hwrites : Writes "aB C d" [0xAB, 0xCD] := rfl
  obtain ⟨r, hr, hr'⟩ := hreports _ "aB C d" (writes_lower padded) (by rw [hpayload]; exact hwrites)
  refine ⟨c, h, r, hc, hdecoded, writes_lower padded, hwrites, hr, hr', ?_⟩
  rw [report_frame (writes_lower padded)] at hr
  cases hr
  exact ⟨hmatched, rfl⟩

end Classifier

end HostSurvey
