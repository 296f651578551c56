import HostSurvey.Proofs.FlagSets
import HostSurvey.Proofs.Matching
import HostSurvey.Proofs.TruncatedFrames

/-!
# Conditions on flags

A condition on flags compares the set that its text names with the bits of the
transport header. The header is read a word at a time: where the capture parts
the word of the flags, its first byte is read in the place of the second, and
the condition holds for bits that are not in the header.
-/

namespace HostSurvey

/-! ## The bits of the header -/

namespace Bytes

theorem number_drop (data : Bytes) (offset width : Nat) :
    data.number offset width .big = value ((data.drop offset).take (min width 4)) := by
  have hsign : ¬ (offset : Int) < 0 := by omega
  unfold number window
  rw [if_neg hsign, Int.toNat_natCast]
  rfl

/-- A number of two bytes has the first above the second, unless the end of the data parts it. -/
theorem number_two_of_whole {data : Bytes} {offset : Nat} (hwhole : ¬ Parts data offset 2) :
    data.number offset 2 .big =
      ((data.byte? offset).getD 0).toNat * 256 + ((data.byte? (offset + 1 : Nat)).getD 0).toNat := by
  rw [toNat_byte?, toNat_byte?, number_drop, number_drop, number_drop, ← List.drop_drop]
  match hrest : data.drop offset with
  | [] => rfl
  | [a] =>
    have hlength := congrArg List.length hrest
    rw [List.length_drop, List.length_singleton] at hlength
    exact absurd ⟨by omega, by omega⟩ hwhole
  | a :: b :: rest => simp [value]

/-- Of two bytes that the end of the data parts, the first is read for the number. -/
theorem number_two_of_parts {data : Bytes} {offset : Nat} (hparts : Parts data offset 2) :
    data.number offset 2 .big = ((data.byte? offset).getD 0).toNat := by
  have hlength : (data.drop offset).length = 1 := by
    rw [List.length_drop]
    unfold Parts at hparts
    omega
  obtain ⟨b, hb⟩ := List.length_eq_one_iff.1 hlength
  rw [toNat_byte?, number_drop, number_drop, hb]
  rfl

end Bytes

namespace Header

open Bytes (Parts)

/-- A byte of the transport header, zero if it is not there. -/
def transportByte (data : Bytes) (k : Nat) : UInt8 :=
  (data.byte? (transportStart data + k : Nat)).getD 0

/-- The flags that stand in the transport header: the lowest bit of its byte 12 above the bits of
its byte 13. -/
def flagBits (data : Bytes) : UInt16 :=
  ((transportByte data 12).toNat % 2 * 256 + (transportByte data 13).toNat).toUInt16

/-- The word that is read holds the flags of the header, unless the capture parts it. -/
theorem word_and_mask_of_whole {data : Bytes}
    (hwhole : ¬ Parts data (transportStart data + 12) 2) :
    word data (transportStart data + 12) &&& 0x01FF = flagBits data := by
  have hlow := (transportByte data 13).toNat_lt
  have hread : data.number (transportStart data + 12 : Nat) 2 .big =
      (transportByte data 12).toNat * 256 + (transportByte data 13).toNat :=
    Bytes.number_two_of_whole hwhole
  have htoNat (n : Nat) : n.toUInt16.toNat = n % 65536 := rfl
  unfold word flagBits
  rw [← UInt16.toNat_inj, Flags.toNat_and_mask, htoNat, htoNat, hread]
  omega

/-- Of a word that the capture parts, the first byte is read in the place of the second. -/
theorem word_and_mask_of_parts {data : Bytes}
    (hparts : Parts data (transportStart data + 12) 2) :
    word data (transportStart data + 12) &&& 0x01FF = (transportByte data 12).toUInt16 := by
  have hbyte := (transportByte data 12).toNat_lt
  have hread : data.number (transportStart data + 12 : Nat) 2 .big =
      (transportByte data 12).toNat := Bytes.number_two_of_parts hparts
  have htoNat (n : Nat) : n.toUInt16.toNat = n % 65536 := rfl
  unfold word
  rw [← UInt16.toNat_inj, Flags.toNat_and_mask, htoNat, hread, UInt8.toNat_toUInt16]
  omega

theorem isTcp_transport (h : Header) (data : Bytes) (l4 : Nat) :
    (h.transport data l4).1.isTcp = h.isTcp := by
  unfold transport
  simp only
  split
  · rfl
  · split <;> rfl

/-- The flags of a frame that is decoded as TCP are those of the word that is read. -/
theorem flags_ofFrame {number : UInt64} {data : Bytes}
    (htcp : (ofFrame number data).1.isTcp = true) :
    (ofFrame number data).1.flags =
      Flags.names (word data (transportStart data + 12) &&& 0x01FF) := by
  by_cases hipv4 : CarriesIpv4 data
  · rw [ofFrame_of_carriesIpv4 hipv4] at htcp ⊢
    have hproto : (ofNetwork number data).proto = protoTcp := by
      have hsame : ((ofNetwork number data).transport data (transportStart data)).1.isTcp = true :=
        htcp
      rw [isTcp_transport] at hsame
      exact beq_iff_eq.1 hsame
    unfold transport
    rw [if_pos hproto]
  · rw [ofFrame_of_not_carriesIpv4 hipv4] at htcp
    cases htcp

end Header

/-! ## Rules -/

namespace Filter

open Bytes (Parts)
open Flags
open Header (ofFrame transportStart transportByte flagBits)

variable {α : Type}

theorem admits_flags_iff {text : String} {h : Header} :
    Admits [.flags text] h ↔ h.isTcp = true ∧ Condition.sameFlags text h.flags = true := by
  simp [Admits, Condition.accepts, Condition.field, Field.tcpOnly, Condition.holds]

theorem sameFlags_names_iff {text : String} {bits : UInt16} :
    Condition.sameFlags text (names bits) = true ↔ Names (wordsOf text) (bits &&& 0x01FF) := by
  rw [← parse_eq_ok_iff, Condition.sameFlags, parse_names]
  cases parse text <;> simp

namespace Engine

/-- A rule on the flags alone matches a TCP frame if it names the bits of the word that is read. -/
theorem mem_matching_flags_iff {calls : List (Rule α)} {i : Nat} {name text : String} {action : α}
    {number : UInt64} {data : Bytes}
    (hrule : (after calls).rules[i]? = some ⟨name, [.flags text], action⟩)
    (htcp : (ofFrame number data).1.isTcp = true) :
    i ∈ (after calls).matching (ofFrame number data).1 ↔
      Names (wordsOf text) (Header.word data (transportStart data + 12) &&& 0x01FF) := by
  have hmask (bits : UInt16) : bits &&& 0x01FF &&& 0x01FF = bits &&& 0x01FF := by
    rw [UInt16.and_assoc, UInt16.and_self]
  rw [(after_inStep calls).mem_matching, hrule]
  simp only [Option.some.injEq, exists_eq_left']
  rw [admits_flags_iff, Header.flags_ofFrame htcp, sameFlags_names_iff, hmask]
  exact and_iff_right htcp

/-- Texts of flags are sets. A text is read as the union of the flags that it names, or as the fault
of its first word that names none; texts that mention the same flags are read alike, and what is
written of a text that was read is read as the same bits. A rule on the flags alone matches the TCP
frames whose header has exactly the flags that the rule names. Where the capture parts the word of
the flags, it is the first byte of the word that is taken for them. -/
theorem flags_match_as_sets :
    (∀ text bits, parse text = .ok bits ↔ Names (wordsOf text) bits) ∧
    (∀ text, (∃ bits, parse text = .ok bits) ↔ ∀ word ∈ wordsOf text, Known word) ∧
    (∀ text fault, parse text = .error fault ↔
      ∃ before word behind, wordsOf text = before ++ word :: behind ∧ (∀ w ∈ before, Known w) ∧
        ¬ Known word ∧ fault = .unknownFlag (String.ofList word)) ∧
    (∀ s t, (∀ word ∈ wordsOf s, Known word) → (∀ word ∈ wordsOf t, Known word) →
      (∀ flag ∈ Flags.table, Mentions (wordsOf s) flag ↔ Mentions (wordsOf t) flag) →
      parse s = parse t) ∧
    (∀ text bits, parse text = .ok bits → parse (names bits) = .ok bits) ∧
    ∀ (calls : List (Rule α)) i name text action number data,
      (after calls).rules[i]? = some ⟨name, [.flags text], action⟩ →
      (ofFrame number data).1.isTcp = true →
      (¬ Parts data (transportStart data + 12) 2 →
        (i ∈ (after calls).matching (ofFrame number data).1 ↔
          Names (wordsOf text) (flagBits data))) ∧
      (Parts data (transportStart data + 12) 2 →
        (i ∈ (after calls).matching (ofFrame number data).1 ↔
          Names (wordsOf text) (transportByte data 12).toUInt16)) := by
  refine ⟨fun text bits => parse_eq_ok_iff, fun text => exists_parse_eq_ok_iff,
    fun text fault => union_eq_error_iff, fun s t => parse_congr,
    fun text bits => parse_names_of_parse, ?_⟩
  intro calls i name text action number data hrule htcp
  rw [mem_matching_flags_iff hrule htcp]
  refine ⟨fun hwhole => ?_, fun hparts => ?_⟩
  · rw [Header.word_and_mask_of_whole hwhole]
  · rw [Header.word_and_mask_of_parts hparts]

def acknowledged : Rule Unit := ⟨"acknowledged", [.flags "syn|Ack, ACK"], ()⟩

def echoed : Rule Unit := ⟨"echoed", [.flags "ECE ACK"], ()⟩

/-- A name in each style, one of them twice, against a frame with the flags `ACK SYN`. -/
theorem flags_match_as_sets_any_style :
    (after [acknowledged]).rules[0]? = some acknowledged ∧
      (ofFrame 3 Header.toPort502).1.isTcp = true ∧
      ¬ Parts Header.toPort502 (transportStart Header.toPort502 + 12) 2 ∧
      Names (wordsOf "syn|Ack, ACK") (flagBits Header.toPort502) ∧
      0 ∈ (after [acknowledged]).matching (ofFrame 3 Header.toPort502).1 := by
  have hrule : (after [acknowledged]).rules[0]? = some acknowledged := rfl
  have htcp : (ofFrame 3 Header.toPort502).1.isTcp = true := by decide
  have hwhole : ¬ Parts Header.toPort502 (transportStart Header.toPort502 + 12) 2 := by decide
  obtain ⟨hparse, -, -, -, -, hmatch⟩ := @flags_match_as_sets Unit
  have hnames : Names (wordsOf "syn|Ack, ACK") (flagBits Header.toPort502) :=
    (hparse _ _).1 (by decide)
  exact ⟨hrule, htcp, hwhole, hnames,
    ((hmatch [acknowledged] 0 _ _ _ 3 _ hrule htcp).1 hwhole).2 hnames⟩

/-- The frame is cut behind the data offset `0x50`, which is read as the flags `ECE ACK`. -/
theorem not_matches_flagBits_cut :
    (after [echoed]).rules[0]? = some echoed ∧
      (ofFrame 3 (Header.toPort502.take 47)).1.isTcp = true ∧
      ¬ (0 ∈ (after [echoed]).matching (ofFrame 3 (Header.toPort502.take 47)).1 ↔
        Names (wordsOf "ECE ACK") (flagBits (Header.toPort502.take 47))) := by
  have hmatched : 0 ∈ (after [echoed]).matching (ofFrame 3 (Header.toPort502.take 47)).1 := by
    decide
  have hnone : flagBits (Header.toPort502.take 47) = 0 := by decide
  have hread : parse "ECE ACK" = .ok 0x50 := by decide
  refine ⟨rfl, by decide, fun h => ?_⟩
  have hnames := h.1 hmatched
  rw [hnone, ← parse_eq_ok_iff, hread] at hnames
  cases hnames

end Engine

end Filter

end HostSurvey
