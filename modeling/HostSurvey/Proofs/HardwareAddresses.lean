import HostSurvey.Proofs.AddressLayouts
import HostSurvey.Proofs.ByteOrder
import HostSurvey.Proofs.CharacterBytes
import HostSurvey.Proofs.FrameRecords
import HostSurvey.Proofs.NumberText
import Mathlib.Data.Nat.Digits.Defs

/-!
# Texts of hardware addresses

Of a text only its core counts: what is left without blanks around it and without
separators. An address is written by a core of twelve hexadecimal digits, and so
every layout of one address is read alike, wherever it stands. One other form is
read as well: a plus sign may stand in the place of the first digit.
-/

namespace HostSurvey

open Text

namespace Text.Hex

/-- The text is a row of hexadecimal digits, of either case, that write the number. -/
def Writes (s : List Char) (n : Nat) : Prop :=
  ∃ digits : List Nat, s.map (fun c => value c.toNat) = digits.map some ∧
    Nat.ofDigits 16 digits.reverse = n

variable {s : List Char} {n : Nat} {c : Char}

theorem writes_nil : Writes [] 0 := ⟨[], rfl, rfl⟩

theorem writes_concat_iff :
    Writes (s ++ [c]) n ↔ ∃ m d, Writes s m ∧ value c.toNat = some d ∧ n = m * 16 + d := by
  have hvalue (digits : List Nat) (d : Nat) :
      Nat.ofDigits 16 (digits ++ [d]).reverse = Nat.ofDigits 16 digits.reverse * 16 + d := by
    rw [List.reverse_append, List.reverse_singleton, List.singleton_append, Nat.ofDigits_cons]
    omega
  constructor
  · rintro ⟨digits, hdigits, rfl⟩
    rw [List.map_append, List.map_singleton, eq_comm, List.map_eq_append_iff] at hdigits
    obtain ⟨front, last, rfl, hfront, hlast⟩ := hdigits
    obtain ⟨d, rfl, hd⟩ := List.map_eq_singleton_iff.1 hlast
    exact ⟨_, d, ⟨front, hfront.symm, rfl⟩, hd.symm, hvalue front d⟩
  · rintro ⟨m, d, ⟨digits, hdigits, rfl⟩, hd, rfl⟩
    refine ⟨digits ++ [d], ?_, hvalue digits d⟩
    rw [List.map_append, List.map_singleton, List.map_append, List.map_singleton, hdigits, hd]

theorem Writes.exists_value (h : Writes s n) (hc : c ∈ s) : ∃ d, value c.toNat = some d := by
  obtain ⟨digits, hdigits, -⟩ := h
  have hmem : value c.toNat ∈ digits.map some := hdigits ▸ List.mem_map_of_mem hc
  obtain ⟨d, -, hd⟩ := List.mem_map.1 hmem
  exact ⟨d, hd.symm⟩

theorem value_lt_and_ascii {m d : Nat} (h : value m = some d) : d < 16 ∧ m < 0x80 := by
  unfold value at h
  repeat' split at h
  all_goals simp only [Option.some.injEq, reduceCtorEq] at h
  all_goals omega

theorem Writes.length_encode (h : Writes s n) : (Utf8.encode s).length = s.length := by
  refine Utf8.length_encode_of_ascii fun c hc => ?_
  obtain ⟨d, hd⟩ := h.exists_value hc
  exact (value_lt_and_ascii hd).2

theorem Writes.lt (h : Writes s n) : n < 16 ^ s.length := by
  induction s using List.reverseRecOn generalizing n with
  | nil =>
    obtain ⟨digits, hdigits, rfl⟩ := h
    obtain rfl : digits = [] := List.map_eq_nil_iff.1 hdigits.symm
    decide
  | append_singleton s c ih =>
    obtain ⟨m, d, hm, hd, rfl⟩ := writes_concat_iff.1 h
    have hfront := ih hm
    have hlast := (value_lt_and_ascii hd).1
    rw [List.length_append, List.length_singleton, Nat.pow_succ]
    omega

/-- Two digits for each byte write the number of the bytes. -/
theorem writes_lower (s : Bytes) : Writes (lower s) (Bytes.value s) := by
  induction s using List.reverseRecOn with
  | nil => exact writes_nil
  | append_singleton s b ih =>
    have hhigh : b.toNat / 16 < 16 := by
      have := b.toNat_lt
      omega
    have hlow : b.toNat % 16 < 16 := Nat.mod_lt _ (by decide)
    have hpair : lower (s ++ [b]) =
        lower s ++ [digit 97 (b.toNat / 16)] ++ [digit 97 (b.toNat % 16)] := by
      simp [lower, pair]
    rw [hpair, Bytes.value_concat, writes_concat_iff]
    refine ⟨_, _, writes_concat_iff.2 ⟨_, _, ih, value_digit_lower _ hhigh, rfl⟩,
      value_digit_lower _ hlow, ?_⟩
    omega

end Text.Hex

namespace Mac

open Text.Hex

variable {s : List Char} {n : Nat} {m : Mac}

/-! ## Digits and a sign -/

theorem hexNumber?_concat (s : List Char) (c : Char) :
    hexNumber? (s ++ [c]) =
      (hexNumber? s).bind fun m => (Hex.value c.toNat).map fun d => m * 16 + d := by
  rw [hexNumber?, List.foldlM_append]
  refine Option.bind_congr fun m _ => ?_
  rw [List.foldlM_cons]
  exact Option.bind_fun_some _

theorem hexNumber?_eq_some_iff : hexNumber? s = some n ↔ Writes s n := by
  induction s using List.reverseRecOn generalizing n with
  | nil =>
    constructor
    · intro h
      cases h
      exact writes_nil
    · intro h
      have hn := h.lt
      obtain rfl : n = 0 := by simpa using hn
      rfl
  | append_singleton s c ih =>
    simp only [hexNumber?_concat, writes_concat_iff, Option.bind_eq_some_iff,
      Option.map_eq_some_iff, ih]
    constructor
    · rintro ⟨m, hm, d, hd, rfl⟩
      exact ⟨m, d, hm, hd, rfl⟩
    · rintro ⟨m, d, hm, hd, rfl⟩
      exact ⟨m, hm, d, hd, rfl⟩

/-- A plus sign is no digit. -/
theorem not_writes_plus : ¬ Writes ('+' :: s) n := by
  intro h
  obtain ⟨d, hd⟩ := h.exists_value List.mem_cons_self
  cases hd

theorem unsignedHex?_eq_some_iff :
    unsignedHex? s = some n ↔
      s ≠ [] ∧ Writes s n ∨ ∃ t, s = '+' :: t ∧ t ≠ [] ∧ Writes t n := by
  unfold unsignedHex?
  split
  · simp
  · simp [not_writes_plus]
  · rename_i t hne
    simp only [hexNumber?_eq_some_iff, not_writes_plus]
    have ht : t ≠ [] := fun h => hne (by rw [h])
    simp [ht]
  · rename_i hnil hplus hsigned
    have hne : s ≠ [] := hnil
    have hunsigned : ∀ t, s ≠ '+' :: t := hsigned
    simp [hexNumber?_eq_some_iff, hunsigned, hne]

/-! ## Cores -/

/-- What counts of a text: the text without blanks around it and without separators. -/
def core (s : List Char) : List Char := (trim s).filter fun c => !isSeparator c

/-- The text writes the address, with twelve digits. -/
def Written (s : List Char) (m : Mac) : Prop := (core s).length = 12 ∧ Writes (core s) m.toNat

/-- The text writes the address with eleven digits behind a plus sign. -/
def Signed (s : List Char) (m : Mac) : Prop :=
  ∃ digits, core s = '+' :: digits ∧ digits.length = 11 ∧ Writes digits m.toNat

theorem toNat_ofNat (h : n < 2 ^ 48) : (ofNat n).toNat = n := by
  rw [toNat, ofNat, BitVec.toNat_ofNat, Nat.mod_eq_of_lt h]

theorem ofNat_toNat (m : Mac) : ofNat m.toNat = m := by
  rw [ofNat, toNat, BitVec.ofNat_toNat, BitVec.setWidth_eq]

theorem parse?_eq (s : List Char) :
    parse? s = if (Utf8.encode (core s)).length = 12 then (unsignedHex? (core s)).map ofNat
      else none := rfl

theorem parse?_eq_some_iff : parse? s = some m ↔ Written s m ∨ Signed s m := by
  rw [parse?_eq, Option.ite_none_right_eq_some, Option.map_eq_some_iff]
  constructor
  · rintro ⟨hlength, n, hn, rfl⟩
    obtain ⟨-, hwrites⟩ | ⟨digits, hcore, -, hwrites⟩ := unsignedHex?_eq_some_iff.1 hn
    · have hcore : (core s).length = 12 := hwrites.length_encode ▸ hlength
      have hlt := hwrites.lt
      rw [hcore] at hlt
      refine .inl ⟨hcore, ?_⟩
      rwa [toNat_ofNat hlt]
    · have hdigits : digits.length = 11 := by
        rw [hcore, Utf8.encode_cons, List.length_append, hwrites.length_encode] at hlength
        have hplus : (Utf8.encodeChar '+').length = 1 := rfl
        omega
      have hlt := hwrites.lt
      rw [hdigits] at hlt
      refine .inr ⟨digits, hcore, hdigits, ?_⟩
      rwa [toNat_ofNat (hlt.trans (by decide))]
  · rintro (⟨hlength, hwrites⟩ | ⟨digits, hcore, hlength, hwrites⟩)
    · have hne : core s ≠ [] := by
        rintro hnil
        rw [hnil] at hlength
        cases hlength
      exact ⟨hwrites.length_encode.trans hlength, m.toNat,
        unsignedHex?_eq_some_iff.2 (.inl ⟨hne, hwrites⟩), m.ofNat_toNat⟩
    · have hne : digits ≠ [] := by
        rintro rfl
        cases hlength
      refine ⟨?_, m.toNat, unsignedHex?_eq_some_iff.2 (.inr ⟨digits, hcore, hne, hwrites⟩),
        m.ofNat_toNat⟩
      rw [hcore, Utf8.encode_cons, List.length_append, hwrites.length_encode, hlength]
      rfl

/-! ## Layouts -/

theorem core_trim (s : List Char) : core (trim s) = core s := by rw [core, trim_trim, core]

/-- Blanks around a text do not count. -/
theorem parse?_trim (s : List Char) : parse? (trim s) = parse? s := by
  rw [parse?_eq, core_trim, parse?_eq]

theorem not_separator_of_value {c : Char} {d : Nat} (h : Hex.value c.toNat = some d) :
    isSeparator c = false ∧ isBlank c = false := by
  have hcode : 48 ≤ c.toNat ∧ c.toNat ≤ 57 ∨ 65 ≤ c.toNat ∧ c.toNat ≤ 102 := by
    unfold Hex.value at h
    repeat' split at h
    all_goals simp only [Option.some.injEq, reduceCtorEq] at h
    all_goals omega
  constructor
  · rw [isSeparator, Bool.or_eq_false_iff, Bool.or_eq_false_iff]
    refine ⟨⟨?_, ?_⟩, ?_⟩ <;>
    · rw [beq_eq_false_iff_ne]
      rintro rfl
      exact absurd hcode (by decide)
  · rw [Bool.eq_false_iff]
    intro hblank
    have hmem := mem_blankCodes_of_isBlank hblank
    simp only [blankCodes, List.mem_cons, List.not_mem_nil, or_false] at hmem
    omega

theorem not_isBlank_of_isSeparator {c : Char} (h : isSeparator c = true) : isBlank c = false := by
  simp only [isSeparator, Bool.or_eq_true, beq_iff_eq] at h
  obtain (rfl | rfl) | rfl := h <;> decide

theorem filter_intercalate {sep : Char} (hsep : isSeparator sep = true)
    (groups : List (List Char)) :
    ([sep].intercalate groups).filter (fun c => !isSeparator c) =
      groups.flatten.filter fun c => !isSeparator c := by
  induction groups with
  | nil => rfl
  | cons group groups ih =>
    cases groups with
    | nil => simp
    | cons next groups =>
      rw [List.intercalate_cons_cons, List.filter_append, List.filter_append, ih,
        List.flatten_cons, List.filter_append]
      simp [hsep]

theorem mem_intercalate {sep c : Char} {groups : List (List Char)}
    (h : c ∈ [sep].intercalate groups) : c = sep ∨ c ∈ groups.flatten := by
  induction groups with
  | nil => cases h
  | cons group groups ih =>
    cases groups with
    | nil => exact .inr (by simpa using h)
    | cons next groups =>
      rw [List.intercalate_cons_cons, List.mem_append, List.mem_append, List.mem_singleton] at h
      rw [List.flatten_cons, List.mem_append]
      obtain (h | h) | h := h
      · exact .inr (.inl h)
      · exact .inl h
      · exact (ih h).imp_right .inr

/-- Separators between groups of digits do not count. -/
theorem core_intercalate {groups : List (List Char)} {sep : Char} (hsep : isSeparator sep = true)
    (h : Writes groups.flatten n) : core ([sep].intercalate groups) = groups.flatten := by
  have hdigit : ∀ c ∈ groups.flatten, isSeparator c = false ∧ isBlank c = false := by
    intro c hc
    obtain ⟨d, hd⟩ := h.exists_value hc
    exact not_separator_of_value hd
  have hunbroken : Unbroken ([sep].intercalate groups) := by
    intro c hc
    obtain rfl | hc := mem_intercalate hc
    · exact not_isBlank_of_isSeparator hsep
    · exact (hdigit c hc).2
  rw [core, trim_of_unbroken hunbroken, filter_intercalate hsep, List.filter_eq_self]
  intro c hc
  rw [(hdigit c hc).1]
  rfl

theorem parse?_intercalate {groups : List (List Char)} {sep : Char}
    (hsep : isSeparator sep = true) (hlength : groups.flatten.length = 12)
    (h : Writes groups.flatten m.toNat) : parse? ([sep].intercalate groups) = some m := by
  refine parse?_eq_some_iff.2 (.inl ?_)
  rw [Written, core_intercalate hsep h]
  exact ⟨hlength, h⟩

/-! ## The shown text -/

theorem value_octets (m : Mac) : Bytes.value m.octets = m.toNat := by
  have hm : m.toNat < 2 ^ 48 := m.bits.isLt
  have hoctet (start : Nat) : (UInt8.ofBitVec (m.bits.extractLsb' start 8)).toNat =
      m.toNat / 2 ^ start % 256 := by
    rw [UInt8.toNat_ofBitVec, BitVec.extractLsb'_toNat, Nat.shiftRight_eq_div_pow]
    rfl
  simp only [octets, Bytes.value, List.map_cons, List.map_nil, List.foldl_cons, List.foldl_nil,
    hoctet]
  omega

/-- An address is read back from the text that it is shown as. -/
theorem parse?_text (m : Mac) : parse? m.text.toList = some m := by
  have htext : m.text.toList = [':'].intercalate (m.octets.map (Hex.pair 97)) := by
    have hsep : ":".toList = [':'] := rfl
    rw [text, String.toList_intercalate, List.map_map, hsep]
    simp [Function.comp_def]
  have hdigits : (m.octets.map (Hex.pair 97)).flatten = Hex.lower m.octets := rfl
  rw [htext]
  refine parse?_intercalate rfl rfl ?_
  rw [hdigits, ← m.value_octets]
  exact Hex.writes_lower m.octets

/-! ## Traits and rows -/

/-- As the text of a trait an address is read wherever it is read by itself. -/
theorem read_macAddr (s : List Char) :
    (Trait.read .macAddr s).toOption = (parse? s).map fun m => .long m.toInt64 := by
  simp only [Trait.read, Trait.reading?, Reading.read, parse?_trim]
  cases parse? s <;> rfl

open AddressTable

theorem mac_arpRow? {protocol ip age mac kind interface line : List Char}
    (hline : Spaced [protocol, ip, age, mac, kind, interface] line)
    (hip : (Ipv4.parse? ip).isSome) : (arpRow? line).map ArpRow.mac = parse? mac := by
  obtain ⟨address, haddress⟩ := Option.isSome_iff_exists.1 hip
  simp only [arpRow?, hline.words_eq, haddress]
  cases parse? mac <;> rfl

/-- The words of other rows write no address. -/
theorem parse?_of_reserved (h : s ∈ reserved) : parse? s = none := by
  have hall : ∀ w ∈ reserved, parse? w = none := by decide
  exact hall s h

theorem mac_row? {r : Columns}
    (hrest : ∀ w ∈ [r.kind, r.vlan, r.port], w ≠ "All".toList ∧ w ≠ "CPU".toList)
    (hvlan : (Decimal.readUInt16 r.vlan).isSome) : r.row?.map MacRow.mac = parse? r.mac := by
  obtain ⟨id, hid⟩ := Option.isSome_iff_exists.1 hvlan
  cases hmac : parse? r.mac with
  | none =>
    have hrow : r.row? = none := by
      rw [Option.eq_none_iff_forall_ne_some]
      intro row hrow
      obtain ⟨-, id', m, -, hm, -⟩ := Columns.row?_eq_some_iff.1 hrow
      rw [hmac] at hm
      cases hm
    rw [hrow]
    rfl
  | some m =>
    have hown : r.mac ∉ reserved := fun h => by
      rw [parse?_of_reserved h] at hmac
      cases hmac
    have hfree : r.isReserved = false := by
      rw [Columns.isReserved_eq_false_iff, List.forall_mem_cons]
      exact ⟨by simpa [reserved] using hown, hrest⟩
    have hrow : r.row? = some ⟨some id, m, String.ofList r.port⟩ :=
      Columns.row?_eq_some_iff.2 ⟨hfree, id, m, hid, hmac, rfl⟩
    rw [hrow]
    rfl

theorem not_written_of_signed {s : List Char} {m m' : Mac} (h : Signed s m) : ¬ Written s m' := by
  rintro ⟨-, hwrites⟩
  obtain ⟨digits, hcore, -, -⟩ := h
  rw [hcore] at hwrites
  exact not_writes_plus hwrites

/-- A text is read as an address exactly when its core is twelve hexadecimal digits that write the
address, or eleven behind a plus sign; so just those with a plus sign are read without being written.
Any separators may stand between the digits, the shown text of an address is read back, and a trait
and the rows of both kinds of tables take the same texts for the same addresses. -/
theorem parses_written_or_signed (s : List Char) (m : Mac) :
    (parse? s = some m ↔ Written s m ∨ Signed s m) ∧
      ((∀ n, parse? s = some n ↔ Written s n) ↔ ∀ n, ¬ Signed s n) ∧
      (∀ groups sep, isSeparator sep = true → groups.flatten.length = 12 →
        Writes groups.flatten m.toNat → parse? ([sep].intercalate groups) = some m) ∧
      parse? m.text.toList = some m ∧
      (Trait.read .macAddr s).toOption = (parse? s).map (fun m => .long m.toInt64) ∧
      (∀ protocol ip age kind interface line,
        Spaced [protocol, ip, age, s, kind, interface] line → (Ipv4.parse? ip).isSome →
          (arpRow? line).map ArpRow.mac = parse? s) ∧
      ∀ (layout : MacLayout) kind vlan port line,
        Spaced (layout.order ⟨s, kind, vlan, port⟩) line →
        (∀ w ∈ [kind, vlan, port], w ≠ "All".toList ∧ w ≠ "CPU".toList) →
        (Decimal.readUInt16 vlan).isSome → (layout.parse? line).map MacRow.mac = parse? s := by
  refine ⟨parse?_eq_some_iff, ⟨fun hwritten n hsigned => ?_, fun hno n => ?_⟩,
    fun groups sep => parse?_intercalate, parse?_text m, read_macAddr s, ?_, ?_⟩
  · exact not_written_of_signed hsigned ((hwritten n).1 (parse?_eq_some_iff.2 (.inr hsigned)))
  · rw [parse?_eq_some_iff, or_iff_left (hno n)]
  · intro protocol ip age kind interface line hline hip
    exact mac_arpRow? hline hip
  · intro layout kind vlan port line hline hrest hvlan
    rw [MacLayout.parse?_of_spaced hline]
    exact mac_row? hrest hvlan

/-- One address with dots, with colons and with hyphens, and in rows of both tables. -/
theorem parses_written_or_signed_layouts :
    let m : Mac := ofNat 0x1ce6c783e58a
    parse? "1ce6.c783.e58a".toList = some m ∧ parse? "1C:E6:C7:83:E5:8A".toList = some m ∧
      parse? "1c-e6-c7-83-e5-8a".toList = some m ∧
      (arpRow? "Internet 10.1.1.1 - 1ce6.c783.e58a ARPA Vlan10".toList).map ArpRow.mac = some m ∧
      (MacLayout.vlanFirst.parse? " 10 1ce6.c783.e58a DYNAMIC Fa0/1".toList).map MacRow.mac =
        some m := by
  intro m
  obtain ⟨-, -, hlayouts, -, -, harp, hmac⟩ :=
    parses_written_or_signed "1ce6.c783.e58a".toList (ofNat 0x1ce6c783e58a)
  have hdotted : parse? "1ce6.c783.e58a".toList = some m := by
    refine hlayouts ["1ce6".toList, "c783".toList, "e58a".toList] '.' rfl rfl ?_
    exact hexNumber?_eq_some_iff.1 (by decide)
  have hcolons : parse? "1C:E6:C7:83:E5:8A".toList = some m := by
    refine hlayouts (["1C", "E6", "C7", "83", "E5", "8A"].map String.toList) ':' rfl rfl ?_
    exact hexNumber?_eq_some_iff.1 (by decide)
  have hhyphens : parse? "1c-e6-c7-83-e5-8a".toList = some m := by
    refine hlayouts (["1c", "e6", "c7", "83", "e5", "8a"].map String.toList) '-' rfl rfl ?_
    exact hexNumber?_eq_some_iff.1 (by decide)
  refine ⟨hdotted, hcolons, hhyphens, ?_, ?_⟩
  · rw [← hdotted]
    exact harp "Internet".toList "10.1.1.1".toList "-".toList "ARPA".toList "Vlan10".toList _
      (by decide +kernel) (by decide +kernel)
  · rw [← hdotted]
    exact hmac .vlanFirst "DYNAMIC".toList "10".toList "Fa0/1".toList _ (by decide +kernel)
      (by decide) (by decide)

/-- A plus sign passes for the first digit. -/
theorem not_parses_written_only : ¬ ∀ s m, parse? s = some m ↔ Written s m := by
  intro h
  have hread : parse? "+1ce6c783e58".toList = some (ofNat 0x1ce6c783e58) := by decide
  exact not_writes_plus ((h _ _).1 hread).2

end Mac

end HostSurvey
