import HostSurvey.Payload.Content
import HostSurvey.Proofs.ByteOrder
import HostSurvey.Proofs.JsonTokens

/-!
# Rendering tells bytes apart

As many bytes are rendered to as many texts in every way but two: as a string,
where broken parts look alike, and as an address of more than four bytes, of
which only the last four are shown. Bytes that a way of rendering has no form
for are shown in hexadecimal digits.
-/

namespace HostSurvey

/-! ## Digits and separators -/

namespace Text

namespace Hex

variable {ten : Nat}

theorem digit_inj (hten : ∀ n < 16, value (digit ten n).toNat = some n) {m n : Nat} (hm : m < 16)
    (hn : n < 16) (h : digit ten m = digit ten n) : m = n := by
  have hvalue := hten m hm
  rw [h, hten n hn] at hvalue
  exact (Option.some.inj hvalue).symm

theorem flatMap_pair_inj (hten : ∀ n < 16, value (digit ten n).toNat = some n) {s t : Bytes}
    (h : s.flatMap (pair ten) = t.flatMap (pair ten)) : s = t := by
  induction s generalizing t with
  | nil =>
    cases t with
    | nil => rfl
    | cons a t => simp [pair] at h
  | cons b s ih =>
    cases t with
    | nil => simp [pair] at h
    | cons a t =>
      simp only [List.flatMap_cons, pair, List.cons_append, List.nil_append, List.cons.injEq] at h
      obtain ⟨hhigh, hlow, hrest⟩ := h
      have ha := a.toNat_lt
      have hb := b.toNat_lt
      have hhigh := digit_inj hten (by omega) (by omega) hhigh
      have hlow := digit_inj hten (by omega) (by omega) hlow
      have hbyte : b = a := UInt8.toNat_inj.1 (by omega)
      rw [hbyte, ih hrest]

theorem upper_inj {s t : Bytes} : upper s = upper t ↔ s = t :=
  ⟨flatMap_pair_inj value_digit_upper, congrArg upper⟩

theorem lower_inj {s t : Bytes} : lower s = lower t ↔ s = t :=
  ⟨flatMap_pair_inj value_digit_lower, congrArg lower⟩

theorem lower_cons (b : UInt8) (s : Bytes) :
    lower (b :: s) = digit 97 (b.toNat / 16) :: digit 97 (b.toNat % 16) :: lower s := rfl

theorem lower_drop (s : Bytes) (n : Nat) : lower (s.drop n) = (lower s).drop (2 * n) := by
  induction n generalizing s with
  | zero => rfl
  | succ n ih =>
    cases s with
    | nil => rfl
    | cons b s =>
      rw [List.drop_succ_cons, ih, lower_cons, Nat.mul_succ, List.drop_succ_cons,
        List.drop_succ_cons]

theorem lower_take (s : Bytes) (n : Nat) : lower (s.take n) = (lower s).take (2 * n) := by
  induction n generalizing s with
  | zero => rfl
  | succ n ih =>
    cases s with
    | nil => rfl
    | cons b s =>
      rw [List.take_succ_cons, lower_cons, ih, lower_cons, Nat.mul_succ, List.take_succ_cons,
        List.take_succ_cons]

theorem ne_hyphen_of_mem_lower {s : Bytes} {c : Char} (h : c ∈ lower s) : (c == '-') = false := by
  have hdigit : ∀ n < 16, (digit 97 n == '-') = false := by decide
  obtain ⟨b, -, hb⟩ := List.mem_flatMap.1 h
  have hbyte := b.toNat_lt
  simp only [pair, List.mem_cons, List.not_mem_nil, or_false] at hb
  obtain rfl | rfl := hb
  · exact hdigit _ (by omega)
  · exact hdigit _ (by omega)

end Hex

theorem Decimal.ofNat_inj {m n : Nat} : Decimal.ofNat m = Decimal.ofNat n ↔ m = n := by
  constructor
  · intro h
    rw [← Decimal.value_ofNat m, h, Decimal.value_ofNat]
  · exact congrArg Decimal.ofNat

/-- Words with a comma and a blank between them are the fields of the text, blanks included. -/
theorem fields_comma_blank {w : List Char} {ws : List (List Char)}
    (h : ∀ v ∈ w :: ws, ∀ c ∈ v, (c == ',') = false) :
    fields (· == ',') ([',', ' '].intercalate (w :: ws)) = w :: ws.map (' ' :: ·) := by
  induction ws generalizing w with
  | nil => simpa using fields_eq_singleton (h w List.mem_cons_self)
  | cons v ws ih =>
    obtain ⟨hw, hrest⟩ := List.forall_mem_cons.1 h
    -- the blank behind a comma belongs to the next field, which is one more word without commas
    have hblank : [',', ' '].intercalate ((' ' :: v) :: ws) =
        ' ' :: [',', ' '].intercalate (v :: ws) := by
      cases ws <;> rfl
    have hnext : ∀ u ∈ (' ' :: v) :: ws, ∀ c ∈ u, (c == ',') = false := by
      obtain ⟨hv, hws⟩ := List.forall_mem_cons.1 hrest
      exact List.forall_mem_cons.2 ⟨List.forall_mem_cons.2 ⟨by decide, hv⟩, hws⟩
    rw [List.intercalate_cons_cons, List.append_assoc, List.cons_append, List.cons_append,
      List.nil_append, fields_append hw (by decide), ← hblank, ih hnext, List.map_cons]

/-- As many words with commas between them are known from the text. -/
theorem intercalate_comma_blank_inj {ws vs : List (List Char)} (hlength : ws.length = vs.length)
    (hws : ∀ w ∈ ws, ∀ c ∈ w, (c == ',') = false) (hvs : ∀ v ∈ vs, ∀ c ∈ v, (c == ',') = false)
    (h : [',', ' '].intercalate ws = [',', ' '].intercalate vs) : ws = vs := by
  match ws, vs with
  | [], [] => rfl
  | w :: ws, v :: vs =>
    have hfields := fields_comma_blank hws
    rw [h, fields_comma_blank hvs] at hfields
    obtain ⟨hfirst, hrest⟩ := List.cons.inj hfields
    rw [hfirst, List.map_injective_iff.2 List.cons_injective hrest]

end Text

theorem Ipv4.text_inj {a b : Ipv4} : a.text = b.text ↔ a = b := by
  refine ⟨fun h => ?_, congrArg Ipv4.text⟩
  have hread := Ipv4.parse?_chars a
  rw [String.ofList_inj.1 h, Ipv4.parse?_chars] at hread
  exact (Option.some.inj hread).symm

namespace Content

open Bytes

variable {s t : Bytes}

/-! ## Each way of rendering -/

theorem hexText_inj : hexText s = hexText t ↔ s = t := by
  rw [hexText, hexText, String.ofList_inj, Text.Hex.upper_inj]

/-- Numbers are written as usual. -/
theorem integerText_eq (n : Int) : integerText n = toString n := by
  have hrepr : toString n = n.repr := rfl
  rw [hrepr, integerText]
  cases n with
  | ofNat n => exact Nat.repr_eq_ofList_toDigits.symm
  | negSucc n =>
    have hminus : (Int.negSucc n).repr = "-" ++ Nat.repr (n + 1) := rfl
    rw [hminus, Nat.repr_eq_ofList_toDigits, if_pos (Int.negSucc_lt_zero n), Int.natAbs_negSucc]
    exact String.toList_injective (by simp [Text.Decimal.ofNat])

theorem integerText_inj {m n : Int} : integerText m = integerText n ↔ m = n := by
  have hminus (a : Nat) (s : List Char) : Text.Decimal.ofNat a ≠ '-' :: s := by
    have h := Text.Decimal.ofNat_append_ne_minus a [] s
    rwa [List.append_nil] at h
  refine ⟨fun h => ?_, congrArg integerText⟩
  rw [integerText, integerText, String.ofList_inj] at h
  split at h
  · split at h
    · have hsame := Text.Decimal.ofNat_inj.1 (List.cons.inj h).2
      omega
    · exact absurd h.symm (hminus _ _)
  · split at h
    · exact absurd h (hminus _ _)
    · have hsame := Text.Decimal.ofNat_inj.1 h
      omega

theorem signedValue?_of_fits (h : 0 < s.length ∧ s.length ≤ 16) :
    signedValue? s = some (twosComplement s.length s.value) := by
  have hempty : s.isEmpty = false := by
    cases s with
    | nil => simp at h
    | cons => rfl
  have hpow : 2 ^ (8 * s.length) = 256 ^ s.length := Nat.pow_mul 2 8 s.length
  have hvalue : s.value % 256 ^ s.length = s.value := Nat.mod_eq_of_lt s.value_lt_pow
  rw [signedValue?, hempty, if_neg (by simpa using h.2), BitVec.toInt_eq_toNat_cond,
    BitVec.toNat_ofNat, hpow, hvalue, twosComplement]

theorem signedValue?_of_not_fits (h : ¬ (0 < s.length ∧ s.length ≤ 16)) :
    signedValue? s = none := by
  refine if_pos ?_
  cases s with
  | nil => rfl
  | cons b s =>
    simp only [List.length_cons] at h
    simp only [List.isEmpty_cons, List.length_cons, Bool.false_or, decide_eq_true_eq]
    omega

theorem twosComplement_inj (hlength : s.length = t.length)
    (h : twosComplement s.length s.value = twosComplement t.length t.value) : s = t := by
  refine (value_inj hlength).1 (Int.ofNat_inj.1 ?_)
  have hs := twosComplement_emod s.value_lt_pow
  have ht := twosComplement_emod t.value_lt_pow
  rw [h, hlength, ht] at hs
  exact hs.symm

theorem byteText_inj {a b : UInt8} : byteText a = byteText b ↔ a = b := by
  rw [byteText, byteText, integerText_inj]
  constructor
  · intro h
    have ha := a.toNat_lt
    have hb := b.toNat_lt
    have hsame : Int.bmod a.toNat 256 % (256 : Nat) = Int.bmod b.toNat 256 % (256 : Nat) := by
      rw [h]
    rw [Int.bmod_emod, Int.bmod_emod] at hsame
    exact UInt8.toNat_inj.1 (by omega)
  · rintro rfl
    rfl

theorem ne_comma_of_mem_byteText (b : UInt8) : ∀ c ∈ (byteText b).toList, (c == ',') = false := by
  have hdigits (n : Nat) : ∀ c ∈ Text.Decimal.ofNat n, (c == ',') = false := by
    intro c hc
    have hdigit := Text.Decimal.isDigit_of_mem_ofNat hc
    rw [beq_eq_false_iff_ne]
    rintro rfl
    exact absurd hdigit (by decide)
  rw [byteText, integerText, String.toList_ofList]
  split
  · exact List.forall_mem_cons.2 ⟨by decide, hdigits _⟩
  · exact hdigits _

theorem render_rawBytes_inj {e : Endian} (hlength : s.length = t.length)
    (h : render .rawBytes e s = render .rawBytes e t) : s = t := by
  have hwords (s : Bytes) :
      ∀ w ∈ (s.map byteText).map String.toList, ∀ c ∈ w, (c == ',') = false := by
    intro w hw
    obtain ⟨text, htext, rfl⟩ := List.mem_map.1 hw
    obtain ⟨b, -, rfl⟩ := List.mem_map.1 htext
    exact ne_comma_of_mem_byteText b
  have htexts := congrArg String.toList h
  simp only [render, String.toList_append, String.toList_intercalate, List.append_assoc,
    List.append_cancel_left_eq, List.append_cancel_right_eq] at htexts
  -- the length is needed, since no word and one empty word are joined to the same text
  have hsame :=
    Text.intercalate_comma_blank_inj (by simpa using hlength) (hwords s) (hwords t) htexts
  have htext := List.map_injective_iff.2 (fun _ _ => String.toList_injective) hsame
  exact List.map_injective_iff.2 (fun a b hab => byteText_inj.1 hab) htext

/-! ## Addresses -/

/-- The address that up to sixteen bytes are shown as. -/
def address (s : Bytes) : Ipv4 := ⟨UInt32.ofInt (twosComplement s.length s.value)⟩

theorem render_ip_of_fits (h : 0 < s.length ∧ s.length ≤ 16) (e : Endian) :
    render .ip e s = (address s).text := by
  rw [render, signedValue?_of_fits h]
  rfl

theorem toNat_bits_address (s : Bytes) :
    ((address s).bits.toNat : Int) = twosComplement s.length s.value % (256 ^ 4 : Nat) := by
  have hmod := Int.emod_nonneg (twosComplement s.length s.value) (b := 4294967296) (by decide)
  have hlt := Int.emod_lt_of_pos (twosComplement s.length s.value) (b := 4294967296) (by decide)
  have hbits : (address s).bits.toNat =
      (twosComplement s.length s.value % 4294967296).toNat % 4294967296 := rfl
  have hpow : ((256 ^ 4 : Nat) : Int) = 4294967296 := rfl
  rw [hbits, hpow]
  omega

theorem address_inj : address s = address t ↔
    twosComplement s.length s.value % (256 ^ 4 : Nat) =
      twosComplement t.length t.value % (256 ^ 4 : Nat) := by
  rw [← toNat_bits_address, ← toNat_bits_address, Int.natCast_inj, UInt32.toNat_inj]
  exact ⟨congrArg Ipv4.bits, congrArg Ipv4.mk⟩

/-- Only the last four bytes of a longer slice are seen. -/
theorem address_drop (h : 4 ≤ s.length) : address (s.drop (s.length - 4)) = address s := by
  have hlength : (s.drop (s.length - 4)).length = 4 := by
    rw [List.length_drop]
    omega
  have hlast := value_lt_pow (s.drop (s.length - 4))
  rw [hlength] at hlast
  rw [address_inj, hlength, twosComplement_emod hlast, twosComplement_emod_of_le s.value_lt_pow h,
    value_drop s h]

theorem address_inj_of_le (hlength : s.length = t.length) (hle : s.length ≤ 4)
    (h : address s = address t) : s = t := by
  have hs := twosComplement_bounds s.value_lt_pow
  have ht := twosComplement_bounds t.value_lt_pow
  have hpow : 256 ^ s.length ≤ 256 ^ 4 := Nat.pow_le_pow_right (by decide) hle
  rw [address_inj] at h
  rw [← hlength] at ht
  refine twosComplement_inj hlength ?_
  rw [← hlength] at h ⊢
  omega

/-! ## Groups of bytes -/

/-- Groups in lower-case digits with hyphens between them. -/
def hyphenated (groups : List Bytes) : String :=
  String.intercalate "-" (groups.map fun g => String.ofList (Text.Hex.lower g))

theorem fields_hyphenated (g : Bytes) (gs : List Bytes) :
    Text.fields (· == '-') (hyphenated (g :: gs)).toList = (g :: gs).map Text.Hex.lower := by
  have hwords : ∀ w ∈ Text.Hex.lower g :: gs.map Text.Hex.lower, ∀ c ∈ w, (c == '-') = false := by
    rw [← List.map_cons]
    intro w hw
    obtain ⟨group, -, rfl⟩ := List.mem_map.1 hw
    exact fun c hc => Text.Hex.ne_hyphen_of_mem_lower hc
  have hseparator : "-".toList = ['-'] := rfl
  rw [hyphenated, String.toList_intercalate, List.map_map, hseparator, List.map_cons, List.map_cons]
  simp only [Function.comp_def, String.toList_ofList]
  exact Text.fields_intercalate rfl hwords

theorem hyphenated_inj {g h : Bytes} {gs hs : List Bytes} :
    hyphenated (g :: gs) = hyphenated (h :: hs) ↔ g :: gs = h :: hs := by
  refine ⟨fun heq => ?_, congrArg hyphenated⟩
  have hfields := fields_hyphenated g gs
  rw [heq, fields_hyphenated] at hfields
  exact List.map_injective_iff.2 (fun _ _ => Text.Hex.lower_inj.1) hfields.symm

/-- The groups of a UUID. -/
def uuidGroups (s : Bytes) : List Bytes :=
  [s.take 4, (s.drop 4).take 2, (s.drop 6).take 2, (s.drop 8).take 2, s.drop 10]

/-- A stretch and what stands behind it. -/
theorem take_drop_append (s : Bytes) (n k : Nat) :
    (s.drop n).take k ++ s.drop (n + k) = s.drop n := by
  rw [← List.drop_drop, List.take_append_drop]

theorem flatten_uuidGroups (s : Bytes) : (uuidGroups s).flatten = s := by
  simp only [uuidGroups, List.flatten_cons, List.flatten_nil, List.append_nil]
  rw [take_drop_append s 8 2, take_drop_append s 6 2, take_drop_append s 4 2, List.take_append_drop]

theorem uuidText_eq (s : Bytes) : uuidText s = hyphenated (uuidGroups s) := by
  refine String.toList_injective ?_
  simp only [uuidText, hyphenated, uuidGroups, Text.Hex.lower_take, Text.Hex.lower_drop,
    String.toList_intercalate, String.toList_ofList, List.map_cons, List.map_nil]
  simp

theorem uuidText_inj : uuidText s = uuidText t ↔ s = t := by
  refine ⟨fun h => ?_, congrArg uuidText⟩
  rw [uuidText_eq, uuidText_eq] at h
  rw [← flatten_uuidGroups s, ← flatten_uuidGroups t]
  exact congrArg List.flatten (hyphenated_inj.1 h)

theorem uuidBytes_inj {e : Endian} (hlength : s.length = t.length)
    (h : uuidBytes e s = uuidBytes e t) : s = t := by
  cases e with
  | big => exact h
  | little =>
    rw [← List.reverse_inj]
    have hwire : s.reverse.length = t.reverse.length := by simpa using hlength
    simp only [uuidBytes] at h
    generalize s.reverse = w at h hwire ⊢
    generalize t.reverse = v at h hwire ⊢
    -- both are cut at the same places, so they agree part by part
    obtain ⟨h, htail⟩ := List.append_inj h (by simp [hwire])
    obtain ⟨h, hthird⟩ := List.append_inj h (by simp [hwire])
    obtain ⟨hfirst, hsecond⟩ := List.append_inj h (by simp [hwire])
    rw [List.reverse_inj] at hfirst hsecond hthird
    rw [← List.take_append_drop 4 w, ← take_drop_append w 4 2, ← take_drop_append w 6 2, hfirst,
      hsecond, hthird, htail, take_drop_append v 6 2, take_drop_append v 4 2,
      List.take_append_drop 4 v]

/-! ## All ways of rendering -/

/-- Whether there is a form for so many bytes. -/
def Represents (c : Content) (n : Nat) : Prop :=
  match c with
  | .integer | .ip => 0 < n ∧ n ≤ 16
  | .uuid => n = 16
  | _ => True

theorem render_of_not_represents {c : Content} (h : ¬ c.Represents s.length) (e : Endian) :
    c.render e s = hexText s := by
  cases c with
  | integer | ip =>
    rw [render, signedValue?_of_not_fits h]
    rfl
  | uuid => exact if_neg h
  | hex | rawBytes | string => exact absurd trivial h

theorem render_inj_of_ne_ip {c : Content} (hstring : c ≠ .string) (hip : c ≠ .ip) {e : Endian}
    (hlength : s.length = t.length) (h : c.render e s = c.render e t) : s = t := by
  by_cases hform : c.Represents s.length
  · cases c with
    | hex => exact hexText_inj.1 h
    | integer =>
      rw [render, render, signedValue?_of_fits hform, signedValue?_of_fits (hlength ▸ hform)] at h
      exact twosComplement_inj hlength (integerText_inj.1 h)
    | rawBytes => exact render_rawBytes_inj hlength h
    | uuid =>
      have hs : s.length = 16 := hform
      have htexts : uuidText (uuidBytes e s) = uuidText (uuidBytes e t) := by
        rwa [render, render, if_pos hs, if_pos (hlength ▸ hs)] at h
      exact uuidBytes_inj hlength (uuidText_inj.1 htexts)
    | string => exact absurd rfl hstring
    | ip => exact absurd rfl hip
  · rw [render_of_not_represents hform, render_of_not_represents (hlength ▸ hform)] at h
    exact hexText_inj.1 h

theorem render_ip_inj {e : Endian} (hlength : s.length = t.length)
    (h : render .ip e s = render .ip e t) (hshort : s.length ≤ 4 ∨ 16 < s.length) : s = t := by
  by_cases hform : 0 < s.length ∧ s.length ≤ 16
  · rw [render_ip_of_fits hform, render_ip_of_fits (hlength ▸ hform)] at h
    exact address_inj_of_le hlength (by omega) (Ipv4.text_inj.1 h)
  · have hform : ¬ Represents .ip s.length := hform
    rw [render_of_not_represents hform, render_of_not_represents (hlength ▸ hform)] at h
    exact hexText_inj.1 h

/-- A slice of five to sixteen bytes is shown as the address in its last four. -/
theorem render_ip_drop (h : 4 < s.length ∧ s.length ≤ 16) (e : Endian) :
    render .ip e s = render .ip e (s.drop (s.length - 4)) := by
  have hlast : (s.drop (s.length - 4)).length = 4 := by
    rw [List.length_drop]
    omega
  rw [render_ip_of_fits (by omega), render_ip_of_fits (by omega), address_drop (by omega)]

/-- Bytes that have no form are shown in hexadecimal digits. Two slices of one length are rendered
alike only if they are the same, but for strings, and for addresses in five to sixteen bytes: there
the last four bytes decide alone. -/
theorem render_eq_iff {c : Content} (hstring : c ≠ .string) (e : Endian)
    (hlength : s.length = t.length) :
    (¬ c.Represents s.length → c.render e s = hexText s) ∧
    (¬ (c = .ip ∧ 4 < s.length ∧ s.length ≤ 16) → (c.render e s = c.render e t ↔ s = t)) ∧
    (c = .ip ∧ 4 < s.length ∧ s.length ≤ 16 →
      (c.render e s = c.render e t ↔ s.drop (s.length - 4) = t.drop (t.length - 4))) := by
  refine ⟨fun hform => render_of_not_represents hform e, fun hnarrow => ⟨fun h => ?_, ?_⟩, ?_⟩
  · by_cases hip : c = .ip
    · subst hip
      exact render_ip_inj hlength h (by simp only [true_and] at hnarrow; omega)
    · exact render_inj_of_ne_ip hstring hip hlength h
  · exact congrArg (c.render e)
  · rintro ⟨rfl, hlong⟩
    have hlast : (s.drop (s.length - 4)).length = (t.drop (t.length - 4)).length := by
      rw [List.length_drop, List.length_drop, hlength]
    have hs := render_ip_drop hlong e
    have ht := render_ip_drop (s := t) (by omega) e
    rw [hs, ht]
    constructor
    · intro h
      refine render_ip_inj hlast h (.inl ?_)
      rw [List.length_drop]
      omega
    · exact congrArg (render .ip e)

/-- Two slices of sixteen bytes that are told apart as numbers and as UUIDs, but not as
addresses. -/
theorem render_eq_iff_lastFour :
    let s : Bytes := [0xFF, 0, 0, 0, 0, 0, 0, 0, 0, 0, 0, 0, 192, 168, 0, 10]
    let t : Bytes := [0, 0, 0, 0, 0, 0, 0, 0, 0, 0, 0, 1, 192, 168, 0, 10]
    render .integer .little s ≠ render .integer .little t ∧
      render .uuid .little s ≠ render .uuid .little t ∧
      render .ip .big s = render .ip .big t ∧ render .ip .big t = "192.168.0.10" ∧
      render .uuid .big [1, 2] = hexText [1, 2] := by
  intro s t
  have hnumber := (render_eq_iff (c := .integer) (by decide) .little (s := s) (t := t) rfl).2.1
  have huuid := (render_eq_iff (c := .uuid) (by decide) .little (s := s) (t := t) rfl).2.1
  have haddress := (render_eq_iff (c := .ip) (by decide) .big (s := s) (t := t) rfl).2.2
  have hhex := (render_eq_iff (c := .uuid) (by decide) .big (s := [1, 2]) (t := [1, 2]) rfl).1
  exact ⟨fun h => absurd ((hnumber (by decide)).1 h) (by decide),
    fun h => absurd ((huuid (by decide)).1 h) (by decide),
    (haddress (by decide)).2 (by decide), by decide, hhex (show ¬ 2 = 16 by decide)⟩

/-- An address of five bytes hides the first of them. -/
theorem not_render_inj : ¬ ∀ (c : Content) (e : Endian) (s t : Bytes), c ≠ .string →
    s.length = t.length → s ≠ t → c.render e s ≠ c.render e t := by
  intro h
  exact h .ip .big [1, 192, 168, 0, 10] [2, 192, 168, 0, 10] (by decide) rfl (by decide) (by decide)

end Content

end HostSurvey
