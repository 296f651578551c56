import HostSurvey.Proofs.FirstFault
import HostSurvey.Proofs.JsonText
import HostSurvey.Rule.Writer

/-!
# Rule documents read back

Every part of a rule is written as a plain value that its shape takes back to the
part. The parts that are written are put together in the same way as the shapes
that read them, so a fact about each combinator and one about each record carry
over to whole documents. What is asked of a document is that its numbers have the
64 bits that the shapes read, and that it passes its check.
-/

namespace HostSurvey

theorem mapM_map_eq_some {α β γ : Type} {f : β → Option γ} {g : α → β} {h : α → γ} {l : List α}
    (hl : ∀ a ∈ l, f (g a) = some (h a)) : (l.map g).mapM f = some (l.map h) := by
  induction l with
  | nil => rfl
  | cons a l ih =>
    obtain ⟨ha, hl⟩ := List.forall_mem_cons.1 hl
    simp [ha, ih hl]

namespace Json

/-- A plain value that a shape takes to `a`. -/
structure Written {α : Type} (f : Shape α) (levels : Nat) (v : Json) (a : α) : Prop where
  plain : Plain levels v
  read : f v = some a

@[simp] theorem Shape.string_text (s : String) : Shape.string (text s) = some s := rfl

@[simp] theorem Shape.bool_bool (b : Bool) : Shape.bool (.bool b) = some b := rfl

namespace Written

variable {α : Type} {k : Nat}

/-! ## Scalars -/

theorem ofText (s : String) : Written Shape.string k (text s) s :=
  ⟨.text s, rfl⟩

theorem ofInt {low high n : Int} (hlow : low ≤ n) (hhigh : n ≤ high)
    (h : n.natAbs < 18446744073709551616) : Written (Shape.between low high) k (int n) n :=
  ⟨.int h, by simp [Shape.between, Shape.int_int, hlow, hhigh]⟩

theorem ofNat {limit n : Nat} (h : n ≤ limit) (hlimit : limit ≤ 18446744073709551615) :
    Written (Shape.nat limit) k (nat n) n := by
  have hint : Written (Shape.between 0 limit) k (nat n) n :=
    ofInt (Int.natCast_nonneg n) (Int.ofNat_le.2 h) (by omega)
  exact ⟨hint.plain, by rw [Shape.nat, hint.read]; rfl⟩

theorem map {β : Type} {f : Shape α} {v : Json} {a : α} (h : Written f k v a) (g : α → β) :
    Written (fun v => (f v).map g) k v (g a) :=
  ⟨h.plain, by rw [h.read]; rfl⟩

theorem ofUInt8 (n : UInt8) : Written Shape.uint8 k (nat n.toNat) n := by
  have h := (ofNat (k := k) (Nat.le_of_lt_succ n.toNat_lt) (by decide)).map Nat.toUInt8
  rwa [Nat.toUInt8_eq, UInt8.ofNat_toNat] at h

theorem ofUInt16 (n : UInt16) : Written Shape.uint16 k (nat n.toNat) n := by
  have h := (ofNat (k := k) (Nat.le_of_lt_succ n.toNat_lt) (by decide)).map Nat.toUInt16
  rwa [Nat.toUInt16_eq, UInt16.ofNat_toNat] at h

theorem ofUInt32 (n : UInt32) : Written Shape.uint32 k (nat n.toNat) n := by
  have h := (ofNat (k := k) (Nat.le_of_lt_succ n.toNat_lt) (by decide)).map Nat.toUInt32
  rwa [Nat.toUInt32_eq, UInt32.ofNat_toNat] at h

/-! ## Choices -/

theorem ofLabel {table : List (String × α)} {s : String} {a : α} (h : table.lookup s = some a) :
    Written (Shape.oneOf table) k (text s) a :=
  ⟨.text s, h⟩

/-- One form of a choice among forms that all carry something. -/
theorem ofForm {forms : List (String × Shape α)} {label : String} {form : Shape α} {v : Json}
    {a : α} (hform : forms.lookup label = some form) (h : Written form k v a) :
    Written (Rule.oneForm forms) (k + 1) (record [(label, v)]) a :=
  ⟨.record (by simpa using h.plain), by
    simp [Rule.oneForm, record, Shape.choice, hform, h.read]⟩

/-! ## Lists and what may be missing -/

theorem ofOption {f : Shape α} {write : α → Json} {o : Option α} (hnull : f .null = none)
    (h : ∀ a ∈ o, Written f k (write a) a) :
    Written (Shape.nullable f) k ((o.map write).getD .null) o := by
  cases o with
  | none => exact ⟨.null, rfl⟩
  | some a =>
    obtain ⟨hplain, hread⟩ := h a rfl
    refine ⟨hplain, ?_⟩
    change Shape.nullable f (write a) = some (some a)
    unfold Shape.nullable
    split
    · rename_i hwrite
      rw [hwrite, hnull] at hread
      cases hread
    · rw [hread]
      rfl

theorem ofList {f : Shape α} {write : α → Json} {l : List α}
    (h : ∀ a ∈ l, Written f k (write a) a) :
    Written (Shape.list f) (k + 1) (.array (l.map write)) l := by
  refine ⟨.array (List.forall_mem_map.2 fun a ha => (h a ha).plain), ?_⟩
  rw [Shape.list, mapM_map_eq_some (h := id) fun a ha => (h a ha).read, List.map_id]

end Written

/-! ## Records -/

theorem labelled_cons (name : String) (m : String × Json) (ms : List (String × Json)) :
    Shape.labelled name (labelledTexts (m :: ms)) =
      if m.1 = name then m.2 :: Shape.labelled name (labelledTexts ms)
      else Shape.labelled name (labelledTexts ms) := by
  by_cases h : m.1 = name <;> simp [Shape.labelled, labelledTexts, h]

theorem labelled_of_not_mem {name : String} {members : List (String × Json)}
    (h : name ∉ members.map Prod.fst) : Shape.labelled name (labelledTexts members) = [] := by
  induction members with
  | nil => rfl
  | cons m ms ih =>
    rw [List.map_cons, List.mem_cons, not_or] at h
    rw [labelled_cons, if_neg (Ne.symm h.1), ih h.2]

theorem labelled_of_mem {members : List (String × Json)} (hnodup : (members.map Prod.fst).Nodup)
    {m : String × Json} (h : m ∈ members) :
    Shape.labelled m.1 (labelledTexts members) = [m.2] := by
  induction members with
  | nil => cases h
  | cons n ns ih =>
    obtain ⟨hn, hns⟩ := List.nodup_cons.1 hnodup
    rw [labelled_cons]
    obtain rfl | h := List.mem_cons.1 h
    · rw [if_pos rfl, labelled_of_not_mem hn]
    · have hne : n.1 ≠ m.1 := fun heq => hn (heq ▸ List.mem_map_of_mem h)
      rw [if_neg hne, ih hns h]

/-- A record written with all its fields in order gives each of them. -/
theorem fields_record {members : List (String × Json)} {names : List String}
    (hnames : members.map Prod.fst = names) (hnodup : names.Nodup) :
    Shape.fields names (record members) = some (members.map fun m => some m.2) := by
  subst hnames
  rw [record, ← labelledTexts, Shape.fields, if_pos (by simp [labelledTexts])]
  refine mapM_map_eq_some fun m hm => ?_
  rw [Shape.single, labelled_of_mem hnodup hm]

/-- A record is read back when what its shape makes of all its fields is. -/
theorem Written.ofRecord {α : Type} {k : Nat} {f : Shape α} {names : List String}
    {make : List (Option Json) → Option α} {members : List (String × Json)} {a : α}
    (hf : ∀ v, f v = (Shape.fields names v).bind make) (hnames : members.map Prod.fst = names)
    (hnodup : names.Nodup) (hplain : ∀ m ∈ members, Plain k m.2)
    (hread : make (members.map fun m => some m.2) = some a) :
    Written f (k + 1) (record members) a :=
  ⟨.record hplain, by rw [hf, fields_record hnames hnodup, Option.bind_some, hread]⟩

theorem strings_record (entries : List (String × String)) :
    Shape.strings (record (entries.map fun e => (e.1, text e.2))) = some entries := by
  rw [record, List.map_map, Shape.strings, mapM_map_eq_some (h := id), List.map_id]
  intro e _
  rfl

end Json

/-- A map is made again from its entries. -/
theorem SortedMap.ofList_entries {κ α : Type} [Ord κ] [Std.TransOrd κ] [Std.LawfulEqOrd κ]
    [DecidableEq κ] (m : SortedMap κ α) : SortedMap.ofList m.entries = m :=
  SortedMap.ext fun k => by simp [SortedMap.ofList, SortedMap.find?_insertAll]

namespace Rule

open Json

variable {k : Nat}

/-! ## Words -/

/-- Every value of a table is written as a label that is looked up as the value. -/
def Spelled {α : Type} [DecidableEq α] (table : List (String × α)) : Prop :=
  ∀ a, ∃ s, (table.find? fun e => e.2 = a).map Prod.fst = some s ∧ table.lookup s = some a

theorem written_word {α : Type} [DecidableEq α] {table : List (String × α)} (h : Spelled table)
    (a : α) : Written (Shape.oneOf table) k (word table a) a := by
  obtain ⟨s, hs, hlookup⟩ := h a
  rw [word, hs]
  exact .ofLabel hlookup

theorem spelled_marks : Spelled marks := by
  rintro (_ | _ | _) <;> exact ⟨_, rfl, rfl⟩

theorem spelled_positions : Spelled positions := by
  rintro (_ | _ | _ | _ | _) <;> exact ⟨_, rfl, rfl⟩

theorem spelled_endians : Spelled endians := by
  rintro (_ | _) <;> exact ⟨_, rfl, rfl⟩

theorem spelled_comparisons : Spelled comparisons := by
  rintro (_ | _ | _ | _ | _ | _ | _) <;> exact ⟨_, rfl, rfl⟩

theorem spelled_contents : Spelled contents := by
  rintro (_ | _ | _ | _ | _ | _) <;> exact ⟨_, rfl, rfl⟩

theorem written_category (c : Category) : Written category k (text c.label) c :=
  .ofLabel (by cases c <;> rfl)

theorem written_role (r : Role) : Written role k (text r.label) r :=
  .ofLabel (by cases r <;> rfl)

theorem written_direction (d : Direction) : Written direction k (text d.label) d :=
  .ofLabel (by cases d <;> rfl)

/-! ## Numbers of 64 bits -/

/-- An offset or constant of a rule has 64 bits and a sign. -/
def IsOffset (n : Int) : Prop := -9223372036854775808 ≤ n ∧ n ≤ 9223372036854775807

instance (n : Int) : Decidable (IsOffset n) :=
  inferInstanceAs (Decidable (-9223372036854775808 ≤ n ∧ n ≤ 9223372036854775807))

/-- A length or count has 64 bits. -/
def IsSize (n : Nat) : Prop := n ≤ 18446744073709551615

instance (n : Nat) : Decidable (IsSize n) :=
  inferInstanceAs (Decidable (n ≤ 18446744073709551615))

theorem written_offset {n : Int} (h : IsOffset n) : Written Shape.offset k (int n) n :=
  .ofInt h.1 h.2 (by have := h.1; have := h.2; omega)

theorem written_size {n : Nat} (h : IsSize n) : Written Shape.size k (nat n) n :=
  .ofNat h (Nat.le_refl _)

theorem written_labelOrNull {α : Type} {f : Shape α} {label : α → String}
    (h : ∀ a, Written f k (text (label a)) a) (o : Option α) :
    Written (Shape.nullable f) k (textOrNull (o.map label)) o := by
  cases o with
  | none => exact ⟨.null, rfl⟩
  | some a =>
    have ha := (h a).map some
    exact ⟨ha.plain, ha.read⟩

theorem written_textOrNull (o : Option String) :
    Written (Shape.nullable Shape.string) k (textOrNull o) o := by
  simpa using written_labelOrNull (f := Shape.string) (k := k) Written.ofText o

/-! ## Conditions -/

theorem written_range {α β : Type} {f : Shape α} {make : α → α → β} {toNat : α → Nat}
    (hf : ∀ n, Written f k (nat (toNat n)) n) (min max : α) :
    Written (range f make) (k + 1) (rangeJson (toNat min) (toNat max)) (make min max) := by
  refine .ofRecord (fun _ => rfl) rfl (by decide) ?_ ?_
  · simp [(hf _).plain]
  · simp [Shape.required, (hf _).read]

theorem written_condition (c : Condition) :
    Written condition (k + 2) (conditionJson c) c := by
  cases c with
  | ack t => exact .ofForm rfl ((Written.ofText t).map _)
  | seq t => exact .ofForm rfl ((Written.ofText t).map _)
  | flags t => exact .ofForm rfl ((Written.ofText t).map _)
  | dsize n => exact .ofForm rfl ((Written.ofUInt32 n).map _)
  | dsizeWithin min max => exact .ofForm rfl (written_range .ofUInt32 min max)
  | dstPort n => exact .ofForm rfl ((Written.ofUInt16 n).map _)
  | dstPortRange min max => exact .ofForm rfl (written_range .ofUInt16 min max)
  | srcPort n => exact .ofForm rfl ((Written.ofUInt16 n).map _)
  | srcPortRange min max => exact .ofForm rfl (written_range .ofUInt16 min max)
  | ethertype n => exact .ofForm rfl ((Written.ofUInt16 n).map _)
  | transportProtocol n => exact .ofForm rfl ((Written.ofUInt8 n).map _)
  | ttl n => exact .ofForm rfl ((Written.ofUInt8 n).map _)
  | ttlWithin min max => exact .ofForm rfl (written_range .ofUInt8 min max)
  | window n => exact .ofForm rfl ((Written.ofUInt16 n).map _)

/-! ## Operations -/

def IsBound : Bound → Prop
  | .position _ => True
  | .offset n => IsOffset n

instance (b : Bound) : Decidable (IsBound b) :=
  match b with
  | .position _ => inferInstanceAs (Decidable True)
  | .offset n => inferInstanceAs (Decidable (IsOffset n))

/-- The numbers of an operation have 64 bits. -/
def IsWritable : Operation → Prop
  | .anchor op => IsOffset op.offset
  | .byteJump op => IsOffset op.offset ∧ IsSize op.bytes ∧ IsOffset op.postOffset
  | .byteTest op =>
    IsOffset op.value ∧ IsOffset op.offset ∧ IsSize op.bytes ∧ IsOffset op.postOffset
  | .isDataAt op => IsOffset op.offset
  | .search op => IsOffset op.offset ∧ IsSize op.depth
  | .extract op => IsBound op.start ∧ IsBound op.stop ∧ IsSize op.maxLength

instance : (op : Operation) → Decidable (IsWritable op)
  | .anchor op => inferInstanceAs (Decidable (IsOffset op.offset))
  | .byteJump op =>
    inferInstanceAs (Decidable (IsOffset op.offset ∧ IsSize op.bytes ∧ IsOffset op.postOffset))
  | .byteTest op =>
    inferInstanceAs (Decidable
      (IsOffset op.value ∧ IsOffset op.offset ∧ IsSize op.bytes ∧ IsOffset op.postOffset))
  | .isDataAt op => inferInstanceAs (Decidable (IsOffset op.offset))
  | .search op => inferInstanceAs (Decidable (IsOffset op.offset ∧ IsSize op.depth))
  | .extract op =>
    inferInstanceAs (Decidable (IsBound op.start ∧ IsBound op.stop ∧ IsSize op.maxLength))

theorem written_bound {b : Bound} (h : IsBound b) : Written bound k (boundJson b) b := by
  cases b with
  | position p =>
    have hp := written_word (k := k) spelled_positions p
    exact ⟨hp.plain, by rw [boundJson, bound, position, hp.read]⟩
  | offset n =>
    have hn := written_offset (k := k) h
    -- a number is no word, so it is not taken for a position
    exact ⟨hn.plain, by rw [boundJson, bound, hn.read]; rfl⟩

theorem written_anchor {op : Anchor} (h : IsOffset op.offset) :
    Written operation (k + 2) (operationJson (.anchor op)) (.anchor op) := by
  have hcursor := written_word (k := k) spelled_marks op.cursor
  have hposition := Written.ofOption (k := k) (o := op.position) rfl
    fun p _ => written_word spelled_positions p
  have hoffset := written_offset (k := k) h
  refine .ofForm rfl (.map ?_ _)
  refine .ofRecord (fun _ => rfl) rfl (by decide) ?_ ?_
  · simp [hcursor.plain, hposition.plain, hoffset.plain]
  · simp [Shape.optional, mark, hcursor.read, position, hposition.read, hoffset.read]

theorem written_byteJump {op : ByteJump} (hoffset : IsOffset op.offset) (hbytes : IsSize op.bytes)
    (hpost : IsOffset op.postOffset) :
    Written operation (k + 2) (operationJson (.byteJump op)) (.byteJump op) := by
  have hoffset := written_offset (k := k) hoffset
  have hbytes := written_size (k := k) hbytes
  have hendian := written_word (k := k) spelled_endians op.endian
  have hpost := written_offset (k := k) hpost
  refine .ofForm rfl (.map ?_ _)
  refine .ofRecord (fun _ => rfl) rfl (by decide) ?_ ?_
  · simp [hoffset.plain, hbytes.plain, hendian.plain, hpost.plain]
  · simp [Shape.optional, hoffset.read, hbytes.read, endian, hendian.read, hpost.read]

theorem written_byteTest {op : ByteTest} (hvalue : IsOffset op.value) (hoffset : IsOffset op.offset)
    (hbytes : IsSize op.bytes) (hpost : IsOffset op.postOffset) :
    Written operation (k + 2) (operationJson (.byteTest op)) (.byteTest op) := by
  have htest := written_word (k := k) spelled_comparisons op.test
  have hvalue := written_offset (k := k) hvalue
  have hoffset := written_offset (k := k) hoffset
  have hbytes := written_size (k := k) hbytes
  have hendian := written_word (k := k) spelled_endians op.endian
  have hpost := written_offset (k := k) hpost
  refine .ofForm rfl (.map ?_ _)
  refine .ofRecord (fun _ => rfl) rfl (by decide) ?_ ?_
  · simp [htest.plain, hvalue.plain, hoffset.plain, hbytes.plain, hendian.plain, hpost.plain]
  · simp [Shape.required, Shape.optional, comparison, htest.read, hvalue.read, hoffset.read,
      hbytes.read, endian, hendian.read, hpost.read]

theorem written_isDataAt {op : IsDataAt} (hoffset : IsOffset op.offset) :
    Written operation (k + 2) (operationJson (.isDataAt op)) (.isDataAt op) := by
  have hoffset := written_offset (k := k) hoffset
  refine .ofForm rfl (.map ?_ _)
  refine .ofRecord (fun _ => rfl) rfl (by decide) ?_ ?_
  · simp [hoffset.plain]
  · simp [Shape.optional, hoffset.read]

theorem written_search {op : Match} (hoffset : IsOffset op.offset) (hdepth : IsSize op.depth) :
    Written operation (k + 2) (operationJson (.search op)) (.search op) := by
  have hpattern := written_textOrNull (k := k) op.pattern
  have hcontent := written_textOrNull (k := k) op.content
  have hoffset := written_offset (k := k) hoffset
  have hdepth := written_size (k := k) hdepth
  refine .ofForm rfl (.map ?_ _)
  refine .ofRecord (fun _ => rfl) rfl (by decide) ?_ ?_
  · simp [hpattern.plain, hcontent.plain, hoffset.plain, hdepth.plain]
  · simp [Shape.optional, hpattern.read, hcontent.read, hoffset.read, hdepth.read]

theorem written_extract {op : Extract} (hstart : IsBound op.start) (hstop : IsBound op.stop)
    (hlength : IsSize op.maxLength) :
    Written operation (k + 2) (operationJson (.extract op)) (.extract op) := by
  have hstart := written_bound (k := k) hstart
  have hstop := written_bound (k := k) hstop
  have hlength := written_size (k := k) hlength
  have hendian := written_word (k := k) spelled_endians op.endian
  have hconvert := written_word (k := k) spelled_contents op.convert
  refine .ofForm rfl (.map ?_ _)
  refine .ofRecord (fun _ => rfl) rfl (by decide) ?_ ?_
  · simp [hstart.plain, hstop.plain, hlength.plain, hendian.plain, hconvert.plain]
  · simp [Shape.required, Shape.optional, hstart.read, hstop.read, hlength.read, endian,
      hendian.read, content, hconvert.read]

theorem written_operation {op : Operation} (h : IsWritable op) :
    Written operation (k + 2) (operationJson op) op := by
  cases op with
  | anchor op => exact written_anchor h
  | byteJump op => exact written_byteJump h.1 h.2.1 h.2.2
  | byteTest op => exact written_byteTest h.1 h.2.1 h.2.2.1 h.2.2.2
  | isDataAt op => exact written_isDataAt h
  | search op => exact written_search h.1 h.2
  | extract op => exact written_extract h.1 h.2.1 h.2.2

/-! ## Fingerprints -/

theorem written_finding (f : Finding) : Written finding (k + 2) (findingJson f) f := by
  have hdirection := written_direction (k := k + 1) f.direction
  have hconfidence := Written.ofUInt8 (k := k + 1) f.confidence
  have hcategory := written_labelOrNull (written_category (k := k + 1)) f.category
  have hrole := written_labelOrNull (written_role (k := k + 1)) f.role
  have hdetails : Plain (k + 1) (record (f.details.entries.map fun e => (e.1, text e.2))) :=
    .record (List.forall_mem_map.2 fun e _ => .text e.2)
  refine .ofRecord (fun _ => rfl) rfl (by decide) ?_ ?_
  · simp [hdirection.plain, hconfidence.plain, hcategory.plain, hrole.plain, hdetails]
  · simp [Shape.optional, hdirection.read, hconfidence.read, hcategory.read, hrole.read,
      strings_record, SortedMap.ofList_entries]

theorem written_payload {p : Payload} (h : ∀ op ∈ p.operations, IsWritable op) :
    Written payload (k + 4) (payloadJson p) p := by
  have halways := Written.ofList (k := k + 2) (l := p.always) fun f _ => written_finding f
  have hoperations := Written.ofList (k := k + 2) (l := p.operations)
    fun op hop => written_operation (h op hop)
  have hreturn := Written.ofOption (k := k + 3) (o := p.onMatch) rfl
    fun f _ => written_finding f
  refine .ofRecord (fun _ => rfl) rfl (by decide) ?_ ?_
  · simp [halways.plain, hoperations.plain, hreturn.plain]
  · simp [Shape.optional, halways.read, hoperations.read, hreturn.read]

theorem written_filterGroup (g : FilterGroup) :
    Written filterGroup (k + 4) (filterGroupJson g) g := by
  have hconditions := Written.ofList (k := k + 2) (l := g.conditions)
    fun c _ => written_condition c
  refine .ofRecord (fun _ => rfl) rfl (by decide) ?_ ?_
  · simp [hconditions.plain]
  · simp [Shape.required, Shape.optional, hconditions.read]

/-! ## Documents -/

/-- Every number of a fingerprint has 64 bits. -/
def Writable (f : Fingerprint) : Prop := ∀ p ∈ f.payloads, ∀ op ∈ p.operations, IsWritable op

instance (f : Fingerprint) : Decidable (Writable f) :=
  inferInstanceAs (Decidable (∀ p ∈ f.payloads, ∀ op ∈ p.operations, IsWritable op))

theorem written_fingerprint {f : Fingerprint} (h : Writable f) :
    Written fingerprint (k + 6) (fingerprintJson f) f := by
  have hfilters := Written.ofList (k := k + 4) (l := f.filters) fun g _ => written_filterGroup g
  have hpayloads := Written.ofList (k := k + 4) (l := f.payloads)
    fun p hp => written_payload (h p hp)
  refine .ofRecord (fun _ => rfl) rfl (by decide) ?_ ?_
  · simp [hfilters.plain, hpayloads.plain]
  · simp [Shape.required, Shape.optional, hfilters.read, hpayloads.read]

theorem document_list {fs : List Fingerprint} (h : ∀ f ∈ fs, Writable f) :
    document (.array (fs.map fingerprintJson)) = some fs := by
  have hlist := Written.ofList (k := 6) (l := fs) fun f hf => written_fingerprint (h f hf)
  have hdepth : (Json.array (fs.map fingerprintJson)).depth ≤ depthLimit :=
    hlist.plain.depth_le.trans (by decide)
  simp [document, hlist.plain.isSound, hdepth, hlist.read]

/-- An object is no list, so it is read as a single fingerprint. -/
theorem document_single {f : Fingerprint} (h : Writable f) :
    document (fingerprintJson f) = some [f] := by
  have hlist : Shape.list fingerprint (fingerprintJson f) = none := rfl
  simp [document, hlist, (written_fingerprint (k := 0) h).read]

/-- Whatever text the value is read from, the document is `fs`; so are the value's text on one
line and its text on indented lines. -/
structure DocumentOf (v : Json) (fs : List Fingerprint) : Prop where
  ofText : ∀ s, Json.read? s = some v → readDocument s = .ok fs
  ofCompact : readDocument (compact v).toList = .ok fs
  ofPretty : readDocument (pretty v).toList = .ok fs

theorem documentOf {v : Json} {fs : List Fingerprint} {n : Nat} (hplain : Plain n v)
    (hdocument : document v = some fs) (hcheck : ∀ f ∈ fs, f.check = .ok ()) :
    DocumentOf v fs := by
  have htext (s : List Char) (hs : Json.read? s = some v) : readDocument s = .ok fs := by
    rw [readDocument, hs, Option.bind_some, hdocument]
    simp only [FirstFault.forM_eq_ok_iff.2 hcheck]
    rfl
  exact ⟨htext, htext _ (read?_compact hplain), htext _ (read?_pretty hplain)⟩

/-- A list of fingerprints that pass their checks is read back from what is written of it, and each
of them from what is written of it alone. -/
theorem readDocument_written {fs : List Fingerprint} (hwritable : ∀ f ∈ fs, Writable f)
    (hcheck : ∀ f ∈ fs, f.check = .ok ()) :
    DocumentOf (.array (fs.map fingerprintJson)) fs ∧
      ∀ f ∈ fs, DocumentOf (fingerprintJson f) [f] := by
  constructor
  · have hlist := Written.ofList (k := 6) (l := fs) fun f hf => written_fingerprint (hwritable f hf)
    exact documentOf hlist.plain (document_list hwritable) hcheck
  · intro f hf
    have hone := written_fingerprint (k := 0) (hwritable f hf)
    exact documentOf hone.plain (document_single (hwritable f hf)) (by simpa using hcheck f hf)

/-- Two payloads that are fed by two groups, with an operation of every kind, and a fingerprint that
leaves out all it can. -/
def modbusRules : List Fingerprint :=
  [{ name := "Modbus"
     author := "survey"
     description := "Requests and \"replies\"\n"
     filters :=
       [{ target := "request"
          conditions :=
            [.dstPort 502, .transportProtocol 6, .flags "SYN ACK", .ttlWithin 1 64, .ack " 1 "] },
        { target := "reply", conditions := [.srcPortRange 502 503, .dsizeWithin 1 4294967295] }]
     payloads :=
       [{ name := "request"
          always := [{ confidence := 255 }]
          operations :=
            [.anchor { cursor := .start, position := some .endOfPayload, offset := -4 },
              .byteJump { bytes := 18446744073709551615, endian := .little },
              .byteTest { test := .and, value := -9223372036854775808, bytes := 4 },
              .isDataAt { offset := 7, relative := true },
              .search { pattern := some "^\\x00", noCase := true },
              .extract
                { name := "Unit", start := .offset (-9223372036854775808)
                  stop := .position .cursorEnd, convert := .uuid }]
          onMatch := some
            { direction := .destination, confidence := 5, category := some .plc, role := some .slave
              details := .ofList [("Protocol", "Modbus"), ("", "µ")] } },
        { name := "reply" }] },
    { name := "" }]

theorem readDocument_written_modbus :
    (∀ f ∈ modbusRules, Writable f) ∧ (∀ f ∈ modbusRules, f.check = .ok ()) ∧
      DocumentOf (.array (modbusRules.map fingerprintJson)) modbusRules ∧
      ∀ f ∈ modbusRules, DocumentOf (fingerprintJson f) [f] := by
  have hwritable : ∀ f ∈ modbusRules, Writable f := by decide
  have hcheck : ∀ f ∈ modbusRules, f.check = .ok () := by
    simp only [modbusRules, List.forall_mem_cons]
    exact ⟨rfl, rfl, by simp⟩
  exact ⟨hwritable, hcheck, readDocument_written hwritable hcheck⟩

end Rule

end HostSurvey
