import HostSurvey.Proofs.Matching

/-!
# Range checks and indexes

Whether a rule admits a value of a field can be asked in two ways. `Engine.passes`
scans the conditions of the one rule; the index of the field unites what all
additions have put under the value and under the ranges around it. `ChecksAgree`
says that the two answer alike, and every engine that additions lead to has it
for the time to live and for the payload size.
-/

namespace HostSurvey.Filter

variable {α : Type}

namespace Condition

/-- The condition names the time to live `v`, or a range around it. -/
def AdmitsTtl (v : UInt8) (c : Condition) : Prop :=
  c = .ttl v ∨ ∃ min max, c = .ttlWithin min max ∧ min ≤ v ∧ v ≤ max

/-- The condition names the payload size `v`, or a range around it. -/
def AdmitsDsize (v : UInt32) (c : Condition) : Prop :=
  c = .dsize v ∨ ∃ min max, c = .dsizeWithin min max ∧ min ≤ v ∧ v ≤ max

/-- A header with this time to live satisfies the conditions that admit it, of those on the
field. -/
theorem admitsTtl_iff (v : UInt8) (c : Condition) :
    AdmitsTtl v c ↔ c.field = .ttl ∧ c.holds { ttl := v } = true := by
  cases c with
  | ttl value => simp [AdmitsTtl, Condition.field, Condition.holds, @eq_comm _ v]
  | ttlWithin min max => simp [AdmitsTtl, Condition.field, Condition.holds]
  | _ => simp [AdmitsTtl, Condition.field]

theorem admitsDsize_iff (v : UInt32) (c : Condition) :
    AdmitsDsize v c ↔ c.field = .dsize ∧ c.holds { dsize := v } = true := by
  cases c with
  | dsize value => simp [AdmitsDsize, Condition.field, Condition.holds, @eq_comm _ v]
  | dsizeWithin min max => simp [AdmitsDsize, Condition.field, Condition.holds]
  | _ => simp [AdmitsDsize, Condition.field]

end Condition

namespace Engine

variable {e : Engine α} {i : Nat} {field : Field}

/-- The scan of one rule: it is there, and it leaves the field free or has a condition on it that
passes. -/
theorem passes_iff {test : Condition → Bool} :
    e.passes i field test = true ↔
      ∃ r, e.rules[i]? = some r ∧
        (field ∉ r.fields ∨ ∃ c ∈ r.conditions, c.field = field ∧ test c = true) := by
  unfold passes
  cases e.rules[i]? with
  | none => simp
  | some r => simp [SortedSet.mem_def]

/-- The look-up: a field that every packet has leads to the rules with a condition on it that
holds. -/
theorem InStep.mem_lookup (he : e.InStep) (h : Header) (hfield : field.tcpOnly = false) :
    i ∈ e.indexes.lookup h field ↔
      ∃ r, e.rules[i]? = some r ∧ ∃ c ∈ r.conditions, c.field = field ∧ c.holds h = true := by
  have hcandidates : e.indexes.candidates h field = e.indexes.lookup h field := by
    unfold Indexes.candidates
    rw [hfield]
    rfl
  have haccepts (c : Condition) :
      (c.field = field ∧ c.accepts h = true) ↔ (c.field = field ∧ c.holds h = true) := by
    refine and_congr_right fun hc => ?_
    subst hc
    unfold Condition.accepts
    rw [hfield]
    rfl
  rw [← hcandidates, he.mem_candidates]
  simp only [haccepts]

/-- A check of single rules and the index of a field, asked for one value that a condition may
admit. -/
structure ChecksAgree (e : Engine α) (field : Field) (Admits : Condition → Prop)
    (checked : Nat → Bool) (indexed : SortedSet Nat) : Prop where
  checked_iff : ∀ i, checked i = true ↔
    ∃ r, e.rules[i]? = some r ∧ (field ∉ r.fields ∨ i ∈ indexed)
  indexed_iff : ∀ i, i ∈ indexed ↔ ∃ r, e.rules[i]? = some r ∧ ∃ c ∈ r.conditions, Admits c
  both_or_neither : ∀ i r, e.rules[i]? = some r → field ∈ r.fields →
    (checked i = true ↔ i ∈ indexed)
  neither_behind : ∀ i, e.rules.length ≤ i → checked i = false ∧ i ∉ indexed

/-- Indexes that are in step with the rules agree with the scan of a rule, for every test that asks
what the conditions on the field ask of a header. -/
theorem InStep.checksAgree (he : e.InStep) (hfield : field.tcpOnly = false) {h : Header}
    {Admits : Condition → Prop} (hadmits : ∀ c, Admits c ↔ c.field = field ∧ c.holds h = true)
    {test : Condition → Bool} (htest : ∀ c, c.field = field → test c = c.holds h) :
    ChecksAgree e field Admits (fun i => e.passes i field test) (e.indexes.lookup h field) := by
  have hindexed (i : Nat) : i ∈ e.indexes.lookup h field ↔
      ∃ r, e.rules[i]? = some r ∧ ∃ c ∈ r.conditions, Admits c := by
    simp only [he.mem_lookup h hfield, hadmits]
  have hscan (r : Rule α) : (∃ c ∈ r.conditions, c.field = field ∧ test c = true) ↔
      ∃ c ∈ r.conditions, Admits c := by
    refine exists_congr fun c => and_congr_right fun _ => ?_
    rw [hadmits]
    exact and_congr_right fun hc => by rw [htest c hc]
  have hchecked (i : Nat) : e.passes i field test = true ↔
      ∃ r, e.rules[i]? = some r ∧ (field ∉ r.fields ∨ i ∈ e.indexes.lookup h field) := by
    rw [passes_iff]
    refine exists_congr fun r => and_congr_right fun hr => or_congr_right ?_
    rw [hscan, hindexed, hr]
    simp
  refine ⟨hchecked, hindexed, fun i r hr hconstrained => ?_, fun i hi => ?_⟩
  · rw [hchecked, hr]
    simp [hconstrained]
  · have hnone : e.rules[i]? = none := List.getElem?_eq_none hi
    refine ⟨?_, ?_⟩
    · rw [← Bool.not_eq_true, hchecked, hnone]
      simp
    · rw [hindexed, hnone]
      simp

/-- After any additions, the check of a rule's conditions on the time to live says what the index
says of the rule, and so does the one on the payload size. -/
theorem range_checks_agree (calls : List (Rule α)) :
    (∀ v : UInt8, ChecksAgree (after calls) .ttl (Condition.AdmitsTtl v)
      (fun i => (after calls).admitsTtl i v) ((after calls).indexes.ttl.lookup v)) ∧
    ∀ v : UInt32, ChecksAgree (after calls) .dsize (Condition.AdmitsDsize v)
      (fun i => (after calls).admitsDsize i v) ((after calls).indexes.dsize.lookup v) := by
  have he := after_inStep calls
  refine ⟨fun v => he.checksAgree rfl (Condition.admitsTtl_iff v) fun c hc => ?_,
    fun v => he.checksAgree rfl (Condition.admitsDsize_iff v) fun c hc => ?_⟩
  · cases c with
    | ttl value => exact Bool.beq_comm
    | ttlWithin min max => rfl
    | _ => cases hc
  · cases c with
    | dsize value => exact Bool.beq_comm
    | dsizeWithin min max => rfl
    | _ => cases hc

/-- Two ranges that overlap, a single value beside them, and a rule in between that is refused. -/
example :
    let e := after [⟨"near", [.ttlWithin 60 64, .ttlWithin 62 128, .ttl 255], ()⟩,
      ⟨"refused", [.ttl 9, .ttlWithin 9 1], ()⟩, ⟨"free", [.dsizeWithin 0 10], ()⟩]
    (List.range 3).map (fun i => e.admitsTtl i 63) = [true, true, false] ∧
      (e.indexes.ttl.lookup 63).toList = [0] ∧ (e.indexes.ttl.lookup 9).toList = [] := by
  decide

end Engine

end HostSurvey.Filter
