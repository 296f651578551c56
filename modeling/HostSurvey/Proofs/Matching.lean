import HostSurvey.Filter.Engine
import HostSurvey.Proofs.FirstFault

/-!
# Matching is the linear check

`Admits conditions h` says directly when a rule with these conditions accepts
the header `h`. `Engine.InStep` says that the indexes and the used fields of an
engine hold the conditions of its rules and nothing else. Every addition keeps
it, one that is rejected included, and so an engine matches a header with
exactly the rules that admit it.
-/

namespace HostSurvey.Filter

open FirstFault

variable {α : Type}

/-! ## The linear check -/

/-- There are conditions, and every field they are on has one among them that accepts the header. -/
def Admits (conditions : List Condition) (h : Header) : Prop :=
  conditions ≠ [] ∧
    ∀ c ∈ conditions, ∃ d ∈ conditions, d.field = c.field ∧ d.accepts h = true

namespace Rule

theorem mem_fields {r : Rule α} {f : Field} :
    f ∈ r.fields ↔ ∃ c ∈ r.conditions, c.field = f := by
  simp [fields, SortedSet.ofList]

theorem forall_mem_fields {r : Rule α} {p : Field → Prop} :
    (∀ f ∈ r.fields, p f) ↔ ∀ c ∈ r.conditions, p c.field := by
  constructor
  · intro h c hc
    exact h c.field (mem_fields.2 ⟨c, hc, rfl⟩)
  · intro h f hf
    obtain ⟨c, hc, rfl⟩ := mem_fields.1 hf
    exact h c hc

theorem fields_isEmpty {r : Rule α} : r.fields.isEmpty = true ↔ r.conditions = [] := by
  unfold SortedSet.isEmpty
  rw [List.isEmpty_iff, List.eq_nil_iff_forall_not_mem, List.eq_nil_iff_forall_not_mem]
  exact forall_mem_fields

/-- A test of all fields of a nonempty rule, condition by condition. -/
theorem fields_all_iff {r : Rule α} {p : Field → Bool} :
    (!r.fields.isEmpty && r.fields.toList.all p) = true ↔
      r.conditions ≠ [] ∧ ∀ c ∈ r.conditions, p c.field = true := by
  rw [Bool.and_eq_true, Bool.not_eq_true', ← Bool.not_eq_true, fields_isEmpty, List.all_eq_true]
  exact and_congr_right fun _ => forall_mem_fields

theorem accepts_iff_admits {r : Rule α} {h : Header} :
    r.accepts h = true ↔ Admits r.conditions h := by
  unfold accepts Admits
  rw [fields_all_iff]
  simp

end Rule

/-! ## Checks -/

/-- Whether all conditions pass their checks. -/
def Rule.isValid (r : Rule α) : Bool := r.conditions.all fun c => c.check.isOk

theorem checkRange_eq_error {field : String} {min max : Nat} {fault : RuleFault}
    (h : Condition.checkRange field min max = .error fault) :
    max < min ∧ fault = .emptyRange field min max := by
  unfold Condition.checkRange at h
  split at h
  · cases h
  · cases h
    exact ⟨by omega, rfl⟩

theorem union_eq_error {bits : UInt16} {tokens : List (List Char)} {fault : RuleFault}
    (h : Flags.union bits tokens = .error fault) : ∃ token, fault = .unknownFlag token := by
  induction tokens generalizing bits with
  | nil => cases h
  | cons token tokens ih =>
    unfold Flags.union at h
    split at h
    · exact ih h
    · cases h
      exact ⟨_, rfl⟩

/-- A condition that cannot hold has an empty range or an unknown flag. -/
theorem fault_of_check {c : Condition} {fault : RuleFault} (h : c.check = .error fault) :
    (∃ field min max, max < min ∧ fault = .emptyRange field min max) ∨
      ∃ token, fault = .unknownFlag token := by
  cases c with
  | dsizeWithin min max | dstPortRange min max | srcPortRange min max | ttlWithin min max =>
    exact .inl ⟨_, _, _, checkRange_eq_error h⟩
  | flags text =>
    exact .inr (union_eq_error (map_eq_error_iff.1 h))
  | _ => cases h

/-! ## One condition in the indexes -/

theorem trimmed_eq_trimmed {a b : String} :
    trimmed a = trimmed b ↔ Condition.sameTrimmed a b = true := by
  unfold trimmed Condition.sameTrimmed
  rw [String.ofList_inj, beq_iff_eq]

namespace Indexes

variable {x y : Indexes} {rule r : Nat} {c : Condition}

theorem insert_flags_eq_ok {text : String} (hy : x.insert rule (.flags text) = .ok y) :
    ∃ bits, Flags.parse text = .ok bits ∧ y = { x with flags := x.flags.insert bits rule } := by
  obtain ⟨bits, hp, rfl⟩ := map_eq_ok_iff.1 hy
  exact ⟨bits, hp, rfl⟩

/-- A condition leaves the indexes of other fields alone. -/
theorem lookup_insert_of_ne (hy : x.insert rule c = .ok y) (h : Header) {f : Field}
    (hf : c.field ≠ f) : y.lookup h f = x.lookup h f := by
  cases c with
  | flags text =>
    obtain ⟨bits, _, rfl⟩ := insert_flags_eq_ok hy
    cases f <;> first | rfl | exact absurd rfl hf
  | _ =>
    cases hy
    cases f <;> first | rfl | exact absurd rfl hf

theorem mem_byFlags_insert (bits : UInt16) (text : String) :
    r ∈ byFlags { x with flags := x.flags.insert bits rule } text ↔
      (r = rule ∧ Flags.parse text = .ok bits) ∨ r ∈ x.byFlags text := by
  unfold byFlags
  cases Flags.parse text with
  | error fault => simp
  | ok seen => simp [Except.ok.injEq, @eq_comm _ seen]

/-- In the index of its own field, a condition adds its rule for the headers it holds for. -/
theorem mem_lookup_insert_field (hy : x.insert rule c = .ok y) (h : Header) :
    r ∈ y.lookup h c.field ↔ (r = rule ∧ c.holds h = true) ∨ r ∈ x.lookup h c.field := by
  cases c with
  | ack text | seq text =>
    cases hy
    refine (FieldIndex.mem_lookup_insert ..).trans (or_congr_left (and_congr_right fun _ => ?_))
    exact trimmed_eq_trimmed
  | flags text =>
    obtain ⟨bits, hp, rfl⟩ := insert_flags_eq_ok hy
    refine (mem_byFlags_insert bits h.flags).trans (or_congr_left (and_congr_right fun _ => ?_))
    simp only [Condition.holds, Condition.sameFlags, hp]
    cases Flags.parse h.flags with
    | error fault => simp
    | ok seen =>
      rw [beq_iff_eq, Except.ok.injEq]
      exact eq_comm
  | dsizeWithin min max | dstPortRange min max | srcPortRange min max | ttlWithin min max =>
    cases hy
    refine (FieldIndex.mem_lookup_insertRange ..).trans
      (or_congr_left (and_congr_right fun _ => ?_))
    simp [Condition.holds]
  | _ =>
    cases hy
    refine (FieldIndex.mem_lookup_insert ..).trans (or_congr_left (and_congr_right fun _ => ?_))
    simp only [Condition.holds, beq_iff_eq]
    exact eq_comm

theorem mem_candidates_insert (hy : x.insert rule c = .ok y) (h : Header) (f : Field) :
    r ∈ y.candidates h f ↔
      (r = rule ∧ c.field = f ∧ c.accepts h = true) ∨ r ∈ x.candidates h f := by
  unfold candidates
  by_cases hf : c.field = f
  · subst hf
    unfold Condition.accepts
    split
    · rename_i hg
      have hgate : (!c.field.tcpOnly || h.isTcp) = false := by simpa using hg
      simp [hgate]
    · rename_i hg
      have hgate : (!c.field.tcpOnly || h.isTcp) = true := by
        cases ht : c.field.tcpOnly <;> simp_all
      simp [mem_lookup_insert_field hy, hgate]
  · rw [lookup_insert_of_ne hy h hf]
    simp [hf]

/-! ## All conditions of a rule -/

theorem mem_candidates_insertAll {cs : List Condition} (hy : insertAll rule cs x = (none, y))
    (h : Header) (f : Field) :
    r ∈ y.candidates h f ↔
      (r = rule ∧ ∃ c ∈ cs, c.field = f ∧ c.accepts h = true) ∨ r ∈ x.candidates h f := by
  induction cs generalizing x with
  | nil =>
    cases hy
    simp
  | cons c cs ih =>
    unfold insertAll at hy
    split at hy
    · rename_i z hz
      rw [ih hy, mem_candidates_insert hz]
      simp only [List.mem_cons, exists_eq_or_imp]
      grind
    · cases hy

theorem insert_eq_ok_of_check (hc : c.check = .ok ()) (x : Indexes) (rule : Nat) :
    ∃ y, x.insert rule c = .ok y := by
  cases c with
  | flags text =>
    obtain ⟨bits, hp, _⟩ := map_eq_ok_iff.1 hc
    exact ⟨_, map_eq_ok_iff.2 ⟨bits, hp, rfl⟩⟩
  | _ => exact ⟨_, rfl⟩

/-- Conditions that have been checked are indexed to the last one. -/
theorem insertAll_of_check {cs : List Condition} (hc : ∀ c ∈ cs, c.check = .ok ()) (x : Indexes)
    (rule : Nat) : ∃ y, insertAll rule cs x = (none, y) := by
  induction cs generalizing x with
  | nil => exact ⟨x, rfl⟩
  | cons c cs ih =>
    rw [List.forall_mem_cons] at hc
    obtain ⟨y, hy⟩ := insert_eq_ok_of_check hc.1 x rule
    obtain ⟨z, hz⟩ := ih hc.2 y
    refine ⟨z, ?_⟩
    unfold insertAll
    rw [hy]
    exact hz

@[simp] theorem not_mem_candidates_empty (h : Header) (f : Field) (r : Nat) :
    r ∉ candidates ({} : Indexes) h f := by
  unfold candidates
  split
  · simp
  · cases f <;> simp [lookup, byAck, bySeq, byFlags]
    split <;> simp

end Indexes

/-! ## Histories of additions -/

namespace Engine

theorem add_eq_of_check {e : Engine α} {r : Rule α} {fault : RuleFault}
    (h : r.conditions.forM Condition.check = .error fault) : e.add r = (.error fault, e) := by
  unfold add
  rw [h]

/-- An addition ends in one of two ways: some condition is refused and the engine stays, or all
conditions pass and are indexed. -/
theorem add_cases (e : Engine α) (r : Rule α) :
    (∃ fault, r.conditions.forM Condition.check = .error fault ∧ e.add r = (.error fault, e)) ∨
      ∃ x, (∀ c ∈ r.conditions, c.check = .ok ()) ∧
        Indexes.insertAll e.rules.length r.conditions e.indexes = (none, x) ∧
        e.add r = (.ok e.rules.length,
          ⟨e.rules ++ [r], x, e.used.insertAll r.fields.toList⟩) := by
  cases hc : r.conditions.forM Condition.check with
  | error fault => exact .inl ⟨fault, rfl, add_eq_of_check hc⟩
  | ok u =>
    have hall := forM_eq_ok_iff.1 hc
    obtain ⟨x, hx⟩ := Indexes.insertAll_of_check hall e.indexes e.rules.length
    refine .inr ⟨x, hall, hx, ?_⟩
    unfold add
    rw [hc]
    simp only [hx]

/-- The engine after a list of additions, of which some may be rejected. -/
def after (calls : List (Rule α)) : Engine α := calls.foldl (fun e r => (e.add r).2) empty

/-- The indexes hold the conditions of the rules and no others, and the used fields are theirs. -/
structure InStep (e : Engine α) : Prop where
  mem_candidates : ∀ h f i, i ∈ e.indexes.candidates h f ↔
    ∃ r, e.rules[i]? = some r ∧ ∃ c ∈ r.conditions, c.field = f ∧ c.accepts h = true
  mem_used : ∀ f, f ∈ e.used ↔ ∃ r ∈ e.rules, ∃ c ∈ r.conditions, c.field = f

theorem inStep_empty : InStep (empty : Engine α) where
  mem_candidates h f i := by
    simp [empty]
  mem_used f := by
    simp [empty]

theorem InStep.add {e : Engine α} (he : e.InStep) (r : Rule α) : (e.add r).2.InStep := by
  obtain ⟨fault, _, hadd⟩ | ⟨x, _, hx, hadd⟩ := e.add_cases r
  · rw [hadd]
    exact he
  · rw [hadd]
    refine ⟨fun h f i => ?_, fun f => ?_⟩
    · rw [Indexes.mem_candidates_insertAll hx, he.mem_candidates]
      simp only [List.getElem?_append, List.getElem?_singleton]
      -- the new rule stands behind all others, so its place was free
      by_cases hi : i < e.rules.length
      · simp [hi, Nat.ne_of_lt hi]
      · simp only [hi, ↓reduceIte]
        by_cases heq : i = e.rules.length
        · subst heq
          simp
        · have hnone : e.rules[i]? = none := List.getElem?_eq_none (by omega)
          simp [heq, hnone, show i - e.rules.length ≠ 0 by omega]
    · rw [SortedSet.mem_insertAll, ← SortedSet.mem_def, Rule.mem_fields, he.mem_used]
      simp [or_and_right, exists_or, or_comm]

theorem foldl_add_inStep (calls : List (Rule α)) {e : Engine α} (he : e.InStep) :
    (calls.foldl (fun e r => (e.add r).2) e).InStep := by
  induction calls generalizing e with
  | nil => exact he
  | cons r calls ih => exact ih (he.add r)

theorem after_inStep (calls : List (Rule α)) : (after calls).InStep :=
  foldl_add_inStep calls inStep_empty

/-! ## Matching -/

theorem lookup_table {e : Engine α} {f : Field} (hf : f ∈ e.used) (h : Header) :
    (e.table h).lookup f = some (e.indexes.candidates h f) :=
  List.lookup_graph _ hf

theorem InStep.selects_iff {e : Engine α} (he : e.InStep) (h : Header) {i : Nat} {r : Rule α}
    (hr : e.rules[i]? = some r) : selects (e.table h) i r = true ↔ Admits r.conditions h := by
  unfold selects Admits
  rw [Rule.fields_all_iff]
  refine and_congr_right fun _ => forall_congr' fun c => forall_congr' fun hc => ?_
  have hused : c.field ∈ e.used := (he.mem_used _).2 ⟨r, List.mem_of_getElem? hr, c, hc, rfl⟩
  rw [lookup_table hused]
  simp only [decide_eq_true_eq]
  rw [he.mem_candidates]
  simp [hr]

theorem InStep.mem_matching {e : Engine α} (he : e.InStep) {h : Header} {i : Nat} :
    i ∈ e.matching h ↔ ∃ r, e.rules[i]? = some r ∧ Admits r.conditions h := by
  unfold matching
  simp only [List.mem_map, List.mem_filter, List.mem_zipIdx_iff_getElem?, Prod.exists]
  constructor
  · rintro ⟨r, j, ⟨hr, hs⟩, rfl⟩
    exact ⟨r, hr, (he.selects_iff h hr).1 hs⟩
  · rintro ⟨r, hr, ha⟩
    exact ⟨r, i, ⟨hr, (he.selects_iff h hr).2 ha⟩, rfl⟩

theorem matching_pairwise (e : Engine α) (h : Header) : (e.matching h).Pairwise (· < ·) := by
  have hsub : (e.matching h).Sublist (e.rules.zipIdx.map Prod.snd) :=
    List.filter_sublist.map Prod.snd
  rw [List.zipIdx_map_snd] at hsub
  exact List.Pairwise.sublist hsub List.pairwise_lt_range'

/-! ## Rejected additions -/

/-- A rule is added exactly when all its conditions pass their checks. -/
theorem rules_add (e : Engine α) (r : Rule α) :
    (e.add r).2.rules = if r.isValid then e.rules ++ [r] else e.rules := by
  obtain ⟨fault, hc, hadd⟩ | ⟨x, hc, _, hadd⟩ := e.add_cases r
  · obtain ⟨before, c, behind, heq, _, hbad⟩ := forM_eq_error_iff.1 hc
    have hinvalid : r.isValid = false := by
      unfold Rule.isValid
      rw [List.all_eq_false]
      exact ⟨c, by simp [heq], by simp [hbad, Except.isOk, Except.toBool]⟩
    rw [hadd, hinvalid]
    rfl
  · have hvalid : r.isValid = true := by
      unfold Rule.isValid
      rw [List.all_eq_true]
      intro c hm
      rw [hc c hm]
      rfl
    rw [hadd, hvalid]
    rfl

theorem rules_foldl_add (calls : List (Rule α)) (e : Engine α) :
    (calls.foldl (fun e r => (e.add r).2) e).rules = e.rules ++ calls.filter Rule.isValid := by
  induction calls generalizing e with
  | nil => simp
  | cons r calls ih =>
    rw [List.foldl_cons, ih, rules_add, List.filter_cons]
    split <;> simp

/-- After any additions, a header is matched by exactly the accepted rules that admit it, in
ascending order. A condition that is refused, wherever it stands, leaves no trace. -/
theorem matching_after_iff_accepts (calls : List (Rule α)) :
    (after calls).rules = calls.filter Rule.isValid ∧
      (∀ h, ((after calls).matching h).Pairwise (· < ·) ∧
        ∀ i, i ∈ (after calls).matching h ↔
          ∃ r, (after calls).rules[i]? = some r ∧ r.accepts h = true) ∧
      (∀ (r : Rule α) h, r.accepts h = true ↔ Admits r.conditions h) ∧
      (∀ (c : Condition) h, c.field ∈ [Field.ack, .seq, .flags, .window] → h.isTcp = false →
        c.accepts h = false) ∧
      (∀ (r : Rule α) fault e, (after calls).add r = (.error fault, e) →
        e = after calls ∧ (∀ later, after (calls ++ r :: later) = after (calls ++ later)) ∧
          ((∃ field min max, max < min ∧ fault = .emptyRange field min max) ∨
            ∃ token, fault = .unknownFlag token)) ∧
      ∀ name action before (c : Condition) behind fault, c.check = .error fault →
        (∀ d ∈ before, d.check = .ok ()) →
        (after calls).add (⟨name, before ++ c :: behind, action⟩ : Rule α) =
          (.error fault, after calls) := by
  refine ⟨?_, fun h => ⟨matching_pairwise _ h, fun i => ?_⟩, fun r h => Rule.accepts_iff_admits,
    fun c h hc htcp => ?_, fun r fault e hadd => ?_, ?_⟩
  · simpa [after, empty] using rules_foldl_add calls empty
  · rw [(after_inStep calls).mem_matching]
    simp only [Rule.accepts_iff_admits]
  · have hgate : c.field.tcpOnly = true := by
      simp only [List.mem_cons, List.not_mem_nil, or_false] at hc
      obtain hf | hf | hf | hf := hc <;> rw [hf] <;> rfl
    simp [Condition.accepts, hgate, htcp]
  · obtain ⟨fault', hc, hadd'⟩ | ⟨x, _, _, hadd'⟩ := (after calls).add_cases r
    · rw [hadd'] at hadd
      cases hadd
      refine ⟨rfl, fun later => ?_, ?_⟩
      · unfold after at hadd' ⊢
        rw [List.foldl_append, List.foldl_cons, hadd', List.foldl_append]
      · obtain ⟨_, c, _, _, _, hbad⟩ := forM_eq_error_iff.1 hc
        exact fault_of_check hbad
    · rw [hadd'] at hadd
      cases hadd
  · intro name action before c behind fault hbad hbefore
    exact add_eq_of_check (forM_eq_error_iff.2 ⟨before, c, behind, rfl, hbefore, hbad⟩)

example :
    (after [⟨"exact", [.ttl 64, .dstPort 80], ()⟩, ⟨"empty range", [.ttl 64, .ttlWithin 9 1], ()⟩,
      ⟨"range", [.ttl 255, .ttlWithin 1 64], ()⟩]).matching { dst := 80, ttl := 64 } = [0, 1] := by
  decide

end Engine

end HostSurvey.Filter
