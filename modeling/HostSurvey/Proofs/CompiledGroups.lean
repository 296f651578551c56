import HostSurvey.Proofs.Classification

/-!
# Documents that compile, group by group

Documents compile if and only if nothing in any fingerprint is refused:
`Compilable` lists what can be. Then the groups and the rules stand side by side
in the order of the documents. `Leads` says what the rule of a group is, and that
there is a program behind it, so neither compiling nor classifying passes over
anything.
-/

namespace HostSurvey

open FirstFault

theorem Fingerprint.check_eq_ok_iff {f : Fingerprint} :
    f.check = .ok () ↔
      (∀ p ∈ f.payloads, hasEmptyMatch p = false) ∧
        ∀ g ∈ f.filters, f.payloadIndex? g.target ≠ none := by
  have hcheck : f.check =
      (f.payloads.forM f.checkPayload >>= fun _ => f.filters.forM f.checkGroup) := rfl
  have hpayload (p : Payload) : f.checkPayload p = .ok () ↔ hasEmptyMatch p = false := by
    simp [checkPayload]
  have hgroup (g : FilterGroup) : f.checkGroup g = .ok () ↔ f.payloadIndex? g.target ≠ none := by
    simp [checkGroup]
  simp only [hcheck, bind_eq_ok_iff, ← hpayload, ← hgroup, ← forM_eq_ok_iff]
  exact ⟨fun ⟨_, h⟩ => h, fun h => ⟨(), h⟩⟩

namespace Classifier

open HostSurvey.Filter

/-- Nothing in the fingerprint is refused. -/
structure Compilable [Pattern.Engine] (f : Fingerprint) : Prop where
  check : f.check = .ok ()
  payloads : ∀ p ∈ f.payloads, ∃ program, Payload.compile f.name p = .ok program
  conditions : ∀ g ∈ f.filters, ∀ d ∈ g.conditions, d.check = .ok ()

/-! ## What compiles -/

theorem exists_addGroup_eq_ok_iff {i : Nat} {f : Fingerprint} {g : FilterGroup}
    (hg : f.payloadIndex? g.target ≠ none) (e : Engine Target) :
    (∃ e', addGroup i f e g = .ok e') ↔ ∀ d ∈ g.conditions, d.check = .ok () := by
  obtain ⟨j, hj⟩ := Option.ne_none_iff_exists'.1 hg
  unfold addGroup
  rw [hj]
  obtain ⟨fault, hfault, hadd⟩ | ⟨x, hall, -, hadd⟩ :=
    e.add_cases ⟨f.name ++ "/" ++ g.target, g.conditions, ⟨i, j⟩⟩
  · have hrefused : ¬ ∀ d ∈ g.conditions, d.check = .ok () := by
      rw [← forM_eq_ok_iff, hfault]
      simp
    simp [hadd, hrefused]
  · simpa [hadd] using hall

theorem exists_add_eq_ok_iff [Pattern.Engine] (c : Classifier) (f : Fingerprint) (i : Nat) :
    (∃ c', c.add f i = .ok c') ↔ Compilable f := by
  constructor
  · rintro ⟨c', h⟩
    obtain ⟨_, hcheck, h⟩ := bind_eq_ok_iff.1 h
    obtain ⟨programs, hprograms, h⟩ := bind_eq_ok_iff.1 h
    obtain ⟨engine, hengine, -⟩ := bind_eq_ok_iff.1 h
    -- the check comes first, so each group has its payload when the rules are added
    have hgroups := (Fingerprint.check_eq_ok_iff.1 hcheck).2
    exact ⟨hcheck, exists_mapM_eq_ok_iff.1 ⟨programs, hprograms⟩,
      (exists_foldlM_eq_ok_iff (fun g hg => exists_addGroup_eq_ok_iff (hgroups g hg)) _).1
        ⟨engine, hengine⟩⟩
  · rintro ⟨hcheck, hpayloads, hconditions⟩
    have hgroups := (Fingerprint.check_eq_ok_iff.1 hcheck).2
    obtain ⟨programs, hprograms⟩ := exists_mapM_eq_ok_iff.2 hpayloads
    obtain ⟨engine, hengine⟩ :=
      (exists_foldlM_eq_ok_iff (fun g hg => exists_addGroup_eq_ok_iff (i := i) (hgroups g hg))
        c.engine).2 hconditions
    refine ⟨{ programs := c.programs ++ [programs], engine }, ?_⟩
    unfold add
    simp only [bind_eq_ok_iff]
    exact ⟨(), hcheck, programs, hprograms, engine, hengine, rfl⟩

theorem exists_ofFingerprints_eq_ok_iff [Pattern.Engine] (fs : List Fingerprint) :
    (∃ c, ofFingerprints fs = .ok c) ↔ ∀ f ∈ fs, Compilable f := by
  unfold ofFingerprints
  rw [exists_foldlM_eq_ok_iff (P := fun e => Compilable e.1)
    fun e _ c => exists_add_eq_ok_iff c e.1 e.2]
  simp only [Prod.forall, List.mem_zipIdx_iff_getElem?]
  constructor
  · intro h f hf
    obtain ⟨i, hi⟩ := List.mem_iff_getElem?.1 hf
    exact h f i hi
  · exact fun h f i hi => h f (List.mem_of_getElem? hi)

/-! ## The rules of the groups -/

/-- A filter group, with its fingerprint and the place of this in the documents. -/
structure PlacedGroup where
  index : Nat
  fingerprint : Fingerprint
  group : FilterGroup

/-- All groups of documents in their order. -/
def groupsOf (fs : List Fingerprint) : List PlacedGroup :=
  fs.zipIdx.flatMap fun e => e.1.filters.map fun g => ⟨e.2, e.1, g⟩

theorem mem_groupsOf {fs : List Fingerprint} {e : PlacedGroup} :
    e ∈ groupsOf fs ↔ fs[e.index]? = some e.fingerprint ∧ e.group ∈ e.fingerprint.filters := by
  unfold groupsOf
  simp only [List.mem_flatMap, List.mem_map, Prod.exists, List.mem_zipIdx_iff_getElem?]
  constructor
  · rintro ⟨f, i, hf, g, hg, rfl⟩
    exact ⟨hf, hg⟩
  · rintro ⟨hf, hg⟩
    exact ⟨e.fingerprint, e.index, hf, e.group, hg, rfl⟩

theorem map_group_groupsOf (fs : List Fingerprint) :
    (groupsOf fs).map PlacedGroup.group = fs.flatMap Fingerprint.filters := by
  unfold groupsOf
  conv_rhs => rw [← List.zipIdx_map_fst 0 fs, List.flatMap_map]
  simp [List.map_flatMap, Function.comp_def]

theorem rulesOf_eq_filterMap (fs : List Fingerprint) :
    rulesOf fs = (groupsOf fs).filterMap fun e => ruleOf e.index e.fingerprint e.group := by
  unfold rulesOf groupsOf
  rw [List.filterMap_flatMap]
  simp only [List.filterMap_map]
  rfl

/-- The rule carries the conditions of the group, and its action is the first payload of the
fingerprint with the name that the group gives, of which there is a program. -/
structure Leads [Pattern.Engine] (c : Classifier) (e : PlacedGroup) (r : Rule Target) : Prop where
  name : r.name = e.fingerprint.name ++ "/" ++ e.group.target
  conditions : r.conditions = e.group.conditions
  fingerprint : r.action.fingerprint = e.index
  payload : ∃ p program, e.fingerprint.payloads[r.action.payload]? = some p ∧
    p.name = e.group.target ∧
    (∀ j q, j < r.action.payload → e.fingerprint.payloads[j]? = some q →
      q.name ≠ e.group.target) ∧
    Payload.compile e.fingerprint.name p = .ok program ∧ c.program? r.action = some program

/-- If every element has a related image, the images stand beside the elements. -/
theorem forall₂_filterMap {α β : Type} {R : α → β → Prop} {f : α → Option β} {l : List α}
    (h : ∀ a ∈ l, ∃ b, f a = some b ∧ R a b) : List.Forall₂ R l (l.filterMap f) := by
  induction l with
  | nil => exact .nil
  | cons a l ih =>
    rw [List.forall_mem_cons] at h
    obtain ⟨b, hb, hR⟩ := h.1
    rw [List.filterMap_cons_some hb]
    exact .cons hR (ih h.2)

theorem Compiles.exists_leads [Pattern.Engine] {fs : List Fingerprint} {c : Classifier}
    (hc : Compiles fs c) {e : PlacedGroup} (hf : fs[e.index]? = some e.fingerprint)
    (hg : e.fingerprint.payloadIndex? e.group.target ≠ none) :
    ∃ r, ruleOf e.index e.fingerprint e.group = some r ∧ Leads c e r := by
  obtain ⟨j, hj⟩ := Option.ne_none_iff_exists'.1 hg
  obtain ⟨p, hp, hname, hbefore⟩ := payloadIndex?_eq_some_iff.1 hj
  obtain ⟨program, hprogram, hcompile⟩ := hc.exists_program (t := ⟨e.index, j⟩) hf hp
  refine ⟨⟨e.fingerprint.name ++ "/" ++ e.group.target, e.group.conditions, ⟨e.index, j⟩⟩, ?_, ?_⟩
  · rw [ruleOf, hj]
    rfl
  · exact ⟨rfl, rfl, rfl, p, program, hp, hname, hbefore, hcompile, hprogram⟩

theorem Compiles.forall₂_leads [Pattern.Engine] {fs : List Fingerprint} {c : Classifier}
    (hc : Compiles fs c) (hcompilable : ∀ f ∈ fs, Compilable f) :
    List.Forall₂ (Leads c) (groupsOf fs) c.engine.rules := by
  rw [hc.rules, rulesOf_eq_filterMap]
  refine forall₂_filterMap fun e he => ?_
  obtain ⟨hf, hg⟩ := mem_groupsOf.1 he
  have hcheck := (hcompilable _ (List.mem_of_getElem? hf)).check
  exact hc.exists_leads hf ((Fingerprint.check_eq_ok_iff.1 hcheck).2 _ hg)

/-- The rules carry the conditions of the groups, in the order of the documents. -/
theorem map_conditions_of_leads [Pattern.Engine] {fs : List Fingerprint} {c : Classifier}
    {rules : List (Rule Target)} (h : List.Forall₂ (Leads c) (groupsOf fs) rules) :
    rules.map Rule.conditions = (fs.flatMap Fingerprint.filters).map FilterGroup.conditions := by
  rw [← map_group_groupsOf, List.map_map, ← List.forall₂_eq_eq_eq, List.forall₂_map_left_iff,
    List.forall₂_map_right_iff]
  exact h.flip.imp fun r e hr => hr.conditions

/-- Documents compile if and only if every fingerprint passes its check, every payload compiles and
every condition is valid. A group of a fingerprint that passes its check is never passed over. The
compiled engine has the rules of the groups in their order and no others; every rule that a header
matches and every program that it leads to is there. -/
theorem compiles_every_group [Pattern.Engine] (fs : List Fingerprint) :
    ((∃ c, ofFingerprints fs = .ok c) ↔ ∀ f ∈ fs, Compilable f) ∧
    (∀ f ∈ fs, f.check = .ok () → ∀ g ∈ f.filters, f.payloadIndex? g.target ≠ none) ∧
    ∀ c, ofFingerprints fs = .ok c →
      c.engine.rules.map Rule.conditions =
        (fs.flatMap Fingerprint.filters).map FilterGroup.conditions ∧
      List.Forall₂ (Leads c) (groupsOf fs) c.engine.rules ∧
      ∀ h : Header,
        (∀ i ∈ c.engine.matching h, ∃ r, c.engine.rules[i]? = some r) ∧
        ∀ t ∈ c.targets h, ∃ program, c.program? t = some program := by
  refine ⟨exists_ofFingerprints_eq_ok_iff fs,
    fun f _ hcheck => (Fingerprint.check_eq_ok_iff.1 hcheck).2, fun c hc => ?_⟩
  have hcompiles := compiles_of_ofFingerprints hc
  have hrules := hcompiles.forall₂_leads ((exists_ofFingerprints_eq_ok_iff fs).1 ⟨c, hc⟩)
  refine ⟨map_conditions_of_leads hrules, hrules, fun h => ⟨fun i hi => ?_, fun t ht => ?_⟩⟩
  · obtain ⟨r, hr, -⟩ := hcompiles.inStep.mem_matching.1 hi
    exact ⟨r, hr⟩
  · obtain ⟨program, hprogram, -⟩ :=
      hcompiles.program?_of_feeds (hcompiles.mem_targets_iff.1 ht)
    exact ⟨program, hprogram⟩

/-- Payloads without a name, of one name and without a group. -/
def scattered : List Fingerprint := [
  { name := "Controller",
    filters := [⟨"", [.ttl 64]⟩, ⟨"hello", [.dstPort 502, .ttlWithin 1 64]⟩, ⟨"", []⟩],
    payloads := [
      { name := "unused" },
      { name := "hello", operations := [.isDataAt {}] },
      { operations := [.anchor { offset := 1 }] },
      { name := "hello" }] },
  { name := "Silent", payloads := [{ name := "hello" }] },
  { name := "Controller", filters := [⟨"hello", [.srcPort 9]⟩], payloads := [{ name := "hello" }] }]

/-- A group with a range that nothing is in. -/
def never : Fingerprint :=
  { name := "Never", filters := [⟨"", [.ttl 64, .ttlWithin 9 1]⟩], payloads := [{}] }

/-- Four groups have four rules, which lead to the first payload of their name and fingerprint.
With one condition that is not valid nothing is compiled. -/
theorem compiles_every_group_scattered :
    (∃ c, ofFingerprints scattered = .ok c ∧ (∀ f ∈ scattered, Compilable f) ∧
      c.engine.rules.map Rule.conditions =
        [[.ttl 64], [.dstPort 502, .ttlWithin 1 64], [], [.srcPort 9]] ∧
      List.Forall₂ (Leads c) (groupsOf scattered) c.engine.rules ∧
      c.engine.rules.map Rule.action = [⟨0, 2⟩, ⟨0, 1⟩, ⟨0, 2⟩, ⟨2, 0⟩]) ∧
    ¬ ∃ c, ofFingerprints (scattered ++ [never]) = .ok c := by
  obtain ⟨c, hc, hactions⟩ : ∃ c, ofFingerprints scattered = .ok c ∧
      c.engine.rules.map Rule.action = [⟨0, 2⟩, ⟨0, 1⟩, ⟨0, 2⟩, ⟨2, 0⟩] := ⟨_, rfl, rfl⟩
  obtain ⟨hcompiles, -, hgroups⟩ := compiles_every_group scattered
  obtain ⟨hconditions, hleads, -⟩ := hgroups c hc
  refine ⟨⟨c, hc, hcompiles.1 ⟨c, hc⟩, hconditions, hleads, hactions⟩, fun hnever => ?_⟩
  have hlast := (compiles_every_group _).1.1 hnever never (by simp)
  have hrange := hlast.conditions _ List.mem_cons_self (.ttlWithin 9 1) (by simp)
  cases hrange

end Classifier

end HostSurvey
