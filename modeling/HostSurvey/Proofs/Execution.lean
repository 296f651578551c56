import HostSurvey.Payload.Program
import HostSurvey.Proofs.FirstFault

/-!
# Payloads are all or nothing

`Succeeds data steps c staged c'` says that the steps succeed one after another
from the cursor `c` to `c'`, and what they extract. A program either finds such
a run of all its steps, and then stores the extracts and records its finding,
or it stops at a step that fails and records nothing but what it records in any
case. Which of the two happens is decided by the steps, the data and the cursor
alone. What a recorded finding and stored extracts change in a profile is said
value by value in `Records`, `Stores` and `Concludes`.
-/

namespace HostSurvey.Payload

open FirstFault

/-! ## Runs of steps -/

/-- The bytes that an extraction finds, in the order of its endianness. -/
def found (op : Extract) (data : Bytes) (c : Cursor) : Bytes :=
  op.endian.arrange (data.extract (op.start.resolve data c) (op.stop.resolve data c) op.maxLength)

/-- The steps succeed in order. An extraction stays where it is and stages the bytes that it finds,
if there are any; all other steps stage nothing. -/
inductive Succeeds (data : Bytes) : List Step → Cursor → List Staged → Cursor → Prop where
  | nil (c : Cursor) : Succeeds data [] c [] c
  | pass {s : Step} {steps : List Step} {c c₁ c₂ : Cursor} {staged : List Staged} :
      (∀ op, s ≠ .extract op) → s.run data c = (true, c₁, none) →
      Succeeds data steps c₁ staged c₂ → Succeeds data (s :: steps) c staged c₂
  | empty {op : Extract} {steps : List Step} {c c₂ : Cursor} {staged : List Staged} :
      found op data c = [] → Succeeds data steps c staged c₂ →
      Succeeds data (.extract op :: steps) c staged c₂
  | extract {op : Extract} {steps : List Step} {c c₂ : Cursor} {staged : List Staged} :
      found op data c ≠ [] → Succeeds data steps c staged c₂ →
      Succeeds data (.extract op :: steps) c
        (⟨op.name, found op data c, op.convert, op.endian⟩ :: staged) c₂

/-- The steps before one of them succeed, and that one fails and leaves the cursor `c₂`. -/
def FailsAt (data : Bytes) (steps : List Step) (c c₂ : Cursor) : Prop :=
  ∃ before s behind staged c₁ out, steps = before ++ s :: behind ∧
    Succeeds data before c staged c₁ ∧ s.run data c₁ = (false, c₂, out)

variable {data : Bytes} {steps : List Step} {c c' : Cursor} {staged : List Staged}

theorem run_extract {op : Extract} (h : found op data c ≠ []) :
    (Step.extract op).run data c =
      (true, c, some ⟨op.name, found op data c, op.convert, op.endian⟩) :=
  congrArg (fun out => (true, c, out)) (if_neg (by simpa [found] using h))

theorem run_extract_empty {op : Extract} (h : found op data c = []) :
    (Step.extract op).run data c = (true, c, none) :=
  congrArg (fun out => (true, c, out)) (if_pos (by simpa [found] using h))

/-- Only an extraction stages something. -/
theorem out_eq_none_of_run {s : Step} (hs : ∀ op, s ≠ .extract op) {ok : Bool} {c₁ : Cursor}
    {out : Option Staged} (h : s.run data c = (ok, c₁, out)) : out = none := by
  cases s with
  | extract op => exact absurd rfl (hs op)
  | byteJump op | search op n =>
    simp only [Step.run] at h
    split at h <;> cases h <;> rfl
  | anchor op | byteTest op | isDataAt op =>
    simp only [Step.run] at h
    cases h
    rfl

/-- A step that succeeds in front of others that do. -/
theorem Succeeds.cons {s : Step} {c₁ : Cursor} {out : Option Staged}
    (hs : s.run data c = (true, c₁, out)) (h : Succeeds data steps c₁ staged c') :
    ∃ staged', Succeeds data (s :: steps) c staged' c' := by
  by_cases hkind : ∃ op, s = .extract op
  · obtain ⟨op, rfl⟩ := hkind
    obtain rfl : c = c₁ := congrArg (fun r => r.2.1) hs
    by_cases hfound : found op data c = []
    · exact ⟨staged, .empty hfound h⟩
    · exact ⟨_, .extract hfound h⟩
  · have hother : ∀ op, s ≠ .extract op := fun op hop => hkind ⟨op, hop⟩
    rw [out_eq_none_of_run hother hs] at hs
    exact ⟨staged, .pass hother hs h⟩

/-- Staged bytes are never empty. -/
theorem Succeeds.bytes_ne_nil (h : Succeeds data steps c staged c') :
    ∀ s ∈ staged, s.bytes ≠ [] := by
  induction h with
  | nil => simp
  | pass _ _ _ ih => exact ih
  | empty _ _ ih => exact ih
  | extract hne _ ih =>
    rw [List.forall_mem_cons]
    exact ⟨hne, ih⟩

theorem execute_of_fail {s : Step} {c₁ : Cursor} {out : Option Staged}
    (h : s.run data c = (false, c₁, out)) (steps : List Step) (earlier : List Staged) :
    execute data (s :: steps) c earlier = (false, c₁, earlier) := by
  simp only [execute, h]

theorem execute_of_pass {s : Step} {c₁ : Cursor} {out : Option Staged}
    (h : s.run data c = (true, c₁, out)) (steps : List Step) (earlier : List Staged) :
    execute data (s :: steps) c earlier = execute data steps c₁ (earlier ++ out.toList) := by
  simp only [execute, h]

/-- Steps that succeed hand over to those behind them, with what they have staged. -/
theorem Succeeds.execute_append (h : Succeeds data steps c staged c') (behind : List Step)
    (earlier : List Staged) :
    execute data (steps ++ behind) c earlier = execute data behind c' (earlier ++ staged) := by
  induction h generalizing earlier with
  | nil c => simp
  | pass _ hs _ ih =>
    rw [List.cons_append, execute_of_pass hs, ih]
    simp
  | empty hnone _ ih =>
    rw [List.cons_append, execute_of_pass (run_extract_empty hnone), ih]
    simp
  | extract hne _ ih =>
    rw [List.cons_append, execute_of_pass (run_extract hne), ih, Option.toList_some,
      List.append_assoc, List.singleton_append]

theorem Succeeds.execute (h : Succeeds data steps c staged c') :
    execute data steps c [] = (true, c', staged) := by
  have := h.execute_append [] []
  simpa [Payload.execute] using this

theorem FailsAt.execute {c₂ : Cursor} (h : FailsAt data steps c c₂) :
    ∃ dropped, execute data steps c [] = (false, c₂, dropped) := by
  obtain ⟨before, s, behind, staged, c₁, out, rfl, hbefore, hs⟩ := h
  refine ⟨staged, ?_⟩
  rw [hbefore.execute_append, execute_of_fail hs, List.nil_append]

/-- A failure of the steps behind one that passes is a failure of all. -/
theorem FailsAt.cons {s : Step} {c₁ c₂ : Cursor} {out : Option Staged}
    (hs : s.run data c = (true, c₁, out)) (h : FailsAt data steps c₁ c₂) :
    FailsAt data (s :: steps) c c₂ := by
  obtain ⟨before, s', behind, _, c₃, out', rfl, hbefore, hs'⟩ := h
  obtain ⟨staged, hall⟩ := hbefore.cons hs
  exact ⟨s :: before, s', behind, staged, c₃, out', rfl, hall, hs'⟩

/-- All steps succeed, or one of them fails. -/
theorem succeeds_or_failsAt (data : Bytes) (steps : List Step) (c : Cursor) :
    (∃ staged c', Succeeds data steps c staged c') ∨ ∃ c₂, FailsAt data steps c c₂ := by
  induction steps generalizing c with
  | nil => exact .inl ⟨[], c, .nil c⟩
  | cons s steps ih =>
    rcases hs : s.run data c with ⟨_ | _, c₁, out⟩
    · exact .inr ⟨c₁, [], s, steps, [], c, out, rfl, .nil c, hs⟩
    · obtain ⟨_, c', hrest⟩ | ⟨c₂, hrest⟩ := ih c₁
      · obtain ⟨staged, hall⟩ := hrest.cons hs
        exact .inl ⟨staged, c', hall⟩
      · exact .inr ⟨c₂, hrest.cons hs⟩

/-! ## What is recorded -/

/-- `after` is `before` with a finding recorded under a name. -/
structure Records (f : Finding) (name : String) (before after : HostProfile) : Prop where
  names : ∀ n, n ∈ after.names ↔ n = name ∨ n ∈ before.names
  confidence : after.confidence.val = max before.confidence.val (min f.confidence.toNat 5)
  direction : after.direction = f.direction
  category : after.category = f.category.getD before.category
  role : after.role = f.role.getD before.role
  /-- The details replace whatever was under their keys. -/
  details : ∀ key, after.attributes.find? key =
    ((f.details.find? key).map fun v => { value := some v }).or (before.attributes.find? key)

/-- The findings are recorded one after the other. -/
inductive RecordsAll (name : String) : List Finding → HostProfile → HostProfile → Prop where
  | nil (p : HostProfile) : RecordsAll name [] p p
  | cons {f : Finding} {fs : List Finding} {p p₁ p₂ : HostProfile} :
      Records f name p p₁ → RecordsAll name fs p₁ p₂ → RecordsAll name (f :: fs) p p₂

/-- `after` is `before` with extracts stored. The last one of a name waits to be rendered beside the
value that was there. -/
structure Stores (staged : List Staged) (before after : HostProfile) : Prop where
  pending : ∀ key, after.attributes.find? key =
    ((staged.reverse.find? fun s => s.name == key).map fun s =>
      { value := (before.attributes.find? key).bind Slot.value,
        raw := some ⟨s.bytes, s.convert.render s.endian⟩ }).or (before.attributes.find? key)
  others : after = { before with attributes := after.attributes }

/-- The finding of a success is recorded; without one, the name alone. -/
def Concludes (finding : Option Finding) (name : String) (before after : HostProfile) : Prop :=
  match finding with
  | some f => Records f name before after
  | none => (∀ n, n ∈ after.names ↔ n = name ∨ n ∈ before.names) ∧
      after = { before with names := after.names }

theorem find?_putPending (m : Attributes) (key other : String) (raw : Pending) :
    (m.putPending key raw).find? other =
      if key = other then some { value := (m.find? other).bind Slot.value, raw := some raw }
      else m.find? other := by
  unfold Attributes.putPending SortedMap.alter
  rw [SortedMap.find?_insert]
  split
  · rename_i hk
    subst hk
    cases m.find? key <;> rfl
  · rfl

/-- The last extract of a name waits beside the value that was there; other keys stay. -/
theorem find?_foldl_store (staged : List Staged) (p : HostProfile) (key : String) :
    (staged.foldl (fun p s => s.store p) p).attributes.find? key =
      ((staged.reverse.find? fun s => s.name == key).map fun s =>
        { value := (p.attributes.find? key).bind Slot.value, raw := some s.pending }).or
      (p.attributes.find? key) := by
  induction staged generalizing p with
  | nil => rfl
  | cons s staged ih =>
    have hs : (s.store p).attributes = p.attributes.putPending s.name s.pending := rfl
    rw [List.foldl_cons, ih, List.reverse_cons, List.find?_append, hs, find?_putPending]
    by_cases hk : s.name = key
    · cases staged.reverse.find? fun s => s.name == key <;> simp [hk]
    · simp [hk]

/-- Storing texts touches nothing but the attributes. -/
theorem foldl_put (l : List (String × String)) (p : HostProfile) :
    l.foldl (fun p e => p.put e.1 e.2) p =
      { p with
        attributes := p.attributes.insertAll (l.map fun e => (e.1, { value := some e.2 })) } := by
  induction l generalizing p with
  | nil => rfl
  | cons e l ih =>
    rw [List.foldl_cons, ih]
    rfl

theorem attributes_foldl_put (l : List (String × String)) (p : HostProfile) :
    (l.foldl (fun p e => p.put e.1 e.2) p).attributes =
      p.attributes.insertAll (l.map fun e => (e.1, { value := some e.2 })) := by
  rw [foldl_put]

/-- Storing extracts touches nothing but the attributes. -/
theorem foldl_store (staged : List Staged) (p : HostProfile) :
    staged.foldl (fun p s => s.store p) p =
      { p with
        attributes := staged.foldl (fun m s => m.putPending s.name s.pending) p.attributes } := by
  induction staged generalizing p with
  | nil => rfl
  | cons s staged ih =>
    rw [List.foldl_cons, ih]
    rfl

theorem find?_record (f : Finding) (fingerprint : String) (p : HostProfile) (key : String) :
    (f.record fingerprint p).attributes.find? key =
      ((f.details.find? key).map fun v => { value := some v }).or (p.attributes.find? key) := by
  unfold Finding.record
  rw [attributes_foldl_put]
  have hentries : (f.details.entries.map fun e => (e.1, ({ value := some e.2 } : Slot))) =
      (f.details.mapValues fun v => ({ value := some v } : Slot)).entries := rfl
  rw [hentries, SortedMap.find?_insertAll, SortedMap.find?_mapValues]
  rfl

theorem records_record (f : Finding) (name : String) (p : HostProfile) :
    Records f name p (f.record name p) := by
  refine ⟨fun n => ?_, ?_, ?_, ?_, ?_, find?_record f name p⟩
  all_goals
    unfold Finding.record
    rw [foldl_put]
  · exact SortedSet.mem_insert
  all_goals rfl

theorem recordsAll_foldl_record (fs : List Finding) (name : String) (p : HostProfile) :
    RecordsAll name fs p (fs.foldl (fun p f => f.record name p) p) := by
  induction fs generalizing p with
  | nil => exact .nil p
  | cons f fs ih => exact .cons (records_record f name p) (ih (f.record name p))

theorem stores_foldl_store (staged : List Staged) (p : HostProfile) :
    Stores staged p (staged.foldl (fun p s => s.store p) p) := by
  refine ⟨fun key => find?_foldl_store staged p key, ?_⟩
  rw [foldl_store]

/-! ## Programs of equal operations -/

theorem needle_eq [Pattern.Engine] {fp fp' name name' : String} {m : Match} {n n' : Needle}
    (h : needle fp name m = .ok n) (h' : needle fp' name' m = .ok n') : n = n' := by
  unfold needle at h h'
  cases hp : m.pattern with
  | some pattern =>
    simp only [hp] at h h'
    rw [h] at h'
    exact Except.ok.inj h'
  | none =>
    cases hc : m.content with
    | none =>
      simp only [hp, hc] at h
      cases h
    | some content =>
      simp only [hp, hc] at h h'
      by_cases he : m.isEmpty
      · rw [if_pos he] at h
        cases h
      · rw [if_neg he] at h h'
        rw [h] at h'
        exact Except.ok.inj h'

/-- The names of a payload only stand in the faults of its steps. -/
theorem compileStep_eq [Pattern.Engine] {fp fp' name name' : String} {op : Operation}
    {s s' : Step} (h : compileStep fp name op = .ok s) (h' : compileStep fp' name' op = .ok s') :
    s = s' := by
  cases op with
  | search op =>
    obtain ⟨n, hn, rfl⟩ := map_eq_ok_iff.1 h
    obtain ⟨n', hn', rfl⟩ := map_eq_ok_iff.1 h'
    rw [needle_eq hn hn']
  | _ =>
    cases h
    cases h'
    rfl

theorem of_compile [Pattern.Engine] {fp : String} {a : Payload} {p : Program}
    (h : compile fp a = .ok p) :
    a.operations.mapM (compileStep fp a.name) = .ok p.steps ∧ p.fingerprint = fp := by
  obtain ⟨steps, hsteps, hp⟩ := bind_eq_ok_iff.1 h
  cases hp
  exact ⟨hsteps, rfl⟩

/-- Only the operations decide about the steps. -/
theorem steps_eq_of_operations_eq [Pattern.Engine] {fp fp' : String} {a b : Payload}
    {p q : Program} (h : compile fp a = .ok p) (h' : compile fp' b = .ok q)
    (hop : a.operations = b.operations) : p.steps = q.steps := by
  have hp := mapM_eq_ok_iff.1 (of_compile h).1
  have hq := mapM_eq_ok_iff.1 (of_compile h').1
  rw [← hop] at hq
  generalize a.operations = ops at hp hq
  generalize p.steps = steps at hp
  generalize q.steps = steps' at hq
  induction hp generalizing steps' with
  | nil =>
    cases hq
    rfl
  | cons hs _ ih =>
    cases hq with
    | cons hs' hrest => rw [compileStep_eq hs hs', ih _ hrest]

/-! ## Programs -/

/-- The details of a finding win over extracts, and the last extract of a name over those before. -/
theorem find?_succeed (p : Program) (staged : List Staged) (host : HostProfile) (key : String) :
    (p.succeed staged host).attributes.find? key =
      ((p.onMatch.bind fun f => f.details.find? key).map fun v => { value := some v }).or
        (((staged.reverse.find? fun s => s.name == key).map fun s =>
          { value := (host.attributes.find? key).bind Slot.value, raw := some s.pending }).or
          (host.attributes.find? key)) := by
  have hstored := find?_foldl_store staged host key
  unfold Program.succeed
  cases p.onMatch with
  | none => exact hstored
  | some f =>
    simp only [find?_record, Option.bind_some]
    rw [hstored]

theorem FailsAt.run {p : Program} {c₂ : Cursor} (h : FailsAt data p.steps c c₂)
    (host : HostProfile) : p.run data c host = (false, c₂, p.begin host) := by
  obtain ⟨dropped, hexec⟩ := h.execute
  unfold Program.run
  rw [hexec]

theorem Succeeds.run {p : Program} (h : Succeeds data p.steps c staged c') (host : HostProfile) :
    p.run data c host = (true, c', p.succeed staged (p.begin host)) := by
  unfold Program.run
  rw [h.execute]

/-- The profile has no part in whether a program succeeds. -/
theorem fst_run_eq (p : Program) (data : Bytes) (c : Cursor) (host host' : HostProfile) :
    (p.run data c host).1 = (p.run data c host').1 := by
  obtain ⟨staged, c', hs⟩ | ⟨c₂, hf⟩ := succeeds_or_failsAt data p.steps c
  · rw [hs.run, hs.run]
  · rw [hf.run, hf.run]

theorem concludes_succeed (p : Program) (staged : List Staged) (host : HostProfile) :
    ∃ stored, Stores staged host stored ∧
      Concludes p.onMatch p.fingerprint stored (p.succeed staged host) := by
  refine ⟨_, stores_foldl_store staged host, ?_⟩
  unfold Program.succeed Concludes
  cases p.onMatch with
  | none => exact ⟨fun n => SortedSet.mem_insert, rfl⟩
  | some f => exact records_record f p.fingerprint _

/-- A program fails at a step and keeps what it records in any case, or it succeeds and stores its
extracts below its finding. The profile has no part in the choice, nor in the bytes, and neither has
anything of a payload but its operations. -/
theorem run_all_or_nothing [Pattern.Engine] (p : Program) (data : Bytes) (c : Cursor) :
    ((∃ c₂, FailsAt data p.steps c c₂) ∨ ∃ staged c', Succeeds data p.steps c staged c') ∧
    (∀ c₂, FailsAt data p.steps c c₂ →
      ∀ q : Program, q.steps = p.steps → ∀ host, ∃ begun,
        q.run data c host = (false, c₂, begun) ∧
          RecordsAll q.fingerprint q.always host begun ∧ (q.always = [] → begun = host)) ∧
    (∀ staged c', Succeeds data p.steps c staged c' →
      (∀ s ∈ staged, s.bytes ≠ []) ∧
      ∀ q : Program, q.steps = p.steps → ∀ host, ∃ begun stored settled,
        q.run data c host = (true, c', settled) ∧
          RecordsAll q.fingerprint q.always host begun ∧ Stores staged begun stored ∧
          Concludes q.onMatch q.fingerprint stored settled ∧
          ∀ key, settled.attributes.find? key =
            ((q.onMatch.bind fun f => f.details.find? key).map fun v => { value := some v }).or
              (stored.attributes.find? key)) ∧
    ∀ (fp fp' : String) (a b : Payload) (q r : Program), a.operations = b.operations →
      compile fp a = .ok q → compile fp' b = .ok r → q.steps = r.steps := by
  refine ⟨(succeeds_or_failsAt data p.steps c).symm, fun c₂ hf q hq host => ?_,
    fun staged c' hs => ⟨hs.bytes_ne_nil, fun q hq host => ?_⟩,
    fun fp fp' a b q r hop hq hr => steps_eq_of_operations_eq hq hr hop⟩
  · rw [← hq] at hf
    refine ⟨_, hf.run host, recordsAll_foldl_record q.always q.fingerprint host, fun hnone => ?_⟩
    unfold Program.begin
    rw [hnone]
    rfl
  · rw [← hq] at hs
    obtain ⟨stored, hstores, hconcludes⟩ := concludes_succeed q staged (q.begin host)
    refine ⟨_, stored, _, hs.run host, recordsAll_foldl_record q.always q.fingerprint host, hstores,
      hconcludes, fun key => ?_⟩
    rw [find?_succeed, hstores.pending key]
    rfl

end HostSurvey.Payload
