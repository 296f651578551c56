import HostSurvey.Classifier
import HostSurvey.Proofs.Execution

/-!
# Merged profiles

In a merge the attributes, the role and the direction of the other profile win,
its category wins if it says anything, the names are joined, and the greater
confidence counts. Attributes are taken over slot by slot, so that what is
pending stays pending. Merging is associative and idempotent, and a blank
profile takes over whatever is merged into it.

`Operation` collects what is done to a profile. Operations that do not replace
all of it raise the confidence to the largest one that was asked for, up to 5.
-/

namespace HostSurvey

/-! ## Maps and sets that take over others -/

namespace SortedMap

variable {κ α : Type} [Ord κ] [Std.TransOrd κ] [Std.LawfulEqOrd κ] [DecidableEq κ]

theorem insertAll_assoc (m n k : SortedMap κ α) :
    (m.insertAll n.entries).insertAll k.entries =
      m.insertAll (n.insertAll k.entries).entries := by
  refine ext fun key => ?_
  rw [find?_insertAll, find?_insertAll, find?_insertAll, find?_insertAll, Option.or_assoc]

theorem insertAll_self (m : SortedMap κ α) : m.insertAll m.entries = m := by
  refine ext fun key => ?_
  rw [find?_insertAll, Option.or_self]

theorem insertAll_empty (m : SortedMap κ α) : empty.insertAll m.entries = m := by
  refine ext fun key => ?_
  rw [find?_insertAll, find?_empty, Option.or_none]

end SortedMap

namespace SortedSet

variable {κ : Type} [Ord κ] [Std.TransOrd κ] [Std.LawfulEqOrd κ]

theorem insertAll_assoc (s t u : SortedSet κ) :
    (s.insertAll t.toList).insertAll u.toList = s.insertAll (t.insertAll u.toList).toList := by
  refine ext fun k => ?_
  rw [mem_insertAll, mem_insertAll, mem_insertAll, ← mem_def, ← mem_def, ← mem_def, mem_insertAll,
    ← mem_def, or_assoc]

theorem insertAll_self (s : SortedSet κ) : s.insertAll s.toList = s := by
  refine ext fun k => ?_
  rw [mem_insertAll, ← mem_def, or_self]

theorem insertAll_empty (s : SortedSet κ) : empty.insertAll s.toList = s := by
  refine ext fun k => ?_
  rw [mem_insertAll, ← mem_def, or_iff_left (not_mem_empty k)]

end SortedSet

namespace HostProfile

/-! ## Merging -/

/-- A profile is determined by its parts. -/
theorem ext {p q : HostProfile} (hattributes : p.attributes = q.attributes)
    (hconfidence : p.confidence.val = q.confidence.val) (hcategory : p.category = q.category)
    (hrole : p.role = q.role) (hdirection : p.direction = q.direction)
    (hnames : p.names = q.names) : p = q := by
  cases p
  cases q
  obtain rfl := Fin.ext hconfidence
  simp_all

theorem refine_eq (p : HostProfile) (category : Category) :
    p.refine category =
      { p with category := if category = .unknown then p.category else category } := by
  unfold refine
  split <;> rfl

/-- Merging part by part. -/
theorem merge_eq (p q : HostProfile) :
    p.merge q =
      { attributes := p.attributes.insertAll q.attributes.entries
        confidence := ⟨max p.confidence.val q.confidence.val, by omega⟩
        category := if q.category = .unknown then p.category else q.category
        role := q.role
        direction := q.direction
        names := p.names.insertAll q.names.toList } := by
  have hcap : min q.confidence.val 5 = q.confidence.val := by omega
  refine ext ?_ ?_ ?_ rfl rfl ?_
  · simp only [merge, refine_eq, raise, Attributes.putAll]
  · simp only [merge, refine_eq, raise, hcap]
  · simp only [merge, refine_eq, raise]
  · simp only [merge, refine_eq, raise]

theorem merge_assoc (a b c : HostProfile) : (a.merge b).merge c = a.merge (b.merge c) := by
  simp only [merge_eq]
  refine ext ?_ ?_ ?_ rfl rfl ?_
  · exact SortedMap.insertAll_assoc ..
  · exact Nat.max_assoc ..
  · by_cases hc : c.category = .unknown <;> simp [hc]
  · exact SortedSet.insertAll_assoc ..

theorem merge_self (a : HostProfile) : a.merge a = a := by
  rw [merge_eq]
  refine ext ?_ ?_ ?_ rfl rfl ?_
  · exact SortedMap.insertAll_self ..
  · exact Nat.max_self ..
  · exact ite_self ..
  · exact SortedSet.insertAll_self ..

theorem blank_merge (b : HostProfile) : blank.merge b = b := by
  rw [merge_eq]
  refine ext ?_ ?_ ?_ rfl rfl ?_
  · exact SortedMap.insertAll_empty ..
  · exact Nat.zero_max ..
  · by_cases hb : b.category = .unknown <;> simp [hb, blank]
  · exact SortedSet.insertAll_empty ..

/-! ## Confidence -/

/-- The confidence after others were asked for one by one: the largest counts, up to 5. -/
def raised (confidence : Nat) (asked : List Nat) : Nat :=
  asked.foldl (fun n k => max n (min k 5)) confidence

theorem raised_append (n : Nat) (asked more : List Nat) :
    raised n (asked ++ more) = raised (raised n asked) more := List.foldl_append

theorem le_raised (n : Nat) (asked : List Nat) : n ≤ raised n asked := by
  induction asked generalizing n with
  | nil => exact Nat.le_refl n
  | cons k asked ih => exact Nat.le_trans (Nat.le_max_left ..) (ih (max n (min k 5)))

end HostProfile

namespace Payload

open HostProfile (raised raised_append)

theorem confidence_record (f : Finding) (fingerprint : String) (p : HostProfile) :
    (f.record fingerprint p).confidence.val =
      raised p.confidence.val [f.confidence.toNat] := by
  unfold Finding.record
  rw [foldl_put]
  rfl

theorem confidence_foldl_record (fs : List Finding) (fingerprint : String) (p : HostProfile) :
    (fs.foldl (fun p f => f.record fingerprint p) p).confidence.val =
      raised p.confidence.val (fs.map fun f => f.confidence.toNat) := by
  induction fs generalizing p with
  | nil => rfl
  | cons f fs ih =>
    rw [List.foldl_cons, ih, confidence_record]
    rfl

namespace Program

/-- Every step of the program succeeds. -/
def succeeds (p : Program) (data : Bytes) (c : Cursor) : Bool := (execute data p.steps c []).1

/-- What the steps of the program have staged when they are through. -/
def staged (p : Program) (data : Bytes) (c : Cursor) : List Staged :=
  (execute data p.steps c []).2.2

/-- The findings that a run records, in their order. -/
def findings (p : Program) (data : Bytes) (c : Cursor) : List Finding :=
  p.always ++ if p.succeeds data c then p.onMatch.toList else []

theorem run_eq (p : Program) (data : Bytes) (c : Cursor) (host : HostProfile) :
    p.run data c host =
      (p.succeeds data c, (execute data p.steps c []).2.1,
        if p.succeeds data c then p.succeed (p.staged data c) (p.begin host)
        else p.begin host) := by
  unfold run succeeds staged
  rcases execute data p.steps c [] with ⟨_ | _, c', staged⟩ <;> rfl

theorem confidence_succeed (p : Program) (staged : List Staged) (host : HostProfile) :
    (p.succeed staged host).confidence.val =
      raised host.confidence.val (p.onMatch.toList.map fun f => f.confidence.toNat) := by
  unfold succeed
  rw [foldl_store]
  cases p.onMatch with
  | none => rfl
  | some f => exact confidence_record ..

theorem confidence_run (p : Program) (data : Bytes) (c : Cursor) (host : HostProfile) :
    (p.run data c host).2.2.confidence.val =
      raised host.confidence.val ((p.findings data c).map fun f => f.confidence.toNat) := by
  have hbegin : (p.begin host).confidence.val =
      raised host.confidence.val (p.always.map fun f => f.confidence.toNat) :=
    confidence_foldl_record ..
  rw [run_eq, findings, List.map_append, raised_append, ← hbegin]
  cases p.succeeds data c with
  | false => rfl
  | true => exact confidence_succeed ..

end Program

end Payload

namespace HostProfile

/-! ## Operations -/

/-- What can be done to a profile. -/
inductive Operation where
  | put (key value : String)
  | putPending (key : String) (raw : Pending)
  /-- Reads, resolves, clears or takes over attributes, and nothing else. -/
  | attributes (f : Attributes → Attributes)
  | bind
  | raise (confidence : Nat)
  | setCategory (category : Category)
  | refine (category : Category)
  | setRole (role : Role)
  | setDirection (direction : Direction)
  | addName (name : String)
  | record (finding : Finding) (fingerprint : String)
  | run (program : Payload.Program) (data : Bytes) (cursor : Cursor)
  | merge (other : HostProfile)
  | replace (other : HostProfile)
  | clear

namespace Operation

/-- Nothing is left of what was known before. -/
def replaces : Operation → Bool
  | replace _ | clear => true
  | _ => false

/-- The confidences that the operation asks for, one after the other. -/
def asks : Operation → List Nat
  | raise confidence => [confidence]
  | record finding _ => [finding.confidence.toNat]
  | run program data cursor => (program.findings data cursor).map fun f => f.confidence.toNat
  | merge other => [other.confidence.val]
  | _ => []

end Operation

def perform (p : HostProfile) : Operation → HostProfile
  | .put key value => p.put key value
  | .putPending key raw => p.putPending key raw
  | .attributes f => { p with attributes := f p.attributes }
  | .bind => p.bind
  | .raise confidence => p.raise confidence
  | .setCategory category => { p with category }
  | .refine category => p.refine category
  | .setRole role => { p with role }
  | .setDirection direction => { p with direction }
  | .addName name => p.addName name
  | .record finding fingerprint => finding.record fingerprint p
  | .run program data cursor => (program.run data cursor p).2.2
  | .merge other => p.merge other
  | .replace other => other
  | .clear => .blank

/-- A profile after operations. -/
def performAll (p : HostProfile) (ops : List Operation) : HostProfile := ops.foldl perform p

theorem confidence_perform {op : Operation} (h : op.replaces = false) (p : HostProfile) :
    (p.perform op).confidence.val = raised p.confidence.val op.asks := by
  cases op with
  | refine category =>
    rw [perform, refine_eq]
    rfl
  | record finding fingerprint => exact Payload.confidence_record ..
  | run program data cursor => exact Payload.Program.confidence_run ..
  | merge other =>
    have hcap : min other.confidence.val 5 = other.confidence.val := by omega
    simp only [perform, merge_eq, Operation.asks, raised, List.foldl_cons, List.foldl_nil, hcap]
  | replace other => cases h
  | clear => cases h
  | _ => rfl

theorem confidence_performAll {ops : List Operation} (h : ∀ op ∈ ops, op.replaces = false)
    (p : HostProfile) :
    (p.performAll ops).confidence.val =
      raised p.confidence.val (ops.flatMap Operation.asks) := by
  induction ops generalizing p with
  | nil => rfl
  | cons op ops ih =>
    rw [List.forall_mem_cons] at h
    have hstep : p.performAll (op :: ops) = (p.perform op).performAll ops := rfl
    rw [hstep, ih h.2, confidence_perform h.1, List.flatMap_cons, raised_append]

/-- The program runs of a classification. -/
theorem classify_eq_performAll (c : Classifier) (h : Header) (data : Bytes) (p : HostProfile) :
    ∃ ops : List Operation, (∀ op ∈ ops, ∃ program cursor, op = .run program data cursor) ∧
      (c.classify h data p).2 = p.performAll ops := by
  suffices hvisit : ∀ (targets : List Target) (s : Classifier.Progress HostProfile),
      ∃ ops : List Operation, (∀ op ∈ ops, ∃ program cursor, op = .run program data cursor) ∧
        (targets.foldl (c.visit fun p cursor host => p.run data cursor host) s).host =
          s.host.performAll ops from
    hvisit (c.targets h).toList { host := p }
  intro targets
  induction targets with
  | nil => exact fun s => ⟨[], by simp, rfl⟩
  | cons t targets ih =>
    intro s
    rw [List.foldl_cons]
    cases hp : c.program? t with
    | none =>
      have hstays : c.visit (fun p cursor host => p.run data cursor host) s t = s := by
        unfold Classifier.visit
        rw [hp]
      rw [hstays]
      exact ih s
    | some program =>
      have hruns : (c.visit (fun p cursor host => p.run data cursor host) s t).host =
          s.host.perform (.run program data s.cursor.reset) := by
        unfold Classifier.visit perform
        simp only [hp]
        split <;> simp [*]
      obtain ⟨ops, hops, hhost⟩ := ih (c.visit (fun p cursor host => p.run data cursor host) s t)
      refine ⟨.run program data s.cursor.reset :: ops, ?_, ?_⟩
      · rw [List.forall_mem_cons]
        exact ⟨⟨program, s.cursor.reset, rfl⟩, hops⟩
      · rw [hhost, hruns]
        rfl

/-- Merging is associative and idempotent, and a blank profile takes over what is merged into it.
The confidence stays from 0 to 5. Operations that do not replace the profile never lower it: it
becomes the largest that they ask for. Classifying a packet is a list of such operations. -/
theorem merge_laws (a b c : HostProfile) :
    (a.merge b).merge c = a.merge (b.merge c) ∧ a.merge a = a ∧ blank.merge b = b ∧
      (∀ ops : List Operation, (a.performAll ops).confidence.val ≤ 5 ∧
        ((∀ op ∈ ops, op.replaces = false) →
          a.confidence ≤ (a.performAll ops).confidence ∧
          (a.performAll ops).confidence.val =
            raised a.confidence.val (ops.flatMap Operation.asks))) ∧
      ∀ (classifier : Classifier) (h : Header) (data : Bytes), ∃ ops : List Operation,
        (∀ op ∈ ops, ∃ program cursor, op = .run program data cursor) ∧
          (classifier.classify h data a).2 = a.performAll ops := by
  refine ⟨merge_assoc a b c, merge_self a, blank_merge b, fun ops => ⟨?_, fun hops => ?_⟩,
    fun classifier h data => classify_eq_performAll classifier h data a⟩
  · exact Nat.le_of_lt_succ (a.performAll ops).confidence.isLt
  · have hconfidence := confidence_performAll hops a
    refine ⟨?_, hconfidence⟩
    rw [Fin.le_def, hconfidence]
    exact le_raised ..

/-- A model was extracted, and nobody has read it yet. -/
def probed : HostProfile :=
  ((blank.putPending "Model" ⟨[0x53, 0x37], Content.string.render .big⟩).raise 3).refine .plc

def listed : HostProfile := ((blank.put "Model" "1500").raise 2).addName "Inventory"

/-- It fails on short packets, but not without a trace. -/
def greeting : Payload.Program :=
  { fingerprint := "S7", name := "greeting", always := [{ confidence := 4 }],
    steps := [.isDataAt { offset := 9 }], onMatch := some { confidence := 9 } }

def learned : List Operation :=
  [.merge probed, .raise 1, .run greeting [0x03] .origin, .setCategory .unknown]

/-- The model is pending or known as in the profile that was merged last. The failing program
raises the confidence, but not as far as it would have on success. -/
theorem merge_laws_pending :
    (∀ op ∈ learned, op.replaces = false) ∧
      (listed.merge probed).merge listed = listed.merge (probed.merge listed) ∧
      (listed.merge probed).attributes.isBound = false ∧
      (listed.merge (probed.merge listed)).attributes.isBound = true ∧
      listed.confidence ≤ (listed.performAll learned).confidence ∧
      (listed.performAll learned).confidence.val = 4 := by
  have hkeeps : ∀ op ∈ learned, op.replaces = false := by decide
  obtain ⟨hassoc, -, -, hconfidence, -⟩ := merge_laws listed probed listed
  exact ⟨hkeeps, hassoc, by decide, by decide, ((hconfidence learned).2 hkeeps).1, by decide⟩

end HostProfile

end HostSurvey
