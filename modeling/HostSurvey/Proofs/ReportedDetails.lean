import HostSurvey.Proofs.Classification
import HostSurvey.Proofs.FrameRecords
import HostSurvey.Proofs.LateBinding
import HostSurvey.Proofs.MergedProfiles

/-!
# Reported details

`Program.writes` lists the texts that a run of a program writes, in their order:
those of the findings recorded in any case, then, if the program succeeds, its
extracts and those of the finding of a success. The attributes of a report are
the last texts that its programs wrote, whether these were stored as texts or
waited to be rendered. Under the four keys of the classification the report's
own classification stands, whoever wrote there.
-/

namespace HostSurvey

/-! ## The last write of a key -/

theorem SortedMap.find?_insertAll_list {κ α : Type} [Ord κ] [Std.TransOrd κ] [Std.LawfulEqOrd κ]
    [DecidableEq κ] (m : SortedMap κ α) (l : List (κ × α)) (key : κ) :
    (m.insertAll l).find? key =
      ((l.reverse.find? fun e => e.1 = key).map Prod.snd).or (m.find? key) := by
  induction l generalizing m with
  | nil => rfl
  | cons e l ih =>
    have hstep : m.insertAll (e :: l) = (m.insert e.1 e.2).insertAll l := rfl
    rw [hstep, ih, find?_insert, List.reverse_cons, List.find?_append]
    by_cases hk : e.1 = key
    · cases l.reverse.find? fun e => e.1 = key <;> simp [hk]
    · simp [hk]

theorem SortedMap.insertAll_append {κ α : Type} [Ord κ] [Std.TransOrd κ] [Std.LawfulEqOrd κ]
    (m : SortedMap κ α) (l more : List (κ × α)) :
    m.insertAll (l ++ more) = (m.insertAll l).insertAll more := List.foldl_append

/-- The last text that a log writes under a key. -/
def lastWritten? (log : List (String × String)) (key : String) : Option String :=
  (log.reverse.find? fun e => e.1 = key).map Prod.snd

theorem find?_ofList (log : List (String × String)) (key : String) :
    (SortedMap.ofList log).find? key = lastWritten? log key := by
  unfold SortedMap.ofList
  rw [SortedMap.find?_insertAll_list, SortedMap.find?_empty, Option.or_none, lastWritten?]

theorem lastWritten?_append (log more : List (String × String)) (key : String) :
    lastWritten? (log ++ more) key = (lastWritten? more key).or (lastWritten? log key) := by
  unfold lastWritten?
  rw [List.reverse_append, List.find?_append, Option.map_or]

/-! ## What a run writes -/

namespace Attributes

variable {m : Attributes} {t : SortedMap String String}

theorem Agrees.insertAll (h : Agrees m t) (l : List (String × String)) :
    Agrees (m.insertAll (l.map fun e => (e.1, { value := some e.2 }))) (t.insertAll l) := by
  unfold Agrees
  rw [SortedMap.mapValues_insertAll, SortedMap.mapValues_insertAll, h, List.map_map]
  rfl

theorem Agrees.foldl_putPending (h : Agrees m t) (staged : List Payload.Staged) :
    Agrees (staged.foldl (fun m s => m.putPending s.name s.pending) m)
      (t.insertAll (staged.map fun s => (s.name, s.pending.text))) := by
  induction staged generalizing m t with
  | nil => exact h
  | cons s staged ih => exact ih (h.putPending s.name s.pending)

/-- Resolving all keys leaves the texts that reading them would have given. -/
theorem Agrees.bindAll_eq (h : Agrees m t) :
    m.bindAll = t.mapValues fun v => { value := some v } := by
  refine SortedMap.ext fun key => ?_
  have hk := h.find? key
  unfold Attributes.bindAll
  rw [SortedMap.find?_mapValues, SortedMap.find?_mapValues]
  cases hs : m.find? key with
  | none =>
    cases ht : t.find? key with
    | none => rfl
    | some v => simp [hs, ht] at hk
  | some s =>
    cases ht : t.find? key with
    | none => simp [hs, ht] at hk
    | some v =>
      have hvalue : s.resolve.value = some v := by simpa [hs, ht, Slot.text] using hk
      have hraw : s.resolve.raw = none := by
        simpa [Slot.isPending] using Slot.isPending_resolve s
      rw [Option.map_some, Option.map_some, ← hvalue, ← hraw]

end Attributes

open Attributes (Agrees NonePending)

namespace Payload

variable {host : HostProfile} {t : SortedMap String String}

theorem agrees_record (h : Agrees host.attributes t) (f : Finding) (fingerprint : String) :
    Agrees (f.record fingerprint host).attributes (t.insertAll f.details.entries) := by
  unfold Finding.record
  rw [foldl_put]
  exact h.insertAll f.details.entries

theorem agrees_foldl_record (h : Agrees host.attributes t) (fs : List Finding)
    (fingerprint : String) :
    Agrees (fs.foldl (fun host f => f.record fingerprint host) host).attributes
      (t.insertAll (fs.flatMap fun f => f.details.entries)) := by
  induction fs generalizing host t with
  | nil => exact h
  | cons f fs ih =>
    rw [List.flatMap_cons, SortedMap.insertAll_append]
    exact ih (agrees_record h f fingerprint)

theorem mem_names_foldl_record (fs : List Finding) (fingerprint : String) (host : HostProfile)
    (name : String) :
    name ∈ (fs.foldl (fun host f => f.record fingerprint host) host).names ↔
      name ∈ host.names ∨ name = fingerprint ∧ fs ≠ [] := by
  induction fs generalizing host with
  | nil => simp
  | cons f fs ih =>
    rw [List.foldl_cons, ih, (records_record f fingerprint host).names]
    grind

namespace Program

/-- The texts that a run writes, with their keys, in their order. -/
def writes (p : Program) (data : Bytes) (c : Cursor) : List (String × String) :=
  (p.always.flatMap fun f => f.details.entries) ++
    if p.succeeds data c then
      ((p.staged data c).map fun s => (s.name, s.pending.text)) ++
        p.onMatch.toList.flatMap fun f => f.details.entries
    else []

theorem agrees_succeed (h : Agrees host.attributes t) (p : Program) (staged : List Staged) :
    Agrees (p.succeed staged host).attributes
      (t.insertAll ((staged.map fun s => (s.name, s.pending.text)) ++
        p.onMatch.toList.flatMap fun f => f.details.entries)) := by
  have hstored := h.foldl_putPending staged
  unfold succeed
  rw [foldl_store, SortedMap.insertAll_append]
  cases p.onMatch with
  | none => exact hstored
  | some f => simpa using agrees_record hstored f p.fingerprint

theorem agrees_run (h : Agrees host.attributes t) (p : Program) (data : Bytes) (c : Cursor) :
    Agrees (p.run data c host).2.2.attributes (t.insertAll (p.writes data c)) := by
  have hbegun := agrees_foldl_record h p.always p.fingerprint
  rw [run_eq, writes, SortedMap.insertAll_append]
  cases p.succeeds data c with
  | false => exact hbegun
  | true => exact agrees_succeed hbegun p (p.staged data c)

theorem mem_names_succeed (p : Program) (staged : List Staged) (host : HostProfile)
    (name : String) :
    name ∈ (p.succeed staged host).names ↔ name = p.fingerprint ∨ name ∈ host.names := by
  obtain ⟨stored, hstores, hconcludes⟩ := concludes_succeed p staged host
  have hnames : stored.names = host.names := by rw [hstores.others]
  rw [← hnames]
  unfold Concludes at hconcludes
  split at hconcludes
  · exact hconcludes.names name
  · exact hconcludes.1 name

theorem mem_names_run (p : Program) (data : Bytes) (c : Cursor) (host : HostProfile)
    (name : String) :
    name ∈ (p.run data c host).2.2.names ↔
      name ∈ host.names ∨
        name = p.fingerprint ∧ (p.succeeds data c = true ∨ p.always ≠ []) := by
  have hbegun : name ∈ (p.begin host).names ↔
      name ∈ host.names ∨ name = p.fingerprint ∧ p.always ≠ [] :=
    mem_names_foldl_record ..
  rw [run_eq]
  cases p.succeeds data c with
  | false => simpa using hbegun
  | true =>
    simp only [↓reduceIte, mem_names_succeed, hbegun]
    grind

end Program

end Payload

/-! ## Settled profiles -/

namespace HostProfile

/-- The classification as it stands among the attributes. -/
def classification (p : HostProfile) : List (String × String) := [
  ("Category", p.category.title),
  ("Role", p.role.title),
  ("Confidence", String.ofList (Text.Decimal.ofNat p.confidence.val)),
  ("Direction", p.direction.label)]

def classificationKeys : List String := ["Category", "Role", "Confidence", "Direction"]

/-- All attributes are bound. They tell the classification, and under every other key the last text
of a log. Reading them, or binding them once more, changes nothing. -/
structure Settled (p : HostProfile) (log : List (String × String)) : Prop where
  bound : NonePending p.attributes
  classified : ∀ e ∈ p.classification, p.attributes.find? e.1 = some { value := some e.2 }
  written : ∀ key, key ∉ classificationKeys →
    p.attributes.find? key = (lastWritten? log key).map fun v => { value := some v }
  read : p.attributes.readAll = (p.texts, p.attributes)
  rebound : p.bind = p

variable {p : HostProfile} {t : SortedMap String String}

theorem attributes_bind (h : Agrees p.attributes t) :
    p.bind.attributes =
      (t.insertAll p.classification).mapValues fun v => { value := some v } := by
  rw [SortedMap.mapValues_insertAll, ← h.bindAll_eq]
  rfl

theorem agrees_bind (h : Agrees p.attributes t) :
    Agrees p.bind.attributes (t.insertAll p.classification) := by
  unfold Agrees
  rw [attributes_bind h, SortedMap.mapValues_mapValues]
  rfl

theorem bind_bind (h : Agrees p.attributes t) : p.bind.bind = p.bind := by
  refine ext ?_ rfl rfl rfl rfl rfl
  have hclassification : p.bind.classification = p.classification := rfl
  rw [attributes_bind (agrees_bind h), attributes_bind h, hclassification]
  congr 1
  refine SortedMap.ext fun key => ?_
  rw [SortedMap.find?_insertAll_list, SortedMap.find?_insertAll_list, ← Option.or_assoc,
    Option.or_self]

theorem settled_bind {log : List (String × String)}
    (h : Agrees p.attributes (SortedMap.ofList log)) : Settled p.bind log := by
  have hbound : p.bind.attributes.bindAll = p.bind.attributes := by
    rw [(agrees_bind h).bindAll_eq, attributes_bind h]
  have hfind (key : String) : p.bind.attributes.find? key =
      ((lastWritten? p.classification key).or (lastWritten? log key)).map
        fun v => { value := some v } := by
    rw [attributes_bind h, SortedMap.find?_mapValues, SortedMap.ofList,
      ← SortedMap.insertAll_append, ← SortedMap.ofList, find?_ofList, lastWritten?_append]
  refine ⟨?_, fun e he => ?_, fun key hkey => ?_, ?_, bind_bind h⟩
  · rw [← hbound]
    exact Attributes.nonePending_bindAll _
  · have hlast : lastWritten? p.classification e.1 = some e.2 := by
      simp only [classification, List.mem_cons, List.not_mem_nil, or_false] at he
      rcases he with rfl | rfl | rfl | rfl <;> rfl
    rw [hfind, hlast]
    rfl
  · have hnone : lastWritten? p.classification key = none := by
      simp only [classificationKeys, List.mem_cons, List.not_mem_nil, or_false, not_or] at hkey
      simp [lastWritten?, classification, Ne.symm hkey.1, Ne.symm hkey.2.1, Ne.symm hkey.2.2.1,
        Ne.symm hkey.2.2.2]
    rw [hfind, hnone, Option.none_or]
  · rw [texts, bind_bind h]
    exact Prod.ext rfl hbound

end HostProfile

/-! ## Reports -/

namespace Classifier

open HostProfile (Settled)

/-- The header of a record and the transport payload, given the bytes of its text. -/
def PacketRecord.packet (r : PacketRecord) (data : Bytes) : Header × Bytes :=
  match r.header with
  | some given => (complete given r.frame data, data)
  | none =>
    let (h, offset) := Header.ofFrame r.frame data
    (h, payloadOf data h offset)

theorem report_eq_ok_iff {c : Classifier} {r : PacketRecord} {report : Report} :
    c.report r = .ok report ↔
      ∃ data, r.bytes = .ok data ∧
        report = .of (r.packet data).1
          (c.classify (r.packet data).1 (r.packet data).2 .blank) := by
  unfold Classifier.report PacketRecord.packet
  cases r.bytes with
  | error fault => simp [bind, Except.bind]
  | ok data =>
    cases r.header <;>
      simp [bind, Except.bind, pure, Except.pure, Report.of, classifyFrame, eq_comm]

/-- The payloads are those that are fed, in ascending order and with their programs. -/
structure IsDue [Pattern.Engine] (fs : List Fingerprint) (h : Header) (due : Due) : Prop where
  ascending : (due.map Prod.fst).Pairwise fun s t => s.fingerprint < t.fingerprint ∨
    s.fingerprint = t.fingerprint ∧ s.payload < t.payload
  fed : ∀ t, t ∈ due.map Prod.fst ↔ Feeds fs h t
  compiled : ∀ d ∈ due, Compiled fs d.1 d.2

theorem Compiles.exists_isDue [Pattern.Engine] {fs : List Fingerprint} {c : Classifier}
    (hc : Compiles fs c) (h : Header) : ∃ due, IsDue fs h due ∧ RunsInTurn c h due := by
  obtain ⟨due, hmap, hdue⟩ := exists_due (l := (c.targets h).toList) fun t ht =>
    hc.program?_of_feeds (hc.mem_targets_iff.1 ht)
  refine ⟨due, ⟨?_, fun t => ?_, fun d hd => (hdue d hd).2⟩,
    runsInTurn_of_targets hmap fun d hd => (hdue d hd).1⟩
  · rw [hmap]
    exact (c.targets h).ascending.imp Target.compare_eq_lt.1
  · rw [hmap]
    exact hc.mem_targets_iff

/-- The texts that the programs write, one after the other. -/
def writes (due : Due) (data : Bytes) : List (String × String) :=
  due.flatMap fun d => d.2.writes data .origin

theorem agrees_foldl_run {host : HostProfile} {t : SortedMap String String}
    (h : Agrees host.attributes t) (due : Due) (data : Bytes) :
    Agrees (due.foldl (fun host d => (d.2.run data .origin host).2.2) host).attributes
      (t.insertAll (writes due data)) := by
  induction due generalizing host t with
  | nil => exact h
  | cons d due ih =>
    rw [writes, List.flatMap_cons, SortedMap.insertAll_append]
    exact ih (d.2.agrees_run h data .origin)

theorem mem_names_foldl_run (due : Due) (data : Bytes) (host : HostProfile) (name : String) :
    name ∈ (due.foldl (fun host d => (d.2.run data .origin host).2.2) host).names ↔
      name ∈ host.names ∨ ∃ d ∈ due, name = d.2.fingerprint ∧
        (d.2.succeeds data .origin = true ∨ d.2.always ≠ []) := by
  induction due generalizing host with
  | nil => simp
  | cons d due ih =>
    rw [List.foldl_cons, ih, Payload.Program.mem_names_run, List.exists_mem_cons_iff, or_assoc]

/-- The names of the fingerprints of which a program succeeds. -/
theorem RunsInTurn.mem_names_iff {c : Classifier} {h : Header} {due : Due}
    (hruns : RunsInTurn c h due) (data : Bytes) (host : HostProfile) (name : String) :
    name ∈ (c.classify h data host).1 ↔
      ∃ d ∈ due, name = d.2.fingerprint ∧ d.2.succeeds data .origin = true := by
  rw [hruns.names, List.mem_eraseDups, List.mem_map]
  simp only [List.mem_filter, Payload.Program.run_eq]
  grind

theorem always_of_compiled [Pattern.Engine] {fs : List Fingerprint} {t : Target}
    {p : Payload.Program} (h : Compiled fs t p)
    (hfs : ∀ f ∈ fs, ∀ payload ∈ f.payloads, payload.always = []) : p.always = [] := by
  obtain ⟨f, payload, hf, hpayload, hcompile⟩ := h
  obtain ⟨steps, _, hp⟩ := FirstFault.bind_eq_ok_iff.1 hcompile
  cases hp
  exact hfs f (List.mem_of_getElem? hf) payload (List.mem_of_getElem? hpayload)

/-- The attributes of a report are bound. Four of them tell its classification and all others the
last texts that its programs wrote. Its profile names the fingerprints of these programs, but for
those that fail and record nothing in any case, so at least the ones that it reports. -/
theorem report_settled [Pattern.Engine] {fs : List Fingerprint} {c : Classifier}
    {r : PacketRecord} {report : Report} (hc : ofFingerprints fs = .ok c)
    (hr : c.report r = .ok report) :
    ∃ data due, r.bytes = .ok data ∧ IsDue fs (r.packet data).1 due ∧
      Settled report.host (writes due (r.packet data).2) ∧
      (∀ name, name ∈ report.fingerprints ↔ ∃ d ∈ due, name = d.2.fingerprint ∧
        d.2.succeeds (r.packet data).2 .origin = true) ∧
      (∀ name, name ∈ report.host.names ↔ ∃ d ∈ due, name = d.2.fingerprint ∧
        (d.2.succeeds (r.packet data).2 .origin = true ∨ d.2.always ≠ [])) ∧
      (∀ name ∈ report.fingerprints, name ∈ report.host.names) ∧
      ((∀ f ∈ fs, ∀ payload ∈ f.payloads, payload.always = []) →
        ∀ name, name ∈ report.host.names ↔ name ∈ report.fingerprints) := by
  obtain ⟨data, hdata, rfl⟩ := report_eq_ok_iff.1 hr
  obtain ⟨due, hdue, hruns⟩ := (compiles_of_ofFingerprints hc).exists_isDue (r.packet data).1
  have hblank : Agrees HostProfile.blank.attributes .empty := Attributes.agrees_empty
  have hsettled : Settled (c.classify (r.packet data).1 (r.packet data).2 .blank).2.bind
      (writes due (r.packet data).2) := by
    refine HostProfile.settled_bind ?_
    rw [hruns.profile]
    exact agrees_foldl_run hblank due (r.packet data).2
  have hreported := hruns.mem_names_iff (r.packet data).2 .blank
  have hnames (name : String) :
      name ∈ (c.classify (r.packet data).1 (r.packet data).2 .blank).2.names ↔
        ∃ d ∈ due, name = d.2.fingerprint ∧
          (d.2.succeeds (r.packet data).2 .origin = true ∨ d.2.always ≠ []) := by
    rw [hruns.profile, mem_names_foldl_run]
    exact or_iff_right (SortedSet.not_mem_empty name)
  refine ⟨data, due, hdata, hdue, hsettled, hreported, hnames, fun name hname => ?_,
    fun halways name => ?_⟩
  · obtain ⟨d, hd, hfingerprint, hsucceeds⟩ := (hreported name).1 hname
    exact (hnames name).2 ⟨d, hd, hfingerprint, .inl hsucceeds⟩
  · have hquiet (d : Target × Payload.Program) (hd : d ∈ due) : d.2.always = [] :=
      always_of_compiled (hdue.compiled d hd) halways
    refine (hnames name).trans (Iff.trans ?_ (hreported name).symm)
    grind

/-- The first program extracts a category and a unit and then says what they are. The second one
extracts the unit again, and the third one would say it too but fails. -/
def overwriting : List Fingerprint := [
  { name := "Controller",
    filters := [⟨"hello", [.dstPort 502]⟩],
    payloads := [{
      name := "hello",
      operations := [
        .extract { name := "Category", stop := .offset 1 },
        .extract { name := "Unit", stop := .offset 1 }],
      onMatch := some {
        confidence := 3, category := some .plc,
        details := .ofList [("Role", "boiler"), ("Unit", "first")] } }] },
  { name := "Logger",
    filters := [⟨"log", [.dstPort 502]⟩, ⟨"end", [.dstPort 502]⟩],
    payloads := [
      { name := "log",
        operations := [.extract { name := "Unit", start := .offset 1, stop := .offset 2 }] },
      { name := "end",
        operations := [.isDataAt { offset := 9 }],
        onMatch := some { details := .ofList [("Unit", "last")] } }] }]

/-- The classification stands where the first program wrote, and the unit is that of the second. -/
theorem report_settled_overwriting :
    ∃ c report data due, ofFingerprints overwriting = .ok c ∧
      c.report { payload := "0A 0b", header := some toController } = .ok report ∧
      Settled report.host (writes due data) ∧
      report.host.texts = [("Category", "PLC"), ("Confidence", "3"), ("Direction", "SOURCE"),
        ("Role", "Unknown"), ("Unit", "0B")] ∧
      (∀ f ∈ overwriting, ∀ payload ∈ f.payloads, payload.always = []) ∧
      ∀ name, name ∈ report.host.names ↔ name ∈ ["Controller", "Logger"] := by
  obtain ⟨c, report, hc, hr, htexts, hfingerprints⟩ : ∃ c report,
      ofFingerprints overwriting = .ok c ∧
        c.report { payload := "0A 0b", header := some toController } = .ok report ∧
        report.host.texts = [("Category", "PLC"), ("Confidence", "3"), ("Direction", "SOURCE"),
          ("Role", "Unknown"), ("Unit", "0B")] ∧
        report.fingerprints = ["Controller", "Logger"] :=
    ⟨_, _, rfl, rfl, by decide, by decide⟩
  have halways : ∀ f ∈ overwriting, ∀ payload ∈ f.payloads, payload.always = [] := by decide
  obtain ⟨data, due, -, -, hsettled, -, -, -, hnames⟩ := report_settled hc hr
  refine ⟨c, report, _, due, hc, hr, hsettled, htexts, halways, fun name => ?_⟩
  rw [hnames halways, hfingerprints]

end Classifier

end HostSurvey
