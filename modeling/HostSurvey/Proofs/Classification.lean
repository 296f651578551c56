import HostSurvey.Classifier
import HostSurvey.Pattern.Search
import HostSurvey.Proofs.Execution
import HostSurvey.Proofs.Matching

/-!
# Every fed payload runs once

`Feeds fs h t` says that some group of the documents `fs` leads to the payload
`t` and admits the header `h`. A classifier compiled from `fs` runs the programs
of these payloads and no others, once each, in ascending order and from the
first byte: `Compiles` ties its programs and rules to the documents, and
`RunsInTurn` says what a run does with the payloads that are due.
-/

namespace HostSurvey.Classifier

open HostSurvey.Filter HostSurvey.FirstFault

/-! ## Payloads that are fed -/

/-- Some group of the fingerprint names the payload, which is the first of that name, and its
conditions admit the header. -/
def Feeds (fs : List Fingerprint) (h : Header) (t : Target) : Prop :=
  ∃ f g p, fs[t.fingerprint]? = some f ∧ g ∈ f.filters ∧ f.payloads[t.payload]? = some p ∧
    p.name = g.target ∧
    (∀ j q, j < t.payload → f.payloads[j]? = some q → q.name ≠ g.target) ∧
    Admits g.conditions h

/-- The program of a payload of the documents. -/
def Compiled [Pattern.Engine] (fs : List Fingerprint) (t : Target) (p : Payload.Program) : Prop :=
  ∃ f payload, fs[t.fingerprint]? = some f ∧ f.payloads[t.payload]? = some payload ∧
    Payload.compile f.name payload = .ok p

theorem payloadIndex?_eq_some_iff {f : Fingerprint} {name : String} {j : Nat} :
    f.payloadIndex? name = some j ↔
      ∃ p, f.payloads[j]? = some p ∧ p.name = name ∧
        ∀ i q, i < j → f.payloads[i]? = some q → q.name ≠ name := by
  unfold Fingerprint.payloadIndex?
  rw [List.findIdx?_eq_some_iff_getElem]
  constructor
  · rintro ⟨hj, hp, hbefore⟩
    refine ⟨f.payloads[j], List.getElem?_eq_getElem hj, by simpa using hp, fun i q hi hq => ?_⟩
    obtain ⟨hlt, rfl⟩ := List.getElem?_eq_some_iff.1 hq
    simpa using hbefore i hi
  · rintro ⟨p, hp, hname, hbefore⟩
    obtain ⟨hlt, rfl⟩ := List.getElem?_eq_some_iff.1 hp
    refine ⟨hlt, by simpa using hname, fun i hi => ?_⟩
    have := hbefore i _ hi (List.getElem?_eq_getElem (by omega))
    simpa using this

/-! ## Compiling -/

/-- The rule of a filter group of the `i`-th fingerprint. -/
def ruleOf (i : Nat) (f : Fingerprint) (g : FilterGroup) : Option (Rule Target) :=
  (f.payloadIndex? g.target).map fun j => ⟨f.name ++ "/" ++ g.target, g.conditions, ⟨i, j⟩⟩

/-- The rules of all groups of documents, in their order. -/
def rulesOf (fs : List Fingerprint) : List (Rule Target) :=
  fs.zipIdx.flatMap fun e => e.1.filters.filterMap (ruleOf e.2 e.1)

/-- The programs and the rules of the classifier are those of the documents. -/
structure Compiles [Pattern.Engine] (fs : List Fingerprint) (c : Classifier) : Prop where
  programs : List.Forall₂ (fun f programs => compilePayloads f = .ok programs) fs c.programs
  rules : c.engine.rules = rulesOf fs
  inStep : c.engine.InStep

theorem rulesOf_append_singleton (fs : List Fingerprint) (f : Fingerprint) :
    rulesOf (fs ++ [f]) = rulesOf fs ++ f.filters.filterMap (ruleOf fs.length f) := by
  unfold rulesOf
  rw [List.zipIdx_append, List.flatMap_append]
  simp

theorem rules_addGroup {i : Nat} {f : Fingerprint} {e e' : Engine Target} {g : FilterGroup}
    (he : e.InStep) (h : addGroup i f e g = .ok e') :
    e'.rules = e.rules ++ (ruleOf i f g).toList ∧ e'.InStep := by
  unfold addGroup at h
  unfold ruleOf
  split at h
  · rename_i hj
    cases h
    simp [hj, he]
  · rename_i j hj
    rw [hj]
    have hin := he.add ⟨f.name ++ "/" ++ g.target, g.conditions, ⟨i, j⟩⟩
    obtain ⟨fault, _, hadd⟩ | ⟨x, _, _, hadd⟩ :=
      e.add_cases ⟨f.name ++ "/" ++ g.target, g.conditions, ⟨i, j⟩⟩
    · rw [hadd] at h
      cases h
    · rw [hadd] at h hin
      cases h
      exact ⟨rfl, hin⟩

theorem rules_foldlM_addGroup {i : Nat} {f : Fingerprint} {gs : List FilterGroup}
    {e e' : Engine Target} (he : e.InStep) (h : gs.foldlM (addGroup i f) e = .ok e') :
    e'.rules = e.rules ++ gs.filterMap (ruleOf i f) ∧ e'.InStep := by
  induction gs generalizing e with
  | nil =>
    cases h
    simp [he]
  | cons g gs ih =>
    obtain ⟨e₁, hg, hgs⟩ := foldlM_cons_eq_ok_iff.1 h
    obtain ⟨hrules, he₁⟩ := rules_addGroup he hg
    obtain ⟨hrest, he'⟩ := ih he₁ hgs
    refine ⟨?_, he'⟩
    rw [hrest, hrules, List.append_assoc]
    cases hr : ruleOf i f g <;> simp [hr]

theorem add_eq_ok [Pattern.Engine] {c c' : Classifier} {f : Fingerprint} {i : Nat}
    (h : c.add f i = .ok c') :
    ∃ programs engine, compilePayloads f = .ok programs ∧
      f.filters.foldlM (addGroup i f) c.engine = .ok engine ∧
      c' = { programs := c.programs ++ [programs], engine } := by
  obtain ⟨_, _, h⟩ := bind_eq_ok_iff.1 h
  obtain ⟨programs, hp, h⟩ := bind_eq_ok_iff.1 h
  obtain ⟨engine, he, h⟩ := bind_eq_ok_iff.1 h
  cases h
  exact ⟨programs, engine, hp, he, rfl⟩

theorem Compiles.add [Pattern.Engine] {fs : List Fingerprint} {c c' : Classifier} {f : Fingerprint}
    (hc : Compiles fs c) (h : c.add f fs.length = .ok c') : Compiles (fs ++ [f]) c' := by
  obtain ⟨programs, engine, hp, he, rfl⟩ := add_eq_ok h
  obtain ⟨hrules, hin⟩ := rules_foldlM_addGroup hc.inStep he
  refine ⟨List.rel_append hc.programs (.cons hp .nil), ?_, hin⟩
  rw [hrules, hc.rules, rulesOf_append_singleton]

theorem compiles_of_ofFingerprints [Pattern.Engine] {fs : List Fingerprint} {c : Classifier}
    (h : ofFingerprints fs = .ok c) : Compiles fs c := by
  suffices hrun : ∀ (rest before : List Fingerprint) (b : Classifier), Compiles before b →
      (rest.zipIdx before.length).foldlM (fun c (e : Fingerprint × Nat) => c.add e.1 e.2) b =
        .ok c → Compiles (before ++ rest) c from
    hrun fs [] {} ⟨.nil, rfl, Engine.inStep_empty⟩ h
  intro rest
  induction rest with
  | nil =>
    intro before b hb hrun
    cases hrun
    simpa using hb
  | cons f rest ih =>
    intro before b hb hrun
    obtain ⟨b₁, hf, hrest⟩ := foldlM_cons_eq_ok_iff.1 hrun
    have := ih (before ++ [f]) b₁ (hb.add hf) (by simpa using hrest)
    simpa using this

/-! ## Targets -/

theorem mem_rulesOf {fs : List Fingerprint} {r : Rule Target} :
    r ∈ rulesOf fs ↔ ∃ i f g, fs[i]? = some f ∧ g ∈ f.filters ∧ ruleOf i f g = some r := by
  unfold rulesOf
  simp only [List.mem_flatMap, List.mem_filterMap, Prod.exists, List.mem_zipIdx_iff_getElem?]
  constructor
  · rintro ⟨f, i, hf, g, hg, hr⟩
    exact ⟨i, f, g, hf, hg, hr⟩
  · rintro ⟨i, f, g, hf, hg, hr⟩
    exact ⟨f, i, hf, g, hg, hr⟩

theorem mem_targets {c : Classifier} (hc : c.engine.InStep) {h : Header} {t : Target} :
    t ∈ c.targets h ↔ ∃ r ∈ c.engine.rules, r.action = t ∧ Admits r.conditions h := by
  unfold targets SortedSet.ofList
  simp only [SortedSet.mem_insertAll, SortedSet.not_mem_empty, or_false, List.mem_filterMap,
    hc.mem_matching, Option.map_eq_some_iff]
  constructor
  · rintro ⟨i, ⟨r, hr, ha⟩, r', hr', rfl⟩
    rw [hr] at hr'
    cases hr'
    exact ⟨r, List.mem_of_getElem? hr, rfl, ha⟩
  · rintro ⟨r, hr, rfl, ha⟩
    obtain ⟨i, hi⟩ := List.mem_iff_getElem?.1 hr
    exact ⟨i, ⟨r, hi, ha⟩, r, hi, rfl⟩

/-- The targets of a header are the payloads that are fed. -/
theorem Compiles.mem_targets_iff [Pattern.Engine] {fs : List Fingerprint} {c : Classifier}
    (hc : Compiles fs c) {h : Header} {t : Target} : t ∈ c.targets h ↔ Feeds fs h t := by
  rw [mem_targets hc.inStep, hc.rules]
  constructor
  · rintro ⟨r, hr, rfl, ha⟩
    obtain ⟨i, f, g, hf, hg, hrule⟩ := mem_rulesOf.1 hr
    obtain ⟨j, hj, rfl⟩ := Option.map_eq_some_iff.1 hrule
    obtain ⟨p, hp, hname, hbefore⟩ := payloadIndex?_eq_some_iff.1 hj
    exact ⟨f, g, p, hf, hg, hp, hname, fun j' q hlt => hbefore j' q hlt, ha⟩
  · rintro ⟨f, g, p, hf, hg, hp, hname, hbefore, ha⟩
    have hj := payloadIndex?_eq_some_iff.2 ⟨p, hp, hname, fun j' q hlt => hbefore j' q hlt⟩
    refine ⟨⟨f.name ++ "/" ++ g.target, g.conditions, t⟩, mem_rulesOf.2 ?_, rfl, ha⟩
    refine ⟨t.fingerprint, f, g, hf, hg, ?_⟩
    unfold ruleOf
    rw [hj]
    rfl

/-- Every payload of the documents has its program. -/
theorem Compiles.exists_program [Pattern.Engine] {fs : List Fingerprint} {c : Classifier}
    (hc : Compiles fs c) {t : Target} {f : Fingerprint} {payload : Payload}
    (hf : fs[t.fingerprint]? = some f) (hpayload : f.payloads[t.payload]? = some payload) :
    ∃ p, c.program? t = some p ∧ Payload.compile f.name payload = .ok p := by
  obtain ⟨programs, hprograms, hcompile⟩ := exists_getElem?_of_forall₂ hc.programs hf
  obtain ⟨p, hp, hcomp⟩ := exists_getElem?_of_forall₂ (mapM_eq_ok_iff.1 hcompile) hpayload
  refine ⟨p, ?_, hcomp⟩
  unfold program?
  rw [hprograms]
  exact hp

/-- A payload that is fed has a program. -/
theorem Compiles.program?_of_feeds [Pattern.Engine] {fs : List Fingerprint} {c : Classifier}
    (hc : Compiles fs c) {h : Header} {t : Target} (ht : Feeds fs h t) :
    ∃ p, c.program? t = some p ∧ Compiled fs t p := by
  obtain ⟨f, _, payload, hf, _, hpayload, _⟩ := ht
  obtain ⟨p, hp, hcomp⟩ := hc.exists_program hf hpayload
  exact ⟨p, hp, f, payload, hf, hpayload, hcomp⟩

/-! ## Names in the order of their first success -/

theorem note_of_mem {matched : List String} {name : String} (h : name ∈ matched) :
    note matched name = matched := by
  simp [note, h]

theorem note_of_not_mem {matched : List String} {name : String} (h : name ∉ matched) :
    note matched name = matched ++ [name] := by
  simp [note, h]

theorem foldl_note (l matched : List String) :
    l.foldl note matched = matched ++ (l.filter fun name => name ∉ matched).eraseDups := by
  induction l generalizing matched with
  | nil => simp
  | cons name l ih =>
    rw [List.foldl_cons, ih]
    by_cases hm : name ∈ matched
    · rw [note_of_mem hm, List.filter_cons_of_neg (by simpa using hm)]
    · rw [note_of_not_mem hm, List.filter_cons_of_pos (by simpa using hm), List.eraseDups_cons,
        List.filter_filter, List.append_assoc, List.singleton_append]
      congr 4
      funext other
      by_cases ho : other = name <;> simp [ho]

theorem nodup_foldl_note (l : List String) {matched : List String} (h : matched.Nodup) :
    (l.foldl note matched).Nodup := by
  induction l generalizing matched with
  | nil => exact h
  | cons name l ih =>
    rw [List.foldl_cons]
    by_cases hm : name ∈ matched
    · rw [note_of_mem hm]
      exact ih h
    · rw [note_of_not_mem hm]
      refine ih ?_
      rw [List.nodup_append]
      exact ⟨h, by simp, by simpa using fun a ha => ne_of_mem_of_not_mem ha hm⟩

/-! ## Running -/

variable {σ : Type}

/-- Due payloads with their programs, in the order of their runs. -/
abbrev Due := List (Target × Payload.Program)

/-- A runner that also keeps a log of its calls. -/
def logged (run : Runner σ) : Runner (List (Payload.Program × Cursor) × σ) := fun p c s =>
  let (ok, c', host) := run p c s.2
  (ok, c', s.1 ++ [(p, c)], host)

theorem visit_of_program {c : Classifier} {t : Target} {p : Payload.Program}
    (hp : c.program? t = some p) (run : Runner σ) (s : Progress σ) :
    (c.visit run s t).host = (run p .origin s.host).2.2 ∧
      (c.visit run s t).matched =
        if (run p .origin s.host).1 then note s.matched p.fingerprint else s.matched := by
  have hreset : s.cursor.reset = .origin := rfl
  unfold visit
  simp only [hp, hreset]
  rcases run p .origin s.host with ⟨_ | _, c', host⟩ <;> exact ⟨rfl, rfl⟩

/-- Visiting the due payloads hands the state from one run to the next, and notes the names of those
that succeed. -/
theorem foldl_visit {c : Classifier} {due : Due} (hdue : ∀ d ∈ due, c.program? d.1 = some d.2)
    (run : Runner σ) (succeeds : Payload.Program → Bool)
    (hrun : ∀ p s, (run p .origin s).1 = succeeds p) (s : Progress σ) :
    ((due.map Prod.fst).foldl (c.visit run) s).host =
        due.foldl (fun host d => (run d.2 .origin host).2.2) s.host ∧
      ((due.map Prod.fst).foldl (c.visit run) s).matched =
        ((due.filter fun d => succeeds d.2).map fun d => d.2.fingerprint).foldl note s.matched := by
  induction due generalizing s with
  | nil => exact ⟨rfl, rfl⟩
  | cons d due ih =>
    rw [List.forall_mem_cons] at hdue
    obtain ⟨hhost, hmatched⟩ := visit_of_program hdue.1 run s
    obtain ⟨hhosts, hnames⟩ := ih hdue.2 (c.visit run s d.1)
    simp only [List.map_cons, List.foldl_cons]
    rw [hhosts, hnames, hhost, hmatched, hrun, List.filter_cons]
    refine ⟨rfl, ?_⟩
    split <;> rfl

theorem foldl_logged (run : Runner σ) (due : Due) (log : List (Payload.Program × Cursor))
    (host : σ) :
    due.foldl (fun s d => (logged run d.2 .origin s).2.2) (log, host) =
      (log ++ due.map fun d => (d.2, Cursor.origin),
        due.foldl (fun host d => (run d.2 .origin host).2.2) host) := by
  induction due generalizing log host with
  | nil => simp
  | cons d due ih =>
    simp only [List.foldl_cons, logged] at ih ⊢
    rw [ih]
    simp

/-- Every element of a list with its own witness. -/
theorem exists_due {P : Target → Payload.Program → Prop} {l : List Target}
    (h : ∀ t ∈ l, ∃ p, P t p) : ∃ due : Due, due.map Prod.fst = l ∧ ∀ d ∈ due, P d.1 d.2 := by
  induction l with
  | nil => exact ⟨[], rfl, by simp⟩
  | cons t l ih =>
    rw [List.forall_mem_cons] at h
    obtain ⟨p, hp⟩ := h.1
    obtain ⟨due, hmap, hdue⟩ := ih h.2
    refine ⟨(t, p) :: due, by rw [List.map_cons, hmap], ?_⟩
    rw [List.forall_mem_cons]
    exact ⟨hp, hdue⟩

/-- What a classification does when `due` are the payloads to run, with their programs. -/
structure RunsInTurn (c : Classifier) (h : Header) (due : Due) : Prop where
  /-- The programs are called in order, once for each payload, with all marks at the first byte. -/
  calls : ∀ (data : Bytes) (host : HostProfile),
    (c.visitAll h (logged fun p cursor host => p.run data cursor host) ([], host)).host.1 =
      due.map fun d => (d.2, { start := 0, main := 0, stop := 0 })
  /-- The profile goes through these runs. -/
  profile : ∀ data host,
    (c.classify h data host).2 = due.foldl (fun host d => (d.2.run data .origin host).2.2) host
  /-- The names are those of the successful runs, in the order of the first one. -/
  names : ∀ data host,
    (c.classify h data host).1 =
      ((due.filter fun d => (d.2.run data .origin host).1).map fun d => d.2.fingerprint).eraseDups
  nodup : ∀ data host, (c.classify h data host).1.Nodup
  /-- The profile has no part in the names. -/
  independent : ∀ data host host', (c.classify h data host).1 = (c.classify h data host').1

theorem runsInTurn_of_targets {c : Classifier} {h : Header} {due : Due}
    (htargets : due.map Prod.fst = (c.targets h).toList)
    (hdue : ∀ d ∈ due, c.program? d.1 = some d.2) : RunsInTurn c h due := by
  have hvisit {σ : Type} (run : Runner σ) (succeeds : Payload.Program → Bool)
      (hrun : ∀ p s, (run p .origin s).1 = succeeds p) (s : σ) :
      (c.visitAll h run s).host = due.foldl (fun host d => (run d.2 .origin host).2.2) s ∧
        (c.visitAll h run s).matched =
          ((due.filter fun d => succeeds d.2).map fun d => d.2.fingerprint).foldl note [] := by
    unfold visitAll
    rw [← htargets]
    exact foldl_visit hdue run succeeds hrun { host := s }
  -- whether a program succeeds can be asked on any profile, so also on the first one
  have hclassify (data : Bytes) (host host' : HostProfile) :=
    hvisit (fun p cursor host => p.run data cursor host) (fun p => (p.run data .origin host).1)
      (fun p s => Payload.fst_run_eq p data .origin s host) host'
  have hnames (data : Bytes) (host host' : HostProfile) :
      (c.classify h data host').1 =
        ((due.filter fun d => (d.2.run data .origin host).1).map fun d =>
          d.2.fingerprint).eraseDups := by
    refine (hclassify data host host').2.trans ?_
    rw [foldl_note]
    simp
  refine ⟨fun data host => ?_, fun data host => (hclassify data host host).1,
    fun data host => hnames data host host, fun data host => ?_, fun data host host' => ?_⟩
  · have hlog := hvisit (logged fun p cursor host => p.run data cursor host)
      (fun p => (p.run data .origin host).1)
      (fun p s => Payload.fst_run_eq p data .origin s.2 host) ([], host)
    rw [hlog.1, foldl_logged]
    rfl
  · have hmatched := (hclassify data host host).2
    show (c.visitAll h _ host).matched.Nodup
    rw [hmatched]
    exact nodup_foldl_note _ List.nodup_nil
  · rw [hnames data host host, hnames data host host']

/-- A classifier compiled from documents runs the payloads that are fed and no others, once each in
ascending order, and answers with the fingerprints of those that succeed. -/
theorem classify_runs_fed_payloads [Pattern.Engine] {fs : List Fingerprint} {c : Classifier}
    (hc : ofFingerprints fs = .ok c) (h : Header) :
    ∃ due : Due,
      (due.map Prod.fst).Pairwise (fun s t => s.fingerprint < t.fingerprint ∨
        s.fingerprint = t.fingerprint ∧ s.payload < t.payload) ∧
      (∀ t, t ∈ due.map Prod.fst ↔ Feeds fs h t) ∧
      (∀ d ∈ due, Compiled fs d.1 d.2 ∧
        ∀ f, fs[d.1.fingerprint]? = some f → d.2.fingerprint = f.name) ∧
      RunsInTurn c h due := by
  have hcompiles := compiles_of_ofFingerprints hc
  have hfed (t : Target) (ht : t ∈ (c.targets h).toList) :
      ∃ p, c.program? t = some p ∧ Compiled fs t p :=
    hcompiles.program?_of_feeds (hcompiles.mem_targets_iff.1 ht)
  obtain ⟨due, hmap, hdue⟩ := exists_due hfed
  refine ⟨due, ?_, fun t => ?_, fun d hd => ⟨(hdue d hd).2, fun f hf => ?_⟩, ?_⟩
  · rw [hmap]
    exact (c.targets h).ascending.imp Target.compare_eq_lt.1
  · rw [hmap]
    exact hcompiles.mem_targets_iff
  · obtain ⟨f', payload, hf', _, hcomp⟩ := (hdue d hd).2
    rw [hf] at hf'
    cases hf'
    exact (Payload.of_compile hcomp).2
  · exact runsInTurn_of_targets hmap fun d hd => (hdue d hd).1

/-- Two fingerprints of one name. The first has two groups for one payload and a second payload of
the same name, and its program moves the main mark. -/
def overlapping : List Fingerprint := [
  { name := "Controller",
    filters := [⟨"hello", [.dstPort 502]⟩, ⟨"hello", [.ttlWithin 1 64]⟩, ⟨"end", [.srcPort 9]⟩],
    payloads := [
      { name := "hello", operations := [.anchor { offset := 1 }] },
      { name := "end" },
      { name := "hello", operations := [.isDataAt {}] }] },
  { name := "Controller",
    filters := [⟨"hello", [.dstPort 502, .ethertype 2048]⟩],
    payloads := [{ name := "hello", operations := [.isDataAt { relative := true }] }] }]

def toController : Header := { dst := 502, eth := 2048, ttl := 64, proto := 6 }

/-- Both groups of the first payload accept, and it runs once; the second program finds the main
mark at the first byte again, and the name is answered once. -/
theorem classify_overlapping :
    ∃ c, ofFingerprints overlapping = .ok c ∧
      ∃ due : Due, due.map Prod.fst = [⟨0, 0⟩, ⟨1, 0⟩] ∧
        (∀ d ∈ due, Compiled overlapping d.1 d.2) ∧ RunsInTurn c toController due ∧
        ∀ host, (c.classify toController [7] host).1 = ["Controller"] := by
  obtain ⟨c, hc, htargets, hnames⟩ : ∃ c, ofFingerprints overlapping = .ok c ∧
      (c.targets toController).toList = [⟨0, 0⟩, ⟨1, 0⟩] ∧
      (c.classify toController [7] .blank).1 = ["Controller"] := ⟨_, rfl, by decide, by decide⟩
  obtain ⟨due, hascending, hfeeds, hcompiled, hruns⟩ := classify_runs_fed_payloads hc toController
  have hmap : due.map Prod.fst = (c.targets toController).toList := by
    refine SortedSet.eq_of_mem_iff_list (hascending.imp Target.compare_eq_lt.2)
      (c.targets toController).ascending fun t => ?_
    rw [hfeeds, ← SortedSet.mem_def, (compiles_of_ofFingerprints hc).mem_targets_iff]
  refine ⟨c, hc, due, hmap.trans htargets, fun d hd => (hcompiled d hd).1, hruns, fun host => ?_⟩
  rw [← hnames]
  exact hruns.independent [7] host .blank

end HostSurvey.Classifier
