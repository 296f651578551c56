import HostSurvey.CommandLine.Run
import Mathlib.Data.List.Basic

/-!
# Names above printed trees

A run that prints trees puts the names of the imported devices above them in order,
whether or not these can be exported. So the tree of a device stands under its own
name as long as every device before it can be exported, and under the name of an
earlier device otherwise.
-/

namespace HostSurvey.CommandLine

/-! ## Outlines -/

/-- The names that are printed, with the trees below them. -/
def outlines (ds : List Device) : List (String × TraitTree) :=
  (ds.zip (treesOf ds)).map fun e => (e.1.name, e.2)

/-- The text on devices, followed by trees below names. -/
def outlineText (ds : List Device) (os : List (String × TraitTree)) : String :=
  Report.joined (Report.devicesLines ds ++ os.flatMap fun o => Report.treeLines o.1 o.2)

theorem toList_joined (lines : List String) :
    (Report.joined lines).toList = lines.flatMap fun l => l.toList ++ ['\n'] := by
  unfold Report.joined
  induction lines with
  | nil => rfl
  | cons l lines ih => simp [ih]

theorem deviceText_eq (ds : List Device) : deviceText ds true = outlineText ds (outlines ds) := by
  rw [deviceText, outlineText, outlines, List.flatMap_map, if_pos rfl]

def IsExported (d : Device) : Prop := ∃ t, d.toTree = .ok t

/-- The tree is that of a device of the name. -/
def IsOwn (ds : List Device) (o : String × TraitTree) : Prop :=
  ∃ d ∈ ds, d.name = o.1 ∧ d.toTree = .ok o.2

/-- No device that can be exported comes behind one that cannot. -/
def FailuresLast (ds : List Device) : Prop :=
  ds.Pairwise fun d e => IsExported e → IsExported d

variable {ds before behind : List Device} {d : Device} {t : TraitTree}

theorem treesOf_cons_of_ok (h : d.toTree = .ok t) : treesOf (d :: ds) = t :: treesOf ds := by
  simp [treesOf, h, Except.toOption]

theorem treesOf_cons_of_not (h : ¬ IsExported d) : treesOf (d :: ds) = treesOf ds := by
  have hnone : d.toTree.toOption = none := by
    cases htree : d.toTree with
    | ok t => exact absurd ⟨t, htree⟩ h
    | error fault => rfl
  simp [treesOf, hnone]

theorem treesOf_append (before behind : List Device) :
    treesOf (before ++ behind) = treesOf before ++ treesOf behind :=
  List.filterMap_append

theorem treesOf_eq_nil_iff : treesOf ds = [] ↔ ∀ d ∈ ds, ¬ IsExported d := by
  induction ds with
  | nil => simp [treesOf]
  | cons d ds ih =>
    by_cases hd : IsExported d
    · obtain ⟨t, ht⟩ := hd
      simp [treesOf_cons_of_ok ht, IsExported, ht]
    · simp [treesOf_cons_of_not hd, ih, hd]

theorem length_treesOf_le (ds : List Device) : (treesOf ds).length ≤ ds.length :=
  List.length_filterMap_le ..

theorem length_treesOf_of_exported (h : ∀ d ∈ ds, IsExported d) :
    (treesOf ds).length = ds.length := by
  induction ds with
  | nil => rfl
  | cons d ds ih =>
    obtain ⟨⟨t, ht⟩, hrest⟩ := List.forall_mem_cons.1 h
    rw [treesOf_cons_of_ok ht, List.length_cons, List.length_cons, ih hrest]

/-- Every tree is printed. -/
theorem length_outlines (ds : List Device) : (outlines ds).length = (treesOf ds).length := by
  rw [outlines, List.length_map, List.length_zip, Nat.min_eq_right (length_treesOf_le ds)]

/-- The tree of a device has as many trees before it as devices before it can be exported; it
stands under the name of the device that has as many devices before it. -/
theorem getElem?_outlines (h : d.toTree = .ok t) :
    ∃ heading, (before ++ d :: behind)[(treesOf before).length]? = some heading ∧
      (outlines (before ++ d :: behind))[(treesOf before).length]? = some (heading.name, t) ∧
      ((∀ b ∈ before, IsExported b) → heading = d) := by
  have htree : (treesOf (before ++ d :: behind))[(treesOf before).length]? = some t := by
    rw [treesOf_append, treesOf_cons_of_ok h, List.getElem?_append_right (Nat.le_refl _),
      Nat.sub_self, List.getElem?_cons_zero]
  have hlt : (treesOf before).length < (before ++ d :: behind).length := by
    have := length_treesOf_le before
    simp only [List.length_append, List.length_cons]
    omega
  obtain ⟨heading, hheading⟩ : ∃ e, (before ++ d :: behind)[(treesOf before).length]? = some e :=
    ⟨_, List.getElem?_eq_getElem hlt⟩
  have hpair : ((before ++ d :: behind).zip
      (treesOf (before ++ d :: behind)))[(treesOf before).length]? = some (heading, t) :=
    List.getElem?_zip_eq_some.2 ⟨hheading, htree⟩
  refine ⟨heading, hheading, by rw [outlines, List.getElem?_map, hpair]; rfl, fun hall => ?_⟩
  rw [length_treesOf_of_exported hall, List.getElem?_append_right (Nat.le_refl _), Nat.sub_self,
    List.getElem?_cons_zero] at hheading
  exact (Option.some.inj hheading).symm

theorem outlines_cons_of_ok (h : d.toTree = .ok t) :
    outlines (d :: ds) = (d.name, t) :: outlines ds := by
  rw [outlines, treesOf_cons_of_ok h, List.zip_cons_cons, List.map_cons, outlines]

theorem IsOwn.cons {o : String × TraitTree} (h : IsOwn ds o) (d : Device) : IsOwn (d :: ds) o := by
  obtain ⟨e, he, hname⟩ := h
  exact ⟨e, List.mem_cons_of_mem d he, hname⟩

theorem isOwn_of_failuresLast (h : FailuresLast ds) : ∀ o ∈ outlines ds, IsOwn ds o := by
  induction ds with
  | nil => simp [outlines]
  | cons d ds ih =>
    obtain ⟨hd, hrest⟩ := List.pairwise_cons.1 h
    by_cases hexported : IsExported d
    · obtain ⟨t, ht⟩ := hexported
      rw [outlines_cons_of_ok ht, List.forall_mem_cons]
      exact ⟨⟨d, List.mem_cons_self, rfl, ht⟩, fun o ho => (ih hrest o ho).cons d⟩
    · have hnone : treesOf (d :: ds) = [] := by
        rw [treesOf_cons_of_not hexported, treesOf_eq_nil_iff]
        exact fun e he hexport => hexported (hd e he hexport)
      simp [outlines, hnone]

/-- Where every device has a name of its own, failures spoil some name unless they come last. -/
theorem failuresLast_of_isOwn (hnames : (ds.map Device.name).Nodup)
    (h : ∀ o ∈ outlines ds, IsOwn ds o) : FailuresLast ds := by
  induction ds with
  | nil => exact .nil
  | cons d ds ih =>
    obtain ⟨hd, hrest⟩ := List.nodup_cons.1 hnames
    by_cases hexported : IsExported d
    · obtain ⟨t, ht⟩ := hexported
      refine List.pairwise_cons.2 ⟨fun _ _ _ => ⟨t, ht⟩, ih hrest fun o ho => ?_⟩
      rw [outlines_cons_of_ok ht, List.forall_mem_cons] at h
      obtain ⟨e, he, hname, htree⟩ := h.2 o ho
      -- the name is that of a device behind `d`, which has another name
      obtain rfl | he := List.mem_cons.1 he
      · obtain ⟨p, hp, rfl⟩ := List.mem_map.1 ho
        exact absurd (List.mem_map.2 ⟨p.1, (List.of_mem_zip hp).1, hname.symm⟩) hd
      · exact ⟨e, he, hname, htree⟩
    · have hnone : ∀ e ∈ ds, ¬ IsExported e := by
        rw [← treesOf_eq_nil_iff]
        by_contra hsome
        obtain ⟨t, ts, hts⟩ := List.exists_cons_of_ne_nil hsome
        have hhead : (d.name, t) ∈ outlines (d :: ds) := by
          rw [outlines, treesOf_cons_of_not hexported, hts, List.zip_cons_cons]
          exact List.mem_cons_self
        obtain ⟨e, he, hname, htree⟩ := h _ hhead
        obtain rfl | he := List.mem_cons.1 he
        · exact hexported ⟨t, htree⟩
        · exact hd (List.mem_map.2 ⟨e, he, hname⟩)
      refine List.pairwise_cons.2 ⟨fun e he hexport => absurd hexport (hnone e he), ?_⟩
      exact List.pairwise_of_forall_mem_list fun e he f hf hexport => absurd hexport (hnone f hf)

/-! ## Runs -/

variable {a : Arguments} {s : Surroundings} {o : Outcome}

/-- In a report for readers, what packets tell stands behind what was printed before. -/
theorem output_classifyPackets [Pattern.Engine] (hjson : a.json = false) (s : Surroundings)
    (rules packets : String) (o : Outcome) :
    ∃ rest, (classifyPackets a s rules packets o).output = o.output ++ rest := by
  unfold classifyPackets
  split
  · rename_i rs hrs
    exact ⟨Report.joined (Report.packetsLines rs), by simp [reportPackets, hjson, Outcome.print]⟩
  · exact ⟨"", (String.append_empty ..).symm⟩

/-- The import fails and prints nothing, or prints the devices and their trees. -/
theorem importDevices_cases (hjson : a.json = false) (htree : a.tree = true) (s : Surroundings)
    (o : Outcome) :
    (importDevices a s o).exitCode = failure ∧ (importDevices a s o).output = o.output ∨
      (importDevices a s o).exitCode = o.exitCode ∧
        (importDevices a s o).output = o.output ++
          outlineText (importAll s a.sessions) (outlines (importAll s a.sessions)) := by
  unfold importDevices
  cases hmade : makeSectionDirectory a s o with
  | none => exact .inl ⟨rfl, rfl⟩
  | some o' =>
    have hsame : o'.exitCode = o.exitCode ∧ o'.output = o.output := by
      unfold makeSectionDirectory at hmade
      split at hmade
      · obtain rfl := Option.some.inj hmade
        exact ⟨rfl, rfl⟩
      · simp only at hmade
        split at hmade
        · cases hmade
        · obtain rfl := Option.some.inj hmade
          exact ⟨rfl, rfl⟩
    cases himport : importAll s a.sessions with
    | nil => exact .inl ⟨rfl, hsame.2⟩
    | cons d ds =>
      refine .inr ⟨?_, ?_⟩
      · simp [reportDevices, hjson, Outcome.print, hsame]
      · simp [reportDevices, hjson, htree, Outcome.print, hsame, deviceText_eq]

theorem run_cases [Pattern.Engine] {arguments : List String}
    (hparse : Arguments.parse? arguments = some a) (hsessions : a.sessions ≠ [])
    (hjson : a.json = false) (htree : a.tree = true) (s : Surroundings) :
    (run arguments s).exitCode = failure ∧ (run arguments s).output = "" ∨
      ∃ rest, (a.packets = none → rest = "") ∧
        (run arguments s).output =
          outlineText (importAll s a.sessions) (outlines (importAll s a.sessions)) ++ rest := by
  have hsome : a.sessions.isEmpty = false := by simpa using hsessions
  simp only [run, hparse, perform]
  cases hmade : makeOutputDirectory a s with
  | none => exact .inl ⟨rfl, rfl⟩
  | some o =>
    have hstart : o.exitCode = 0 ∧ o.output = "" := by
      unfold makeOutputDirectory at hmade
      split at hmade
      · obtain rfl := Option.some.inj hmade
        exact ⟨rfl, rfl⟩
      · split at hmade
        · cases hmade
        · obtain rfl := Option.some.inj hmade
          exact ⟨rfl, rfl⟩
    simp only [hsome, Bool.false_and, Bool.false_eq_true, ↓reduceIte]
    obtain ⟨hcode, houtput⟩ | ⟨hcode, houtput⟩ := importDevices_cases hjson htree s o
    · left
      split
      · rw [if_neg (by rw [hcode]; decide)]
        exact ⟨hcode, houtput.trans hstart.2⟩
      · exact ⟨hcode, houtput.trans hstart.2⟩
    · right
      rw [hstart.2, String.empty_append] at houtput
      split
      · rename_i rules packets _ hpackets
        rw [if_pos (hcode.trans hstart.1)]
        obtain ⟨rest, hrest⟩ := output_classifyPackets hjson s rules packets (importDevices a s o)
        exact ⟨rest, fun hnone => absurd (hpackets.symm.trans hnone) nofun, by rw [hrest, houtput]⟩
      · exact ⟨"", fun _ => rfl, by rw [houtput, String.append_empty]⟩

/-- A run that is asked for trees prints every tree, or fails and prints nothing. The tree of a
device stands under the name of the device that has as many devices before it as there are trees
before that tree: under its own name if every device before it can be exported. All trees stand
under names of their own where failures come last, and, where every device has another name, only
there. -/
theorem printed_trees [Pattern.Engine] {arguments : List String}
    (hparse : Arguments.parse? arguments = some a) (hsessions : a.sessions ≠ [])
    (hjson : a.json = false) (htree : a.tree = true) (s : Surroundings) :
    (run arguments s).exitCode = failure ∧ (run arguments s).output = "" ∨
      ∃ os rest, (a.packets = none → rest = "") ∧
        (run arguments s).output = outlineText (importAll s a.sessions) os ++ rest ∧
        os.length = (treesOf (importAll s a.sessions)).length ∧
        (∀ before d behind t, importAll s a.sessions = before ++ d :: behind → d.toTree = .ok t →
          ∃ heading, (importAll s a.sessions)[(treesOf before).length]? = some heading ∧
            os[(treesOf before).length]? = some (heading.name, t) ∧
            ((∀ b ∈ before, IsExported b) → heading = d)) ∧
        (FailuresLast (importAll s a.sessions) → ∀ o ∈ os, IsOwn (importAll s a.sessions) o) ∧
        (((importAll s a.sessions).map Device.name).Nodup →
          (∀ o ∈ os, IsOwn (importAll s a.sessions) o) →
          FailuresLast (importAll s a.sessions)) := by
  obtain hfailed | ⟨rest, hrest, houtput⟩ := run_cases hparse hsessions hjson htree s
  · exact .inl hfailed
  · refine .inr ⟨outlines (importAll s a.sessions), rest, hrest, houtput, length_outlines _, ?_,
      isOwn_of_failuresLast, failuresLast_of_isOwn⟩
    intro before d behind t hds ht
    rw [hds]
    exact getElem?_outlines ht

/-! ## A device that cannot be exported -/

/-- A session on a device with one port. -/
def sessionOn (name port : String) : Bytes := Text.Utf8.encode
  (name ++ "#show running-config\nhostname " ++ name ++ "\ninterface " ++ port ++
    "\n description x\n!\n!\n!\n").toList

/-- Two sessions; the device of the first has a port whose number is too large to be exported. -/
def twoSessions : Surroundings where
  read
    | "a" => some (sessionOn "sw1" "GigabitEthernet0/4294967296")
    | "b" => some (sessionOn "sw2" "GigabitEthernet0/1")
    | _ => none

def askedForTrees : List String := ["-c", "a", "-c", "b", "-t"]

def forTrees : Arguments := { sessions := ["a", "b"], tree := true }

theorem importAll_twoSessions :
    ∃ d d' t, importAll twoSessions forTrees.sessions = [d, d'] ∧ d.name = "sw1" ∧
      ¬ IsExported d ∧ d'.name = "sw2" ∧ d'.toTree = .ok t ∧
      t.text? .deviceName = some "sw2" := by
  have hread : (importAll twoSessions forTrees.sessions).map
      (fun d => (d.name, d.toTree.toOption.map (·.text? .deviceName))) =
      [("sw1", none), ("sw2", some (some "sw2"))] := by decide +kernel
  obtain ⟨d, ds, hds, hd, hrest⟩ := List.map_eq_cons_iff.1 hread
  obtain ⟨d', ds', rfl, hd', hnil⟩ := List.map_eq_cons_iff.1 hrest
  obtain rfl := List.map_eq_nil_iff.1 hnil
  obtain ⟨hname, hnone⟩ := Prod.mk.inj hd
  obtain ⟨hname', hsome⟩ := Prod.mk.inj hd'
  have hlost : ¬ IsExported d := by
    rintro ⟨t, ht⟩
    rw [ht] at hnone
    cases hnone
  cases htree : d'.toTree with
  | error fault =>
    rw [htree] at hsome
    cases hsome
  | ok t =>
    rw [htree] at hsome
    exact ⟨d, d', t, hds, hname, hlost, hname', htree, Option.some.inj hsome⟩

/-- The one tree that is printed tells of `sw2` and stands under the name of `sw1`. -/
theorem printed_trees_twoSessions :
    Arguments.parse? askedForTrees = some forTrees ∧ forTrees.sessions ≠ [] ∧
      forTrees.json = false ∧ forTrees.tree = true ∧
      ∃ t, t.text? .deviceName = some "sw2" ∧ (run askedForTrees twoSessions).output =
        outlineText (importAll twoSessions forTrees.sessions) [("sw1", t)] := by
  have hparse : Arguments.parse? askedForTrees = some forTrees := by decide +kernel
  have hcode : (run askedForTrees twoSessions).exitCode = 0 := by decide +kernel
  refine ⟨hparse, by decide, rfl, rfl, ?_⟩
  obtain ⟨d, d', t, hds, hname, hlost, -, htree, htold⟩ := importAll_twoSessions
  obtain ⟨hfailed, -⟩ | ⟨os, rest, hrest, houtput, hlength, hplace, -, -⟩ :=
    printed_trees hparse (by decide) rfl rfl twoSessions
  · rw [hcode] at hfailed
    cases hfailed
  · obtain ⟨heading, hheading, ho, -⟩ := hplace [d] d' [] t hds htree
    rw [hds, treesOf_cons_of_not hlost] at hheading hlength
    rw [treesOf_cons_of_not hlost] at ho
    rw [treesOf_cons_of_ok htree] at hlength
    obtain rfl : d = heading := Option.some.inj hheading
    obtain ⟨o, rfl⟩ := List.length_eq_one_iff.1 hlength
    obtain rfl : o = (d.name, t) := Option.some.inj ho
    exact ⟨t, htold, by rw [houtput, hrest rfl, String.append_empty, hname]⟩

/-- Not every tree is printed under the name of its device. -/
theorem not_every_tree_under_its_name :
    ¬ ∀ arguments a s, Arguments.parse? arguments = some a → a.sessions ≠ [] → a.json = false →
      a.tree = true → a.packets = none → (run arguments s).exitCode = 0 →
      ∃ os, (run arguments s).output = outlineText (importAll s a.sessions) os ∧
        ∀ o ∈ os, IsOwn (importAll s a.sessions) o := by
  intro h
  have hparse : Arguments.parse? askedForTrees = some forTrees := by decide +kernel
  have hcode : (run askedForTrees twoSessions).exitCode = 0 := by decide +kernel
  obtain ⟨os, hos, hown⟩ :=
    h askedForTrees forTrees twoSessions hparse (by decide) rfl rfl rfl hcode
  obtain ⟨d, d', t, hds, hname, hlost, hname', htree, -⟩ := importAll_twoSessions
  obtain ⟨hfailed, -⟩ | ⟨rest, hrest, houtput⟩ :=
    run_cases hparse (by decide) rfl rfl twoSessions
  · rw [hcode] at hfailed
    cases hfailed
  · have hprinted : outlines [d, d'] = [("sw1", t)] := by
      rw [outlines, treesOf_cons_of_not hlost, treesOf_cons_of_ok htree, ← hname]
      rfl
    rw [hos, hrest rfl, String.append_empty, hds, hprinted] at houtput
    have htext := congrArg String.toList houtput
    rw [outlineText, outlineText, toList_joined, toList_joined, List.flatMap_append,
      List.flatMap_append, List.append_cancel_left_eq] at htext
    cases os with
    | nil => simp [Report.treeLines, Report.heading] at htext
    | cons o os =>
      have ho : o.1 = "sw2" := by
        obtain ⟨e, he, hfirst, hexport⟩ := hown o List.mem_cons_self
        rw [hds] at he
        obtain rfl | he := List.mem_cons.1 he
        · exact absurd ⟨_, hexport⟩ hlost
        · rw [← hfirst, List.mem_singleton.1 he, hname']
      simp [Report.treeLines, Report.heading, ho] at htext

end HostSurvey.CommandLine
