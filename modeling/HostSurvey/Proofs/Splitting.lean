import HostSurvey.Proofs.SectionFiles
import Mathlib.Data.List.DropRight
import Mathlib.Data.List.Induction
import Mathlib.Data.List.TakeWhile

/-!
# What a session is split into

A session is told here by where things stand in it: what lies between two
newlines is a line, but for the carriage returns at its end, and what lies
between two command lines is the output of a command. Splitting keeps the
sections that are told that way, each one under its command, or names the first
command that would be kept twice.
-/

namespace HostSurvey

/-! ## Lines -/

namespace Text

/-- `lines` are what the stops in `s` end, and what follows the last stop if there is something. -/
def Cuts {α : Type} (stop : α) (s : List α) (lines : List (List α)) : Prop :=
  ∃ ended rest, s = (ended.flatMap fun l => l ++ [stop]) ++ rest ∧
    (∀ l ∈ rest :: ended, stop ∉ l) ∧
    (rest = [] ∧ lines = ended ∨ rest ≠ [] ∧ lines = ended ++ [rest])

theorem cuts_linesAt {α : Type} [DecidableEq α] (stop : α) (s : List α) :
    Cuts stop s (linesAt stop s) := by
  induction s with
  | nil => exact ⟨[], [], rfl, by simp, .inl ⟨rfl, rfl⟩⟩
  | cons c s ih =>
    obtain ⟨ended, rest, hs, hstop, hlines⟩ := ih
    rw [linesAt]
    split
    · rename_i hc
      refine ⟨[] :: ended, rest, by simp [hc, ← hs], by simpa using hstop, ?_⟩
      rcases hlines with ⟨hrest, hlines⟩ | ⟨hrest, hlines⟩
      · exact .inl ⟨hrest, by rw [hlines]⟩
      · exact .inr ⟨hrest, by rw [hlines]; rfl⟩
    · rename_i hc
      cases ended with
      | nil =>
        -- No stop follows: `c` stands in the last line.
        refine ⟨[], c :: rest, by simpa using hs, ?_, .inr ⟨by simp, ?_⟩⟩
        · simpa [Ne.symm hc] using hstop
        · rcases hlines with ⟨hrest, hlines⟩ | ⟨hrest, hlines⟩ <;> simp [hlines, hrest]
      | cons l ended =>
        refine ⟨(c :: l) :: ended, rest, by simpa using hs, ?_, ?_⟩
        · simpa [Ne.symm hc] using hstop
        · rcases hlines with ⟨hrest, hlines⟩ | ⟨hrest, hlines⟩
          · exact .inl ⟨hrest, by rw [hlines]⟩
          · exact .inr ⟨hrest, by rw [hlines]; rfl⟩

theorem eq_linesAt_of_cuts {α : Type} [DecidableEq α] {stop : α} {s : List α}
    {lines : List (List α)} (h : Cuts stop s lines) : lines = linesAt stop s := by
  obtain ⟨ended, rest, rfl, hstop, hlines⟩ := h
  obtain ⟨hrest, hended⟩ := List.forall_mem_cons.1 hstop
  rw [linesAt_append hended]
  rcases hlines with ⟨rfl, rfl⟩ | ⟨hne, rfl⟩
  · simp [linesAt]
  · rw [linesAt_of_not_mem hne hrest]

theorem dropTrailing_eq_rdropWhile {α : Type} [DecidableEq α] (c : α) (s : List α) :
    dropTrailing c s = s.rdropWhile (· == c) := rfl

end Text

namespace Session

open Text

/-! ## Sections -/

/-- `body` is what counts of the output of a command: what follows the last refusal in it. -/
def Counts (output body : List (List Char)) : Prop :=
  (∀ l ∈ body, isRefusal l = false) ∧
    (output = body ∨ ∃ refused mark, isRefusal mark = true ∧ output = refused ++ mark :: body)

theorem Counts.subset {output body : List (List Char)} (h : Counts output body) :
    body ⊆ output := by
  obtain ⟨-, rfl | ⟨refused, mark, -, rfl⟩⟩ := h
  · exact List.Subset.refl _
  · intro l hl
    simp [hl]

theorem counts_iff {output body : List (List Char)} :
    Counts output body ↔ body = afterRefusal output := by
  unfold Counts afterRefusal
  constructor
  · rintro ⟨hbody, rfl | ⟨refused, mark, hmark, rfl⟩⟩
    · rw [List.takeWhile_eq_self_iff.2 (by simpa using hbody), List.reverse_reverse]
    · have hreverse : (refused ++ mark :: body).reverse =
          body.reverse ++ mark :: refused.reverse := by simp
      rw [hreverse, List.takeWhile_append_of_pos (by simpa using hbody),
        List.takeWhile_cons_of_neg (by simp [hmark]), List.append_nil, List.reverse_reverse]
  · rintro rfl
    have hsplit :=
      List.takeWhile_append_dropWhile (p := fun l => !isRefusal l) (l := output.reverse)
    constructor
    · intro l hl
      simpa using List.mem_takeWhile_imp (List.mem_reverse.1 hl)
    · cases hdrop : output.reverse.dropWhile fun l => !isRefusal l with
      | nil =>
        rw [hdrop, List.append_nil] at hsplit
        exact .inl (by rw [hsplit, List.reverse_reverse])
      | cons mark refused =>
        have hmark := List.head?_dropWhile_not (fun l => !isRefusal l) output.reverse
        rw [hdrop] at hmark
        refine .inr ⟨refused.reverse, mark, by simpa using hmark, ?_⟩
        have := congrArg List.reverse hsplit
        rw [hdrop] at this
        simpa using this.symm

/-- `s` is the section of a command line among `lines`: it runs up to the next command line. -/
structure IsSection (lines : List (List Char)) (s : Section) : Prop where
  opens : Prompt.parse? s.line = some s.prompt
  runs : ∃ before output rest, lines = before ++ s.line :: (output ++ rest) ∧
    s.first = before.length + 1 ∧
    (∀ l ∈ output, Prompt.parse? l = none) ∧ (∀ l ∈ rest.head?, Prompt.parse? l ≠ none) ∧
    Counts output s.body

/-- `s` has a command, and with the command line it has more lines than `required`. -/
structure IsKept (required : Nat) (lines : List (List Char)) (s : Section) : Prop where
  isSection : IsSection lines s
  named : s.prompt.command ≠ []
  long : required < s.body.length + 1

/-- `kept` are the kept sections in the order of the file. -/
def KeptInOrder (required : Nat) (lines : List (List Char)) (kept : List Section) : Prop :=
  (kept.Pairwise fun s t => s.first < t.first) ∧ ∀ s, s ∈ kept ↔ IsKept required lines s

def isOutput (l : List Char) : Bool := (Prompt.parse? l).isNone

theorem fst_cutSections (n : Nat) (lines : List (List Char)) :
    (cutSections n lines).1 = lines.takeWhile isOutput := by
  induction lines generalizing n with
  | nil => rfl
  | cons l lines ih =>
    cases hl : Prompt.parse? l with
    | none => simp [cutSections, isOutput, hl, ih]
    | some prompt => simp [cutSections, isOutput, hl]

/-- The sections that are cut are those of the command lines. -/
theorem mem_cutSections {n : Nat} {lines : List (List Char)} {s : Section} :
    s ∈ (cutSections n lines).2 ↔
      Prompt.parse? s.line = some s.prompt ∧ ∃ before rest, lines = before ++ s.line :: rest ∧
        s.first = n + before.length ∧ s.body = afterRefusal (rest.takeWhile isOutput) := by
  induction lines generalizing n with
  | nil => simp [cutSections]
  | cons l lines ih =>
    have htail : (s ∈ (cutSections (n + 1) lines).2) ↔ Prompt.parse? s.line = some s.prompt ∧
        ∃ before rest, l :: lines = (l :: before) ++ s.line :: rest ∧
          s.first = n + (l :: before).length ∧
          s.body = afterRefusal (rest.takeWhile isOutput) := by
      rw [ih]
      simp only [List.cons_append, List.cons.injEq, true_and, List.length_cons]
      constructor
      all_goals
        rintro ⟨hopens, before, rest, hlines, hfirst, hbody⟩
        exact ⟨hopens, before, rest, hlines, by omega, hbody⟩
    cases hl : Prompt.parse? l with
    | none =>
      have hcut : (cutSections n (l :: lines)).2 = (cutSections (n + 1) lines).2 := by
        simp [cutSections, hl]
      rw [hcut, htail]
      constructor
      · rintro ⟨hopens, before, rest, hlines⟩
        exact ⟨hopens, l :: before, rest, hlines⟩
      · rintro ⟨hopens, before, rest, hlines, hrest⟩
        cases before with
        | nil =>
          obtain ⟨rfl, -⟩ := List.cons.inj hlines
          exact absurd (hl.symm.trans hopens) (by simp)
        | cons b before =>
          obtain ⟨rfl, -⟩ := List.cons.inj hlines
          exact ⟨hopens, before, rest, hlines, hrest⟩
    | some prompt =>
      have hcut : (cutSections n (l :: lines)).2 =
          ⟨prompt, l, n, afterRefusal (lines.takeWhile isOutput)⟩ ::
            (cutSections (n + 1) lines).2 := by
        simp [cutSections, hl, fst_cutSections]
      rw [hcut, List.mem_cons, htail]
      constructor
      · rintro (rfl | ⟨hopens, before, rest, hlines⟩)
        · exact ⟨hl, [], lines, rfl, rfl, rfl⟩
        · exact ⟨hopens, l :: before, rest, hlines⟩
      · rintro ⟨hopens, before, rest, hlines, hfirst, hbody⟩
        cases before with
        | nil =>
          obtain ⟨rfl, rfl⟩ := List.cons.inj hlines
          obtain rfl := Option.some.inj (hl.symm.trans hopens)
          refine .inl ?_
          rw [← hbody, ← Nat.add_zero n, ← List.length_nil (α := List Char), ← hfirst]
        | cons b before =>
          obtain ⟨rfl, -⟩ := List.cons.inj hlines
          exact .inr ⟨hopens, before, rest, hlines, hfirst, hbody⟩

theorem first_lt_of_cutSections (n : Nat) (lines : List (List Char)) :
    (cutSections n lines).2.Pairwise fun s t => s.first < t.first := by
  induction lines generalizing n with
  | nil => exact .nil
  | cons l lines ih =>
    cases hl : Prompt.parse? l with
    | none => simpa [cutSections, hl] using ih (n + 1)
    | some prompt =>
      simp only [cutSections, hl]
      refine List.pairwise_cons.2 ⟨fun t ht => ?_, ih (n + 1)⟩
      obtain ⟨-, before, -, -, hfirst, -⟩ := mem_cutSections.1 ht
      show n < t.first
      omega

/-- Output that a command line or the end follows is all the output there is. -/
theorem takeWhile_isOutput {output rest : List (List Char)}
    (houtput : ∀ l ∈ output, Prompt.parse? l = none)
    (hrest : ∀ l ∈ rest.head?, Prompt.parse? l ≠ none) :
    (output ++ rest).takeWhile isOutput = output := by
  refine (Text.span_append (fun l hl => ?_) fun l hl => ?_).1
  · simp [isOutput, houtput l hl]
  · simpa [isOutput, Option.isSome_iff_ne_none] using hrest l hl

theorem isSection_iff_mem {lines : List (List Char)} {s : Section} :
    IsSection lines s ↔ s ∈ (cutSections 1 lines).2 := by
  rw [mem_cutSections]
  constructor
  · rintro ⟨hopens, before, output, rest, hlines, hfirst, houtput, hrest, hbody⟩
    refine ⟨hopens, before, output ++ rest, hlines, by omega, ?_⟩
    rw [takeWhile_isOutput houtput hrest, counts_iff.1 hbody]
  · rintro ⟨hopens, before, rest, hlines, hfirst, hbody⟩
    refine ⟨hopens, before, rest.takeWhile isOutput, rest.dropWhile isOutput, ?_, by omega,
      fun l hl => ?_, fun l hl => ?_, counts_iff.2 hbody⟩
    · rw [List.takeWhile_append_dropWhile, hlines]
    · simpa [isOutput] using List.mem_takeWhile_imp hl
    · have hstop := Text.eq_false_of_mem_head?_dropWhile hl
      simpa [isOutput, Option.isSome_iff_ne_none] using hstop

theorem keptInOrder_keptSections (options : SplitOptions) (lines : List (List Char)) :
    KeptInOrder options.shortest lines (keptSections options lines) := by
  refine ⟨(first_lt_of_cutSections 1 lines).filter _, fun s => ?_⟩
  rw [keptSections, List.mem_filter, ← isSection_iff_mem]
  simp only [Section.isKept, Bool.and_eq_true, decide_eq_true_eq, Bool.not_eq_true',
    List.isEmpty_eq_false_iff]
  constructor
  · rintro ⟨hsection, hlong, hnamed⟩
    exact ⟨hsection, hnamed, hlong⟩
  · rintro ⟨hsection, hnamed, hlong⟩
    exact ⟨hsection, hlong, hnamed⟩

/-! ## Storing -/

/-- `sections` holds the sections of a list, each under its command. -/
def Stores (stored : List Section) (sections : SortedMap String Section) : Prop :=
  ∀ command s, sections.find? command = some s ↔ s ∈ stored ∧ s.command = command

theorem Stores.insert {stored : List Section} {sections : SortedMap String Section}
    (h : Stores stored sections) {s : Section} (hs : s.command ∉ stored.map Section.command) :
    Stores (stored ++ [s]) (sections.insert s.command s) := by
  intro command t
  rw [SortedMap.find?_insert]
  split
  · rename_i hcommand
    constructor
    · rintro ⟨⟩
      exact ⟨by simp, hcommand⟩
    · rintro ⟨ht, hteq⟩
      rcases List.mem_append.1 ht with ht | ht
      · exact absurd (List.mem_map.2 ⟨t, ht, hteq.trans hcommand.symm⟩) hs
      · rw [List.mem_singleton.1 ht]
  · rename_i hcommand
    rw [h]
    constructor
    · rintro ⟨ht, hteq⟩
      exact ⟨List.mem_append_left _ ht, hteq⟩
    · rintro ⟨ht, hteq⟩
      rcases List.mem_append.1 ht with ht | ht
      · exact ⟨ht, hteq⟩
      · exact absurd (List.mem_singleton.1 ht ▸ hteq) hcommand

theorem Stores.contains_iff {stored : List Section} {sections : SortedMap String Section}
    (h : Stores stored sections) (command : String) :
    sections.contains command = true ↔ command ∈ stored.map Section.command := by
  rw [SortedMap.contains, Option.isSome_iff_exists, List.mem_map]
  exact exists_congr fun s => h command s

theorem store_eq_ok {options : SplitOptions} {kept kept' : SortedMap String Section} {s : Section}
    (h : store options kept s = .ok kept') :
    kept.contains s.command = false ∧ kept' = kept.insert s.command s := by
  unfold store at h
  split at h
  · cases h
  · rename_i hcontains
    split at h
    · cases h
      exact ⟨by simpa using hcontains, rfl⟩
    · cases h

/-- Without a fault, all sections are stored. -/
theorem Stores.storeAll {options : SplitOptions} {rest stored : List Section}
    {sections all : SortedMap String Section} (h : Stores stored sections)
    (hall : storeAll options sections rest = (all, none)) : Stores (stored ++ rest) all := by
  induction rest generalizing stored sections with
  | nil =>
    obtain rfl : sections = all := congrArg Prod.fst hall
    simpa using h
  | cons s rest ih =>
    rw [Session.storeAll] at hall
    split at hall
    · rename_i kept hstore
      obtain ⟨hcontains, rfl⟩ := store_eq_ok hstore
      have hnew := mt (h.contains_iff s.command).2 (by simp [hcontains])
      simpa using ih (h.insert hnew) hall
    · cases hall

/-- Behind sections of different commands that are stored already, either some section is the
first one whose command was stored before, or all are stored. -/
theorem storeAll_cases {options : SplitOptions} {rest : List Section}
    (hwrite : ∀ s ∈ rest, isWritable options s = true) {stored : List Section}
    {sections : SortedMap String Section} (hstores : Stores stored sections)
    (hnodup : (stored.map Section.command).Nodup) :
    (∃ next s after, rest = next ++ s :: after ∧
      ((stored ++ next).map Section.command).Nodup ∧
      s.command ∈ (stored ++ next).map Section.command ∧
      (storeAll options sections rest).2 = some (.duplicate s.command)) ∨
    ((stored ++ rest).map Section.command).Nodup ∧
      (storeAll options sections rest).2 = none := by
  induction rest generalizing stored sections with
  | nil => exact .inr ⟨by simpa using hnodup, rfl⟩
  | cons s rest ih =>
    by_cases hs : s.command ∈ stored.map Section.command
    · refine .inl ⟨[], s, rest, rfl, by simpa using hnodup, by simpa using hs, ?_⟩
      rw [storeAll, store, if_pos ((hstores.contains_iff _).2 hs)]
    · have hstore : store options sections s = .ok (sections.insert s.command s) := by
        rw [store, if_neg (mt (hstores.contains_iff _).1 hs), if_pos (hwrite s (by simp))]
      have hnodup' : ((stored ++ [s]).map Section.command).Nodup := by
        rw [List.map_append, List.nodup_append]
        refine ⟨hnodup, by simp, fun a ha b hb hab => hs ?_⟩
        rw [← List.mem_singleton.1 hb, ← hab]
        exact ha
      have happend (l : List Section) : stored ++ s :: l = stored ++ [s] ++ l := by simp
      rw [storeAll, hstore]
      rcases ih (fun t ht => hwrite t (by simp [ht])) (hstores.insert hs) hnodup' with
        ⟨next, t, after, hrest, hnext, ht, hfault⟩ | ⟨hall, hnone⟩
      · exact .inl ⟨s :: next, t, after, by rw [hrest]; rfl, by rwa [happend], by rwa [happend],
          hfault⟩
      · rw [happend]
        exact .inr ⟨hall, hnone⟩

/-! ## The device -/

/-- The last one of some names that is not empty; the empty name when there is none. -/
def IsLastName (names : List (List Char)) (name : List Char) : Prop :=
  (name ≠ [] ∧ ∃ before after, names = before ++ name :: after ∧ ∀ other ∈ after, other = []) ∨
    (name = [] ∧ ∀ other ∈ names, other = [])

theorem prompts_cutSections (n : Nat) (lines : List (List Char)) :
    (cutSections n lines).2.map Section.prompt = lines.filterMap Prompt.parse? := by
  induction lines generalizing n with
  | nil => rfl
  | cons l lines ih =>
    cases hl : Prompt.parse? l with
    | none => simpa [cutSections, hl] using ih (n + 1)
    | some prompt => simpa [cutSections, hl] using ih (n + 1)

theorem isLastName_getLast? (names : List (List Char)) :
    IsLastName names ((names.filter fun name => !name.isEmpty).getLast?.getD []) := by
  induction names using List.reverseRecOn with
  | nil => exact .inr ⟨rfl, by simp⟩
  | append_singleton names name ih =>
    cases name with
    | cons c name =>
      refine .inl ⟨?_, names, [], ?_, by simp⟩ <;> simp
    | nil =>
      have hfilter : (names ++ [[]]).filter (fun name => !name.isEmpty) =
          names.filter fun name => !name.isEmpty := by simp
      rw [hfilter]
      rcases ih with ⟨hname, before, after, hnames, hafter⟩ | ⟨hname, hnames⟩
      · refine .inl ⟨hname, before, after ++ [[]], ?_, ?_⟩
        · simpa using congrArg (· ++ [[]]) hnames
        · simpa [or_imp, forall_and] using hafter
      · exact .inr ⟨hname, by simpa [or_imp, forall_and] using hnames⟩

/-! ## Splitting -/

/-- A session that holds the sections `kept` of some lines. -/
structure Holds (lines : List (List Char)) (kept : List Section) (session : Session) : Prop where
  sections : Stores kept session.sections
  /-- What is read from the file of a section. -/
  files : ∀ s ∈ kept, Section.readLines s.fileBytes = s.body.map cleanLine
  lineCount : session.lineCount = lines.length
  device : ∃ name, session.device = String.ofList name ∧
    IsLastName ((lines.filterMap Prompt.parse?).map Prompt.device) name

/-- What splitting some lines may give. -/
inductive Splits (required : Nat) (lines : List (List Char)) : Except SplitFault Session → Prop
  /-- `s` is the first of the kept sections whose command was kept before. -/
  | repeated {before after : List Section} {s : Section} :
      KeptInOrder required lines (before ++ s :: after) →
      (before.map Section.command).Nodup → s.command ∈ before.map Section.command →
      Splits required lines (.error (.duplicate s.command))
  | distinct {kept : List Section} {session : Session} :
      KeptInOrder required lines kept → (kept.map Section.command).Nodup →
      Holds lines kept session → Splits required lines (.ok session)

theorem split_of_storeAll {options : SplitOptions} {content : Bytes}
    {result : SortedMap String Section × Option SplitFault}
    (h : storeAll options .empty (keptSections options (linesOf content)) = result) :
    split options content =
      match result.2 with
      | some fault => .error fault
      | none => .ok {
          device := String.ofList (deviceName (cutSections 1 (linesOf content)).2)
          lineCount := (linesOf content).length
          sections := result.1 } := by
  unfold split
  simp only [h]
  obtain ⟨sections, fault⟩ := result
  cases fault <;> rfl

theorem stores_of_split {options : SplitOptions} {content : Bytes} {session : Session}
    (h : split options content = .ok session) :
    Stores (keptSections options (linesOf content)) session.sections := by
  have hstart : Stores [] .empty := fun command s => by simp
  cases hall : storeAll options .empty (keptSections options (linesOf content)) with
  | mk sections fault =>
    rw [split_of_storeAll hall] at h
    cases fault with
    | some fault => cases h
    | none =>
      cases h
      simpa using hstart.storeAll hall

theorem line_mem_of_isSection {lines : List (List Char)} {s : Section} (h : IsSection lines s) :
    ∀ l ∈ s.line :: s.body, l ∈ lines := by
  obtain ⟨-, before, output, rest, rfl, -, -, -, hbody⟩ := h
  intro l hl
  rcases List.mem_cons.1 hl with rfl | hl
  · simp
  · simp [hbody.subset hl]

/-- No line of a session has a newline in it, so that the file of a section gives back its lines. -/
theorem readLines_of_isSection {content : Bytes} {s : Section}
    (h : IsSection (linesOf content) s) : Section.readLines s.fileBytes = s.output :=
  Section.readLines_fileBytes fun l hl =>
    newline_not_mem_of_mem_linesOf (line_mem_of_isSection h l hl)

theorem holds_of_stores {options : SplitOptions} {content : Bytes}
    {sections : SortedMap String Section}
    (h : Stores (keptSections options (linesOf content)) sections) :
    Holds (linesOf content) (keptSections options (linesOf content)) {
      device := String.ofList (deviceName (cutSections 1 (linesOf content)).2)
      lineCount := (linesOf content).length
      sections } where
  sections := h
  files s hs := readLines_of_isSection (((keptInOrder_keptSections options _).2 s).1 hs).isSection
  lineCount := rfl
  device := by
    refine ⟨_, rfl, ?_⟩
    rw [← prompts_cutSections 1, List.map_map]
    exact isLastName_getLast? _

theorem linesOf_of_cuts {content : Bytes} {raw : List Bytes} (h : Cuts 10 content raw) :
    linesOf content = raw.map fun l => (Utf8.lossy l).rdropWhile (· == '\r') := by
  rw [linesOf, eq_linesAt_of_cuts h]
  exact List.map_congr_left fun l _ => dropTrailing_eq_rdropWhile '\r' (Utf8.lossy l)

/-- Splitting cuts a session into lines without carriage returns at their ends and the lines into
sections, and keeps the long ones that have a command, when their files can be written. -/
theorem splits_split (options : SplitOptions) (content : Bytes) :
    ∃ raw lines, Cuts 10 content raw ∧
      lines = (raw.map fun l => (Utf8.lossy l).rdropWhile (· == '\r')) ∧
      ((∀ s, IsKept options.shortest lines s → isWritable options s = true) →
        Splits options.shortest lines (split options content)) := by
  have hcuts := cuts_linesAt 10 content
  refine ⟨linesAt 10 content, linesOf content, hcuts, linesOf_of_cuts hcuts, fun hwrite => ?_⟩
  have hkept := keptInOrder_keptSections options (linesOf content)
  have hstart : Stores [] .empty := fun command s => by simp
  rcases storeAll_cases (fun s hs => hwrite s ((hkept.2 s).1 hs)) hstart List.nodup_nil with
    ⟨before, s, after, heq, hnodup, hs, hfault⟩ | ⟨hnodup, hnone⟩
  · rw [split_of_storeAll rfl, hfault]
    exact .repeated (heq ▸ hkept) hnodup hs
  · have hall : storeAll options .empty (keptSections options (linesOf content)) = (_, none) :=
      Prod.ext rfl hnone
    rw [split_of_storeAll hall]
    exact .distinct hkept hnodup (holds_of_stores (hstart.storeAll hall))

/-- A command with too little output, the same command again with a refusal in its output, and two
commands of which one is empty and the other the end of the session. -/
def exchange : Bytes := Utf8.encode <|
  "login\nsw1#show arp\na\nsw1#sh arp\nb\n   ^\nc\nd\ne\nf\r\ng\n".toList ++
    "sw2#show\n1\n2\n3\n4\n5\n#show ver".toList

theorem split_exchange :
    (∃ raw lines, Cuts 10 exchange raw ∧
        lines = (raw.map fun l => (Utf8.lossy l).rdropWhile (· == '\r')) ∧
        (∀ s, IsKept 5 lines s → isWritable {} s = true) ∧ Splits 5 lines (split {} exchange)) ∧
      ((split {} exchange).toOption.map fun session =>
        (session.device, session.lineCount,
          session.sections.values.map fun s => (s.command, s.first, s.output.map String.ofList))) =
        some ("sw2", 18, [("arp", 4, ["c", "d", "e", "f", "g"])]) := by
  obtain ⟨raw, lines, hraw, hlines, hsplits⟩ := splits_split {} exchange
  have hwrite : ∀ s, IsKept 5 lines s → isWritable {} s = true := by
    rw [hlines, ← linesOf_of_cuts hraw]
    have hall : ∀ s ∈ keptSections {} (linesOf exchange), isWritable {} s = true := by
      decide +kernel
    exact fun s hs => hall s (((keptInOrder_keptSections {} _).2 s).2 hs)
  exact ⟨⟨raw, lines, hraw, hlines, hwrite, hsplits hwrite⟩, by decide +kernel⟩

end Session

end HostSurvey
