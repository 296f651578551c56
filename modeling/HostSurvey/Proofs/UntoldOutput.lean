import HostSurvey.Proofs.DashedSections
import HostSurvey.Show.Command

/-!
# Output that tells nothing

Every reader of a command's output says whether the output told it anything. It
did exactly when some line is one that the reader understands: a row, a status
line, a value, or a line of the top level that stands outside the dashed
sections of a configuration. Where no line is, the device is left as it was.
-/

namespace HostSurvey

/-- A reader is told something by outputs of a kind, and leaves devices alone on all others. -/
def TellsOn (read : List (List Char) → Device → Bool × Device)
    (Tells : List (List Char) → Prop) : Prop :=
  ∀ lines d, (Tells lines → (read lines d).1 = true) ∧ (¬ Tells lines → read lines d = (false, d))

namespace TellsOn

variable {read : List (List Char) → Device → Bool × Device} {Tells : List (List Char) → Prop}

theorem told_iff (h : TellsOn read Tells) (lines : List (List Char)) (d : Device) :
    (read lines d).1 = true ↔ Tells lines := by
  refine ⟨fun htold => ?_, (h lines d).1⟩
  by_contra hnone
  rw [(h lines d).2 hnone] at htold
  cases htold

theorem untold (h : TellsOn read Tells) {lines : List (List Char)} {d : Device}
    (huntold : (read lines d).1 = false) : (read lines d).2 = d := by
  have hnone : ¬ Tells lines := fun htells => by simp [(h lines d).1 htells] at huntold
  rw [(h lines d).2 hnone]

end TellsOn

/-! ## Tables and values -/

/-- Some line can be read. -/
def HasLine {ρ : Type} (parse? : List Char → Option ρ) (lines : List (List Char)) : Prop :=
  ∃ line ∈ lines, (parse? line).isSome

section Lines

variable {ρ : Type} (parse? : List Char → Option ρ)

theorem hasLine_cons {line : List Char} {lines : List (List Char)} :
    HasLine parse? (line :: lines) ↔ (parse? line).isSome ∨ HasLine parse? lines :=
  List.exists_mem_cons_iff ..

theorem filterMap_eq_nil_iff_hasLine {lines : List (List Char)} :
    lines.filterMap parse? = [] ↔ ¬ HasLine parse? lines := by
  simp [HasLine, List.filterMap_eq_nil_iff]

/-- A reader that collects what lines tell and stores it in one go. -/
theorem tellsOn_of_filterMap (store : List ρ → Device → Device) (hstore : ∀ d, store [] d = d) :
    TellsOn (fun lines d => (!(lines.filterMap parse?).isEmpty, store (lines.filterMap parse?) d))
      (HasLine parse?) := by
  intro lines d
  refine ⟨fun htells => ?_, fun hnone => ?_⟩
  · have hsome : lines.filterMap parse? ≠ [] := fun hnil =>
      (filterMap_eq_nil_iff_hasLine parse?).1 hnil htells
    simpa using hsome
  · simp only [(filterMap_eq_nil_iff_hasLine parse?).2 hnone, hstore, List.isEmpty_nil,
      Bool.not_true]

end Lines

theorem AddressTable.readArp_tellsOn : TellsOn readArp (HasLine arpRow?) :=
  tellsOn_of_filterMap arpRow? (fun rows d => rows.foldl Device.addArpRow d) fun _ => rfl

theorem AddressTable.MacLayout.read_tellsOn (layout : MacLayout) :
    TellsOn layout.read (HasLine layout.parse?) :=
  tellsOn_of_filterMap layout.parse?
    (fun rows d => rows.foldl (fun d (r : MacRow) => d.addMacRow r.vlan r.mac r.port) d) fun _ => rfl

theorem Version.read_tellsOn : TellsOn Version.read (HasLine Line.parse?) :=
  tellsOn_of_filterMap Line.parse?
    (fun told d => { d with version := told.foldl Line.apply d.version }) fun _ => rfl

/-! ## Interfaces -/

namespace Interfaces

/-- Behind the first status line there is always an interface that is told about. -/
theorem current_step {s : State} (h : s.current.isSome) (line : List Char) :
    (step s line).current.isSome := by
  unfold step
  split
  · rfl
  · split <;> exact h

theorem current_foldl {s : State} (h : s.current.isSome) (lines : List (List Char)) :
    (lines.foldl step s).current.isSome :=
  List.foldlRecOn (motive := fun s => s.current.isSome) lines step h
    fun _ hs line _ => current_step hs line

theorem step_status {line : List Char} (h : (Status.parse? line).isSome) (s : State) :
    (step s line).current.isSome := by
  obtain ⟨status, hstatus⟩ := Option.isSome_iff_exists.1 h
  simp [step, hstatus]

/-- In front of the first status line nothing is taken. -/
theorem step_start {line : List Char} (h : ¬ (Status.parse? line).isSome) (d : Device) :
    step { device := d } line = { device := d } := by
  have hnone : Status.parse? line = none := by simpa using h
  simp [step, hnone]

theorem read_tellsOn : TellsOn read (HasLine Status.parse?) := by
  intro lines d
  induction lines with
  | nil => exact ⟨by simp [HasLine], fun _ => rfl⟩
  | cons line lines ih =>
    rw [hasLine_cons]
    by_cases hline : (Status.parse? line).isSome
    · exact ⟨fun _ => current_foldl (step_status hline _) lines,
        fun hnone => absurd (.inl hline) hnone⟩
    · have hread : read (line :: lines) d = read lines d := by
        simp only [read, List.foldl_cons, step_start hline]
      rw [hread, or_iff_right hline]
      exact ih

end Interfaces

/-! ## Configurations -/

namespace RunningConfig

open Text

/-- The lines that stand outside dashed sections, where one may be open at the start. -/
def outside : Bool → List (List Char) → List (List Char)
  | _, [] => []
  | dashed, line :: lines =>
    if startsWith line "---------" then outside (!dashed) lines
    else if dashed then outside dashed lines
    else line :: outside dashed lines

/-- Some line of the top level stands outside dashed sections. -/
def HasTopLine (dashed : Bool) (lines : List (List Char)) : Prop :=
  ∃ line ∈ outside dashed lines, IsTopLine line

/-- No line of the top level was read so far. -/
def start (dashed : Bool) (d : Device) : State :=
  { block := if dashed then .dashed else .top, device := d }

section Lines

variable {line : List Char}

theorem hasTopLine_dashed (h : startsWith line "---------" = true) (dashed : Bool)
    (lines : List (List Char)) :
    HasTopLine dashed (line :: lines) ↔ HasTopLine (!dashed) lines := by
  simp [HasTopLine, outside, h]

theorem hasTopLine_inside (h : startsWith line "---------" = false) (lines : List (List Char)) :
    HasTopLine true (line :: lines) ↔ HasTopLine true lines := by
  simp [HasTopLine, outside, h]

theorem hasTopLine_outside (h : startsWith line "---------" = false) (lines : List (List Char)) :
    HasTopLine false (line :: lines) ↔ IsTopLine line ∨ HasTopLine false lines := by
  simp [HasTopLine, outside, h]

theorem step_start_dashed (h : startsWith line "---------" = true) (dashed : Bool) (d : Device) :
    step (start dashed d) line = start (!dashed) d := by
  cases dashed with
  | true => exact step_dashed_dashed rfl h
  | false => exact step_dashed_top rfl h

theorem step_start_inside (h : startsWith line "---------" = false) (d : Device) :
    step (start true d) line = start true d :=
  step_undashed_dashed rfl h

theorem trigger?_of_isTopLine (h : IsTopLine line) :
    ∃ trigger, trigger? line = some trigger ∧ trigger ≠ .dashes := by
  simp only [IsTopLine, topWords, List.exists_mem_cons_iff, List.not_mem_nil, false_and,
    exists_false, or_false] at h
  unfold trigger?
  split_ifs <;> simp_all

theorem trigger?_of_not_isTopLine (h : ¬ IsTopLine line)
    (hdashed : startsWith line "---------" = false) : trigger? line = none := by
  simp only [IsTopLine, topWords, List.exists_mem_cons_iff, not_or, Bool.not_eq_true] at h
  simp [trigger?, h, hdashed]

theorem step_start_outside (h : ¬ IsTopLine line) (hdashed : startsWith line "---------" = false)
    (d : Device) : step (start false d) line = start false d := by
  simp [step, start, topLine, trigger?_of_not_isTopLine h hdashed]

theorem found_step_isTopLine (h : IsTopLine line) (d : Device) :
    (step (start false d) line).found = true := by
  obtain ⟨trigger, htrigger, hne⟩ := trigger?_of_isTopLine h
  simp only [step, start, topLine, htrigger]
  cases trigger with
  | dashes => exact absurd rfl hne
  | _ => rfl

end Lines

/-- What was understood stays so. -/
theorem found_foldl {s : State} (h : s.found = true) (lines : List (List Char)) :
    (lines.foldl step s).found = true := by
  have hnoting : s = s.noting true := by
    cases s
    simp_all [State.noting]
  rw [hnoting, List.foldl_hom (State.noting true) (step_noting true)]
  rfl

/-- The first line of the top level is read as such, and no line in front of it does anything. -/
theorem foldl_step_start (dashed : Bool) (lines : List (List Char)) (d : Device) :
    (HasTopLine dashed lines → (lines.foldl step (start dashed d)).found = true) ∧
      (¬ HasTopLine dashed lines → ∃ b, lines.foldl step (start dashed d) = start b d) := by
  induction lines generalizing dashed with
  | nil => exact ⟨by simp [HasTopLine, outside], fun _ => ⟨dashed, rfl⟩⟩
  | cons line lines ih =>
    rw [List.foldl_cons]
    cases hdashed : startsWith line "---------" with
    | true =>
      rw [hasTopLine_dashed hdashed, step_start_dashed hdashed]
      exact ih (!dashed)
    | false =>
      cases dashed with
      | true =>
        rw [hasTopLine_inside hdashed, step_start_inside hdashed]
        exact ih true
      | false =>
        rw [hasTopLine_outside hdashed]
        by_cases hline : IsTopLine line
        · exact ⟨fun _ => found_foldl (found_step_isTopLine hline d) lines,
            fun hnone => absurd (.inl hline) hnone⟩
        · rw [or_iff_right hline, step_start_outside hline hdashed]
          exact ih false

theorem read_tellsOn : TellsOn read (HasTopLine false) := by
  intro lines d
  obtain ⟨htells, hnone⟩ := foldl_step_start false lines d
  refine ⟨htells, fun h => ?_⟩
  obtain ⟨b, hb⟩ := hnone h
  have hbehind : behind d lines = start b d := hb
  rw [read_eq, hbehind, start]

end RunningConfig

/-! ## All readers -/

namespace OutputReader

/-- The lines have something in them that the reader understands. -/
def Tells : OutputReader → List (List Char) → Prop
  | .runningConfig => RunningConfig.HasTopLine false
  | .interfaces => HasLine Interfaces.Status.parse?
  | .arp => HasLine AddressTable.arpRow?
  | .macTable layout => HasLine layout.parse?
  | .version => HasLine Version.Line.parse?

theorem read_tellsOn (reader : OutputReader) : TellsOn reader.read reader.Tells := by
  cases reader with
  | runningConfig => exact RunningConfig.read_tellsOn
  | interfaces => exact Interfaces.read_tellsOn
  | arp => exact AddressTable.readArp_tellsOn
  | macTable layout => exact layout.read_tellsOn
  | version => exact Version.read_tellsOn

/-- A reader says that it was told something exactly where some line is one that it understands.
Where it says that it was not, nothing of the device has changed. -/
theorem read_untold (reader : OutputReader) (lines : List (List Char)) (d : Device) :
    ((reader.read lines d).1 = true ↔ reader.Tells lines) ∧
      ((reader.read lines d).1 = false → (reader.read lines d).2 = d) :=
  ⟨reader.read_tellsOn.told_iff lines d, reader.read_tellsOn.untold⟩

/-- Lines that each miss what a reader looks for. -/
def nearMisses : List (List Char) :=
  ["Building configuration...", "---------- show tech ----------", "hostname core",
    "interface Gi1/0/1", "---------- end ----------", " description uplink",
    "GigabitEthernet1/0/1 is resetting, line protocol is down",
    "  Hardware is Gigabit Ethernet, address is 0011.2233.4455 (bia 0011.2233.4455)",
    "Internet 10.1.1.30 12 Incomplete ARPA Vlan10", " All 0100.0ccc.cccc STATIC CPU",
    "70000 0011.2233.4455 DYNAMIC Fa0/1", "Cisco IOS Software, Version 15.0(2)SE4"].map
    String.toList

def standardReaders : List OutputReader :=
  [.runningConfig, .interfaces, .arp, .macTable .addressFirst, .macTable .vlanFirst, .version]

/-- A device that an earlier configuration has told of. -/
def described : Device := (RunningConfig.read RunningConfig.ofAccess (.blank "sw")).2

theorem read_untold_nearMisses :
    (∀ reader ∈ standardReaders, (reader.read nearMisses described).1 = false) ∧
      (∀ reader ∈ standardReaders, (reader.read nearMisses described).2 = described) ∧
      RunningConfig.descriptions described = [("Gi1/0/1", some "desk")] := by
  have huntold : ∀ reader ∈ standardReaders, (reader.read nearMisses described).1 = false := by
    decide +kernel
  exact ⟨huntold, fun reader hreader =>
    (read_untold reader nearMisses described).2 (huntold reader hreader), by decide +kernel⟩

end OutputReader

end HostSurvey
