import HostSurvey.Proofs.Spelling
import HostSurvey.Show.RunningConfig

/-!
# Blocks of a configuration

Behind some lines of a configuration the block of an interface may stand open. A
line that begins with `!` closes it, and what follows is read as a configuration
by itself. Lines that would mean something at the top level close no block: the
one that is open passes over them, and what follows still belongs to it.
-/

namespace HostSurvey.RunningConfig

open Text

/-! ## What was found before -/

/-- The state, in which something may have been found before. -/
def State.noting (found : Bool) (s : State) : State := { s with found := found || s.found }

theorem topLine_noting (before found : Bool) (d : Device) (line : List Char) :
    topLine (before || found) d line = (topLine found d line).noting before := by
  unfold topLine
  cases trigger? line with
  | none => rfl
  | some trigger => cases trigger <;> simp [State.noting]

theorem step_noting (before : Bool) (s : State) (line : List Char) :
    step (s.noting before) line = (step s line).noting before := by
  obtain ⟨block, found, d⟩ := s
  cases block with
  | top => exact topLine_noting before found d line
  | ports names =>
    simp only [step, State.noting]
    split <;> rfl
  | logical name vlan =>
    simp only [step, State.noting]
    split <;> rfl
  | dashed =>
    simp only [step, State.noting]
    split <;> rfl

/-- The state behind lines that are read into a device. -/
def behind (d : Device) (lines : List (List Char)) : State := lines.foldl step { device := d }

theorem read_eq (lines : List (List Char)) (d : Device) :
    read lines d = ((behind d lines).found, (behind d lines).device) := rfl

/-- Reads two configurations, the second one into the device of the first. -/
def readBoth (first second : List (List Char)) (d : Device) : Bool × Device :=
  ((read first d).1 || (read second (read first d).2).1, (read second (read first d).2).2)

theorem foldl_step_top (found : Bool) (d : Device) (lines : List (List Char)) :
    lines.foldl step ⟨.top, found, d⟩ = (behind d lines).noting found := by
  have hstart : (⟨.top, found, d⟩ : State) = State.noting found { device := d } := by
    simp [State.noting]
  rw [hstart]
  exact List.foldl_hom (State.noting found) (step_noting found)

/-- Where no block is open, a configuration can be parted. -/
theorem read_append_of_top {first second : List (List Char)} {d : Device}
    (h : (behind d first).block = .top) : read (first ++ second) d = readBoth first second d := by
  have hboth : behind d (first ++ second) =
      (behind (behind d first).device second).noting (behind d first).found := by
    rw [behind, List.foldl_append, ← behind]
    cases hfirst : behind d first with
    | mk block found e =>
      rw [hfirst] at h
      obtain rfl : block = .top := h
      exact foldl_step_top found e second
  rw [read_eq, hboth]
  rfl

/-! ## How far blocks reach -/

/-- How far the block of an interface reaches: that of ports, or that of another interface. -/
inductive Extent where
  | ports | logical
  deriving DecidableEq, Repr

/-- The line ends a block. -/
def Extent.endsAt : Extent → List Char → Bool
  | .ports, line => startsWith line "!"
  | .logical, line => endsLogical (trim line)

def Block.extent? : Block → Option Extent
  | .ports _ => some .ports
  | .logical .. => some .logical
  | .top | .dashed => none

/-- The extent of the block that a line of the top level opens. -/
def opened? (line : List Char) : Option Extent :=
  if trigger? line = some .interface then
    let rest := after line "interface".toList
    if (strip? "range ".toList rest).isSome then some .ports
    else if startsWith rest "Null" then none
    else if Interface.isPhysical rest then some .ports
    else some .logical
  else none

/-- The extent of the block that is open after one more line. -/
def advance : Option Extent → List Char → Option Extent
  | none, line => opened? line
  | some e, line => if e.endsAt line then none else some e

/-- The extent of the block that is open behind lines. -/
def openBehind (lines : List (List Char)) : Option Extent := lines.foldl advance none

/-- A block is open when it was opened where none was, and no line has ended it. -/
theorem openBehind_eq_some_iff {lines : List (List Char)} {e : Extent} :
    openBehind lines = some e ↔
      ∃ before line inside, lines = before ++ line :: inside ∧ openBehind before = none ∧
        opened? line = some e ∧ ∀ l ∈ inside, e.endsAt l = false := by
  have hsnoc (lines : List (List Char)) (l : List Char) :
      openBehind (lines ++ [l]) = advance (openBehind lines) l := by
    rw [openBehind, List.foldl_append]
    rfl
  induction lines using List.reverseRecOn with
  | nil => simp [openBehind]
  | append_singleton lines l ih =>
    rw [hsnoc]
    constructor
    · intro h
      cases hopen : openBehind lines with
      | none =>
        rw [hopen] at h
        exact ⟨lines, l, [], rfl, hopen, h, by simp⟩
      | some e' =>
        rw [hopen, advance] at h
        split at h
        · cases h
        · rename_i hgoes
          obtain rfl := Option.some.inj h
          obtain ⟨before, line, inside, rfl, hbefore, hline, hinside⟩ := ih.1 hopen
          refine ⟨before, line, inside ++ [l], by simp, hbefore, hline, ?_⟩
          simpa [or_imp, forall_and] using ⟨hinside, by simpa using hgoes⟩
    · rintro ⟨before, line, inside, hlines, hbefore, hline, hinside⟩
      obtain rfl | ⟨inside, last, rfl⟩ := List.eq_nil_or_concat inside
      · obtain ⟨rfl, heq⟩ := List.append_inj' hlines rfl
        obtain rfl := (List.cons.inj heq).1
        rw [hbefore]
        exact hline
      · rw [List.concat_eq_append, ← List.cons_append, ← List.append_assoc] at hlines
        obtain ⟨hinit, heq⟩ := List.append_inj' hlines rfl
        obtain rfl := (List.cons.inj heq).1
        have hgoes : ∀ m ∈ inside, e.endsAt m = false := fun m hm => hinside m (by simp [hm])
        rw [ih.2 ⟨before, line, inside, hinit, hbefore, hline, hgoes⟩, advance,
          if_neg (by simp [hinside l (by simp)])]

/-! ## The block of a state -/

/-- No line is dashed. -/
def Undashed (lines : List (List Char)) : Prop :=
  ∀ l ∈ lines, startsWith l "---------" = false

instance (lines : List (List Char)) : Decidable (Undashed lines) :=
  List.decidableBAll _ lines

theorem extent?_openInterface {line : List Char} (h : trigger? line = some .interface)
    (d : Device) :
    (openInterface d line).1 ≠ .dashed ∧ (openInterface d line).1.extent? = opened? line := by
  rw [opened?, if_pos h, openInterface]
  simp only
  cases hrange : strip? "range ".toList (after line "interface".toList) with
  | some members => exact ⟨nofun, rfl⟩
  | none =>
    simp only [Option.isSome_none, Bool.false_eq_true, ↓reduceIte]
    split
    · exact ⟨nofun, rfl⟩
    · split
      · exact ⟨nofun, rfl⟩
      · split <;> exact ⟨nofun, rfl⟩

theorem trigger?_ne_dashes {line : List Char} (h : startsWith line "---------" = false) :
    trigger? line ≠ some .dashes := by
  unfold trigger?
  split_ifs <;> simp_all

/-- One line, which is not dashed, leads from a block to the next. -/
theorem step_block {s : State} {line : List Char} (hs : s.block ≠ .dashed)
    (hline : startsWith line "---------" = false) :
    (step s line).block ≠ .dashed ∧
      (step s line).block.extent? = advance s.block.extent? line := by
  obtain ⟨block, found, d⟩ := s
  cases block with
  | top =>
    simp only [step, topLine, Block.extent?, advance]
    cases htrigger : trigger? line with
    | none => exact ⟨nofun, by simp [opened?, htrigger]⟩
    | some trigger =>
      cases trigger with
      | interface => exact extent?_openInterface htrigger d
      | dashes => exact absurd htrigger (trigger?_ne_dashes hline)
      | _ => exact ⟨nofun, by simp [opened?, htrigger]⟩
  | ports names =>
    simp only [step, Block.extent?, advance, Extent.endsAt]
    split <;> simp [*]
  | logical name vlan =>
    simp only [step, Block.extent?, advance, Extent.endsAt]
    split <;> simp [*]
  | dashed => exact absurd rfl hs

theorem behind_block {lines : List (List Char)} (h : Undashed lines) (d : Device) :
    (behind d lines).block ≠ .dashed ∧ (behind d lines).block.extent? = openBehind lines := by
  suffices hfold : ∀ (lines : List (List Char)) (s : State), Undashed lines →
      s.block ≠ .dashed → (lines.foldl step s).block ≠ .dashed ∧
        (lines.foldl step s).block.extent? = lines.foldl advance s.block.extent? from
    hfold lines { device := d } h nofun
  intro lines
  induction lines with
  | nil => exact fun s _ hs => ⟨hs, rfl⟩
  | cons line lines ih =>
    intro s hlines hs
    obtain ⟨hline, hrest⟩ := List.forall_mem_cons.1 hlines
    obtain ⟨hstep, hextent⟩ := step_block hs hline
    rw [List.foldl_cons, List.foldl_cons, ← hextent]
    exact ih (step s line) hrest hstep

theorem block_eq_top {b : Block} (hdashed : b ≠ .dashed) (hextent : b.extent? = none) :
    b = .top := by
  cases b with
  | top => rfl
  | dashed => exact absurd rfl hdashed
  | _ => cases hextent

/-! ## Lines that begin with a word -/

/-- What begins with one of the words does not begin with the other. -/
def Apart (word other : String) : Prop :=
  ¬ word.toList <+: other.toList ∧ ¬ other.toList <+: word.toList

instance (word other : String) : Decidable (Apart word other) :=
  inferInstanceAs (Decidable (¬ word.toList <+: other.toList ∧ ¬ other.toList <+: word.toList))

theorem startsWith_of_apart {line : List Char} {word other : String}
    (h : startsWith line word = true) (hapart : Apart word other) :
    startsWith line other = false := by
  rw [Bool.eq_false_iff]
  intro hother
  rcases List.prefix_or_prefix_of_prefix (List.isPrefixOf_iff_prefix.1 h)
    (List.isPrefixOf_iff_prefix.1 hother) with hprefix | hprefix
  · exact hapart.1 hprefix
  · exact hapart.2 hprefix

theorem trim_append {word : List Char} (hword : Unbroken word) (hne : word ≠ [])
    (rest : List Char) : trim (word ++ rest) = word ++ trimEnd rest := by
  have hstart : trimStart (word ++ rest) = word ++ rest := by
    refine trimStart_eq_self fun c hc => hword c ?_
    rw [List.head?_append_of_ne_nil _ hne] at hc
    exact List.mem_of_mem_head? hc
  rw [trim, hstart, trimEnd_eq_rdropWhile, trimEnd_eq_rdropWhile]
  clear hstart
  induction rest using List.reverseRecOn with
  | nil =>
    rw [List.append_nil, List.rdropWhile_nil, List.append_nil]
    exact trimEnd_of_unbroken hword
  | append_singleton rest c ih =>
    rw [← List.append_assoc, List.rdropWhile_concat, List.rdropWhile_concat]
    split
    · exact ih
    · exact List.append_assoc ..

/-- A line that is not indented begins with the same word without the blanks around it. -/
theorem startsWith_trim {line : List Char} {word : String} (hword : Unbroken word.toList)
    (hne : word.toList ≠ []) (h : startsWith line word = true) :
    startsWith (trim line) word = true := by
  obtain ⟨rest, rfl⟩ := List.isPrefixOf_iff_prefix.1 h
  rw [trim_append hword hne]
  exact List.isPrefixOf_iff_prefix.2 (List.prefix_append ..)

/-! ## Separators -/

/-- A separator opens nothing and closes what is open. -/
theorem step_separator {s : State} {line : List Char} (hs : s.block ≠ .dashed)
    (h : startsWith line "!" = true) : step s line = { s with block := .top } := by
  obtain ⟨block, found, d⟩ := s
  cases block with
  | top =>
    have hwords : ∀ word ∈ ["interface", "hostname", "username", "version", "---------"],
        Apart "!" word := by decide +kernel
    have hother (word : String)
        (hmem : word ∈ ["interface", "hostname", "username", "version", "---------"]) :
        startsWith line word = false := startsWith_of_apart h (hwords word hmem)
    simp only [List.mem_cons, forall_eq_or_imp] at hother
    have hnone : trigger? line = none := by simp [trigger?, hother]
    simp only [step, topLine, hnone]
  | ports names => simp only [step, h, ↓reduceIte]
  | logical name vlan =>
    have hends : endsLogical (trim line) = true := by
      rw [endsLogical, startsWith_trim (by decide) (by decide) h, Bool.or_true]
    simp only [step, hends, ↓reduceIte]
  | dashed => exact absurd rfl hs

/-- A line that begins with `!` parts a configuration: whatever block the lines before it end in,
what follows is read as a configuration by itself, into the device that they made. -/
theorem read_separated {before after : List (List Char)} {separator : List Char}
    (hbefore : Undashed before) (hseparator : startsWith separator "!" = true) (d : Device) :
    read (before ++ separator :: after) d = readBoth before after d := by
  have hclosed : behind d (before ++ [separator]) = { behind d before with block := .top } := by
    rw [behind, List.foldl_append]
    exact step_separator (behind_block hbefore d).1 hseparator
  have hread : read (before ++ [separator]) d = read before d := by
    rw [read_eq, hclosed, read_eq]
  have htop : (behind d (before ++ [separator])).block = .top := by rw [hclosed]
  rw [List.append_cons, read_append_of_top htop, readBoth, hread, readBoth]

/-- A configuration that ends in the block of a range of ports. -/
def ofRange : List (List Char) :=
  ["hostname core", "interface range Gi1/0/1 - 2", " switchport access vlan 7"].map String.toList

/-- Settings without a block, and a VLAN. -/
def ofVlan : List (List Char) :=
  [" switchport access vlan 9", "interface Vlan10", " description users"].map String.toList

/-- The ports of the range are in VLAN 7 alone, since no block is open behind the separator. -/
theorem read_separated_range :
    Undashed ofRange ∧ startsWith "!".toList "!" = true ∧
      read (ofRange ++ "!".toList :: ofVlan) (.blank "sw") =
        readBoth ofRange ofVlan (.blank "sw") ∧
      (read (ofRange ++ "!".toList :: ofVlan) (.blank "sw")).2.vlans.values.map
        (fun v => (v.id, v.name, v.ports.toList)) =
        [(7, none, ["Gi1/0/1", "Gi1/0/2"]), (10, some "users", [])] := by
  have hbefore : Undashed ofRange := by decide +kernel
  have hseparator : startsWith "!".toList "!" = true := by decide +kernel
  exact ⟨hbefore, hseparator, read_separated hbefore hseparator (.blank "sw"), by decide +kernel⟩

/-! ## Lines of the top level inside a block -/

/-- The words that a line of the top level begins with. -/
def topWords : List String := ["interface", "hostname", "username", "version"]

/-- The line would mean something at the top level. -/
def IsTopLine (line : List Char) : Prop := ∃ word ∈ topWords, startsWith line word = true

instance (line : List Char) : Decidable (IsTopLine line) := List.decidableBEx _ topWords

/-- The words that a line inside a block begins with. -/
def innerWords : List String :=
  ["!", "shutdown", "no ip address", "ip address", "description", "switchport"]

/-- A line of the top level neither sets anything in a block nor ends it. -/
theorem step_topLine_in_block {s : State} {line : List Char} (h : IsTopLine line)
    (hs : s.block.extent? ≠ none) : step s line = s := by
  obtain ⟨word, hmem, hline⟩ := h
  have hwords : ∀ word ∈ topWords, Unbroken word.toList ∧ word.toList ≠ [] ∧
      ∀ other ∈ innerWords, Apart word other := by decide +kernel
  obtain ⟨hunbroken, hne, hapart⟩ := hwords word hmem
  have htrimmed := startsWith_trim hunbroken hne hline
  have hother (other : String) (hmem : other ∈ innerWords) :
      startsWith line other = false ∧ startsWith (trim line) other = false :=
    have h := hapart other hmem
    ⟨startsWith_of_apart hline h, startsWith_of_apart htrimmed h⟩
  simp only [innerWords, List.forall_mem_cons] at hother
  obtain ⟨block, found, d⟩ := s
  cases block with
  | ports names => simp [step, portLine, Setting.ofPortLine?, hother]
  | logical name vlan => simp [step, logicalLine, Setting.ofLogicalLine?, endsLogical, hother]
  | _ => exact absurd rfl hs

/-- A line of the top level is read as such where no block is open. Where one is, the line is lost,
and what follows it is read as more of that block, up to the line that ends it. -/
theorem read_topLine {before after : List (List Char)} {line : List Char}
    (hbefore : Undashed before) (hline : IsTopLine line) (d : Device) :
    (openBehind before = none →
        read (before ++ line :: after) d = readBoth before (line :: after) d) ∧
      ∀ e, openBehind before = some e →
        (∃ closed start inside, before = closed ++ start :: inside ∧ openBehind closed = none ∧
          opened? start = some e ∧ ∀ l ∈ inside, e.endsAt l = false) ∧
        read (before ++ line :: after) d = read (before ++ after) d := by
  obtain ⟨hdashed, hextent⟩ := behind_block hbefore d
  constructor
  · intro hclosed
    exact read_append_of_top (block_eq_top hdashed (hextent.trans hclosed))
  · intro e hopen
    have hlost : behind d (before ++ line :: after) = behind d (before ++ after) := by
      rw [behind, behind, List.foldl_append, List.foldl_append, List.foldl_cons, ← behind,
        step_topLine_in_block hline (by rw [hextent, hopen]; nofun)]
    exact ⟨openBehind_eq_some_iff.1 hopen, by rw [read_eq, hlost, read_eq]⟩

/-- An interface that is shut down at once, so that its block ends. -/
def shutLoopback : List (List Char) := ["interface Loopback0", " shutdown"].map String.toList

/-- The interface of one port, with no line to end its block. -/
def ofPort : List (List Char) := ["interface Gi1/0/1".toList]

def ofNextPort : List Char := "interface Gi1/0/2".toList

def uplink : List (List Char) := [" description uplink".toList]

def descriptions (d : Device) : List (String × Option String) :=
  d.ports.values.map fun p => (p.name, p.description)

/-- Behind the interface that is shut down the next one is read; in the block of a port it is not,
and the port gets its description. -/
theorem read_topLine_nextPort :
    Undashed shutLoopback ∧ Undashed ofPort ∧ IsTopLine ofNextPort ∧
      openBehind shutLoopback = none ∧ openBehind ofPort = some .ports ∧
      read (shutLoopback ++ ofNextPort :: uplink) (.blank "sw") =
        readBoth shutLoopback (ofNextPort :: uplink) (.blank "sw") ∧
      read (ofPort ++ ofNextPort :: uplink) (.blank "sw") = read (ofPort ++ uplink) (.blank "sw") ∧
      descriptions (read (shutLoopback ++ ofNextPort :: uplink) (.blank "sw")).2 =
        [("Gi1/0/2", some "uplink"), ("Loopback0", none)] ∧
      descriptions (read (ofPort ++ ofNextPort :: uplink) (.blank "sw")).2 =
        [("Gi1/0/1", some "uplink")] := by
  have hshut : Undashed shutLoopback := by decide +kernel
  have hport : Undashed ofPort := by decide +kernel
  have hline : IsTopLine ofNextPort := by decide +kernel
  have hclosed : openBehind shutLoopback = none := by decide +kernel
  have hopen : openBehind ofPort = some .ports := by decide +kernel
  exact ⟨hshut, hport, hline, hclosed, hopen,
    (read_topLine hshut hline (.blank "sw")).1 hclosed,
    ((read_topLine hport hline (.blank "sw")).2 .ports hopen).2,
    by decide +kernel, by decide +kernel⟩

/-- Not every line of the top level is read as such. -/
theorem not_every_topLine_read :
    ¬ ∀ before line after d, Undashed before → IsTopLine line →
      read (before ++ line :: after) d = readBoth before (line :: after) d := by
  intro h
  have hread := h ofPort ofNextPort uplink (.blank "sw") (by decide +kernel) (by decide +kernel)
  have hports : descriptions (read (ofPort ++ ofNextPort :: uplink) (.blank "sw")).2 ≠
      descriptions (readBoth ofPort (ofNextPort :: uplink) (.blank "sw")).2 := by decide +kernel
  exact hports (by rw [hread])

end HostSurvey.RunningConfig
