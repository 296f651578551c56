import HostSurvey.Proofs.ConfigurationBlocks

/-!
# Dashed sections

Where no block is open, a dashed line opens a section that ends behind the next
dashed line, or with the input. Whatever stands in it, the configuration is read
as if the section were not there.
-/

namespace HostSurvey.RunningConfig

open Text

/-- A dashed line is none of the others that count at the top level. -/
theorem trigger?_of_dashed {line : List Char} (h : startsWith line "---------" = true) :
    trigger? line = some .dashes := by
  have hwords : ∀ word ∈ topWords, Apart "---------" word := by decide +kernel
  have hother (word : String) (hmem : word ∈ topWords) : startsWith line word = false :=
    startsWith_of_apart h (hwords word hmem)
  simp only [topWords, List.forall_mem_cons] at hother
  simp [trigger?, hother, h]

/-! ## One section -/

section Section

variable {s : State} {line first last : List Char} {skipped : List (List Char)}

theorem step_dashed_top (hs : s.block = .top) (h : startsWith line "---------" = true) :
    step s line = { s with block := .dashed } := by
  simp only [step, hs, topLine, trigger?_of_dashed h]

theorem step_dashed_dashed (hs : s.block = .dashed) (h : startsWith line "---------" = true) :
    step s line = { s with block := .top } := by
  simp only [step, hs, h, ↓reduceIte]

theorem step_undashed_dashed (hs : s.block = .dashed) (h : startsWith line "---------" = false) :
    step s line = s := by
  simp only [step, hs, h, Bool.false_eq_true, ↓reduceIte]

theorem foldl_step_undashed (hs : s.block = .dashed) (h : Undashed skipped) :
    skipped.foldl step s = s := by
  induction skipped with
  | nil => rfl
  | cons line skipped ih =>
    obtain ⟨hline, hrest⟩ := List.forall_mem_cons.1 h
    rw [List.foldl_cons, step_undashed_dashed hs hline, ih hrest]

/-- A section that is still open has changed the block and nothing else. -/
theorem foldl_step_open (hs : s.block = .top) (hfirst : startsWith first "---------" = true)
    (hskipped : Undashed skipped) : (first :: skipped).foldl step s = { s with block := .dashed } := by
  rw [List.foldl_cons, step_dashed_top hs hfirst, foldl_step_undashed rfl hskipped]

/-- A section that is closed has changed nothing. -/
theorem foldl_step_closed (hs : s.block = .top) (hfirst : startsWith first "---------" = true)
    (hskipped : Undashed skipped) (hlast : startsWith last "---------" = true) :
    (first :: skipped ++ [last]).foldl step s = s := by
  have hclosed : step { s with block := .dashed } last = { s with block := .top } :=
    step_dashed_dashed rfl hlast
  rw [List.foldl_append, foldl_step_open hs hfirst hskipped, List.foldl_cons, hclosed, ← hs,
    List.foldl_nil]

end Section

/-! ## Sections behind a separator -/

theorem behind_append (d : Device) (first second : List (List Char)) :
    behind d (first ++ second) = second.foldl step (behind d first) := List.foldl_append

/-- Behind a separator no block is open, whatever stood before it. -/
theorem behind_separator {before : List (List Char)} {separator : List Char}
    (hbefore : Undashed before) (hseparator : startsWith separator "!" = true) (d : Device) :
    (behind d (before ++ [separator])).block = .top := by
  rw [behind_append, List.foldl_cons, List.foldl_nil,
    step_separator (behind_block hbefore d).1 hseparator]

/-- A dashed section behind a separator has no influence, neither one that is closed nor one that
the input ends in. -/
theorem read_dashed {before skipped : List (List Char)} {separator first : List Char}
    (hbefore : Undashed before) (hseparator : startsWith separator "!" = true)
    (hfirst : startsWith first "---------" = true) (hskipped : Undashed skipped) (d : Device) :
    (∀ last after, startsWith last "---------" = true →
      read (before ++ [separator, first] ++ skipped ++ [last] ++ after) d =
        read (before ++ [separator] ++ after) d) ∧
      read (before ++ [separator, first] ++ skipped) d = read (before ++ [separator]) d := by
  have htop := behind_separator hbefore hseparator d
  constructor
  · intro last after hlast
    have hlines : before ++ [separator, first] ++ skipped ++ [last] ++ after =
        before ++ [separator] ++ (first :: skipped ++ [last]) ++ after := by simp
    have hbehind : behind d (before ++ [separator] ++ (first :: skipped ++ [last]) ++ after) =
        behind d (before ++ [separator] ++ after) := by
      rw [behind_append, behind_append, foldl_step_closed htop hfirst hskipped hlast,
        ← behind_append]
    rw [hlines, read_eq, hbehind, ← read_eq]
  · have hlines : before ++ [separator, first] ++ skipped =
        before ++ [separator] ++ (first :: skipped) := by simp
    have hbehind : behind d (before ++ [separator] ++ (first :: skipped)) =
        { behind d (before ++ [separator]) with block := .dashed } := by
      rw [behind_append]
      exact foldl_step_open htop hfirst hskipped
    rw [hlines, read_eq, hbehind, ← read_eq]

/-- A configuration that ends in an open block. -/
def ofAccess : List (List Char) :=
  ["hostname access", "interface Gi1/0/1", " description desk"].map String.toList

/-- What another device has shown. -/
def foreign : List (List Char) :=
  ["hostname core", "username admin password 7 094F", "interface Gi1/0/48", " shutdown", "!",
    "interface Vlan10", " description servers"].map String.toList

def ofUplink : List (List Char) :=
  ["interface Gi1/0/2", " description uplink"].map String.toList

def dashes : List Char := "---------- show tech ----------".toList

/-- Read by itself, what stands in the section would rename the device and describe a VLAN. -/
theorem read_dashed_foreign :
    Undashed ofAccess ∧ startsWith "!".toList "!" = true ∧ startsWith dashes "---------" = true ∧
      Undashed foreign ∧
      read (ofAccess ++ ["!".toList, dashes] ++ foreign ++ [dashes] ++ ofUplink) (.blank "sw") =
        read (ofAccess ++ ["!".toList] ++ ofUplink) (.blank "sw") ∧
      read (ofAccess ++ ["!".toList, dashes] ++ foreign) (.blank "sw") =
        read (ofAccess ++ ["!".toList]) (.blank "sw") ∧
      (read (ofAccess ++ ["!".toList] ++ ofUplink) (.blank "sw")).2.name = "access" ∧
      descriptions (read (ofAccess ++ ["!".toList] ++ ofUplink) (.blank "sw")).2 =
        [("Gi1/0/1", some "desk"), ("Gi1/0/2", some "uplink")] ∧
      (read foreign (.blank "sw")).2.name = "core" ∧
      (read foreign (.blank "sw")).2.vlans.values.map (·.name) = [some "servers"] := by
  have hbefore : Undashed ofAccess := by decide +kernel
  have hseparator : startsWith "!".toList "!" = true := by decide +kernel
  have hdashes : startsWith dashes "---------" = true := by decide +kernel
  have hforeign : Undashed foreign := by decide +kernel
  obtain ⟨hclosed, hopen⟩ := read_dashed hbefore hseparator hdashes hforeign (.blank "sw")
  exact ⟨hbefore, hseparator, hdashes, hforeign, hclosed dashes ofUplink hdashes, hopen,
    by decide +kernel, by decide +kernel, by decide +kernel, by decide +kernel⟩

end HostSurvey.RunningConfig
