import HostSurvey.Proofs.FlagNames
import HostSurvey.Proofs.Spelling
import HostSurvey.Proofs.UntoldOutput

/-!
# Layouts of tables of addresses

A row of learned addresses has four words, which a layout puts in its own order
and which may stand any blanks apart (`Spaced`). What is read from a row depends
on the words alone, so two tables that print the same rows in two layouts change
a device in the same way.
-/

namespace HostSurvey

namespace Text

/-- The line has these words in order, with blanks around them and between each two. -/
inductive Spaced : List (List Char) → List Char → Prop
  | blank {gap : List Char} (hgap : ∀ c ∈ gap, isBlank c = true) : Spaced [] gap
  | word {gap w rest : List Char} {ws : List (List Char)} (hgap : ∀ c ∈ gap, isBlank c = true)
      (hne : w ≠ []) (hw : Unbroken w) (hrest : Spaced ws rest)
      (hapart : ∀ c ∈ rest.head?, isBlank c = true) : Spaced (w :: ws) (gap ++ (w ++ rest))

theorem words_append_of_blank {gap : List Char} (h : ∀ c ∈ gap, isBlank c = true)
    (s : List Char) : words (gap ++ s) = words s := by
  induction gap with
  | nil => rfl
  | cons c gap ih =>
    obtain ⟨hc, hgap⟩ := List.forall_mem_cons.1 h
    rw [← ih hgap]
    simp [words, tokens, fields, hc]

theorem words_append {w : List Char} (hne : w ≠ []) (hw : Unbroken w) {rest : List Char}
    (hapart : ∀ c ∈ rest.head?, isBlank c = true) : words (w ++ rest) = w :: words rest := by
  have hfilled : (!w.isEmpty) = true := by simpa using hne
  cases rest with
  | nil => simp [words, tokens, fields_eq_singleton hw, hfilled]
  | cons c rest =>
    have hc : isBlank c = true := hapart c rfl
    simp [words, tokens, fields_append hw hc, fields, hc, hfilled]

theorem Spaced.words_eq {ws : List (List Char)} {line : List Char} (h : Spaced ws line) :
    words line = ws := by
  induction h with
  | @blank gap hgap =>
    have hnil := words_append_of_blank hgap []
    rw [List.append_nil] at hnil
    exact hnil
  | word hgap hne hw _ hapart ih =>
    rw [words_append_of_blank hgap, words_append hne hw hapart, ih]

theorem exists_spaced (line : List Char) : ∃ ws, Spaced ws line := by
  induction line with
  | nil => exact ⟨[], .blank (by simp)⟩
  | cons c s ih =>
    obtain ⟨ws, h⟩ := ih
    cases hc : isBlank c with
    | true =>
      cases h with
      | blank hgap => exact ⟨[], .blank (List.forall_mem_cons.2 ⟨hc, hgap⟩)⟩
      | @word gap w rest ws hgap hne hw hrest hapart =>
        have hwider : ∀ b ∈ c :: gap, isBlank b = true := List.forall_mem_cons.2 ⟨hc, hgap⟩
        exact ⟨w :: ws, .word hwider hne hw hrest hapart⟩
    | false =>
      have hword : Unbroken [c] := by simpa [Unbroken] using hc
      have hnone : ∀ b ∈ ([] : List Char), isBlank b = true := by simp
      cases h with
      | blank hgap =>
        exact ⟨[[c]], .word hnone (by simp) hword (.blank hgap) fun b hb =>
          hgap b (List.mem_of_mem_head? hb)⟩
      | @word gap w rest ws hgap hne hw hrest hapart =>
        cases gap with
        | nil =>
          exact ⟨(c :: w) :: ws, .word hnone (by simp) (List.forall_mem_cons.2 ⟨hc, hw⟩) hrest
            hapart⟩
        | cons b gap =>
          -- the blank behind the character ends it as a word of its own
          exact ⟨[c] :: w :: ws, .word hnone (by simp) hword (.word hgap hne hw hrest hapart)
            (by simpa using hgap b List.mem_cons_self)⟩

/-- A line has the words in it and no others. -/
theorem spaced_iff {ws : List (List Char)} {line : List Char} :
    Spaced ws line ↔ words line = ws := by
  refine ⟨Spaced.words_eq, ?_⟩
  rintro rfl
  obtain ⟨ws, h⟩ := exists_spaced line
  rwa [h.words_eq]

instance (ws : List (List Char)) (line : List Char) : Decidable (Spaced ws line) :=
  decidable_of_iff _ spaced_iff.symm

end Text

namespace AddressTable

open Text

/-! ## Rows -/

/-- The four words of a row of learned addresses, whatever their order. -/
structure Columns where
  mac : List Char
  kind : List Char
  vlan : List Char
  port : List Char

namespace Columns

/-- The row tells of a learned address: none of its words is one of those of other rows, and its
VLAN and its address can be read. -/
structure Tells (r : Columns) : Prop where
  unreserved : ∀ w ∈ [r.mac, r.kind, r.vlan, r.port], w ≠ "All".toList ∧ w ≠ "CPU".toList
  vlan : ∃ id, Decimal.readUInt16 r.vlan = some id
  mac : ∃ m, Mac.parse? r.mac = some m

def isReserved (r : Columns) : Bool :=
  [r.mac, r.kind, r.vlan, r.port].any fun w => reserved.contains w

/-- The learned address that the row tells of. -/
def row? (r : Columns) : Option MacRow := do
  if r.isReserved then none
  return {
    vlan := some (← Decimal.readUInt16 r.vlan)
    mac := ← Mac.parse? r.mac
    port := String.ofList r.port }

theorem isReserved_eq_false_iff (r : Columns) :
    r.isReserved = false ↔
      ∀ w ∈ [r.mac, r.kind, r.vlan, r.port], w ≠ "All".toList ∧ w ≠ "CPU".toList := by
  rw [isReserved, List.any_eq_false]
  refine forall₂_congr fun w _ => ?_
  simp [reserved]

theorem row?_eq_some_iff {r : Columns} {row : MacRow} :
    r.row? = some row ↔
      r.isReserved = false ∧ ∃ id m, Decimal.readUInt16 r.vlan = some id ∧
        Mac.parse? r.mac = some m ∧ row = ⟨some id, m, String.ofList r.port⟩ := by
  unfold row?
  cases r.isReserved <;> cases Decimal.readUInt16 r.vlan <;> cases Mac.parse? r.mac <;>
    simp [eq_comm]

theorem isSome_row?_iff {r : Columns} : r.row?.isSome ↔ r.Tells := by
  rw [Option.isSome_iff_exists]
  simp only [row?_eq_some_iff, isReserved_eq_false_iff]
  constructor
  · rintro ⟨row, hreserved, id, m, hid, hm, -⟩
    exact ⟨hreserved, ⟨id, hid⟩, m, hm⟩
  · rintro ⟨hreserved, ⟨id, hid⟩, m, hm⟩
    exact ⟨_, hreserved, id, m, hid, hm, rfl⟩

end Columns

namespace MacLayout

/-- The words of a row in the order of the layout. -/
def order : MacLayout → Columns → List (List Char)
  | .addressFirst, r => [r.mac, r.kind, r.vlan, r.port]
  | .vlanFirst, r => [r.vlan, r.mac, r.kind, r.port]

variable {layout : MacLayout} {r : Columns} {line : List Char}

theorem any_order (layout : MacLayout) (r : Columns) :
    (layout.order r).any (fun w => reserved.contains w) = r.isReserved := by
  cases layout with
  | addressFirst => rfl
  | vlanFirst =>
    simp only [order, Columns.isReserved, List.any_cons, List.any_nil]
    ac_rfl

theorem pick_order (layout : MacLayout) (r : Columns) :
    layout.pick (layout.order r) = some (r.vlan, r.mac, r.port) := by
  cases layout <;> rfl

/-- What is read from a row depends on its words alone. -/
theorem parse?_of_spaced (h : Spaced (layout.order r) line) : layout.parse? line = r.row? := by
  simp only [parse?, h.words_eq, pick_order, any_order, Columns.row?, Option.bind_eq_bind,
    Option.bind_some]

theorem filterMap_parse? {rows : List Columns} {lines : List (List Char)}
    (h : List.Forall₂ (fun r line => Spaced (layout.order r) line) rows lines) :
    lines.filterMap layout.parse? = rows.filterMap Columns.row? := by
  induction h with
  | nil => rfl
  | cons hline _ ih => rw [List.filterMap_cons, List.filterMap_cons, parse?_of_spaced hline, ih]

/-- A table changes a device row by row, in whichever layout the rows are printed. -/
theorem read_eq {rows : List Columns} {lines : List (List Char)}
    (h : List.Forall₂ (fun r line => Spaced (layout.order r) line) rows lines) (d : Device) :
    layout.read lines d =
      (!(rows.filterMap Columns.row?).isEmpty,
        (rows.filterMap Columns.row?).foldl (fun d r => d.addMacRow r.vlan r.mac r.port) d) := by
  rw [read, filterMap_parse? h]

theorem read_row (h : Spaced (layout.order r) line) (d : Device) :
    layout.read [line] d =
      match r.row? with
      | some row => (true, d.addMacRow row.vlan row.mac row.port)
      | none => (false, d) := by
  have hrows : List.Forall₂ (fun r line => Spaced (layout.order r) line) [r] [line] :=
    .cons h .nil
  rw [read_eq hrows, List.filterMap_cons]
  cases r.row? <;> rfl

end MacLayout

/-- Two tables with the same rows, one in each layout and with any blanks, have the same effect on
a device. A row is taken exactly when it tells of a learned address, which is recorded then; any
other row changes nothing. -/
theorem read_layouts (rows : List Columns) (lines lines' : List (List Char))
    (hlines : List.Forall₂ (fun r line => Spaced (MacLayout.addressFirst.order r) line) rows lines)
    (hlines' : List.Forall₂ (fun r line => Spaced (MacLayout.vlanFirst.order r) line) rows lines')
    (d : Device) :
    MacLayout.addressFirst.read lines d = MacLayout.vlanFirst.read lines' d ∧
      ((MacLayout.addressFirst.read lines d).1 = true ↔ ∃ r ∈ rows, r.Tells) ∧
      ∀ (layout : MacLayout) (r : Columns) (line : List Char) (e : Device),
        Spaced (layout.order r) line →
          ((layout.read [line] e).1 = true ↔ r.Tells) ∧
          (∀ id m, r.Tells → Decimal.readUInt16 r.vlan = some id → Mac.parse? r.mac = some m →
            (layout.read [line] e).2 = e.addMacRow (some id) m (String.ofList r.port)) ∧
          (¬ r.Tells → (layout.read [line] e).2 = e) := by
  have hread := MacLayout.read_eq hlines d
  refine ⟨by rw [hread, MacLayout.read_eq hlines'], ?_, fun layout r line e hline => ?_⟩
  · rw [hread]
    simp only [← Columns.isSome_row?_iff, Bool.not_eq_true', List.isEmpty_eq_false_iff_exists_mem,
      List.mem_filterMap, Option.isSome_iff_exists]
    exact ⟨fun ⟨row, r, hr, hrow⟩ => ⟨r, hr, row, hrow⟩,
      fun ⟨r, hr, row, hrow⟩ => ⟨row, r, hr, hrow⟩⟩
  · rw [MacLayout.read_row hline, ← Columns.isSome_row?_iff]
    cases hrow : r.row? with
    | none => simp
    | some row =>
      obtain ⟨-, id, m, hid, hm, rfl⟩ := Columns.row?_eq_some_iff.1 hrow
      simp [hid, hm]

def columns (mac kind vlan port : String) : Columns :=
  ⟨mac.toList, kind.toList, vlan.toList, port.toList⟩

/-- Rows of one port, which is abbreviated at first, between others that are no learned addresses:
a reserved word, an address that is too short, and a VLAN that is too large. -/
def learnedRows : List Columns :=
  [columns "0100.0ccc.cccc" "STATIC" "All" "CPU", columns "0011.2233.4455" "DYNAMIC" "10" "Fa0/1",
    columns "0011.2233.446" "DYNAMIC" "10" "Fa0/1",
    columns "0011.2233.4466" "DYNAMIC" "70000" "Fa0/2",
    columns "00:11:22:33:44:66" "DYNAMIC" "20" "FastEthernet0/1"]

def addressFirstLines : List (List Char) :=
  ["0100.0ccc.cccc  STATIC  All  CPU", "0011.2233.4455 DYNAMIC 10 Fa0/1",
    "0011.2233.446 DYNAMIC 10 Fa0/1", "0011.2233.4466\tDYNAMIC\t70000\tFa0/2",
    "00:11:22:33:44:66 DYNAMIC 20     FastEthernet0/1"].map String.toList

def vlanFirstLines : List (List Char) :=
  [" All    0100.0ccc.cccc    STATIC      CPU", "  10    0011.2233.4455    DYNAMIC     Fa0/1",
    "10 0011.2233.446 DYNAMIC Fa0/1", "70000 0011.2233.4466 DYNAMIC Fa0/2",
    "  20    00:11:22:33:44:66 DYNAMIC     FastEthernet0/1 "].map String.toList

/-- Both tables lead to one port with two addresses, under its longer name. -/
theorem read_layouts_learnedRows :
    MacLayout.addressFirst.read addressFirstLines (.blank "sw") =
        MacLayout.vlanFirst.read vlanFirstLines (.blank "sw") ∧
      (MacLayout.addressFirst.read addressFirstLines (.blank "sw")).1 = true ∧
      (MacLayout.addressFirst.read addressFirstLines (.blank "sw")).2.ports.keys =
        ["FastEthernet0/1"] ∧
      (MacLayout.addressFirst.read addressFirstLines (.blank "sw")).2.macTable.length = 2 ∧
      (MacLayout.vlanFirst.read [" 10 0011.2233.4455 DYNAMIC Fa0/1".toList] (.blank "sw")).2 =
        (Device.blank "sw").addMacRow (some 10) (.ofNat 0x001122334455) "Fa0/1" ∧
      (MacLayout.vlanFirst.read [" 10 0011.2233.446 DYNAMIC Fa0/1".toList] (.blank "sw")).2 =
        .blank "sw" := by
  have hlines : List.Forall₂ (fun r line => Spaced (MacLayout.addressFirst.order r) line)
      learnedRows addressFirstLines := by decide +kernel
  have hlines' : List.Forall₂ (fun r line => Spaced (MacLayout.vlanFirst.order r) line)
      learnedRows vlanFirstLines := by decide +kernel
  obtain ⟨heq, htells, hrow⟩ := read_layouts learnedRows _ _ hlines hlines' (.blank "sw")
  have hgood : (columns "0011.2233.4455" "DYNAMIC" "10" "Fa0/1").Tells :=
    Columns.isSome_row?_iff.1 (by decide +kernel)
  have hbad : ¬ (columns "0011.2233.446" "DYNAMIC" "10" "Fa0/1").Tells := by
    rw [← Columns.isSome_row?_iff]
    decide +kernel
  have hlearned := (hrow .vlanFirst (columns "0011.2233.4455" "DYNAMIC" "10" "Fa0/1")
    " 10 0011.2233.4455 DYNAMIC Fa0/1".toList (.blank "sw") (by decide +kernel)).2.1 10
    (.ofNat 0x001122334455) hgood (by decide +kernel) (by decide +kernel)
  have hport : String.ofList (columns "0011.2233.4455" "DYNAMIC" "10" "Fa0/1").port = "Fa0/1" :=
    String.ofList_toList
  rw [hport] at hlearned
  have hpassed := (hrow .vlanFirst (columns "0011.2233.446" "DYNAMIC" "10" "Fa0/1")
    " 10 0011.2233.446 DYNAMIC Fa0/1".toList (.blank "sw") (by decide +kernel)).2.2 hbad
  exact ⟨heq, htells.2 ⟨_, by simp [learnedRows], hgood⟩, by decide +kernel, by decide +kernel,
    hlearned, hpassed⟩

end AddressTable

end HostSurvey
