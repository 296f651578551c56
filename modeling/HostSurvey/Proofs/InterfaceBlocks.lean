import HostSurvey.Proofs.PortRecall
import HostSurvey.Proofs.UntoldOutput

/-!
# Blocks of a table of interfaces

A status line opens a block, and nothing that stands before it has a part in how
the block is read. What the lines of a block tell goes to the port that the
status line opened, found again under the name that it has since then, and to the
VLAN that this name stands for. Everything else stays as the status line left it
(`Told`).
-/

namespace HostSurvey

open Device

namespace Interfaces

/-! ## What a property tells -/

/-- What a property tells the port of its block. -/
def Property.onPort : Property → Port → Port
  | .hardware name mac, p => { p with hardware := some name, mac := some mac }
  | .description text, p => { p with description := some text }
  | .address text, p =>
    match Ipv4.parseNetwork? text with
    | some (ip, cidr) => { p with ip := some ip, cidr }
    | none => p

/-- What a property tells the VLAN of the block, which is added when it is new. -/
def Property.onVlan (id : UInt16) : Property → Option Vlan → Option Vlan
  | .hardware _ _, v => v
  | .description text, v => some { v.getD (.blank id) with name := some text }
  | .address text, v =>
    match Ipv4.parseNetwork? text with
    | some (ip, cidr) => some { v.getD (.blank id) with ip := some ip, cidr }
    | none => v

/-- `e` is `d` with the properties told to the port `key` and to the VLAN that it stands for. -/
structure Told (key : String) (properties : List Property) (d e : Device) : Prop where
  port : ∀ k, e.ports.find? k =
    if k = key then
      (d.ports.find? k).map fun p => properties.foldl (fun p property => property.onPort p) p
    else d.ports.find? k
  vlan : ∀ id, e.vlans.find? id =
    if Interface.vlanId? key.toList = some id then
      properties.foldl (fun v property => property.onVlan id v) (d.vlans.find? id)
    else d.vlans.find? id
  others : e = { d with ports := e.ports, vlans := e.vlans }

variable {key : String} {d e f : Device}

theorem Told.refl (key : String) (d : Device) : Told key [] d d where
  port k := by simp
  vlan id := by simp
  others := rfl

theorem Told.trans {first second : List Property} (h : Told key first d e)
    (h' : Told key second e f) : Told key (first ++ second) d f where
  port k := by
    rw [h'.port, h.port]
    split
    · simp only [Option.map_map, Function.comp_def, List.foldl_append]
    · rfl
  vlan id := by
    rw [h'.vlan, h.vlan]
    split
    · rw [List.foldl_append]
    · rfl
  others := by rw [h'.others, h.others]

theorem Told.keys {properties : List Property} (h : Told key properties d e) :
    e.ports.keys = d.ports.keys := by
  refine SortedSet.eq_of_mem_iff_list e.ports.ascending d.ports.ascending fun k => ?_
  rw [SortedMap.mem_keys, SortedMap.mem_keys, h.port]
  split
  · cases d.ports.find? k <;> simp
  · rfl

/-! ## Lines of a block -/

/-- A port that is open is edited under its name. -/
theorem editPort_of_find? (hd : Trims d) {p : Port} (hp : d.ports.find? key = some p)
    (f : Port → Port) : d.editPort key f = { d with ports := d.ports.insert key (f p) } := by
  have hopen : d.openPort key = (key, d) := openPort_of_mem hd (SortedMap.mem_keys.2 ⟨p, hp⟩)
  simp only [editPort, hopen, modifyPort, hp]

theorem find?_editOwnVlan (d : Device) (key : String) (f : Vlan → Vlan) (id : UInt16) :
    (editOwnVlan d key f).vlans.find? id =
      if Interface.vlanId? key.toList = some id then
        some (f ((d.vlans.find? id).getD (.blank id)))
      else d.vlans.find? id := by
  unfold editOwnVlan
  split
  · rename_i own hown
    simp only [editVlan, SortedMap.find?_alter, hown, Option.some.injEq]
    split
    · rename_i hid
      rw [hid]
    · rfl
  · rename_i hown
    simp only [hown, reduceCtorEq, ↓reduceIte]

theorem editOwnVlan_eq (d : Device) (key : String) (f : Vlan → Vlan) :
    editOwnVlan d key f = { d with vlans := (editOwnVlan d key f).vlans } := by
  unfold editOwnVlan
  split <;> rfl

theorem ports_editOwnVlan (d : Device) (key : String) (f : Vlan → Vlan) :
    (editOwnVlan d key f).ports = d.ports := by
  rw [editOwnVlan_eq]

theorem told_of_stored {p : Port} (hp : d.ports.find? key = some p) {property : Property}
    (hports : e.ports = d.ports.insert key (property.onPort p))
    (hvlans : ∀ id, e.vlans.find? id =
      if Interface.vlanId? key.toList = some id then property.onVlan id (d.vlans.find? id)
      else d.vlans.find? id)
    (hothers : e = { d with ports := e.ports, vlans := e.vlans }) : Told key [property] d e where
  port k := by
    rw [hports, SortedMap.find?_insert]
    by_cases hk : key = k
    · subst hk
      simp [hp]
    · simp [hk, Ne.symm hk]
  vlan := hvlans
  others := hothers

/-- A property reaches the port of its block and the VLAN of the port's name. -/
theorem told_applyProperty (hd : Trims d) (hkey : key ∈ d.ports.keys) (property : Property) :
    Told key [property] d (applyProperty d key property) := by
  obtain ⟨p, hp⟩ := SortedMap.mem_keys.1 hkey
  cases property with
  | hardware name mac =>
    rw [applyProperty, editPort_of_find? hd hp]
    exact told_of_stored hp rfl (fun id => by simp [Property.onVlan]) rfl
  | description text =>
    -- the VLAN is told first, which leaves the ports alone
    have hports := ports_editOwnVlan d key fun v => { v with name := some text }
    rw [applyProperty, editPort_of_find? (p := p) (by rwa [Trims, hports]) (by rwa [hports]),
      hports]
    exact told_of_stored hp rfl (fun id => find?_editOwnVlan ..) (by rw [editOwnVlan_eq])
  | address text =>
    cases hnetwork : Ipv4.parseNetwork? text with
    | none =>
      have hport : (Property.address text).onPort p = p := by rw [Property.onPort, hnetwork]
      simp only [applyProperty, hnetwork]
      refine told_of_stored hp ?_ (fun id => by simp [Property.onVlan, hnetwork]) rfl
      rw [hport, SortedMap.insert_eq_self hp]
    | some network =>
      simp only [applyProperty, hnetwork, editPort_of_find? hd hp]
      refine told_of_stored hp ?_ (fun id => ?_) (by rw [editOwnVlan_eq])
      · rw [ports_editOwnVlan, Property.onPort, hnetwork]
      · rw [find?_editOwnVlan, Property.onVlan, hnetwork]

/-- The lines of a block, told to the port that is open. -/
theorem told_foldl (hd : Trims d) (hkey : key ∈ d.ports.keys) {block : List (List Char)}
    (hblock : ∀ line ∈ block, Status.parse? line = none) :
    ∃ e, block.foldl step ⟨some key, d⟩ = ⟨some key, e⟩ ∧
      Told key (block.filterMap Property.parse?) d e := by
  induction block generalizing d with
  | nil => exact ⟨d, rfl, .refl key d⟩
  | cons line block ih =>
    obtain ⟨hline, hblock⟩ := List.forall_mem_cons.1 hblock
    rw [List.foldl_cons, List.filterMap_cons]
    cases hproperty : Property.parse? line with
    | none =>
      have hstep : step ⟨some key, d⟩ line = ⟨some key, d⟩ := by
        simp only [step, hline, hproperty]
      rw [hstep]
      exact ih hd hkey hblock
    | some property =>
      have hstep : step ⟨some key, d⟩ line = ⟨some key, applyProperty d key property⟩ := by
        simp only [step, hline, hproperty]
      have htold := told_applyProperty hd hkey property
      obtain ⟨e, hrun, hrest⟩ := ih (d := applyProperty d key property)
        (by rwa [Trims, htold.keys]) (by rwa [htold.keys]) hblock
      rw [hstep]
      exact ⟨e, hrun, htold.trans hrest⟩

/-! ## Blocks -/

/-- Where a status line is read, the block before it is left, whatever interface it was of. -/
theorem step_status_eq {line : List Char} (h : (Status.parse? line).isSome) (s : State) :
    step s line = step { device := s.device } line := by
  obtain ⟨status, hstatus⟩ := Option.isSome_iff_exists.1 h
  simp only [step, hstatus]

theorem read_append {line : List Char} (h : (Status.parse? line).isSome)
    (before after : List (List Char)) (d : Device) :
    read (before ++ line :: after) d =
      ((read before d).1 || (read (line :: after) (read before d).2).1,
        (read (line :: after) (read before d).2).2) := by
  have hfound : (read (line :: after) (read before d).2).1 = true :=
    current_foldl (step_status h _) after
  rw [hfound, Bool.or_true, ← hfound]
  simp only [read, List.foldl_append, List.foldl_cons]
  rw [step_status_eq h (before.foldl step _)]

theorem foldl_step_leading {leading : List (List Char)}
    (h : ∀ line ∈ leading, Status.parse? line = none) (d : Device) :
    leading.foldl step { device := d } = { device := d } := by
  induction leading with
  | nil => rfl
  | cons line leading ih =>
    obtain ⟨hline, hleading⟩ := List.forall_mem_cons.1 h
    rw [List.foldl_cons, step_start (by simp [hline]), ih hleading]

/-- A status line leaves its port open, and what follows is told to that port. -/
theorem step_of_parse? {line : List Char} {status : Status} (h : Status.parse? line = some status)
    (d : Device) :
    step { device := d } line = ⟨some (d.openPort status.name).1, (read [line] d).2⟩ := by
  simp only [read, List.foldl_cons, List.foldl_nil, step, h]
  rfl

theorem keys_read_status {line : List Char} {status : Status} (h : Status.parse? line = some status)
    (d : Device) : (read [line] d).2.ports.keys = (d.openPort status.name).2.ports.keys := by
  have hread : (read [line] d).2 = (applyStatus d status).2 := by
    simp only [read, List.foldl_cons, List.foldl_nil, step, h]
  rw [hread]
  exact keys_modifyPort ..

end Interfaces

/-! ## Names of ports -/

/-- Whatever readers and other operations do, the names of ports have no blanks at their ends. -/
theorem Device.Trims.reaches {d e : Device} (hd : Trims d) (h : Reaches d e) : Trims e := by
  induction h with
  | refl => exact hd
  | step op _ _ ih => exact ih.perform op

namespace Interfaces

/-- A table is read block by block. The block of a status line goes on from what was read before,
and lines in front of the first block do nothing. The lines of a block are told to the port that
its status line opened, under the name that the port has then, and to the VLAN that this name
stands for; everything else stays as the status line left it. What is asked of the device is that
the names of its ports have no blanks at their ends, as it is with every device that operations
make or readers change. -/
theorem read_blocks :
    (∀ (before : List (List Char)) (line : List Char) (after : List (List Char)) (d : Device),
      (Status.parse? line).isSome →
        read (before ++ line :: after) d =
          ((read before d).1 || (read (line :: after) (read before d).2).1,
            (read (line :: after) (read before d).2).2)) ∧
    (∀ leading : List (List Char), (∀ line ∈ leading, Status.parse? line = none) →
      ∀ lines d, read (leading ++ lines) d = read lines d ∧ read leading d = (false, d)) ∧
    (∀ name ops, Trims ((Device.blank name).performAll ops)) ∧
    (∀ (reader : OutputReader) lines d, Trims d → Trims (reader.read lines d).2) ∧
    ∀ (d : Device) (line : List Char) (status : Status) (block : List (List Char)), Trims d →
      Status.parse? line = some status → (∀ line ∈ block, Status.parse? line = none) →
        ∃ e, read (line :: block) d = (true, e) ∧
          (d.openPort status.name).1 ∈ (read [line] d).2.ports.keys ∧
          e.ports.keys = (read [line] d).2.ports.keys ∧
          Told (d.openPort status.name).1 (block.filterMap Property.parse?) (read [line] d).2
            e := by
  refine ⟨fun before line after d h => read_append h before after d, fun leading h lines d => ?_,
    fun name ops => (trims_blank name).performAll ops,
    fun reader lines d hd => hd.reaches (reader.reaches_read lines d),
    fun d line status block hd hline hblock => ?_⟩
  · simp only [read, List.foldl_append, foldl_step_leading h, Option.isSome_none, and_self]
  · have hkeys := keys_read_status hline d
    have hopen : (d.openPort status.name).1 ∈ (read [line] d).2.ports.keys := by
      rw [hkeys]
      exact (d.opens_openPort status.name).mem_keys
    have htrims : Trims (read [line] d).2 := by
      rw [Trims, hkeys]
      exact hd.openPort status.name
    obtain ⟨e, hrun, htold⟩ := told_foldl htrims hopen hblock
    refine ⟨e, ?_, hopen, htold.keys, htold⟩
    have hblocks : (line :: block).foldl step { device := d } =
        ⟨some (d.openPort status.name).1, e⟩ := by
      rw [List.foldl_cons, step_of_parse? hline, hrun]
    rw [read, hblocks]
    rfl

/-- A device with a port and the interface of a VLAN. -/
def switched : Device :=
  (Device.blank "sw").performAll [.edit "GigabitEthernet1/0/1" id, .edit "Vlan10" id]

/-- The block of the interface, which is told of by a short name. -/
def vlanBlock : List (List Char) :=
  ["  Hardware is EtherSVI, address is 1ce6.c783.e5c0 (bia 1ce6.c783.e5c0)",
    "  Description: users", "  Internet address is 10.0.0.1/24", "  MTU 1500 bytes"].map
    String.toList

def vlanStatus : List Char := "V10 is up, line protocol is up (connected)".toList

def portStatus : List Char := "Gi1/0/1 is down, line protocol is down".toList

theorem read_blocks_switched :
    (∃ e, read (vlanStatus :: vlanBlock) switched = (true, e) ∧
      e.ports.keys = ["GigabitEthernet1/0/1", "Vlan10"] ∧
      (e.ports.find? "Vlan10").bind Port.description = some "users" ∧
      (e.vlans.find? 10).bind Vlan.name = some "users" ∧ e.vlans.find? 1 = none ∧
      e.ports.find? "GigabitEthernet1/0/1" = switched.ports.find? "GigabitEthernet1/0/1") ∧
    read (vlanBlock ++ [vlanStatus]) switched = read [vlanStatus] switched ∧
    read (vlanStatus :: vlanBlock ++ [portStatus]) switched =
      (true, (read [portStatus] (read (vlanStatus :: vlanBlock) switched).2).2) := by
  obtain ⟨happend, hleading, hmade, -, hblock⟩ := read_blocks
  have hnone : ∀ line ∈ vlanBlock, Status.parse? line = none := by decide +kernel
  have hstatus : Status.parse? vlanStatus =
      some ⟨"V10", "up", "up", some "connected"⟩ := by decide +kernel
  have hopen : (switched.openPort "V10").1 = "Vlan10" := by decide +kernel
  have hid : Interface.vlanId? "Vlan10".toList = some 10 := by decide +kernel
  obtain ⟨e, hread, -, hkeys, htold⟩ := hblock switched _ _ _ (hmade _ _) hstatus hnone
  simp only [hopen] at htold
  refine ⟨⟨e, hread, ?_, ?_, ?_, ?_, ?_⟩, (hleading vlanBlock hnone [vlanStatus] switched).1, ?_⟩
  · rw [hkeys]
    decide +kernel
  · rw [htold.port, if_pos rfl]
    decide +kernel
  · rw [htold.vlan, if_pos hid]
    decide +kernel
  · rw [htold.vlan, if_neg (by rw [hid]; decide)]
    decide +kernel
  · rw [htold.port, if_neg (by decide)]
    decide +kernel
  · rw [happend _ _ [] _ (by decide +kernel)]
    decide +kernel

end Interfaces

end HostSurvey
