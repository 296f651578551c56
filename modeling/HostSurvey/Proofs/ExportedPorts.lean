import HostSurvey.Proofs.ExportedNodes

/-!
# Ports of an export

The node of a port tells the port's name first: type, slot and number, or the whole
name where the number has no slot. Digits behind the type may write a number that
does not fit or may not be ASCII; nothing else keeps a port from being exported.
-/

namespace HostSurvey

open Text TraitTree

/-! ## Besides the name -/

namespace Port

/-- What the node of a port tells besides the port's name. -/
def fields (p : Port) : Fields :=
  [(.macAddr, p.mac.map fun m => .long m.toInt64), (.description, p.description.map .ofText),
    (.hardware, p.hardware.map .ofText), (.ipv4, p.ip.map fun ip => .int ip.toInt32),
    (.cidr, p.cidr.map fun n => .int n.toUInt32.toInt32),
    (.interfaceStatus, p.status.map .ofText), (.lineStatus, p.lineStatus.map .ofText),
    (.switchportMode, (if p.trunk then some "trunk" else none).map .ofText),
    (.ifSpVlanList,
      if p.vlans.isEmpty then none
      else some (.ints (p.vlans.toList.map fun id => id.toUInt32.toInt32))),
    (.subInterfaceList, TraitValue.ofNodes? (p.subInterfaces.toList.map subInterfaceEntry))]

/-- Only the name of a port can keep it from being exported. -/
theorem toTree_eq (p : Port) : p.toTree = p.namedNode.map (·.storeAll p.fields) := by
  -- the test for VLANs stands around everything that is stored after it
  have hvlans (t : TraitTree) (f : TraitTree → Except TraitFault TraitTree) :
      (if p.vlans.isEmpty then .ok t >>= f
        else t.put .ifSpVlanList (.ints (p.vlans.toList.map fun id => id.toUInt32.toInt32)) >>= f) =
      f (t.storeIf .ifSpVlanList
        (if p.vlans.isEmpty then none
          else some (.ints (p.vlans.toList.map fun id => id.toUInt32.toInt32)))) := by
    split
    · rfl
    · exact bind_of_ok (put_of_accepts rfl t) rfl
  rw [toTree]
  cases p.namedNode with
  | error fault => rfl
  | ok t =>
    refine bind_of_ok rfl ?_
    refine bind_of_ok (putIf_of_accepts (fun _ => rfl) ..) ?_
    refine bind_of_ok (putTextIf_of_kind rfl ..) ?_
    refine bind_of_ok (putTextIf_of_kind rfl ..) ?_
    refine bind_of_ok (putIf_of_accepts (fun _ => rfl) ..) ?_
    refine bind_of_ok (putIf_of_accepts (fun _ => rfl) ..) ?_
    refine bind_of_ok (putTextIf_of_kind rfl ..) ?_
    refine bind_of_ok (putTextIf_of_kind rfl ..) ?_
    refine bind_of_ok (putTextIf_of_kind rfl ..) ?_
    refine (hvlans ..).trans ?_
    exact putNodes_of_forall_ok rfl subInterfaceNode_eq ..

end Port

/-! ## Numbers of interfaces -/

namespace Interface

/-- Digits to be read under a trait. -/
structure IsPart (part : Trait × List Char) : Prop where
  reading : part.1.reading? = some .number
  nonempty : part.2 ≠ []
  digits : ∀ c ∈ part.2, isDigit c = true

variable {numbering : List Char} {parts : List (Trait × List Char)}

theorem isPart_of_placement? (h : placement? numbering = some parts) :
    ∀ part ∈ parts, IsPart part := by
  have htokens : ∀ w ∈ tokens (fun c => !isDigit c) numbering,
      w ≠ [] ∧ ∀ c ∈ w, isDigit c = true := by
    intro w hw
    obtain ⟨hfield, hne⟩ := List.mem_filter.1 hw
    refine ⟨by simpa using hne, fun c hc => ?_⟩
    simpa using sep_eq_false_of_mem_fields hfield hc
  have hpart {key : Trait} {w : List Char} (hkey : key.reading? = some .number)
      (hw : w ∈ tokens (fun c => !isDigit c) numbering) : IsPart (key, w) :=
    ⟨hkey, (htokens w hw).1, (htokens w hw).2⟩
  unfold placement? at h
  split at h
  · cases h
  · cases h
  · rename_i slot port hlist
    rw [hlist] at hpart
    cases h
    simp only [List.forall_mem_cons]
    exact ⟨hpart rfl (by simp), hpart rfl (by simp), by simp⟩
  · rename_i module slot port hlist
    rw [hlist] at hpart
    cases h
    simp only [List.forall_mem_cons]
    exact ⟨hpart rfl (by simp), hpart rfl (by simp), hpart rfl (by simp), by simp⟩
  · rename_i module slot port sub rest hlist
    rw [hlist] at hpart
    cases h
    simp only [List.forall_mem_cons]
    exact ⟨hpart rfl (by simp), hpart rfl (by simp), hpart rfl (by simp), hpart rfl (by simp),
      by simp⟩

/-- The traits of the parts are slot and port, with the module before and the sub-interface behind
them. -/
theorem keys_of_placement? (h : placement? numbering = some parts) :
    parts.map Prod.fst ∈ [[.interfaceSlot, .interfaceId],
      [.interfaceModule, .interfaceSlot, .interfaceId],
      [.interfaceModule, .interfaceSlot, .interfaceId, .subInterfaceId]] := by
  unfold placement? at h
  split at h <;> cases h <;> simp

/-- The number that a part writes. -/
def partFields (parts : List (Trait × List Char)) : Fields :=
  parts.map fun part => (part.1, some (.int (Int32.ofInt (Int.ofNat (Decimal.value part.2)))))

theorem IsPart.read {part : Trait × List Char} (h : IsPart part) :
    part.1.read part.2 =
      match Decimal.readInt32 part.2 with
      | .ok n => .ok (.int n)
      | .error reason => .error (.unread part.1 (String.ofList part.2) (.number reason)) := by
  rw [Trait.read, h.reading]
  simp only [Reading.read, trim_of_digits h.digits]
  cases Decimal.readInt32 part.2 <;> rfl

theorem IsPart.putRead_of_fits {part : Trait × List Char} (h : IsPart part)
    (hfits : Decimal.Fits part.2) (t : TraitTree) :
    t.putRead part.1 part.2 =
      .ok (t.store part.1 (.int (Int32.ofInt (Int.ofNat (Decimal.value part.2))))) := by
  have hread : part.1.read part.2 =
      .ok (.int (Int32.ofInt (Int.ofNat (Decimal.value part.2)))) := by
    rw [h.read, Decimal.readInt32_of_fits h.nonempty h.digits hfits]
  exact bind_of_ok hread (put_of_accepts (Trait.accepts_of_read hread) t)

theorem IsPart.putRead_of_not_fits {part : Trait × List Char} (h : IsPart part)
    (hfits : ¬ Decimal.Fits part.2) (t : TraitTree) :
    ∃ reason, Decimal.readInt32 part.2 = .error reason ∧
      t.putRead part.1 part.2 =
        .error (.unread part.1 (String.ofList part.2) (.number reason)) := by
  obtain ⟨reason, hreason⟩ := Decimal.readInt32_of_not_fits h.nonempty h.digits hfits
  refine ⟨reason, hreason, ?_⟩
  rw [TraitTree.putRead, h.read, hreason]
  rfl

theorem putReadAll_of_fits (hparts : ∀ part ∈ parts, IsPart part)
    (hfits : ∀ part ∈ parts, Decimal.Fits part.2) (t : TraitTree) :
    t.putReadAll parts = (t.storeAll (partFields parts), none) := by
  induction parts generalizing t with
  | nil => rfl
  | cons part parts ih =>
    obtain ⟨hpart, hrest⟩ := List.forall_mem_cons.1 hparts
    obtain ⟨hfit, hfits⟩ := List.forall_mem_cons.1 hfits
    rw [putReadAll, hpart.putRead_of_fits hfit]
    exact ih hrest hfits _

/-- The first part that does not fit is the one that is told. -/
theorem putReadAll_of_not_fits (hparts : ∀ part ∈ parts, IsPart part)
    (hfits : ¬ ∀ part ∈ parts, Decimal.Fits part.2) (t : TraitTree) :
    ∃ before part behind reason, parts = before ++ part :: behind ∧
      (∀ b ∈ before, Decimal.Fits b.2) ∧ ¬ Decimal.Fits part.2 ∧
      Decimal.readInt32 part.2 = .error reason ∧
      (t.putReadAll parts).2 =
        some (.unread part.1 (String.ofList part.2) (.number reason)) := by
  induction parts generalizing t with
  | nil => exact absurd (by simp) hfits
  | cons part parts ih =>
    obtain ⟨hpart, hrest⟩ := List.forall_mem_cons.1 hparts
    by_cases hfit : Decimal.Fits part.2
    · have hfits' : ¬ ∀ part ∈ parts, Decimal.Fits part.2 := fun h =>
        hfits (List.forall_mem_cons.2 ⟨hfit, h⟩)
      obtain ⟨before, b, behind, reason, rfl, hbefore, hb, hreason, hfault⟩ := ih hrest hfits' _
      refine ⟨part :: before, b, behind, reason, rfl, ?_, hb, hreason, ?_⟩
      · exact List.forall_mem_cons.2 ⟨hfit, hbefore⟩
      · rw [putReadAll, hpart.putRead_of_fits hfit]
        exact hfault
    · obtain ⟨reason, hreason, hput⟩ := hpart.putRead_of_not_fits hfit t
      refine ⟨[], part, parts, reason, rfl, by simp, hfit, hreason, ?_⟩
      rw [putReadAll, hput]

end Interface

namespace Port

/-- The type of a port and the parts of its number, where the number has a slot. -/
def slots? (p : Port) : Option (List Char × List (Trait × List Char)) :=
  (Interface.split? p.name.toList).bind fun s => (Interface.placement? s.2).map (s.1, ·)

/-- Every part of the number can be stored. -/
def Fits (p : Port) : Prop :=
  ∀ kind parts, p.slots? = some (kind, parts) → ∀ part ∈ parts, Decimal.Fits part.2

/-- What the node of a port is, and what it tells of the name. -/
def heading (p : Port) : Trait × Fields :=
  match p.slots? with
  | none => (.managementInterfaceEntry, [(.interfaceName, some (.ofText p.name))])
  | some (kind, parts) =>
    (.interfaceListEntry,
      Interface.partFields parts ++ [(.interfaceName, some (.ofText (String.ofList kind)))])

def nodeFields (p : Port) : Fields := p.heading.2 ++ p.fields

def node (p : Port) : TraitTree := (empty p.heading.1).storeAll p.nodeFields

variable {p : Port} {kind : List Char} {parts : List (Trait × List Char)}

theorem slots?_eq_some (h : p.slots? = some (kind, parts)) :
    ∃ numbers, Interface.split? p.name.toList = some (kind, numbers) ∧
      Interface.placement? numbers = some parts := by
  obtain ⟨⟨k, numbers⟩, hsplit, hmap⟩ := Option.bind_eq_some_iff.1 h
  obtain ⟨parts', hplace, heq⟩ := Option.map_eq_some_iff.1 hmap
  cases heq
  exact ⟨numbers, hsplit, hplace⟩

theorem isPart_of_slots? (h : p.slots? = some (kind, parts)) :
    ∀ part ∈ parts, Interface.IsPart part := by
  obtain ⟨numbers, -, hplace⟩ := slots?_eq_some h
  exact Interface.isPart_of_placement? hplace

theorem keys_of_slots? (h : p.slots? = some (kind, parts)) :
    parts.map Prod.fst ∈ [[.interfaceSlot, .interfaceId],
      [.interfaceModule, .interfaceSlot, .interfaceId],
      [.interfaceModule, .interfaceSlot, .interfaceId, .subInterfaceId]] := by
  obtain ⟨numbers, -, hplace⟩ := slots?_eq_some h
  exact Interface.keys_of_placement? hplace

theorem namedNode_of_no_slots (h : p.slots? = none) : p.namedNode = p.managementNode := by
  unfold slots? at h
  unfold namedNode
  split
  · rfl
  · rename_i kind numbers hsplit
    rw [hsplit] at h
    have hplace : Interface.placement? numbers = none := Option.map_eq_none_iff.1 h
    rw [hplace]

theorem namedNode_of_stored {t : TraitTree} (h : p.slots? = some (kind, parts))
    (hput : (empty .interfaceListEntry).putReadAll parts = (t, none)) :
    p.namedNode = t.putText .interfaceName (String.ofList kind) := by
  obtain ⟨numbers, hsplit, hplace⟩ := slots?_eq_some h
  unfold namedNode
  simp only [hsplit, hplace, hput]

theorem namedNode_of_refused {fault : TraitFault} (h : p.slots? = some (kind, parts))
    (hput : ((empty .interfaceListEntry).putReadAll parts).2 = some fault) :
    p.namedNode = .error fault := by
  obtain ⟨numbers, hsplit, hplace⟩ := slots?_eq_some h
  unfold namedNode
  simp only [hsplit, hplace]
  split
  · rename_i other hother
    rw [hother] at hput
    cases hput
    rfl
  · rename_i hnone
    rw [hnone] at hput
    cases hput

theorem toTree_of_fits (h : p.Fits) : p.toTree = .ok p.node := by
  have hnamed : p.namedNode = .ok ((empty p.heading.1).storeAll p.heading.2) := by
    cases hslots : p.slots? with
    | none =>
      rw [namedNode_of_no_slots hslots, heading, hslots]
      exact putText_of_kind rfl ..
    | some s =>
      obtain ⟨kind, parts⟩ := s
      have hput := Interface.putReadAll_of_fits (isPart_of_slots? hslots) (h kind parts hslots)
        (empty .interfaceListEntry)
      rw [namedNode_of_stored hslots hput, heading, hslots, storeAll_append]
      exact putText_of_kind rfl ..
  rw [toTree_eq, hnamed, node, nodeFields, storeAll_append]
  rfl

/-- A fault about the first part of the port's number that cannot be stored. -/
def Refused (p : Port) (fault : TraitFault) : Prop :=
  ∃ kind before part behind reason, p.slots? = some (kind, before ++ part :: behind) ∧
    (∀ b ∈ before, Decimal.Fits b.2) ∧ ¬ Decimal.Fits part.2 ∧
    Decimal.readInt32 part.2 = .error reason ∧
    fault = .unread part.1 (String.ofList part.2) (.number reason)

/-- The node is lost with the parts that were stored before the first that cannot be. -/
theorem toTree_of_not_fits (h : ¬ p.Fits) : ∃ fault, p.toTree = .error fault ∧ p.Refused fault := by
  obtain ⟨kind, hkind⟩ := not_forall.1 h
  obtain ⟨parts, hparts⟩ := not_forall.1 hkind
  obtain ⟨hslots, hfits⟩ := Classical.not_imp.1 hparts
  obtain ⟨before, part, behind, reason, rfl, hbefore, hpart, hreason, hfault⟩ :=
    Interface.putReadAll_of_not_fits (isPart_of_slots? hslots) hfits (empty .interfaceListEntry)
  refine ⟨_, ?_, kind, before, part, behind, reason, hslots, hbefore, hpart, hreason, rfl⟩
  rw [toTree_eq, namedNode_of_refused hslots hfault]
  rfl

theorem fits_of_toTree {t : TraitTree} (h : p.toTree = .ok t) : p.Fits := by
  by_contra hfits
  obtain ⟨fault, hfault, -⟩ := toTree_of_not_fits hfits
  rw [h] at hfault
  cases hfault

theorem refused_of_toTree {fault : TraitFault} (h : p.toTree = .error fault) :
    p.Refused fault := by
  have hfits : ¬ p.Fits := fun hfits => by
    rw [p.toTree_of_fits hfits] at h
    cases h
  obtain ⟨other, hother, hrefused⟩ := toTree_of_not_fits hfits
  rw [h] at hother
  cases hother
  exact hrefused

/-- Without a slot no part of the number is read. -/
theorem fits_of_no_slots (h : p.slots? = none) : p.Fits := by
  intro kind parts hslots
  rw [h] at hslots
  cases hslots

/-! ## Look-ups in the node of a port -/

/-- The traits that tell a port's name: those of the parts of its number before the name. -/
def headingKeys : List (List Trait) :=
  [[.interfaceName], [.interfaceSlot, .interfaceId, .interfaceName],
    [.interfaceModule, .interfaceSlot, .interfaceId, .interfaceName],
    [.interfaceModule, .interfaceSlot, .interfaceId, .subInterfaceId, .interfaceName]]

def fieldKeys : List Trait :=
  [.macAddr, .description, .hardware, .ipv4, .cidr, .interfaceStatus, .lineStatus, .switchportMode,
    .ifSpVlanList, .subInterfaceList]

theorem keys_fields (p : Port) : p.fields.map Prod.fst = fieldKeys := rfl

theorem keys_heading (p : Port) : p.heading.2.map Prod.fst ∈ headingKeys := by
  rw [heading]
  cases hslots : p.slots? with
  | none => exact List.mem_cons_self
  | some s =>
    have hmap : (Interface.partFields s.2 ++ [(.interfaceName, some (.ofText (String.ofList s.1)))]
        : Fields).map Prod.fst = s.2.map Prod.fst ++ [.interfaceName] := by
      simp [Interface.partFields, Function.comp_def]
    have hkeys := keys_of_slots? hslots
    simp only [List.mem_cons, List.not_mem_nil, or_false] at hkeys
    simp only [hmap]
    obtain h | h | h := hkeys <;> rw [h] <;> simp [headingKeys]

/-- The number, the name and all else are told under different traits. -/
theorem nodup_nodeFields (p : Port) : (p.nodeFields.map Prod.fst).Nodup := by
  have hall : ∀ keys ∈ headingKeys, (keys ++ fieldKeys).Nodup := by decide
  rw [nodeFields, List.map_append, keys_fields]
  exact hall _ p.keys_heading

theorem madeOf_node (p : Port) : p.node.MadeOf p.heading.1 p.nodeFields :=
  madeOf_storeAll p.nodup_nodeFields _

/-- A port without a slot is a management interface under its whole name. -/
theorem node_of_no_slots (h : p.slots? = none) :
    p.node.identity = .managementInterfaceEntry ∧
      p.node.text? .interfaceName = some (trimmed p.name) := by
  have hheading : p.heading =
      (.managementInterfaceEntry, [(.interfaceName, some (.ofText p.name))]) := by
    rw [heading, h]
  constructor
  · rw [p.madeOf_node.identity, hheading]
  · refine text?_of_get? (v := some p.name) (p.madeOf_node.get? ?_)
    rw [nodeFields, hheading]
    exact List.mem_cons_self

/-- Another port tells its type and each part of its number. -/
theorem node_of_slots (h : p.slots? = some (kind, parts)) :
    p.node.identity = .interfaceListEntry ∧
      p.node.text? .interfaceName = some (trimmed (String.ofList kind)) ∧
      ∀ part ∈ parts, p.node.int? part.1 =
        some (Int32.ofInt (Int.ofNat (Decimal.value part.2))) := by
  have hheading : p.heading = (.interfaceListEntry,
      Interface.partFields parts ++ [(.interfaceName, some (.ofText (String.ofList kind)))]) := by
    rw [heading, h]
  refine ⟨?_, ?_, fun part hpart => ?_⟩
  · rw [p.madeOf_node.identity, hheading]
  · refine text?_of_get? (v := some (String.ofList kind)) (p.madeOf_node.get? ?_)
    rw [nodeFields, hheading]
    exact List.mem_append_left _ (List.mem_append_right _ List.mem_cons_self)
  · refine int?_of_get? (v := some part)
      (f := fun part => Int32.ofInt (Int.ofNat (Decimal.value part.2))) (p.madeOf_node.get? ?_)
    rw [nodeFields, hheading]
    exact List.mem_append_left _ (List.mem_append_left _ (List.mem_map_of_mem hpart))

end Port

end HostSurvey
