import HostSurvey.Proofs.ExportedPorts
import HostSurvey.Show.Import

/-!
# Faults of exports

A device is exported exactly when every part of every port number can be stored as
a number of 32 bits. Other ports without a slot are exported under their whole
names, but a part that is too large, or is not written in ASCII digits, loses the
tree of the device. A captured session can name such a port.
-/

namespace HostSurvey

open Text TraitTree

namespace Device

/-- What the tree of a device holds, given the nodes of its ports. -/
def fields (d : Device) (ports : List TraitTree) : Fields :=
  [(.deviceName, some (.ofText d.name)), (.hostName, d.hostName.map .ofText),
    (.interfaceList, TraitValue.ofNodes? ports),
    (.vlanList, TraitValue.ofNodes? (d.vlans.values.map Vlan.node)),
    (.macTable, TraitValue.ofNodes? (d.macTable.map MacRow.node)),
    (.arpTable, TraitValue.ofNodes? (d.arp.map ArpRow.node)),
    (.versionConfig, if d.version.isEmpty then none else some (.branch d.version.node)),
    (.usernameList, TraitValue.ofNodes? (d.users.entries.map userEntry)),
    (.processedCommands, if d.commands.isEmpty then none else some (.texts d.commands))]

/-- Only the ports can keep a device from being exported. -/
theorem toTree_eq (d : Device) :
    d.toTree =
      (d.ports.values.mapM Port.toTree).map fun ports => (empty .root).storeAll (d.fields ports) := by
  have hversion (t : TraitTree) (f : TraitTree → Except TraitFault TraitTree) :
      (if d.version.isEmpty then .ok t >>= f
        else d.version.toTree >>= fun b => t.put .versionConfig (.branch b) >>= f) =
      f (t.storeIf .versionConfig
        (if d.version.isEmpty then none else some (.branch d.version.node))) := by
    split
    · rfl
    · exact bind_of_ok d.version.toTree_eq (bind_of_ok (put_of_accepts rfl t) rfl)
  have hcommands (t : TraitTree) :
      (if d.commands.isEmpty then .ok t else t.put .processedCommands (.texts d.commands)) =
      Except.ok (t.storeIf .processedCommands
        (if d.commands.isEmpty then none else some (.texts d.commands))) := by
    split
    · rfl
    · exact put_of_accepts rfl t
  refine bind_of_ok (putText_of_kind rfl ..) ?_
  refine bind_of_ok (putTextIf_of_kind rfl ..) ?_
  rw [putNodes_of_kind rfl]
  cases d.ports.values.mapM Port.toTree with
  | error fault => rfl
  | ok ports =>
    refine bind_of_ok rfl ?_
    refine bind_of_ok (putNodes_of_forall_ok rfl Vlan.toTree_eq ..) ?_
    refine bind_of_ok (putNodes_of_forall_ok rfl MacRow.toTree_eq ..) ?_
    refine bind_of_ok (putNodes_of_forall_ok rfl ArpRow.toTree_eq ..) ?_
    refine (hversion ..).trans ?_
    refine bind_of_ok (putNodes_of_forall_ok rfl userNode_eq ..) ?_
    exact hcommands _

/-- The tree of a device whose ports can all be exported. -/
def node (d : Device) : TraitTree :=
  (empty .root).storeAll (d.fields (d.ports.values.map Port.node))

theorem toTree_of_fits {d : Device} (h : ∀ p ∈ d.ports.values, p.Fits) :
    d.toTree = .ok d.node := by
  have hports : d.ports.values.mapM Port.toTree = .ok (d.ports.values.map Port.node) := by
    rw [FirstFault.mapM_eq_ok_iff, List.forall₂_map_right_iff, List.forall₂_same]
    exact fun p hp => p.toTree_of_fits (h p hp)
  rw [toTree_eq, hports]
  rfl

theorem fits_of_toTree {d : Device} {t : TraitTree} (h : d.toTree = .ok t) :
    ∀ p ∈ d.ports.values, p.Fits := by
  rw [toTree_eq, FirstFault.map_eq_ok_iff] at h
  obtain ⟨ports, hports, -⟩ := h
  have hall := FirstFault.mapM_eq_ok_iff.1 hports
  intro p hp
  obtain ⟨i, hi⟩ := List.mem_iff_getElem?.1 hp
  obtain ⟨node, -, hnode⟩ := FirstFault.exists_getElem?_of_forall₂ hall hi
  exact Port.fits_of_toTree hnode

/-- A device is exported exactly when the parts of its ports' numbers are ASCII digits of numbers
below 2 to the 31st. Otherwise the fault is that of the first such port, in the order of names, and
of the first such part of its number. A port whose number has no slot is always exported, as a
management interface under its whole name. -/
theorem exported_iff_fits (d : Device) :
    ((∃ t, d.toTree = .ok t) ↔ ∀ p ∈ d.ports.values, p.Fits) ∧
      (∀ fault, d.toTree = .error fault → ∃ before p behind,
        d.ports.values = before ++ p :: behind ∧ (∀ q ∈ before, q.Fits) ∧ p.Refused fault) ∧
      ∀ p ∈ d.ports.values, p.slots? = none → p.Fits ∧ ∃ node, p.toTree = .ok node ∧
        node.identity = .managementInterfaceEntry ∧
        node.text? .interfaceName = some (trimmed p.name) := by
  refine ⟨⟨fun ⟨t, ht⟩ => fits_of_toTree ht, fun h => ⟨_, toTree_of_fits h⟩⟩, ?_, ?_⟩
  · intro fault hfault
    rw [toTree_eq, FirstFault.map_eq_error_iff] at hfault
    obtain ⟨before, p, behind, hvalues, hbefore, hp⟩ := FirstFault.exists_of_mapM_eq_error hfault
    refine ⟨before, p, behind, hvalues, fun q hq => ?_, Port.refused_of_toTree hp⟩
    obtain ⟨node, hnode⟩ := hbefore q hq
    exact Port.fits_of_toTree hnode
  · intro p _ hslots
    have hfits : p.Fits := Port.fits_of_no_slots hslots
    exact ⟨hfits, p.node, p.toTree_of_fits hfits, Port.node_of_no_slots hslots⟩

/-- A session in which a port has a number of 33 bits. -/
def oversized : Bytes := Utf8.encode <|
  "sw#show running-config\nhostname sw\ninterface GigabitEthernet0/4294967296\n".toList ++
    " description x\n!\n!\n!\n".toList

/-- Not every device that is imported can be exported. -/
theorem not_every_import_exports :
    ¬ ∀ file content d, importDevice .standard {} file (some content) = .ok d →
      ∃ t, d.toTree = .ok t := by
  intro h
  have hfault : ((importDevice .standard {} "sw.txt" (some oversized)).toOption.any fun d =>
      decide (d.toTree.toOption.isNone)) = true := by decide +kernel
  cases himport : importDevice .standard {} "sw.txt" (some oversized) with
  | error fault =>
    rw [himport] at hfault
    cases hfault
  | ok d =>
    obtain ⟨t, ht⟩ := h "sw.txt" oversized d himport
    rw [himport] at hfault
    simp [Except.toOption, ht] at hfault

end Device

end HostSurvey
