import HostSurvey.Proofs.ExportedTree
import HostSurvey.Proofs.LocatedGaps

/-!
# Gaps of an export

An export stores a list only when it has items and a node only with the traits that
its identity requires, hardware addresses of ports aside. All that the tree of a
device lacks is then the address of each port that has a slot number and no address,
in the order of the ports' names.
-/

namespace HostSurvey

open Text TraitTree

/-! ## Whole trees -/

namespace TraitTree

/-- A tree that lacks nothing anywhere. -/
def Whole (t : TraitTree) : Prop :=
  ∀ path node, t.follow? path = some node →
    Ascending node.keys ∧ node.Complete TraitValue.isEmptyList

theorem Whole.ordered {t : TraitTree} (ht : t.Whole) : t.Ordered :=
  fun path node hnode => (ht path node hnode).1

end TraitTree

namespace TraitValue

/-- A value that is no empty list and holds whole nodes only. -/
structure Whole (v : TraitValue) : Prop where
  filled : v.isEmptyList = false
  nodes : ∀ node ∈ v.nodes, node.Whole

@[simp] theorem whole_ofText (s : String) : (ofText s).Whole := ⟨rfl, fun _ h => by cases h⟩

@[simp] theorem whole_int (n : Int32) : (int n).Whole := ⟨rfl, fun _ h => by cases h⟩

@[simp] theorem whole_long (n : Int64) : (long n).Whole := ⟨rfl, fun _ h => by cases h⟩

theorem whole_branch {t : TraitTree} (ht : t.Whole) : (branch t).Whole :=
  ⟨rfl, fun node hnode => by
    obtain rfl := List.mem_singleton.1 hnode
    exact ht⟩

theorem whole_texts {l : List String} (h : l.isEmpty = false) : (texts l).Whole := by
  refine ⟨?_, fun _ h => by cases h⟩
  cases l with
  | nil => cases h
  | cons s l => rfl

theorem whole_ints {l : List Int32} (h : l.isEmpty = false) : (ints l).Whole := by
  refine ⟨?_, fun _ h => by cases h⟩
  cases l with
  | nil => cases h
  | cons n l => rfl

/-- A list that is stored has items. -/
theorem ofNodes?_eq_some {nodes : List TraitTree} {v : TraitValue} (h : ofNodes? nodes = some v) :
    nodes ≠ [] ∧ v = .list nodes := by
  unfold ofNodes? at h
  split at h
  · cases h
  · rename_i hne
    exact ⟨by simpa using hne, (Option.some.inj h).symm⟩

/-- A list of rows, stored when there are any. -/
theorem whole_of_rows {α : Type} {node : α → TraitTree} (hnode : ∀ a, (node a).Whole)
    (items : List α) : ∀ v ∈ ofNodes? (items.map node), v.Whole := by
  intro v hv
  obtain ⟨hne, rfl⟩ := ofNodes?_eq_some hv
  refine ⟨?_, fun t ht => ?_⟩
  · cases items with
    | nil => exact absurd rfl hne
    | cons a items => rfl
  · obtain ⟨a, -, rfl⟩ := List.mem_map.1 ht
    exact hnode a

/-- A value that is stored when it is not empty. -/
theorem whole_of_ite {empty : Bool} {w : TraitValue} (hw : empty = false → w.Whole) :
    ∀ v ∈ (if empty then none else some w), v.Whole := by
  intro v hv
  cases empty with
  | true => cases hv
  | false =>
    obtain rfl := Option.some.inj hv
    exact hw rfl

end TraitValue

namespace TraitTree

variable {t : TraitTree} {identity : Trait} {fields : Fields} {bare : TraitValue → Bool}

theorem ascending_storeAll (ht : Ascending t.keys) (fields : Fields) :
    Ascending (t.storeAll fields).keys := by
  induction fields generalizing t with
  | nil => exact ht
  | cons f fields ih =>
    refine ih ?_
    obtain ⟨key, v⟩ := f
    cases v with
    | none => exact ht
    | some v => exact ascending_store ht

/-- What is found in a node stands in one of its fields. -/
theorem MadeOf.mem_fields (h : t.MadeOf identity fields) {key : Trait} {v : TraitValue}
    (hv : t.get? key = some v) : (key, some v) ∈ fields := by
  have hcontains : t.contains key = true := by rw [contains, hv]; rfl
  obtain ⟨⟨k, w⟩, hmem, heq⟩ := List.mem_map.1 ((h.holds key).1 hcontains)
  obtain ⟨rfl, hw⟩ := Prod.mk.inj heq
  rw [h.get? hmem] at hv
  rwa [← hv]

theorem ordered_of_madeOf (ht : Ascending t.keys) (h : t.MadeOf identity fields)
    (hnodes : ∀ f ∈ fields, ∀ v ∈ f.2, ∀ node ∈ v.nodes, node.Ordered) : t.Ordered :=
  forall_follow?_iff.2 ⟨ht, fun _ v hv => hnodes _ (h.mem_fields hv) v rfl⟩

/-- A node is whole when its fields are, and what it requires is among them. -/
theorem whole_of_madeOf (ht : Ascending t.keys) (h : t.MadeOf identity fields)
    (hvalues : ∀ f ∈ fields, ∀ v ∈ f.2, v.Whole) (hfilled : ∃ key v, (key, some v) ∈ fields)
    (hrequired : ∀ key ∈ identity.required, ∃ v, (key, some v) ∈ fields) : t.Whole := by
  refine forall_follow?_iff.2 ⟨⟨ht, ?_, fun key hkey => ?_, fun key v hv => ?_⟩, fun key v hv => ?_⟩
  · obtain ⟨key, v, hv⟩ := hfilled
    intro hnone
    have hget := h.get? hv
    rw [get?, hnone] at hget
    cases hget
  · rw [h.identity] at hkey
    obtain ⟨v, hv⟩ := hrequired key hkey
    exact ⟨v, h.get? hv⟩
  · exact (hvalues _ (h.mem_fields hv) v rfl).filled
  · exact (hvalues _ (h.mem_fields hv) v rfl).nodes

theorem Whole.located_eq_nil (hbare : ∀ v, bare v = true → v.isEmptyList = true) (ht : t.Whole) :
    t.located bare = [] := by
  refine (located_eq_nil_iff ht.ordered).2 fun path node hnode => ?_
  obtain ⟨hfilled, hrequired, hlists⟩ := (ht path node hnode).2
  refine ⟨hfilled, hrequired, fun key v hv => Bool.eq_false_iff.2 fun hv' => ?_⟩
  have hlist := hlists key v hv
  rw [hbare v hv'] at hlist
  cases hlist

end TraitTree

theorem TraitValue.Whole.located_eq_nil {bare : TraitValue → Bool}
    (hbare : ∀ v, bare v = true → v.isEmptyList = true) {v : TraitValue} (hv : v.Whole)
    (key : Trait) : locatedInValue bare key v = [] := by
  have hempty : bare v = false := by
    by_contra hne
    have hlist := hbare v (by simpa using hne)
    rw [hv.filled] at hlist
    cases hlist
  have hnodes :
      (v.steps key).flatMap (fun n => (n.2.located bare).map (PlacedGap.under n.1)) = [] := by
    refine List.flatMap_eq_nil_iff.2 fun n hn => ?_
    have hmem : n.2 ∈ v.nodes := by
      rw [← v.map_snd_steps key]
      exact List.mem_map_of_mem hn
    rw [(hv.nodes _ hmem).located_eq_nil hbare, List.map_nil]
  rw [locatedInValue_eq, hempty, hnodes]
  rfl

/-! ## Rows -/

namespace TraitTree

theorem whole_storeAll {identity : Trait} {fields : Fields} (h : (fields.map Prod.fst).Nodup)
    (hvalues : ∀ f ∈ fields, ∀ v ∈ f.2, v.Whole) (hfilled : ∃ key v, (key, some v) ∈ fields)
    (hrequired : ∀ key ∈ identity.required, ∃ v, (key, some v) ∈ fields) :
    ((empty identity).storeAll fields).Whole :=
  whole_of_madeOf (ascending_storeAll (t := empty identity) ascending_nil _) (madeOf_storeAll h _)
    hvalues hfilled hrequired

end TraitTree

theorem Vlan.whole_node (v : Vlan) : v.node.Whole :=
  whole_storeAll (by simp [fields]) (by simp [fields]) ⟨_, _, List.mem_cons_self⟩
    (by simp [Trait.required, fields])

theorem MacRow.whole_node (r : MacRow) : r.node.Whole :=
  whole_storeAll (by simp [fields]) (by simp [fields]) ⟨_, _, List.mem_cons_self⟩
    (by simp [Trait.required])

theorem ArpRow.whole_node (r : ArpRow) : r.node.Whole :=
  whole_storeAll (by simp [fields]) (by simp [fields]) ⟨_, _, List.mem_cons_self⟩
    (by simp [Trait.required, fields])

theorem whole_userEntry (user : String × Option String) : (userEntry user).Whole :=
  whole_storeAll (by simp [userFields]) (by simp [userFields]) ⟨_, _, List.mem_cons_self⟩
    (by simp [Trait.required, userFields])

theorem whole_subInterfaceEntry (id : UInt32) : (subInterfaceEntry id).Whole :=
  whole_storeAll (by simp [subInterfaceFields]) (by simp [subInterfaceFields])
    ⟨_, _, List.mem_cons_self⟩ (by simp [Trait.required, subInterfaceFields])

theorem VersionInfo.whole_node {v : VersionInfo} (h : v.isEmpty = false) : v.node.Whole := by
  refine whole_storeAll (by simp [fields]) (by simp [fields]) ?_ (by simp [Trait.required])
  -- a version of which nothing is known would be empty
  by_contra hnone
  have hno (f) (hf : f ∈ v.fields) : f.2 = none :=
    Option.eq_none_iff_forall_ne_some.2 fun w hw => hnone ⟨f.1, w, hw ▸ hf⟩
  simp [fields] at hno
  simp [isEmpty, hno] at h

/-! ## Ports -/

namespace TraitTree

variable {t : TraitTree} {bare : TraitValue → Bool}

theorem get?_of_mem_entries (ht : Ascending t.keys) {e : Trait × TraitValue} (he : e ∈ t.entries) :
    t.get? e.1 = some e.2 :=
  SortedMap.findEntry_of_mem ht he

theorem ownGaps_of_get? {key : Trait} {v : TraitValue} (h : t.get? key = some v) :
    t.ownGaps = (t.identity.required.filter fun key => (t.get? key).isNone).map
      (.missing t.identity) := by
  rw [ownGaps, if_neg]
  · rfl
  · intro hempty
    rw [get?, List.isEmpty_iff.1 hempty] at h
    cases h

theorem get?_of_text? {key : Trait} {s : String} (h : t.text? key = some s) :
    t.get? key = some (.text s) := by
  unfold text? at h
  split at h
  · rename_i hs
    rw [hs, Option.some.inj h]
  · cases h

theorem get?_of_int? {key : Trait} {n : Int32} (h : t.int? key = some n) :
    t.get? key = some (.int n) := by
  unfold int? at h
  split at h
  · rename_i hn
    rw [hn, Option.some.inj h]
  · cases h

end TraitTree

/-- The missing address of a port. -/
abbrev Gap.noAddress : Gap := .missing .interfaceListEntry .macAddr

namespace Port

/-- A port that is exported with its slot number and has no hardware address. -/
def isUnaddressed (p : Port) : Bool :=
  p.toTree.toOption.any (fun node => node.identity == .interfaceListEntry) && p.mac.isNone

variable {p : Port} {bare : TraitValue → Bool}

theorem ascending_node (p : Port) : Ascending p.node.keys :=
  ascending_storeAll (t := empty p.heading.1) ascending_nil _

theorem whole_heading (p : Port) : ∀ f ∈ p.heading.2, ∀ v ∈ f.2, v.Whole := by
  rw [heading]
  cases p.slots? with
  | none => simp
  | some s =>
    intro f hf
    obtain hpart | hname := List.mem_append.1 hf
    · obtain ⟨part, -, rfl⟩ := List.mem_map.1 hpart
      simp
    · obtain rfl := List.mem_singleton.1 hname
      simp

theorem whole_fields (p : Port) : ∀ f ∈ p.fields, ∀ v ∈ f.2, v.Whole := by
  have hvlans : ∀ v ∈ (if p.vlans.isEmpty then none
      else some (TraitValue.ints (p.vlans.toList.map fun id => id.toUInt32.toInt32))), v.Whole :=
    TraitValue.whole_of_ite fun hfilled => TraitValue.whole_ints (List.isEmpty_map.trans hfilled)
  have hsubs := TraitValue.whole_of_rows whole_subInterfaceEntry p.subInterfaces.toList
  simp only [fields, List.forall_mem_cons]
  refine ⟨?_, ?_, ?_, ?_, ?_, ?_, ?_, ?_, hvlans, hsubs, by simp⟩ <;> simp

/-- The values of a port's node are whole: lists are stored when they have items. -/
theorem whole_nodeFields (p : Port) : ∀ f ∈ p.nodeFields, ∀ v ∈ f.2, v.Whole :=
  List.forall_mem_append.2 ⟨p.whole_heading, p.whole_fields⟩

theorem ordered_node (p : Port) : p.node.Ordered :=
  ordered_of_madeOf p.ascending_node p.madeOf_node fun f hf v hv node hnode =>
    ((p.whole_nodeFields f hf v hv).nodes node hnode).ordered

theorem interfaceId_mem_of_slots? {kind : List Char} {parts : List (Trait × List Char)}
    (h : p.slots? = some (kind, parts)) : Trait.interfaceId ∈ parts.map Prod.fst := by
  have hkeys := keys_of_slots? h
  simp only [List.mem_cons, List.not_mem_nil, or_false] at hkeys
  obtain hkeys | hkeys | hkeys := hkeys <;> simp [hkeys]

/-- By itself a port's node lacks at most the address: it has a name, and a number where the port
has a slot. -/
theorem ownGaps_node (h : p.Fits) :
    p.node.ownGaps = if p.isUnaddressed then [.noAddress] else [] := by
  have hnode : p.toTree.toOption = some p.node := by rw [toTree_of_fits h]; rfl
  have hmac : p.node.get? .macAddr = p.mac.map fun m => .long m.toInt64 :=
    p.madeOf_node.get? (List.mem_append_right _ (by simp [fields]))
  rw [isUnaddressed, hnode, Option.any_some]
  cases hslots : p.slots? with
  | none =>
    obtain ⟨hidentity, hname⟩ := node_of_no_slots hslots
    rw [ownGaps_of_get? (get?_of_text? hname), hidentity]
    simp [Trait.required, get?_of_text? hname]
  | some s =>
    obtain ⟨kind, parts⟩ := s
    obtain ⟨hidentity, hname, hnumbers⟩ := node_of_slots hslots
    obtain ⟨part, hpart, hkey⟩ := List.mem_map.1 (interfaceId_mem_of_slots? hslots)
    have hid := get?_of_int? (hnumbers part hpart)
    rw [hkey] at hid
    rw [ownGaps_of_get? hid, hidentity]
    cases haddress : p.mac <;>
      simp [Trait.required, get?_of_text? hname, hid, hmac, haddress]

theorem located_node (hbare : ∀ v, bare v = true → v.isEmptyList = true) (h : p.Fits) :
    p.node.located bare = if p.isUnaddressed then [([], .noAddress)] else [] := by
  have hentries : p.node.entries.flatMap (fun e => locatedInValue bare e.1 e.2) = [] := by
    refine List.flatMap_eq_nil_iff.2 fun e he => ?_
    have hfield := p.madeOf_node.mem_fields (get?_of_mem_entries p.ascending_node he)
    exact (p.whole_nodeFields _ hfield e.2 rfl).located_eq_nil hbare e.1
  rw [located_eq, hentries, ownGaps_node h]
  split <;> rfl

end Port

/-! ## Devices -/

/-- Entries of which only those under one key contribute. -/
theorem SortedMap.flatMap_of_single {κ α β : Type} [Ord κ] [Std.TransOrd κ] [Std.LawfulEqOrd κ]
    [DecidableEq κ] {l : List (κ × α)} (hl : Ascending (l.map Prod.fst)) {f : κ × α → List β}
    {k : κ} (h : ∀ e ∈ l, e.1 ≠ k → f e = []) :
    l.flatMap f = ((findEntry k l).map fun v => f (k, v)).getD [] := by
  induction l with
  | nil => rfl
  | cons e l ih =>
    obtain ⟨hfirst, hrest⟩ := List.forall_mem_cons.1 h
    rw [List.flatMap_cons, findEntry]
    by_cases hk : e.1 = k
    · subst hk
      have hnew := not_mem_keys_of_ascending hl
      have hothers : l.flatMap f = [] := List.flatMap_eq_nil_iff.2 fun x hx =>
        hrest x hx fun heq => hnew (heq ▸ List.mem_map_of_mem hx)
      rw [if_pos rfl, hothers, List.append_nil]
      rfl
    · rw [if_neg hk, hfirst hk, List.nil_append, ih (List.pairwise_cons.1 hl).2 hrest]

theorem flatMap_ite_singleton {α β : Type} (l : List α) (p : α → Bool) (f : α → β) :
    l.flatMap (fun a => if p a then [f a] else []) = (l.filter p).map f := by
  induction l with
  | nil => rfl
  | cons a l ih =>
    rw [List.flatMap_cons, ih, List.filter_cons]
    split <;> rfl

/-- What is missing in a list of nodes is missing in its items. -/
theorem located_ofNodes? {bare : TraitValue → Bool}
    (hbare : ∀ v, bare v = true → v.isEmptyList = true) (key : Trait) (nodes : List TraitTree) :
    ((TraitValue.ofNodes? nodes).map fun v => locatedInValue bare key v).getD [] =
      nodes.zipIdx.flatMap fun n => (n.1.located bare).map (PlacedGap.under (.item key n.2)) := by
  cases nodes with
  | nil => rfl
  | cons node nodes =>
    have hlist : bare (.list (node :: nodes)) = false :=
      Bool.eq_false_iff.2 fun h => by cases hbare _ h
    have hvalue : locatedInValue bare key (.list (node :: nodes)) =
        locatedInTrees bare key 0 (node :: nodes) := by
      rw [locatedInValue, hlist]
      rfl
    rw [← locatedInTrees_eq, ← hvalue]
    rfl

namespace Device

variable {d : Device} {t : TraitTree} {bare : TraitValue → Bool}

/-- The ports without a hardware address that are exported with their slot numbers, each as the
place of its node and what is missing there, in the order of the ports' names. -/
def unaddressed (d : Device) : List PlacedGap :=
  (d.ports.values.zipIdx.filter fun n => n.1.isUnaddressed).map fun n =>
    ([.item .interfaceList n.2], .noAddress)

theorem map_snd_unaddressed (d : Device) :
    d.unaddressed.map Prod.snd =
      (d.ports.values.filter Port.isUnaddressed).map fun _ => .noAddress := by
  have hports : (d.ports.values.zipIdx.filter fun n => n.1.isUnaddressed).map Prod.fst =
      d.ports.values.filter Port.isUnaddressed := by
    conv_rhs => rw [← List.zipIdx_map_fst 0 d.ports.values]
    rw [List.filter_map]
    rfl
  rw [unaddressed, ← hports, List.map_map, List.map_map]
  rfl

theorem ascending_node (d : Device) : Ascending d.node.keys :=
  ascending_storeAll (t := empty .root) ascending_nil _

/-- Besides the ports all that the tree of a device holds is whole. -/
theorem whole_fields (d : Device) (ports : List TraitTree) :
    ∀ f ∈ d.fields ports, f.1 ≠ .interfaceList → ∀ v ∈ f.2, v.Whole := by
  have hversion : ∀ v ∈ (if d.version.isEmpty then none
      else some (TraitValue.branch d.version.node)), v.Whole :=
    TraitValue.whole_of_ite fun h => TraitValue.whole_branch (VersionInfo.whole_node h)
  have hcommands : ∀ v ∈ (if d.commands.isEmpty then none
      else some (TraitValue.texts d.commands)), v.Whole :=
    TraitValue.whole_of_ite TraitValue.whole_texts
  simp only [fields, List.forall_mem_cons]
  exact ⟨fun _ => by simp, fun _ => by simp, fun h => absurd rfl h,
    fun _ => TraitValue.whole_of_rows Vlan.whole_node _,
    fun _ => TraitValue.whole_of_rows MacRow.whole_node _,
    fun _ => TraitValue.whole_of_rows ArpRow.whole_node _, fun _ => hversion,
    fun _ => TraitValue.whole_of_rows whole_userEntry _, fun _ => hcommands, by simp⟩

theorem ownGaps_node (d : Device) : d.node.ownGaps = [] := by
  have hname : d.node.get? .deviceName = some (.ofText d.name) :=
    d.madeOf_node.get? List.mem_cons_self
  rw [ownGaps_of_get? hname, d.madeOf_node.identity]
  rfl

/-- The tree of a device lacks the addresses of its ports and nothing else. -/
theorem located_node (hbare : ∀ v, bare v = true → v.isEmptyList = true)
    (hfits : ∀ p ∈ d.ports.values, p.Fits) : d.node.located bare = d.unaddressed := by
  have hother (e) (he : e ∈ d.node.entries) (hkey : e.1 ≠ .interfaceList) :
      locatedInValue bare e.1 e.2 = [] := by
    have hfield := d.madeOf_node.mem_fields (get?_of_mem_entries d.ascending_node he)
    exact (d.whole_fields _ _ hfield hkey e.2 rfl).located_eq_nil hbare e.1
  have hports : SortedMap.findEntry .interfaceList d.node.entries =
      TraitValue.ofNodes? (d.ports.values.map Port.node) :=
    d.madeOf_node.get? (by simp [fields])
  have hport (n) (hn : n ∈ d.ports.values.zipIdx) :
      (n.1.node.located bare).map (PlacedGap.under (.item .interfaceList n.2)) =
        if n.1.isUnaddressed then [([.item .interfaceList n.2], .noAddress)] else [] := by
    rw [Port.located_node hbare (hfits n.1 (List.fst_mem_of_mem_zipIdx hn))]
    split <;> rfl
  rw [located_eq, ownGaps_node, SortedMap.flatMap_of_single d.ascending_node hother, hports,
    located_ofNodes? hbare, List.zipIdx_map, List.flatMap_map, unaddressed,
    ← flatMap_ite_singleton]
  refine List.flatMap_congr fun n hn => ?_
  rw [Prod.map_fst, Prod.map_snd, id_eq]
  exact hport n hn

theorem ordered_node (d : Device) : d.node.Ordered := by
  refine ordered_of_madeOf d.ascending_node d.madeOf_node fun f hf v hv node hnode => ?_
  by_cases hkey : f.1 = .interfaceList
  · have hports : d.node.get? .interfaceList = TraitValue.ofNodes? (d.ports.values.map Port.node) :=
      d.madeOf_node.get? (by simp [fields])
    have hlist : TraitValue.ofNodes? (d.ports.values.map Port.node) = some v := by
      rw [← hports, ← hkey, d.madeOf_node.get? hf]
      exact hv
    obtain ⟨-, rfl⟩ := TraitValue.ofNodes?_eq_some hlist
    obtain ⟨p, -, rfl⟩ := List.mem_map.1 hnode
    exact p.ordered_node
  · exact ((d.whole_fields _ f hf hkey v hv).nodes node hnode).ordered

/-- What is told of an exported device is, in the order of the ports' names, the missing address of
each port that is exported with its slot number and has no address. No node of the tree lacks
anything else: none is empty, no list is, be it of nodes, texts or integers, and nothing else that
a node requires is missing. -/
theorem gaps_of_export (hd : Surveyed d) (h : d.toTree = .ok t) :
    Ascending (d.ports.values.map (·.name)) ∧
      t.gaps = (d.ports.values.filter Port.isUnaddressed).map (fun _ => .noAddress) ∧
      d.unaddressed.map Prod.snd = t.gaps ∧
      ∀ path gap, (path, gap) ∈ d.unaddressed ↔
        ∃ node, t.follow? path = some node ∧ node.Lacks TraitValue.isEmptyList gap := by
  have hfits := fits_of_toTree h
  rw [toTree_of_fits hfits] at h
  obtain rfl := Except.ok.inj h
  have hgaps : d.unaddressed.map Prod.snd = d.node.gaps := by
    rw [← map_snd_located, located_node (fun v hv => ?_) hfits]
    exact TraitValue.isEmptyList_iff.2 (.inl hv)
  refine ⟨ports_by_name hd.linked_keyed.1, ?_, hgaps, fun path gap => ?_⟩
  · rw [← hgaps, map_snd_unaddressed]
  · rw [← located_node (fun v hv => hv) hfits, mem_located_iff d.ordered_node]

/-- A session with three ports: one has a slot alone, one an address as well, and one neither. -/
def halfAddressed : Bytes := Utf8.encode <|
  "sw#sh run\ninterface Gi1/1\n!\ninterface Ma1\nsw#sh interfaces\n".toList ++
    "Gi1/2 is up, line protocol is up\n Hardware is CN, address is 0011.2233.4455\n".toList

/-- Only the port with a slot and no address is told. -/
theorem gaps_of_export_halfAddressed :
    ∃ d t, importDevice .standard { shortest := 1 } "sw.txt" (some halfAddressed) = .ok d ∧
      d.toTree = .ok t ∧ (d.ports.values.filter Port.isUnaddressed).map (·.name) =
        ["Gi1/1"] ∧ d.ports.values.length = 3 ∧ t.gaps = [.noAddress] := by
  have hread : ((importDevice .standard { shortest := 1 } "sw.txt"
      (some halfAddressed)).toOption.any fun d =>
        d.toTree.toOption.isSome && (d.ports.values.filter Port.isUnaddressed).map (·.name) ==
          ["Gi1/1"] && d.ports.values.length == 3) = true := by decide +kernel
  cases himport : importDevice .standard { shortest := 1 } "sw.txt" (some halfAddressed) with
  | error fault =>
    rw [himport] at hread
    cases hread
  | ok d =>
    cases htree : d.toTree with
    | error fault => simp [himport, htree, Except.toOption] at hread
    | ok t =>
      simp only [himport, htree, Except.toOption, Option.any_some, Bool.and_eq_true, beq_iff_eq,
        Option.isSome_some, true_and] at hread
      obtain ⟨hports, hlength⟩ := hread
      obtain ⟨-, hgaps, -⟩ := gaps_of_export (surveyed_of_importDevice himport) htree
      obtain ⟨p, hp, -⟩ := List.map_eq_singleton_iff.1 hports
      refine ⟨d, t, rfl, htree, hports, hlength, ?_⟩
      rw [hgaps, hp]
      rfl

end Device

end HostSurvey
