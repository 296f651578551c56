import HostSurvey.Device.Export
import HostSurvey.Proofs.FirstFault
import HostSurvey.Proofs.NumberText

/-!
# Nodes of an export

Whatever an export stores is of the kind of its trait, so that only reading a
text can fail. The node of an item is then made of fields, values under traits as
far as there are any, and a look-up in the node is one in the fields.
-/

namespace HostSurvey

open Text

/-- A text as it is stored. -/
def TraitValue.ofText (s : String) : TraitValue := .text (trimmed s)

/-- A list of nodes, if there are any. -/
def TraitValue.ofNodes? (nodes : List TraitTree) : Option TraitValue :=
  if nodes.isEmpty then none else some (.list nodes)

/-- The values of a node, as far as there are any. -/
abbrev Fields := List (Trait × Option TraitValue)

/-- Where every key has a single entry, each entry is found. -/
theorem SortedMap.findEntry_of_nodup {κ α : Type} [DecidableEq κ] {l : List (κ × α)}
    (h : (l.map Prod.fst).Nodup) {k : κ} {v : α} (hmem : (k, v) ∈ l) : findEntry k l = some v := by
  induction l with
  | nil => cases hmem
  | cons e l ih =>
    obtain ⟨hnew, hrest⟩ := List.nodup_cons.1 h
    rw [findEntry]
    obtain rfl | hmem := List.mem_cons.1 hmem
    · exact if_pos rfl
    · have hne : e.1 ≠ k := by
        rintro rfl
        exact hnew (List.mem_map.2 ⟨(e.1, v), hmem, rfl⟩)
      rw [if_neg hne, ih hrest hmem]

namespace TraitTree

variable {t : TraitTree} {key : Trait}

def storeIf (t : TraitTree) (key : Trait) (v : Option TraitValue) : TraitTree :=
  match v with
  | some v => t.store key v
  | none => t

def storeAll (t : TraitTree) (fields : Fields) : TraitTree :=
  fields.foldl (fun t f => t.storeIf f.1 f.2) t

theorem get?_storeIf (t : TraitTree) (key k : Trait) (v : Option TraitValue) :
    (t.storeIf key v).get? k = if key = k then v.or (t.get? k) else t.get? k := by
  cases v with
  | none => simp [storeIf]
  | some v => simp [storeIf, get?_store]

theorem identity_storeIf (t : TraitTree) (key : Trait) (v : Option TraitValue) :
    (t.storeIf key v).identity = t.identity := by
  cases v <;> rfl

theorem identity_storeAll (t : TraitTree) (fields : Fields) :
    (t.storeAll fields).identity = t.identity := by
  induction fields generalizing t with
  | nil => rfl
  | cons f fields ih => exact (ih _).trans (identity_storeIf ..)

theorem storeAll_append (t : TraitTree) (fields more : Fields) :
    t.storeAll (fields ++ more) = (t.storeAll fields).storeAll more :=
  List.foldl_append

/-- Where each trait is one of a single field, that field is what stands under it. -/
theorem get?_storeAll {fields : Fields} (h : (fields.map Prod.fst).Nodup) (t : TraitTree)
    (k : Trait) :
    (t.storeAll fields).get? k = ((SortedMap.findEntry k fields).join).or (t.get? k) := by
  induction fields generalizing t with
  | nil => rfl
  | cons f fields ih =>
    obtain ⟨hnew, hrest⟩ := List.nodup_cons.1 h
    have hstep : t.storeAll (f :: fields) = (t.storeIf f.1 f.2).storeAll fields := rfl
    rw [hstep, ih hrest, get?_storeIf, SortedMap.findEntry]
    by_cases hk : f.1 = k
    · have hnone : SortedMap.findEntry k fields = none := by
        rw [← hk, ← Option.not_isSome_iff_eq_none, SortedMap.findEntry_isSome_iff]
        exact hnew
      rw [hnone, if_pos hk, if_pos hk]
      rfl
    · rw [if_neg hk, if_neg hk]

/-- A tree with values under the traits that are marked, and under no others. -/
def Holds (t : TraitTree) (known : List (Trait × Bool)) : Prop :=
  ∀ key, t.contains key = true ↔ (key, true) ∈ known

/-- A node that holds fields, as far as they have values, and nothing else. -/
structure MadeOf (t : TraitTree) (identity : Trait) (fields : Fields) : Prop where
  identity : t.identity = identity
  get? {key : Trait} {v : Option TraitValue} : (key, v) ∈ fields → t.get? key = v
  holds : t.Holds (fields.map fun f => (f.1, f.2.isSome))

theorem madeOf_storeAll {fields : Fields} (h : (fields.map Prod.fst).Nodup) (identity : Trait) :
    ((empty identity).storeAll fields).MadeOf identity fields := by
  -- a field without a value is found, and nothing stands under its trait
  have hget (key : Trait) : ((empty identity).storeAll fields).get? key =
      (SortedMap.findEntry key fields).join := by
    rw [get?_storeAll h]
    exact Option.or_none
  have hfield {key : Trait} {v : Option TraitValue} (hmem : (key, v) ∈ fields) :
      ((empty identity).storeAll fields).get? key = v := by
    rw [hget, SortedMap.findEntry_of_nodup h hmem]
    rfl
  refine ⟨identity_storeAll .., hfield, fun key => ⟨fun hkey => ?_, fun hkey => ?_⟩⟩
  · obtain ⟨v, hv⟩ := Option.isSome_iff_exists.1 hkey
    rw [hget, Option.join_eq_some_iff] at hv
    exact List.mem_map.2 ⟨(key, some v), SortedMap.mem_of_findEntry hv, rfl⟩
  · obtain ⟨⟨k, v⟩, hmem, hpair⟩ := List.mem_map.1 hkey
    obtain ⟨rfl, hv⟩ := Prod.mk.inj hpair
    rw [contains, hfield hmem]
    exact hv

section Readers

variable {t : TraitTree} {key : Trait} {α : Type} {v : Option α}

theorem text?_of_get? {v : Option String} (h : t.get? key = v.map .ofText) :
    t.text? key = v.map trimmed := by
  rw [text?, h]
  cases v <;> rfl

theorem int?_of_get? {f : α → Int32} (h : t.get? key = v.map fun a => .int (f a)) :
    t.int? key = v.map f := by
  rw [int?, h]
  cases v <;> rfl

theorem long?_of_get? {f : α → Int64} (h : t.get? key = v.map fun a => .long (f a)) :
    t.long? key = v.map f := by
  rw [long?, h]
  cases v <;> rfl

theorem getD_list?_of_get? {nodes : List TraitTree} (h : t.get? key = TraitValue.ofNodes? nodes) :
    (t.list? key).getD [] = nodes := by
  rw [list?, h]
  cases nodes <;> rfl

end Readers

/-! ## Values of the right kind -/

theorem putText_of_kind (h : key.kind = .text) (t : TraitTree) (s : String) :
    t.putText key s = .ok (t.store key (.ofText s)) :=
  put_of_accepts (by rw [h]; rfl) t

end TraitTree

open TraitTree

theorem putIf_of_accepts {α : Type} {key : Trait} {f : α → TraitValue}
    (h : ∀ a, key.kind.accepts (f a).form = true) (value : Option α) (t : TraitTree) :
    putIf value (fun t a => t.put key (f a)) t = .ok (t.storeIf key (value.map f)) := by
  cases value with
  | none => rfl
  | some a => exact put_of_accepts (h a) t

theorem putTextIf_of_kind {key : Trait} (h : key.kind = .text) (value : Option String)
    (t : TraitTree) : putTextIf key value t = .ok (t.storeIf key (value.map .ofText)) := by
  cases value with
  | none => rfl
  | some s => exact putText_of_kind h t s

/-- A list of nodes is stored as soon as each item has its node. -/
theorem putNodes_of_kind {α : Type} {key : Trait} (h : key.kind = .list) (items : List α)
    (node : α → Except TraitFault TraitTree) (t : TraitTree) :
    putNodes key items node t =
      (items.mapM node).map fun nodes => t.storeIf key (TraitValue.ofNodes? nodes) := by
  cases items with
  | nil => rfl
  | cons a items =>
    rw [putNodes, if_neg (by simp)]
    cases hnodes : (a :: items).mapM node with
    | error fault => rfl
    | ok nodes =>
      have hput : t.put key (.list nodes) = .ok (t.store key (.list nodes)) :=
        put_of_accepts (by rw [h]; rfl) t
      have hne : nodes ≠ [] := by
        rintro rfl
        cases FirstFault.mapM_eq_ok_iff.1 hnodes
      refine hput.trans ?_
      rw [Except.map, TraitValue.ofNodes?, if_neg (by simpa using hne)]
      rfl

/-- Items that all have their nodes. -/
theorem putNodes_of_forall_ok {α : Type} {key : Trait} {node : α → Except TraitFault TraitTree}
    {f : α → TraitTree} (h : key.kind = .list) (hf : ∀ a, node a = .ok (f a)) (items : List α)
    (t : TraitTree) :
    putNodes key items node t = .ok (t.storeIf key (TraitValue.ofNodes? (items.map f))) := by
  have hnodes : items.mapM node = .ok (items.map f) := by
    rw [FirstFault.mapM_eq_ok_iff, List.forall₂_map_right_iff]
    exact List.forall₂_same.2 fun a _ => hf a
  rw [putNodes_of_kind h, hnodes]
  rfl

/-! ## Rows -/

/-- One step of an export that succeeds. -/
theorem bind_of_ok {α β : Type} {x : Except TraitFault α} {a : α} {f : α → Except TraitFault β}
    {r : Except TraitFault β} (hx : x = .ok a) (hf : f a = r) : x >>= f = r := by
  rw [hx]
  exact hf

def Vlan.fields (v : Vlan) : Fields :=
  [(.vlanId, some (.int v.id.toUInt32.toInt32)), (.description, v.name.map .ofText),
    (.ipv4, v.ip.map fun ip => .int ip.toInt32),
    (.cidr, v.cidr.map fun n => .int n.toUInt32.toInt32)]

def Vlan.node (v : Vlan) : TraitTree := (empty .vlan).storeAll v.fields

theorem Vlan.toTree_eq (v : Vlan) : v.toTree = .ok v.node := by
  refine bind_of_ok (put_of_accepts rfl _) ?_
  refine bind_of_ok (putTextIf_of_kind rfl ..) ?_
  refine bind_of_ok (putIf_of_accepts (fun _ => rfl) ..) ?_
  exact putIf_of_accepts (fun _ => rfl) ..

def MacRow.fields (r : MacRow) : Fields :=
  [(.macAddr, some (.long r.mac.toInt64)), (.interfaceName, some (.ofText r.port)),
    (.vlanId, r.vlan.map fun id => .int id.toUInt32.toInt32)]

def MacRow.node (r : MacRow) : TraitTree := (empty .switchInterfaces).storeAll r.fields

theorem MacRow.toTree_eq (r : MacRow) : r.toTree = .ok r.node := by
  refine bind_of_ok (put_of_accepts rfl _) ?_
  refine bind_of_ok (putText_of_kind rfl ..) ?_
  exact putIf_of_accepts (fun _ => rfl) ..

def ArpRow.fields (r : ArpRow) : Fields :=
  [(.proto, some (.ofText r.protocol)), (.ipv4, some (.int r.ip.toInt32)),
    (.macAddr, some (.long r.mac.toInt64)), (.interfaceName, some (.ofText r.interface))]

def ArpRow.node (r : ArpRow) : TraitTree := (empty .arpEntry).storeAll r.fields

/-- An address that is written and read again is the integer of its bits. -/
theorem Ipv4.read_chars (ip : Ipv4) : Trait.read .ipv4 ip.chars = .ok (.int ip.toInt32) := by
  rw [Trait.read]
  simp only [Trait.reading?, Reading.read, trim_of_unbroken ip.unbroken_chars, ip.parse?_chars]
  rfl

theorem ArpRow.toTree_eq (r : ArpRow) : r.toTree = .ok r.node := by
  refine bind_of_ok (putText_of_kind rfl ..) ?_
  refine bind_of_ok (bind_of_ok r.ip.read_chars (put_of_accepts rfl _)) ?_
  refine bind_of_ok (put_of_accepts rfl _) ?_
  exact putText_of_kind rfl ..

def VersionInfo.fields (v : VersionInfo) : Fields :=
  [(.versionNo, v.version.map .ofText), (.versionModel, v.model.map .ofText),
    (.versionSerialNo, v.serial.map .ofText), (.versionSoftwareImage, v.image.map .ofText)]

def VersionInfo.node (v : VersionInfo) : TraitTree := (empty .versionConfig).storeAll v.fields

theorem VersionInfo.toTree_eq (v : VersionInfo) : v.toTree = .ok v.node := by
  refine bind_of_ok (putTextIf_of_kind rfl ..) ?_
  refine bind_of_ok (putTextIf_of_kind rfl ..) ?_
  refine bind_of_ok (putTextIf_of_kind rfl ..) ?_
  exact putTextIf_of_kind rfl ..

def userFields (user : String × Option String) : Fields :=
  [(.username, some (.ofText user.1)), (.password, user.2.map .ofText)]

def userEntry (user : String × Option String) : TraitTree :=
  (empty .usernameEntry).storeAll (userFields user)

theorem userNode_eq (user : String × Option String) : userNode user = .ok (userEntry user) := by
  refine bind_of_ok (putText_of_kind rfl ..) ?_
  exact putTextIf_of_kind rfl ..

def subInterfaceFields (id : UInt32) : Fields := [(.subInterfaceId, some (.int id.toInt32))]

def subInterfaceEntry (id : UInt32) : TraitTree :=
  (empty .subInterfaceEntry).storeAll (subInterfaceFields id)

theorem subInterfaceNode_eq (id : UInt32) :
    Port.subInterfaceNode id = .ok (subInterfaceEntry id) :=
  put_of_accepts rfl _

end HostSurvey
