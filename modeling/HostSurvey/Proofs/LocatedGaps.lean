import HostSurvey.Proofs.TypedTrees
import HostSurvey.Tree.Check
import Mathlib.Data.List.Nodup

/-!
# Gaps and their places

A gap of a tree stands at a place, the path to the node that has it. What a tree
lacks is said of the nodes at the ends of its paths (`Lacks`), and the gaps of a
tree are all that it lacks, once for each place, but for lists of integers without
items: those are passed over.
-/

namespace HostSurvey

open TraitTree

namespace TraitValue

/-- A list of any sort that has no items. -/
def isEmptyList : TraitValue → Bool
  | .list [] | .texts [] | .ints [] => true
  | _ => false

/-- A list without items that makes a gap. -/
def isGap : TraitValue → Bool
  | .list [] | .texts [] => true
  | _ => false

/-- Of the lists without items only those of integers make no gap. -/
theorem isEmptyList_iff {v : TraitValue} : v.isEmptyList = true ↔ v.isGap = true ∨ v = .ints [] := by
  cases v with
  | list l => cases l <;> simp [isEmptyList, isGap]
  | texts l => cases l <;> simp [isEmptyList, isGap]
  | ints l => cases l <;> simp [isEmptyList, isGap]
  | _ => simp [isEmptyList, isGap]

/-- The nodes that a value under a trait holds, each with the step that leads to it. -/
def steps (key : Trait) : TraitValue → List (Descent × TraitTree)
  | .branch t => [(.branch key, t)]
  | .list ts => ts.zipIdx.map fun n => (.item key n.2, n.1)
  | _ => []

theorem map_snd_steps (key : Trait) (v : TraitValue) : (v.steps key).map Prod.snd = v.nodes := by
  cases v with
  | list ts => simp [steps, nodes, Function.comp_def, List.zipIdx_map_fst]
  | _ => rfl

end TraitValue

namespace TraitTree

/-- The trait under which a step leads. -/
def Descent.key : Descent → Trait
  | .branch key | .item key _ => key

theorem sizeOf_node_lt {t node : TraitTree} {e : Trait × TraitValue} (he : e ∈ t.entries)
    (hnode : node ∈ e.2.nodes) : sizeOf node < sizeOf t := by
  obtain ⟨identity, entries⟩ := t
  obtain ⟨key, v⟩ := e
  have hentry : sizeOf (key, v) < sizeOf entries := List.sizeOf_lt_of_mem he
  have hvalue : sizeOf node < sizeOf v := by
    cases v with
    | branch b =>
      obtain rfl := List.mem_singleton.1 hnode
      simp
    | list l =>
      have hitem : sizeOf node < sizeOf l := List.sizeOf_lt_of_mem hnode
      simp
      omega
    | _ => cases hnode
  simp at hentry ⊢
  omega

/-- What holds of a tree as soon as it holds of all nodes in its values holds of every tree. -/
theorem induction_on_nodes {P : TraitTree → Prop}
    (step : ∀ t : TraitTree, (∀ e ∈ t.entries, ∀ node ∈ e.2.nodes, P node) → P t) (t : TraitTree) :
    P t :=
  (measure (sizeOf : TraitTree → Nat)).wf.induction t fun t ih =>
    step t fun _ he node hnode => ih node (sizeOf_node_lt he hnode)

/-- The gaps that a node has by itself, its lists aside. -/
def ownGaps (t : TraitTree) : List Gap :=
  if t.isEmpty then [.emptyNode t.identity] else missingTraits t.identity t.entries

end TraitTree

/-! ## The gaps of a tree, one node at a time -/

theorem gapsOfEntries_eq (entries : List (Trait × TraitValue)) :
    gapsOfEntries entries = entries.flatMap fun e => gapsOfValue e.1 e.2 := by
  induction entries with
  | nil => rfl
  | cons e entries ih => rw [gapsOfEntries, ih, List.flatMap_cons]

theorem gapsOfTrees_eq (ts : List TraitTree) : gapsOfTrees ts = ts.flatMap gaps := by
  induction ts with
  | nil => rfl
  | cons t ts ih => rw [gapsOfTrees, ih, List.flatMap_cons]

theorem gapsOfValue_eq (key : Trait) (v : TraitValue) :
    gapsOfValue key v = (if v.isGap then [.emptyList key] else []) ++ v.nodes.flatMap gaps := by
  cases v with
  | branch t => simp [gapsOfValue, TraitValue.isGap, TraitValue.nodes]
  | list ts => cases ts <;> simp [gapsOfValue, gapsOfTrees_eq, TraitValue.isGap, TraitValue.nodes]
  | texts l => cases l <;> rfl
  | _ => rfl

theorem TraitTree.gaps_eq (t : TraitTree) :
    t.gaps = t.ownGaps ++ t.entries.flatMap fun e => gapsOfValue e.1 e.2 := by
  obtain ⟨identity, entries⟩ := t
  cases entries with
  | nil => rfl
  | cons e rest =>
    rw [gaps, gapsOfEntries_eq]
    rfl

/-! ## The gaps with their places -/

/-- A gap and the path to the node that has it. -/
abbrev PlacedGap := List Descent × Gap

/-- The same gap seen from one step above. -/
def PlacedGap.under (d : Descent) (g : PlacedGap) : PlacedGap := (d :: g.1, g.2)

theorem PlacedGap.under_injective (d : Descent) : (PlacedGap.under d).Injective := by
  rintro ⟨path, gap⟩ ⟨path', gap'⟩ h
  cases h
  rfl

/-- The entry of a node that a gap comes from; none when the node has it by itself. -/
def PlacedGap.entry? : PlacedGap → Option Trait
  | (d :: _, _) => some d.key
  | ([], .emptyList key) => some key
  | ([], _) => none

variable {bare : TraitValue → Bool}

mutual

/-- What a tree lacks with the places, in the order in which the tree is walked. Which values count
as lists without items is up to `bare`. -/
def TraitTree.located (bare : TraitValue → Bool) : TraitTree → List PlacedGap
  | .node identity entries =>
    (ownGaps (.node identity entries)).map ([], ·) ++ locatedInEntries bare entries

def locatedInEntries (bare : TraitValue → Bool) : List (Trait × TraitValue) → List PlacedGap
  | [] => []
  | (key, v) :: rest => locatedInValue bare key v ++ locatedInEntries bare rest

def locatedInValue (bare : TraitValue → Bool) (key : Trait) (v : TraitValue) : List PlacedGap :=
  (if bare v then [([], .emptyList key)] else []) ++
    match v with
    | .branch t => (t.located bare).map (PlacedGap.under (.branch key))
    | .list ts => locatedInTrees bare key 0 ts
    | _ => []

def locatedInTrees (bare : TraitValue → Bool) (key : Trait) : Nat → List TraitTree → List PlacedGap
  | _, [] => []
  | i, t :: ts =>
    (t.located bare).map (PlacedGap.under (.item key i)) ++ locatedInTrees bare key (i + 1) ts

end

theorem locatedInEntries_eq (entries : List (Trait × TraitValue)) :
    locatedInEntries bare entries = entries.flatMap fun e => locatedInValue bare e.1 e.2 := by
  induction entries with
  | nil => rfl
  | cons e entries ih => rw [locatedInEntries, ih, List.flatMap_cons]

theorem locatedInTrees_eq (key : Trait) (i : Nat) (ts : List TraitTree) :
    locatedInTrees bare key i ts =
      (ts.zipIdx i).flatMap fun n => (n.1.located bare).map (PlacedGap.under (.item key n.2)) := by
  induction ts generalizing i with
  | nil => rfl
  | cons t ts ih => rw [locatedInTrees, ih, List.zipIdx_cons, List.flatMap_cons]

theorem locatedInValue_eq (key : Trait) (v : TraitValue) :
    locatedInValue bare key v = (if bare v then [([], .emptyList key)] else []) ++
      (v.steps key).flatMap fun n => (n.2.located bare).map (PlacedGap.under n.1) := by
  cases v with
  | branch t => simp [locatedInValue, TraitValue.steps]
  | list ts => simp [locatedInValue, TraitValue.steps, locatedInTrees_eq, List.flatMap_map]
  | _ => simp [locatedInValue, TraitValue.steps]

namespace TraitTree

theorem located_eq (t : TraitTree) :
    t.located bare =
      t.ownGaps.map ([], ·) ++ t.entries.flatMap fun e => locatedInValue bare e.1 e.2 := by
  obtain ⟨identity, entries⟩ := t
  rw [located, locatedInEntries_eq]
  rfl

/-- Without their places they are the gaps of the tree. -/
theorem map_snd_located (t : TraitTree) :
    (t.located TraitValue.isGap).map Prod.snd = t.gaps := by
  induction t using induction_on_nodes with
  | step t ih =>
    have hvalue (e) (he : e ∈ t.entries) :
        (locatedInValue TraitValue.isGap e.1 e.2).map Prod.snd = gapsOfValue e.1 e.2 := by
      have hnodes : (e.2.steps e.1).flatMap
          (fun n => (n.2.located TraitValue.isGap).map Prod.snd) = e.2.nodes.flatMap gaps := by
        rw [← TraitValue.map_snd_steps e.1, List.flatMap_map]
        refine List.flatMap_congr fun n hn => ?_
        refine ih e he n.2 ?_
        rw [← TraitValue.map_snd_steps e.1]
        exact List.mem_map_of_mem hn
      rw [locatedInValue_eq, gapsOfValue_eq, List.map_append, List.map_flatMap, ← hnodes]
      simp only [List.map_map]
      congr 1
      split <;> rfl
    rw [located_eq, gaps_eq, List.map_append, List.map_map, List.map_flatMap,
      List.flatMap_congr hvalue]
    simp [Function.comp_def]

/-! ## What a tree lacks -/

/-- In every node of a tree the traits ascend, the tree itself and those at any depth. -/
def Ordered (t : TraitTree) : Prop :=
  ∀ path node, t.follow? path = some node → Ascending node.keys

theorem Typed.ordered {t : TraitTree} (ht : t.Typed) : t.Ordered :=
  fun path node hnode => (ht path node hnode).ascending

/-- What one node lacks: entries, a trait that it requires, or items in a list. Which lists count
as having none is up to `bare`; a node without entries lacks nothing else. -/
inductive Lacks (bare : TraitValue → Bool) (t : TraitTree) : Gap → Prop
  | entries (hnone : t.entries = []) : t.Lacks bare (.emptyNode t.identity)
  | trait {key : Trait} (hsome : t.entries ≠ []) (hrequired : key ∈ t.identity.required)
      (hmissing : t.get? key = none) : t.Lacks bare (.missing t.identity key)
  | items {key : Trait} {v : TraitValue} (hv : t.get? key = some v) (hbare : bare v = true) :
      t.Lacks bare (.emptyList key)

/-- A node that has entries, all that it requires among them, and no list without items. -/
structure Complete (bare : TraitValue → Bool) (t : TraitTree) : Prop where
  filled : t.entries ≠ []
  required : ∀ key ∈ t.identity.required, ∃ v, t.get? key = some v
  lists : ∀ key v, t.get? key = some v → bare v = false

section Lacking

variable {t : TraitTree}

theorem complete_iff : t.Complete bare ↔ ∀ gap, ¬ t.Lacks bare gap := by
  constructor
  · rintro ⟨hfilled, hrequired, hlists⟩ gap hgap
    cases hgap with
    | entries hnone => exact hfilled hnone
    | trait _ hkey hmissing =>
      obtain ⟨v, hv⟩ := hrequired _ hkey
      rw [hmissing] at hv
      cases hv
    | items hv hbare =>
      rw [hlists _ _ hv] at hbare
      cases hbare
  · intro hno
    have hfilled : t.entries ≠ [] := fun hnone => hno _ (.entries hnone)
    refine ⟨hfilled, fun key hkey => ?_, fun key v hv => ?_⟩
    · exact Option.ne_none_iff_exists'.1 fun hmissing => hno _ (.trait hfilled hkey hmissing)
    · exact Bool.eq_false_iff.2 fun hbare => hno _ (.items hv hbare)

theorem mem_missingTraits_iff {identity : Trait} {entries : List (Trait × TraitValue)} {gap : Gap} :
    gap ∈ missingTraits identity entries ↔
      ∃ key ∈ identity.required, SortedMap.findEntry key entries = none ∧
        gap = .missing identity key := by
  simp only [missingTraits, List.mem_map, List.mem_filter, Option.isNone_iff_eq_none]
  constructor
  · rintro ⟨key, ⟨hkey, hmissing⟩, rfl⟩
    exact ⟨key, hkey, hmissing, rfl⟩
  · rintro ⟨key, hkey, hmissing, rfl⟩
    exact ⟨key, ⟨hkey, hmissing⟩, rfl⟩

/-- The gaps of a node alone and of its lists are what the node lacks. -/
theorem lacks_iff (ht : Ascending t.keys) {gap : Gap} :
    t.Lacks bare gap ↔
      gap ∈ t.ownGaps ∨ ∃ e ∈ t.entries, bare e.2 = true ∧ gap = .emptyList e.1 := by
  rw [ownGaps]
  constructor
  · intro hgap
    cases hgap with
    | entries hnone => exact .inl (by simp [isEmpty, hnone])
    | trait hsome hkey hmissing =>
      refine .inl ?_
      rw [if_neg (by simpa [isEmpty] using hsome)]
      exact mem_missingTraits_iff.2 ⟨_, hkey, hmissing, rfl⟩
    | items hv hbare => exact .inr ⟨_, SortedMap.mem_of_findEntry hv, hbare, rfl⟩
  · rintro (hown | ⟨⟨key, v⟩, he, hbare, rfl⟩)
    · split at hown
      · rename_i hnone
        obtain rfl := List.mem_singleton.1 hown
        exact .entries (List.isEmpty_iff.1 hnone)
      · rename_i hsome
        obtain ⟨key, hkey, hmissing, rfl⟩ := mem_missingTraits_iff.1 hown
        exact .trait (fun hnone => hsome (List.isEmpty_iff.2 hnone)) hkey hmissing
    · exact .items (SortedMap.findEntry_of_mem ht he) hbare

/-- The nodes one step below, each with its step. -/
theorem child?_eq_some_iff (ht : Ascending t.keys) {d : Descent} {node : TraitTree} :
    t.child? d = some node ↔ ∃ e ∈ t.entries, (d, node) ∈ e.2.steps e.1 := by
  have hget {key : Trait} {v : TraitValue} : t.get? key = some v ↔ (key, v) ∈ t.entries :=
    ⟨SortedMap.mem_of_findEntry, SortedMap.findEntry_of_mem ht⟩
  cases d with
  | branch key =>
    rw [child?_branch_eq_some_iff, hget]
    constructor
    · exact fun he => ⟨_, he, List.mem_singleton_self _⟩
    · rintro ⟨⟨k, v⟩, he, hd⟩
      cases v with
      | branch b =>
        obtain ⟨rfl, rfl⟩ : key = k ∧ node = b := by simpa [TraitValue.steps] using hd
        exact he
      | list l => simp [TraitValue.steps] at hd
      | _ => cases hd
  | item key i =>
    rw [child?_item_eq_some_iff]
    constructor
    · rintro ⟨l, hl, hi⟩
      refine ⟨_, hget.1 hl, List.mem_map.2 ⟨(node, i), ?_, rfl⟩⟩
      rwa [List.mem_zipIdx_iff_getElem?]
    · rintro ⟨⟨k, v⟩, he, hd⟩
      cases v with
      | branch b => simp [TraitValue.steps] at hd
      | list l =>
        obtain ⟨n, hn, heq⟩ := List.mem_map.1 hd
        cases heq
        exact ⟨l, hget.2 he, List.mem_zipIdx_iff_getElem?.1 hn⟩
      | _ => cases hd

theorem Ordered.child {d : Descent} {node : TraitTree} (ht : t.Ordered)
    (hd : t.child? d = some node) : node.Ordered := by
  intro path below hbelow
  refine ht (d :: path) below ?_
  rw [follow?, hd]
  exact hbelow

theorem mem_located_nil {gap : Gap} :
    ([], gap) ∈ t.located bare ↔
      gap ∈ t.ownGaps ∨ ∃ e ∈ t.entries, bare e.2 = true ∧ gap = .emptyList e.1 := by
  have hvalue (e : Trait × TraitValue) :
      ([], gap) ∈ locatedInValue bare e.1 e.2 ↔ bare e.2 = true ∧ gap = .emptyList e.1 := by
    rw [locatedInValue_eq, List.mem_append]
    cases bare e.2 <;> simp [PlacedGap.under]
  rw [located_eq, List.mem_append, List.mem_flatMap]
  simp only [hvalue]
  simp

theorem mem_located_cons {d : Descent} {path : List Descent} {gap : Gap} :
    (d :: path, gap) ∈ t.located bare ↔
      ∃ e ∈ t.entries, ∃ node, (d, node) ∈ e.2.steps e.1 ∧ (path, gap) ∈ node.located bare := by
  have hvalue (e : Trait × TraitValue) :
      (d :: path, gap) ∈ locatedInValue bare e.1 e.2 ↔
        ∃ node, (d, node) ∈ e.2.steps e.1 ∧ (path, gap) ∈ node.located bare := by
    rw [locatedInValue_eq, List.mem_append, List.mem_flatMap]
    constructor
    · rintro (hempty | ⟨n, hn, hg⟩)
      · split at hempty <;> simp at hempty
      · obtain ⟨g, hbelow, heq⟩ := List.mem_map.1 hg
        cases heq
        exact ⟨n.2, hn, hbelow⟩
    · rintro ⟨node, hnode, hg⟩
      exact .inr ⟨_, hnode, List.mem_map.2 ⟨_, hg, rfl⟩⟩
  rw [located_eq, List.mem_append, List.mem_flatMap]
  simp only [hvalue]
  simp

/-- A gap is listed at the end of a path when the node there lacks it. -/
theorem mem_located_iff (ht : t.Ordered) {path : List Descent} {gap : Gap} :
    (path, gap) ∈ t.located bare ↔
      ∃ node, t.follow? path = some node ∧ node.Lacks bare gap := by
  induction path generalizing t with
  | nil =>
    rw [mem_located_nil, ← lacks_iff (ht [] t rfl)]
    simp [follow?]
  | cons d path ih =>
    rw [mem_located_cons]
    constructor
    · rintro ⟨e, he, child, hd, hg⟩
      have hchild := (child?_eq_some_iff (ht [] t rfl)).2 ⟨e, he, hd⟩
      obtain ⟨node, hnode, hlacks⟩ := (ih (ht.child hchild)).1 hg
      refine ⟨node, ?_, hlacks⟩
      rw [follow?, hchild]
      exact hnode
    · rintro ⟨node, hnode, hlacks⟩
      obtain ⟨child, hchild, hfollow⟩ := Option.bind_eq_some_iff.1 hnode
      obtain ⟨e, he, hd⟩ := (child?_eq_some_iff (ht [] t rfl)).1 hchild
      exact ⟨e, he, child, hd, (ih (ht.child hchild)).2 ⟨node, hfollow, hlacks⟩⟩

end Lacking

/-! ## No gap twice -/

/-- A concatenation repeats nothing when no part does and a tag tells the parts apart. -/
theorem nodup_flatMap_of_tag {α β γ : Type} {l : List α} {f : α → List β} {part : α → γ}
    (tag : β → Option γ) (hl : (l.map part).Nodup) (hf : ∀ a ∈ l, (f a).Nodup)
    (htag : ∀ a ∈ l, ∀ b ∈ f a, tag b = some (part a)) : (l.flatMap f).Nodup := by
  refine List.nodup_flatMap.2 ⟨hf, (List.pairwise_map.1 hl).imp_of_mem fun {a a'} ha ha' hne => ?_⟩
  intro b hb hb'
  have hparts : some (part a) = some (part a') := by rw [← htag a ha b hb, htag a' ha' b hb']
  exact hne (Option.some.inj hparts)

theorem nodup_required (identity : Trait) : identity.required.Nodup := by
  cases identity <;> decide

theorem nodup_ownGaps (t : TraitTree) : t.ownGaps.Nodup := by
  rw [ownGaps]
  split
  · exact List.nodup_singleton _
  · refine List.Nodup.map (fun a b h => ?_) ((nodup_required t.identity).filter _)
    cases h
    rfl

theorem nodup_map_fst_steps (key : Trait) (v : TraitValue) :
    ((v.steps key).map Prod.fst).Nodup := by
  cases v with
  | branch b => exact List.nodup_singleton _
  | list l =>
    have hitems : ((TraitValue.list l).steps key).map Prod.fst =
        (l.zipIdx.map Prod.snd).map (.item key) := by
      rw [TraitValue.steps, List.map_map, List.map_map]
      rfl
    rw [hitems, List.zipIdx_map_snd]
    refine List.Nodup.map (fun i j h => ?_) (List.nodup_range')
    cases h
    rfl
  | _ => exact List.nodup_nil

theorem key_of_mem_steps {key : Trait} {v : TraitValue} {n : Descent × TraitTree}
    (hn : n ∈ v.steps key) : n.1.key = key := by
  cases v with
  | branch b =>
    obtain rfl := List.mem_singleton.1 hn
    rfl
  | list l =>
    obtain ⟨_, -, rfl⟩ := List.mem_map.1 hn
    rfl
  | _ => cases hn

theorem entry?_of_mem_ownGaps {t : TraitTree} {gap : Gap} (hgap : gap ∈ t.ownGaps) :
    PlacedGap.entry? ([], gap) = none := by
  rw [ownGaps] at hgap
  split at hgap
  · obtain rfl := List.mem_singleton.1 hgap
    rfl
  · obtain ⟨key, -, -, rfl⟩ := mem_missingTraits_iff.1 hgap
    rfl

theorem entry?_of_mem_locatedInValue {key : Trait} {v : TraitValue} {g : PlacedGap}
    (hg : g ∈ locatedInValue bare key v) : g.entry? = some key := by
  rw [locatedInValue_eq, List.mem_append, List.mem_flatMap] at hg
  obtain hempty | ⟨n, hn, hg⟩ := hg
  · split at hempty
    · obtain rfl := List.mem_singleton.1 hempty
      rfl
    · cases hempty
  · obtain ⟨below, -, rfl⟩ := List.mem_map.1 hg
    exact congrArg some (key_of_mem_steps hn)

theorem nodup_locatedInValue {key : Trait} {v : TraitValue}
    (hnodes : ∀ n ∈ v.steps key, (n.2.located bare).Nodup) : (locatedInValue bare key v).Nodup := by
  rw [locatedInValue_eq]
  refine List.Nodup.append ?_ ?_ ?_
  · split
    · exact List.nodup_singleton _
    · exact List.nodup_nil
  · -- the first step of a place tells the nodes of one value apart
    refine nodup_flatMap_of_tag (fun g => g.1.head?) (nodup_map_fst_steps key v) ?_ ?_
    · exact fun n hn => (hnodes n hn).map (PlacedGap.under_injective n.1)
    · intro n _ g hg
      obtain ⟨below, -, rfl⟩ := List.mem_map.1 hg
      rfl
  · intro g hempty hbelow
    obtain ⟨n, -, hg⟩ := List.mem_flatMap.1 hbelow
    obtain ⟨below, -, rfl⟩ := List.mem_map.1 hg
    split at hempty <;> simp [PlacedGap.under] at hempty

/-- No gap is listed twice at one place. -/
theorem nodup_located {t : TraitTree} (ht : t.Ordered) : (t.located bare).Nodup := by
  induction t using induction_on_nodes with
  | step t ih =>
    have hvalue (e) (he : e ∈ t.entries) : (locatedInValue bare e.1 e.2).Nodup := by
      refine nodup_locatedInValue fun n hn => ?_
      have hchild : t.child? n.1 = some n.2 := (child?_eq_some_iff (ht [] t rfl)).2 ⟨e, he, hn⟩
      have hnode : n.2 ∈ e.2.nodes := by
        rw [← TraitValue.map_snd_steps e.1]
        exact List.mem_map_of_mem hn
      exact ih e he n.2 hnode (ht.child hchild)
    have hkeys : (t.entries.map Prod.fst).Nodup := SortedMap.nodup_keys ⟨t.entries, ht [] t rfl⟩
    rw [located_eq]
    refine List.Nodup.append ?_ ?_ ?_
    · exact (nodup_ownGaps t).map fun a b h => congrArg Prod.snd h
    · exact nodup_flatMap_of_tag PlacedGap.entry? hkeys hvalue
        fun e _ g hg => entry?_of_mem_locatedInValue hg
    · intro g hown hentries
      obtain ⟨gap, hgap, rfl⟩ := List.mem_map.1 hown
      obtain ⟨e, -, hg⟩ := List.mem_flatMap.1 hentries
      have hentry := entry?_of_mem_locatedInValue hg
      rw [entry?_of_mem_ownGaps hgap] at hentry
      cases hentry

/-! ## What is told -/

section Told

variable {t : TraitTree}

/-- What a node lacks makes a gap, lists of integers without items aside. -/
theorem lacks_isGap_iff {gap : Gap} :
    t.Lacks TraitValue.isGap gap ↔ t.Lacks TraitValue.isEmptyList gap ∧
      ∀ key, gap = .emptyList key → t.get? key ≠ some (.ints []) := by
  constructor
  · intro hgap
    cases hgap with
    | entries hnone => exact ⟨.entries hnone, fun key hkey => by cases hkey⟩
    | trait hsome hrequired hmissing =>
      exact ⟨.trait hsome hrequired hmissing, fun key hkey => by cases hkey⟩
    | items hv hbare =>
      refine ⟨.items hv (TraitValue.isEmptyList_iff.2 (.inl hbare)), fun key hkey hints => ?_⟩
      cases hkey
      rw [hv] at hints
      cases hints
      cases hbare
  · rintro ⟨hgap, hints⟩
    cases hgap with
    | entries hnone => exact .entries hnone
    | trait hsome hrequired hmissing => exact .trait hsome hrequired hmissing
    | items hv hbare =>
      obtain hgap | rfl := TraitValue.isEmptyList_iff.1 hbare
      · exact .items hv hgap
      · exact absurd hv (hints _ rfl)

theorem located_eq_nil_iff (ht : t.Ordered) :
    t.located bare = [] ↔ ∀ path node, t.follow? path = some node → node.Complete bare := by
  rw [List.eq_nil_iff_forall_not_mem]
  constructor
  · intro hno path node hnode
    exact complete_iff.2 fun gap hgap =>
      hno (path, gap) ((mem_located_iff ht).2 ⟨node, hnode, hgap⟩)
  · rintro hcomplete ⟨path, gap⟩ hmem
    obtain ⟨node, hnode, hgap⟩ := (mem_located_iff ht).1 hmem
    exact complete_iff.1 (hcomplete path node hnode) gap hgap

theorem gaps_eq_nil_iff (ht : t.Ordered) :
    t.gaps = [] ↔ ∀ path node, t.follow? path = some node → node.Complete TraitValue.isGap := by
  rw [← map_snd_located, List.map_eq_nil_iff, located_eq_nil_iff ht]

/-- Every gap is told once for each place: all that some node of the tree lacks at the end of its
path, but for its lists of integers without items. There are none just when each node has entries,
all that it requires among them, and no list without items; where lists of integers all have items,
this is so for lists of every sort. -/
theorem gaps_tell_each_once (ht : t.Ordered) :
    (∃ located : List PlacedGap, located.map Prod.snd = t.gaps ∧ located.Nodup ∧
      ∀ path gap, (path, gap) ∈ located ↔
        ∃ node, t.follow? path = some node ∧ node.Lacks TraitValue.isEmptyList gap ∧
          ∀ key, gap = .emptyList key → node.get? key ≠ some (.ints [])) ∧
    (t.gaps = [] ↔
      ∀ path node, t.follow? path = some node → node.Complete TraitValue.isGap) ∧
    ((∀ path node, t.follow? path = some node → ∀ key, node.get? key ≠ some (.ints [])) →
      (t.gaps = [] ↔
        ∀ path node, t.follow? path = some node → node.Complete TraitValue.isEmptyList)) := by
  refine ⟨⟨t.located TraitValue.isGap, t.map_snd_located, nodup_located ht, fun path gap => ?_⟩,
    gaps_eq_nil_iff ht, fun hints => ?_⟩
  · rw [mem_located_iff ht]
    simp only [lacks_isGap_iff]
  · rw [gaps_eq_nil_iff ht]
    -- node by node the two notions of completeness agree
    refine forall₃_congr fun path node hnode => ?_
    simp only [complete_iff, lacks_isGap_iff]
    refine forall_congr' fun gap => not_congr ⟨And.left, fun hgap => ⟨hgap, fun key _ => ?_⟩⟩
    exact hints path node hnode key

/-- An interface without a hardware address, in a list, beside a list without texts. -/
def halfTold : TraitTree :=
  ((empty .root).store .interfaceList (.list [((empty .interfaceListEntry).store .interfaceId
    (.int 1)).store .interfaceName (.text "Vlan")])).store .commands (.texts [])

theorem typed_halfTold : halfTold.Typed := by
  have hentry : (((empty .interfaceListEntry).store .interfaceId (.int 1)).store .interfaceName
      (.text "Vlan")).Typed :=
    ((typed_empty _).store rfl (fun _ h => by cases h)).store rfl (fun _ h => by cases h)
  refine ((typed_empty _).store rfl fun node hnode => ?_).store rfl (fun _ h => by cases h)
  obtain rfl := List.mem_singleton.1 hnode
  exact hentry

/-- The address is told as missing at the place of the interface. -/
theorem gaps_tell_each_once_halfTold :
    ∃ located : List PlacedGap, located.map Prod.snd =
        [.missing .interfaceListEntry .macAddr, .emptyList .commands] ∧
      ([.item .interfaceList 0], .missing .interfaceListEntry .macAddr) ∈ located := by
  obtain ⟨⟨located, hmap, -, hmem⟩, -⟩ := gaps_tell_each_once typed_halfTold.ordered
  refine ⟨located, hmap, (hmem _ _).2 ⟨_, rfl, ?_, fun _ hkey => by cases hkey⟩⟩
  exact .trait (List.cons_ne_nil _ _) (by decide) rfl

/-- Incomplete trees that tell no gap exist: a list of integers without items. -/
theorem not_every_empty_list_told :
    ¬ ∀ t : TraitTree, t.Ordered → (t.gaps = [] ↔
      ∀ path node, t.follow? path = some node → node.Complete TraitValue.isEmptyList) := by
  intro hclaim
  have htyped : ((empty .root).store .ifSpVlanList (.ints [])).Typed :=
    (typed_empty _).store rfl (fun _ h => by cases h)
  have hcomplete := (hclaim _ htyped.ordered).1 rfl [] _ rfl
  have hlist := hcomplete.lists .ifSpVlanList (.ints []) rfl
  cases hlist

end Told

end TraitTree

end HostSurvey
