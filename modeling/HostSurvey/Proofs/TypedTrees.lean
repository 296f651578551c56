import HostSurvey.Proofs.FirstFault
import HostSurvey.Tree.InPlace

/-!
# Well-typed trees

Wherever one gets by descending into a tree, each value is of the kind of its
trait. Edits keep it so, at any depth, and an edit that fails leaves the tree as
it was: what goes back into the nodes above is what stood there.
-/

namespace HostSurvey

/-- The nodes that a value holds. -/
def TraitValue.nodes : TraitValue → List TraitTree
  | .branch t => [t]
  | .list ts => ts
  | _ => []

namespace TraitTree

/-- The node at the end of a path. -/
def follow? : List Descent → TraitTree → Option TraitTree
  | [], t => some t
  | d :: path, t => (t.child? d).bind (follow? path)

/-- A node whose traits ascend and whose values are of the kinds of their traits. -/
structure Sound (t : TraitTree) : Prop where
  ascending : Ascending t.keys
  accepted : ∀ key v, t.get? key = some v → key.kind.accepts v.form = true

/-- Every node of a tree is sound, the tree itself and those at any depth. -/
def Typed (t : TraitTree) : Prop := ∀ path node, t.follow? path = some node → node.Sound

theorem child?_branch_eq_some_iff {t node : TraitTree} {key : Trait} :
    t.child? (.branch key) = some node ↔ t.get? key = some (.branch node) := by
  rw [child?, branch?]
  split
  · rename_i b hb
    rw [hb]
    simp
  · rename_i hno
    constructor
    · intro h
      cases h
    · intro h
      exact absurd h (hno node)

theorem child?_item_eq_some_iff {t node : TraitTree} {key : Trait} {i : Nat} :
    t.child? (.item key i) = some node ↔
      ∃ l, t.get? key = some (.list l) ∧ l[i]? = some node := by
  rw [child?, list?]
  split
  · rename_i l hl
    rw [hl]
    simp
  · rename_i hno
    constructor
    · intro h
      cases h
    · rintro ⟨l, hl, -⟩
      exact absurd hl (hno l)

/-- The nodes one step below are those that the values hold. -/
theorem exists_child?_iff {t node : TraitTree} :
    (∃ d, t.child? d = some node) ↔ ∃ key v, t.get? key = some v ∧ node ∈ v.nodes := by
  constructor
  · rintro ⟨d, hd⟩
    cases d with
    | branch key =>
      exact ⟨key, .branch node, child?_branch_eq_some_iff.1 hd, List.mem_singleton_self _⟩
    | item key i =>
      obtain ⟨l, hl, hi⟩ := child?_item_eq_some_iff.1 hd
      exact ⟨key, .list l, hl, List.mem_of_getElem? hi⟩
  · rintro ⟨key, v, hv, hnode⟩
    cases v with
    | branch b =>
      obtain rfl := List.mem_singleton.1 hnode
      exact ⟨.branch key, child?_branch_eq_some_iff.2 hv⟩
    | list l =>
      obtain ⟨i, hi⟩ := List.mem_iff_getElem?.1 hnode
      exact ⟨.item key i, child?_item_eq_some_iff.2 ⟨l, hv, hi⟩⟩
    | _ => cases hnode

/-- What holds of every node of a tree holds of its root and of every node of all that its values
hold. -/
theorem forall_follow?_iff {P : TraitTree → Prop} {t : TraitTree} :
    (∀ path node, t.follow? path = some node → P node) ↔
      P t ∧ ∀ key v, t.get? key = some v → ∀ child ∈ v.nodes,
        ∀ path node, child.follow? path = some node → P node := by
  constructor
  · intro ht
    refine ⟨ht [] t rfl, fun key v hv child hchild path below hbelow => ?_⟩
    obtain ⟨d, hd⟩ := exists_child?_iff.2 ⟨key, v, hv, hchild⟩
    refine ht (d :: path) below ?_
    rw [follow?, hd]
    exact hbelow
  · rintro ⟨hroot, hnodes⟩ path node hnode
    -- a path leads nowhere, or first to a node that some value holds
    cases path with
    | nil =>
      cases hnode
      exact hroot
    | cons d path =>
      obtain ⟨child, hchild, hfollow⟩ := Option.bind_eq_some_iff.1 hnode
      obtain ⟨key, v, hv, hmem⟩ := exists_child?_iff.1 ⟨d, hchild⟩
      exact hnodes key v hv child hmem path node hfollow

/-- A tree is typed when its root is sound and all that its values hold is typed. -/
theorem typed_iff {t : TraitTree} :
    t.Typed ↔ t.Sound ∧ ∀ key v, t.get? key = some v → ∀ node ∈ v.nodes, node.Typed :=
  forall_follow?_iff

theorem Typed.sound {t : TraitTree} (ht : t.Typed) : t.Sound := (typed_iff.1 ht).1

theorem Typed.child {t node : TraitTree} (ht : t.Typed) {d : Descent}
    (hd : t.child? d = some node) : node.Typed := by
  obtain ⟨key, v, hv, hnode⟩ := exists_child?_iff.1 ⟨d, hd⟩
  exact (typed_iff.1 ht).2 key v hv node hnode

theorem typed_empty (identity : Trait) : (empty identity).Typed :=
  typed_iff.2 ⟨⟨ascending_nil, fun _ _ hv => by cases hv⟩, fun _ _ hv => by cases hv⟩

/-! ## Stores -/

section Store

variable {t : TraitTree} {key : Trait} {v : TraitValue}

theorem ascending_store (ht : Ascending t.keys) : Ascending (t.store key v).keys := by
  have hkeys : (t.store key v).keys = SortedSet.insertList key t.keys :=
    SortedMap.keys_insertEntry ..
  rw [hkeys]
  exact SortedSet.ascending_insertList ht

/-- To store the value that stands there changes nothing. -/
theorem store_eq_self (ht : Ascending t.keys) (hv : t.get? key = some v) : t.store key v = t := by
  cases t with
  | node identity entries =>
    refine congrArg (node identity) ?_
    refine SortedMap.entries_eq_of_findEntry_eq (ascending_store ht) ht fun k => ?_
    rw [SortedMap.findEntry_insertEntry]
    split
    · rename_i hk
      subst hk
      exact hv.symm
    · rfl

theorem Typed.store (ht : t.Typed) (haccepts : key.kind.accepts v.form = true)
    (hnodes : ∀ node ∈ v.nodes, node.Typed) : (t.store key v).Typed := by
  obtain ⟨hroot, hbelow⟩ := typed_iff.1 ht
  -- the value under a trait is the new one or an old one
  have hcases {k : Trait} {w : TraitValue} (hw : (t.store key v).get? k = some w) :
      k = key ∧ w = v ∨ t.get? k = some w := by
    rw [get?_store] at hw
    split at hw
    · rename_i hk
      exact .inl ⟨hk.symm, (Option.some.inj hw).symm⟩
    · exact .inr hw
  refine typed_iff.2 ⟨⟨ascending_store hroot.ascending, fun k w hw => ?_⟩, fun k w hw => ?_⟩
  · obtain ⟨rfl, rfl⟩ | hold := hcases hw
    · exact haccepts
    · exact hroot.accepted k w hold
  · obtain ⟨rfl, rfl⟩ | hold := hcases hw
    · exact hnodes
    · exact hbelow k w hold

theorem Typed.retag (ht : t.Typed) (identity : Trait) : (t.retag identity).Typed := by
  obtain ⟨⟨hascending, haccepted⟩, hbelow⟩ := typed_iff.1 ht
  exact typed_iff.2 ⟨⟨hascending, haccepted⟩, hbelow⟩

end Store

/-! ## Edits of one node -/

section Edits

variable {t u : TraitTree} {key : Trait}

theorem Typed.put {v : TraitValue} (ht : t.Typed) (hnodes : ∀ node ∈ v.nodes, node.Typed)
    (h : t.put key v = .ok u) : u.Typed := by
  obtain ⟨w, hchecked, hstore⟩ := FirstFault.bind_eq_ok_iff.1 h
  obtain ⟨haccepts, rfl⟩ := accepts_of_checked hchecked
  cases hstore
  exact ht.store haccepts hnodes

/-- Values that are read hold no nodes. -/
theorem nodes_of_read {s : List Char} {v : TraitValue} (h : key.read s = .ok v) : v.nodes = [] := by
  have hform : v.form = .int ∨ v.form = .long := by
    rw [Trait.read] at h
    split at h
    · cases h
    · rename_i r hr
      cases hread : r.read (Text.trim s) with
      | error fault =>
        rw [hread] at h
        cases h
      | ok w =>
        rw [hread] at h
        cases h
        have hv := Reading.form_of_read hread
        cases r <;> simp [hv]
  cases v with
  | branch b => obtain hv | hv := hform <;> cases hv
  | list l => obtain hv | hv := hform <;> cases hv
  | _ => rfl

theorem Typed.putRead {s : List Char} (ht : t.Typed) (h : t.putRead key s = .ok u) : u.Typed := by
  obtain ⟨v, hread, hput⟩ := FirstFault.bind_eq_ok_iff.1 h
  refine ht.put (fun node hnode => ?_) hput
  rw [nodes_of_read hread] at hnode
  cases hnode

theorem Typed.openBranch {b : TraitTree} (ht : t.Typed) (h : t.openBranch key = .ok (b, u)) :
    u.Typed := by
  obtain ⟨fresh, hchecked, hopen⟩ := FirstFault.bind_eq_ok_iff.1 h
  obtain ⟨haccepts, rfl⟩ := accepts_of_checked hchecked
  cases hv : t.get? key with
  | none =>
    rw [hv] at hopen
    cases hopen
    refine ht.store haccepts fun node hnode => ?_
    obtain rfl := List.mem_singleton.1 hnode
    exact typed_empty key
  | some v =>
    rw [hv] at hopen
    cases v <;> cases hopen
    exact ht

/-- An opened list stands in the tree. -/
theorem Typed.openList {l : List TraitTree} (ht : t.Typed) (h : t.openList key = .ok (l, u)) :
    u.Typed ∧ u.get? key = some (.list l) := by
  obtain ⟨fresh, hchecked, hopen⟩ := FirstFault.bind_eq_ok_iff.1 h
  obtain ⟨haccepts, rfl⟩ := accepts_of_checked hchecked
  cases hv : t.get? key with
  | none =>
    rw [hv] at hopen
    cases hopen
    have hnone : ∀ node ∈ (TraitValue.list []).nodes, node.Typed := by simp [TraitValue.nodes]
    exact ⟨ht.store haccepts hnone, get?_store_self ..⟩
  | some v =>
    rw [hv] at hopen
    cases v <;> cases hopen
    exact ⟨ht, hv⟩

theorem Typed.push {node : TraitTree} (ht : t.Typed) (hnode : node.Typed)
    (h : t.push key node = .ok u) : u.Typed := by
  obtain ⟨⟨l, opened⟩, hopen, hstore⟩ := FirstFault.bind_eq_ok_iff.1 h
  cases hstore
  obtain ⟨htyped, hl⟩ := ht.openList hopen
  obtain ⟨hroot, hbelow⟩ := typed_iff.1 htyped
  have haccepts : key.kind.accepts .list = true := hroot.accepted key (.list l) hl
  refine htyped.store haccepts fun n hn => ?_
  obtain hold | hnew := List.mem_append.1 hn
  · exact hbelow key _ hl n hold
  · obtain rfl := List.mem_singleton.1 hnew
    exact hnode

end Edits

end TraitTree

/-- The nodes that an edit brings along. -/
def Edit.nodes : Edit → List TraitTree
  | put _ v => v.nodes
  | push _ node => [node]
  | _ => []

namespace TraitTree

variable {t u : TraitTree}

theorem Typed.apply (ht : t.Typed) {e : Edit} (he : ∀ node ∈ e.nodes, node.Typed)
    (h : e.apply t = .ok u) : u.Typed := by
  cases e with
  | put key v => exact ht.put he h
  | putText key s => exact ht.put (fun node hnode => by cases hnode) h
  | putRead key s => exact ht.putRead h
  | newBranch key =>
    rw [Edit.apply, newBranch] at h
    split at h
    · cases h
    · obtain ⟨⟨b, opened⟩, hopen, rfl⟩ := FirstFault.map_eq_ok_iff.1 h
      exact ht.openBranch hopen
  | openBranch key =>
    obtain ⟨⟨b, opened⟩, hopen, rfl⟩ := FirstFault.map_eq_ok_iff.1 h
    exact ht.openBranch hopen
  | newList key => exact ht.put (fun node hnode => by cases hnode) h
  | openList key =>
    obtain ⟨⟨l, opened⟩, hopen, rfl⟩ := FirstFault.map_eq_ok_iff.1 h
    exact (ht.openList hopen).1
  | push key node => exact ht.push (he node (List.mem_singleton_self _)) h
  | retag identity =>
    cases h
    exact ht.retag identity

theorem Typed.perform (ht : t.Typed) {e : Edit} (he : ∀ node ∈ e.nodes, node.Typed) :
    (e.perform t).2.Typed := by
  rw [e.perform_eq]
  cases h : e.apply t with
  | ok u => exact ht.apply he h
  | error fault => exact ht

theorem perform_of_error {e : Edit} {fault : TraitFault} (h : (e.perform t).1 = .error fault) :
    (e.perform t).2 = t := by
  rw [e.perform_eq] at h ⊢
  cases hedit : e.apply t with
  | ok u =>
    rw [hedit] at h
    cases h
  | error other => rfl

/-! ## Edits at any depth -/

section Depth

variable {d : Descent} {node : TraitTree}

/-- To put back what stands below changes nothing. -/
theorem setChild_eq_self (ht : t.Sound) (hd : t.child? d = some node) : t.setChild node d = t := by
  cases d with
  | branch key => exact store_eq_self ht.ascending (child?_branch_eq_some_iff.1 hd)
  | item key i =>
    obtain ⟨l, hl, hnode⟩ := child?_item_eq_some_iff.1 hd
    obtain ⟨hi, rfl⟩ := List.getElem?_eq_some_iff.1 hnode
    rw [setChild, list?, hl]
    refine store_eq_self ht.ascending ?_
    rw [hl, Option.getD_some, List.set_getElem_self]

theorem Typed.setChild {below : TraitTree} (ht : t.Typed) (hd : t.child? d = some node)
    (hbelow : below.Typed) : (t.setChild below d).Typed := by
  obtain ⟨hroot, hnodes⟩ := typed_iff.1 ht
  cases d with
  | branch key =>
    have haccepts : key.kind.accepts .branch = true :=
      hroot.accepted key (.branch node) (child?_branch_eq_some_iff.1 hd)
    refine ht.store haccepts fun n hn => ?_
    obtain rfl := List.mem_singleton.1 hn
    exact hbelow
  | item key i =>
    obtain ⟨l, hl, -⟩ := child?_item_eq_some_iff.1 hd
    have haccepts : key.kind.accepts .list = true := hroot.accepted key (.list l) hl
    refine ht.store haccepts fun n hn => ?_
    rw [list?, hl] at hn
    obtain hold | rfl := List.mem_or_eq_of_mem_set hn
    · exact hnodes key (.list l) hl n hold
    · exact hbelow

variable {α : Type} {f : TraitTree → α × TraitTree} {path : List Descent} {a : α}

theorem editAt_cons (h : editAt f (d :: path) t = some (a, u)) :
    ∃ node below, t.child? d = some node ∧ editAt f path node = some (a, below) ∧
      u = t.setChild below d := by
  obtain ⟨node, hnode, hrest⟩ := Option.bind_eq_some_iff.1 h
  obtain ⟨⟨b, below⟩, hbelow, hu⟩ := Option.bind_eq_some_iff.1 hrest
  cases hu
  exact ⟨node, below, hnode, hbelow, rfl⟩

theorem Typed.editAt (hf : ∀ n : TraitTree, n.Typed → (f n).2.Typed) (ht : t.Typed)
    (h : TraitTree.editAt f path t = some (a, u)) : u.Typed := by
  induction path generalizing t u with
  | nil =>
    have hu : (f t).2 = u := congrArg Prod.snd (Option.some.inj h)
    exact hu ▸ hf t ht
  | cons d path ih =>
    obtain ⟨node, below, hnode, hbelow, rfl⟩ := editAt_cons h
    exact ht.setChild hnode (ih (ht.child hnode) hbelow)

/-- The answer is that of the node at the end of the path. -/
theorem exists_follow?_of_editAt (h : editAt f path t = some (a, u)) :
    ∃ node, t.follow? path = some node ∧ (f node).1 = a := by
  induction path generalizing t u with
  | nil => exact ⟨t, rfl, congrArg Prod.fst (Option.some.inj h)⟩
  | cons d path ih =>
    obtain ⟨child, below, hchild, hbelow, -⟩ := editAt_cons h
    obtain ⟨node, hnode, ha⟩ := ih hbelow
    refine ⟨node, ?_, ha⟩
    rw [follow?, hchild]
    exact hnode

/-- Where `f` leaves the node at the end of a path alone, the whole tree stays. -/
theorem editAt_eq_self (hf : ∀ n, (f n).1 = a → (f n).2 = n) (ht : t.Typed)
    (h : editAt f path t = some (a, u)) : u = t := by
  induction path generalizing t u with
  | nil =>
    have hanswer : f t = (a, u) := Option.some.inj h
    have hself := hf t (by rw [hanswer])
    rw [hanswer] at hself
    exact hself
  | cons d path ih =>
    obtain ⟨node, below, hnode, hbelow, rfl⟩ := editAt_cons h
    obtain rfl := ih (ht.child hnode) hbelow
    -- the node below is the old one; only ascending traits make storing it again no change
    exact setChild_eq_self ht.sound hnode

end Depth

/-! ## Values given as text -/

/-- A text is refused because its trait is not given as text, stored, or not understood. -/
theorem putRead_cases (t : TraitTree) (key : Trait) (s : List Char) :
    key.readable = false ∧ t.putRead key s = .error (.notReadable key) ∨
      key.readable = true ∧
        ((∃ u, t.putRead key s = .ok u) ∨
          ∃ reason, t.putRead key s = .error (.unread key (String.ofList s) reason)) := by
  rw [key.readable_eq, putRead]
  cases hreading : key.reading? with
  | none =>
    have hread : key.read s = .error (.notReadable key) := by rw [Trait.read, hreading]
    rw [hread]
    exact .inl ⟨rfl, rfl⟩
  | some r =>
    refine .inr ⟨rfl, ?_⟩
    have hread : key.read s = (r.read (Text.trim s)).mapError (.unread key (String.ofList s)) := by
      rw [Trait.read, hreading]
    cases hvalue : r.read (Text.trim s) with
    | error reason =>
      rw [hread, hvalue]
      exact .inr ⟨reason, rfl⟩
    | ok v =>
      have hv : key.read s = .ok v := by rw [hread, hvalue]; rfl
      refine .inl ⟨t.store key v, ?_⟩
      rw [hv]
      exact put_of_accepts (Trait.accepts_of_read hv) t

end TraitTree

/-! ## Runs -/

/-- Faults about the form of a value. -/
def TraitFault.IsMismatch : TraitFault → Prop
  | .wrongKind .. | .noBranch .. | .noNodeList .. => True
  | _ => False

/-- An edit of the node at the end of a path. -/
structure TreeStep where
  path : List TraitTree.Descent
  edit : Edit

namespace TreeStep

/-- What a step answers, and the tree after it. A path that leads nowhere names no node; nothing
is answered then, and nothing done. -/
def perform (s : TreeStep) (t : TraitTree) : Option (Except TraitFault Unit) × TraitTree :=
  match TraitTree.editAt s.edit.perform s.path t with
  | some (r, u) => (some r, u)
  | none => (none, t)

/-- How a step goes at a tree. -/
structure Orderly (s : TreeStep) (t : TraitTree) : Prop where
  typed : (s.perform t).2.Typed
  kept : ∀ fault, (s.perform t).1 = some (.error fault) → (s.perform t).2 = t
  unreadable : ∀ key raw answer, s.edit = .putRead key raw → (s.perform t).1 = some answer →
    ∀ k, answer = .error (.notReadable k) ↔ k = key ∧ key.readable = false
  no_mismatch : ∀ key raw fault, s.edit = .putRead key raw →
    (s.perform t).1 = some (.error fault) → ¬ fault.IsMismatch

variable {s : TreeStep} {t : TraitTree}

/-- A step that is answered is an edit of some node. -/
theorem exists_of_answer {answer : Except TraitFault Unit} (h : (s.perform t).1 = some answer) :
    TraitTree.editAt s.edit.perform s.path t = some (answer, (s.perform t).2) := by
  unfold perform at h ⊢
  split at h
  · rename_i r u hedit
    cases h
    rw [hedit]
  · cases h

theorem answer_of_putRead {key : Trait} {raw : List Char} {answer : Except TraitFault Unit}
    (hedit : s.edit = .putRead key raw) (hanswer : (s.perform t).1 = some answer) :
    key.readable = false ∧ answer = .error (.notReadable key) ∨
      key.readable = true ∧
        (answer = .ok () ∨ ∃ reason, answer = .error (.unread key (String.ofList raw) reason)) := by
  obtain ⟨node, -, rfl⟩ := TraitTree.exists_follow?_of_editAt (exists_of_answer hanswer)
  rw [hedit, Edit.perform_eq, Edit.apply]
  obtain ⟨hkey, hfault⟩ | ⟨hkey, ⟨u, hu⟩ | ⟨reason, hreason⟩⟩ := node.putRead_cases key raw
  · rw [hfault]
    exact .inl ⟨hkey, rfl⟩
  · rw [hu]
    exact .inr ⟨hkey, .inl rfl⟩
  · rw [hreason]
    exact .inr ⟨hkey, .inr ⟨reason, rfl⟩⟩

theorem orderly (ht : t.Typed) (hs : ∀ node ∈ s.edit.nodes, node.Typed) : s.Orderly t where
  typed := by
    unfold perform
    split
    · rename_i answer u hedit
      exact ht.editAt (fun node hnode => hnode.perform hs) hedit
    · exact ht
  kept fault hfault :=
    TraitTree.editAt_eq_self (fun node hnode => TraitTree.perform_of_error hnode) ht
      (exists_of_answer hfault)
  unreadable key raw answer hedit hanswer k := by
    obtain ⟨hkey, rfl⟩ | ⟨hkey, rfl | ⟨reason, rfl⟩⟩ := answer_of_putRead hedit hanswer
    · simp [hkey, eq_comm]
    · simp [hkey]
    · simp [hkey]
  no_mismatch key raw fault hedit hfault := by
    obtain ⟨-, h⟩ | ⟨-, h | ⟨reason, h⟩⟩ := answer_of_putRead hedit hfault
    · cases h
      exact id
    · cases h
    · cases h
      exact id

end TreeStep

namespace TraitTree

/-- A tree after steps. -/
def performAll (t : TraitTree) (steps : List TreeStep) : TraitTree :=
  steps.foldl (fun t s => (s.perform t).2) t

variable {t : TraitTree}

theorem Typed.performAll (ht : t.Typed) {steps : List TreeStep}
    (hsteps : ∀ s ∈ steps, ∀ node ∈ s.edit.nodes, node.Typed) : (t.performAll steps).Typed := by
  induction steps generalizing t with
  | nil => exact ht
  | cons s steps ih =>
    obtain ⟨hs, hrest⟩ := List.forall_mem_cons.1 hsteps
    exact ih (TreeStep.orderly ht hs).typed hrest

/-- Steps that bring typed nodes along leave a tree typed at every depth. A step that fails changes
nothing anywhere in the tree, and what is given as text fails for its trait exactly where the trait
is not given as text, and never for its form. -/
theorem orderly_of_edits (ht : t.Typed) {steps : List TreeStep}
    (hsteps : ∀ s ∈ steps, ∀ node ∈ s.edit.nodes, node.Typed) :
    (t.performAll steps).Typed ∧
      ∀ before s behind, steps = before ++ s :: behind → s.Orderly (t.performAll before) := by
  refine ⟨ht.performAll hsteps, fun before s behind hsplit => ?_⟩
  subst hsplit
  obtain ⟨hbefore, hbehind⟩ := List.forall_mem_append.1 hsteps
  exact TreeStep.orderly (ht.performAll hbefore) (hbehind s List.mem_cons_self)

/-- A text in place of a number is refused in a node of a list, and the list stays. -/
theorem orderly_of_refused_text :
    let steps : List TreeStep :=
      [⟨[], .push .vlanList (.empty .vlan)⟩, ⟨[.item .vlanList 0], .putRead .vlanId ['3', '0']⟩]
    let refused : TreeStep := ⟨[.item .vlanList 0], .put .vlanId (.text "thirty")⟩
    let t := (empty .root).performAll steps
    t.Typed ∧ refused.Orderly t ∧ (refused.perform t).2 = t ∧
      (refused.perform t).1 = some (.error (.wrongKind .vlanId .text)) ∧
      (t.follow? [.item .vlanList 0]).bind (·.int? .vlanId) = some 30 := by
  intro steps refused t
  have hnodes : ∀ s ∈ steps ++ [refused], ∀ node ∈ s.edit.nodes, node.Typed := by
    simp [steps, refused, Edit.nodes, TraitValue.nodes, typed_empty]
  have hrun := orderly_of_edits (typed_empty .root) hnodes
  have hrefused : refused.Orderly t := hrun.2 steps refused [] rfl
  have hfault : (refused.perform t).1 = some (.error (.wrongKind .vlanId .text)) := rfl
  have hkept : (refused.perform t).2 = t := hrefused.kept _ hfault
  have ht := hrun.1
  rw [performAll, List.foldl_append] at ht
  exact ⟨hkept ▸ ht, hrefused, hkept, hfault, rfl⟩

end TraitTree

end HostSurvey
