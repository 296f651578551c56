import HostSurvey.Tree.Edit

/-!
# Editing in place

The edits of a tree as steps that change it one after the other. A fault ends an
edit and takes nothing back, so a step before it could leave something behind:
an entry is opened before it is looked at. `Edit.perform_eq` says that none
does, and that the edits which answer a new tree tell all that happens in place.
-/

namespace HostSurvey

/-- The traits whose values can be given as text. -/
def Trait.readable : Trait → Bool
  | .subInterfaceId | .interfaceModule | .interfaceSlot | .interfaceId | .cidr | .vlanId | .ipv4
  | .ipv4Src | .ipv4Dst | .ipv4Netmask | .macAddr => true
  | _ => false

theorem Trait.readable_eq (key : Trait) : key.readable = key.reading?.isSome := by
  cases key <;> rfl

/-- Steps on a tree, up to the first fault. -/
abbrev InPlace (α : Type) := ExceptT TraitFault (StateM TraitTree) α

namespace InPlace

variable {α β : Type}

/-- What steps answer, and the tree after them. -/
def perform (x : InPlace α) (t : TraitTree) : Except TraitFault α × TraitTree := x.run.run t

def check (key : Trait) (v : TraitValue) : InPlace Unit :=
  if key.kind.accepts v.form then pure () else throw (.wrongKind key v.form)

def insert (key : Trait) (v : TraitValue) : InPlace Unit := modify (·.store key v)

/-- The value under a trait; `fresh` is put there when there is nothing. -/
def entry (key : Trait) (fresh : TraitValue) : InPlace TraitValue := do
  match (← get).get? key with
  | some v => return v
  | none =>
    insert key fresh
    return fresh

def put (key : Trait) (v : TraitValue) : InPlace Unit := do
  check key v
  insert key v

def putText (key : Trait) (s : String) : InPlace Unit :=
  put key (.text (String.ofList (Text.trim s.toList)))

def putRead (key : Trait) (s : List Char) : InPlace Unit :=
  if key.readable then do
    match key.read s with
    | .ok v => put key v
    | .error fault => throw fault
  else throw (.notReadable key)

def openBranch (key : Trait) : InPlace TraitTree := do
  let fresh := .branch (.empty key)
  check key fresh
  match ← entry key fresh with
  | .branch b => return b
  | v => throw (.noBranch key v.form)

def newBranch (key : Trait) : InPlace TraitTree := do
  if (← get).contains key then throw (.branchExists key) else openBranch key

def openList (key : Trait) : InPlace (List TraitTree) := do
  let fresh := .list []
  check key fresh
  match ← entry key fresh with
  | .list l => return l
  | v => throw (.noNodeList key v.form)

def newList (key : Trait) : InPlace (List TraitTree) := do
  put key (.list [])
  openList key

def push (key : Trait) (node : TraitTree) : InPlace Unit := do
  let l ← openList key
  insert key (.list (l ++ [node]))

def retag (identity : Trait) : InPlace Unit := modify (·.retag identity)

/-! ## Step by step -/

theorem perform_bind_of_ok {x : InPlace α} {t u : TraitTree} {a : α} (f : α → InPlace β)
    (h : perform x t = (.ok a, u)) : perform (x >>= f) t = perform (f a) u := by
  have hbind : perform (x >>= f) t =
      perform (ExceptT.mk (ExceptT.bindCont f (perform x t).1)) (perform x t).2 := rfl
  rw [hbind, h]
  rfl

theorem perform_bind_of_error {x : InPlace α} {t u : TraitTree} {fault : TraitFault}
    (f : α → InPlace β) (h : perform x t = (.error fault, u)) :
    perform (x >>= f) t = (.error fault, u) := by
  have hbind : perform (x >>= f) t =
      perform (ExceptT.mk (ExceptT.bindCont f (perform x t).1)) (perform x t).2 := rfl
  rw [hbind, h]
  rfl

theorem perform_get_bind (f : TraitTree → InPlace β) (t : TraitTree) :
    perform (get >>= f) t = perform (f t) t :=
  perform_bind_of_ok f rfl

theorem perform_check_bind (key : Trait) (v : TraitValue) (f : Unit → InPlace β) (t : TraitTree) :
    perform (check key v >>= f) t =
      match TraitTree.checked key v with
      | .ok _ => perform (f ()) t
      | .error fault => (.error fault, t) := by
  unfold check TraitTree.checked
  split
  · exact perform_bind_of_ok f rfl
  · exact perform_bind_of_error f rfl

theorem perform_entry_bind (key : Trait) (fresh : TraitValue) (f : TraitValue → InPlace β)
    (t : TraitTree) :
    perform (entry key fresh >>= f) t =
      match t.get? key with
      | some v => perform (f v) t
      | none => perform (f fresh) (t.store key fresh) := by
  cases hv : t.get? key with
  | some v =>
    refine perform_bind_of_ok f ?_
    rw [entry, perform_get_bind, hv]
    rfl
  | none =>
    refine perform_bind_of_ok f ?_
    rw [entry, perform_get_bind, hv]
    rfl

/-! ## What remains of an edit -/

/-- What an edit leaves: the new tree, or the old one after a fault. -/
def settle (t : TraitTree) (r : Except TraitFault (α × TraitTree)) :
    Except TraitFault α × TraitTree :=
  match r with
  | .ok (a, u) => (.ok a, u)
  | .error fault => (.error fault, t)

theorem perform_put (key : Trait) (v : TraitValue) (t : TraitTree) :
    perform (put key v) t = settle t ((t.put key v).map ((), ·)) := by
  rw [put, perform_check_bind, TraitTree.put]
  rcases TraitTree.checked_cases key v with ⟨-, hchecked⟩ | ⟨-, hchecked⟩ <;> rw [hchecked] <;> rfl

theorem perform_putRead (key : Trait) (s : List Char) (t : TraitTree) :
    perform (putRead key s) t = settle t ((t.putRead key s).map ((), ·)) := by
  -- the list of readable traits is another than the one of readings; they agree by `readable_eq`
  rw [putRead, key.readable_eq, TraitTree.putRead]
  cases hreading : key.reading? with
  | none =>
    have hread : key.read s = .error (.notReadable key) := by rw [Trait.read, hreading]
    rw [hread]
    rfl
  | some r =>
    rw [if_pos Option.isSome_some]
    cases key.read s with
    | error fault => rfl
    | ok v => exact perform_put key v t

theorem perform_openBranch (key : Trait) (t : TraitTree) :
    perform (openBranch key) t = settle t (t.openBranch key) := by
  rw [openBranch, perform_check_bind, TraitTree.openBranch]
  rcases TraitTree.checked_cases key (.branch (.empty key)) with ⟨-, hchecked⟩ | ⟨-, hchecked⟩ <;> rw [hchecked]
  · rw [perform_entry_bind]
    cases t.get? key with
    | none => rfl
    | some v => cases v <;> rfl
  · rfl

theorem perform_openList (key : Trait) (t : TraitTree) :
    perform (openList key) t = settle t (t.openList key) := by
  rw [openList, perform_check_bind, TraitTree.openList]
  rcases TraitTree.checked_cases key (.list []) with ⟨-, hchecked⟩ | ⟨-, hchecked⟩ <;> rw [hchecked]
  · rw [perform_entry_bind]
    cases t.get? key with
    | none => rfl
    | some v => cases v <;> rfl
  · rfl

/-- A fresh branch is empty. -/
theorem perform_newBranch (key : Trait) (t : TraitTree) :
    perform (newBranch key) t = settle t ((t.newBranch key).map (.empty key, ·)) := by
  rw [newBranch, perform_get_bind, TraitTree.newBranch, TraitTree.contains]
  cases hv : t.get? key with
  | some v => rfl
  | none =>
    simp only [Option.isSome_none, Bool.false_eq_true, ↓reduceIte]
    rw [perform_openBranch, TraitTree.openBranch, hv]
    rcases TraitTree.checked_cases key (.branch (.empty key)) with ⟨-, hchecked⟩ | ⟨-, hchecked⟩ <;>
      rw [hchecked] <;> rfl

/-- A fresh list is empty. -/
theorem perform_newList (key : Trait) (t : TraitTree) :
    perform (newList key) t = settle t ((t.newList key).map ([], ·)) := by
  have hput := perform_put key (.list []) t
  rw [newList, TraitTree.newList]
  rw [TraitTree.put] at hput ⊢
  rcases TraitTree.checked_cases key (.list []) with ⟨-, hchecked⟩ | ⟨-, hchecked⟩
  · rw [hchecked] at hput ⊢
    refine (perform_bind_of_ok _ hput).trans ?_
    -- the list that was stored a step before is found, so that no other one is put there
    rw [perform_openList, TraitTree.openList, hchecked]
    simp only [TraitTree.get?_store_self]
    rfl
  · rw [hchecked] at hput ⊢
    exact perform_bind_of_error _ hput

theorem perform_push (key : Trait) (node : TraitTree) (t : TraitTree) :
    perform (push key node) t = settle t ((t.push key node).map ((), ·)) := by
  have hopen := perform_openList key t
  rw [push, TraitTree.push]
  cases hl : t.openList key with
  | error fault =>
    rw [hl] at hopen
    exact perform_bind_of_error _ hopen
  | ok opened =>
    rw [hl] at hopen
    exact perform_bind_of_ok _ hopen

/-- An edit whose answer is dropped. -/
theorem perform_discard {x : InPlace α} {t : TraitTree}
    {r : Except TraitFault (α × TraitTree)} (h : perform x t = settle t r) :
    perform (discard x) t = settle t ((r.map Prod.snd).map ((), ·)) := by
  cases r with
  | error fault => exact perform_bind_of_error _ h
  | ok opened => exact perform_bind_of_ok _ h

end InPlace

/-! ## The edits -/

/-- What can be done to a node. -/
inductive Edit where
  | put (key : Trait) (v : TraitValue)
  | putText (key : Trait) (s : String)
  | putRead (key : Trait) (s : List Char)
  | newBranch (key : Trait)
  | openBranch (key : Trait)
  | newList (key : Trait)
  | openList (key : Trait)
  | push (key : Trait) (node : TraitTree)
  | retag (identity : Trait)

namespace Edit

/-- The tree that an edit answers. -/
def apply (t : TraitTree) : Edit → Except TraitFault TraitTree
  | put key v => t.put key v
  | putText key s => t.putText key s
  | putRead key s => t.putRead key s
  | newBranch key => t.newBranch key
  | openBranch key => (t.openBranch key).map Prod.snd
  | newList key => t.newList key
  | openList key => (t.openList key).map Prod.snd
  | push key node => t.push key node
  | retag identity => .ok (t.retag identity)

def inPlace : Edit → InPlace Unit
  | put key v => InPlace.put key v
  | putText key s => InPlace.putText key s
  | putRead key s => InPlace.putRead key s
  | newBranch key => discard (InPlace.newBranch key)
  | openBranch key => discard (InPlace.openBranch key)
  | newList key => discard (InPlace.newList key)
  | openList key => discard (InPlace.openList key)
  | push key node => InPlace.push key node
  | retag identity => InPlace.retag identity

def perform (e : Edit) (t : TraitTree) : Except TraitFault Unit × TraitTree := e.inPlace.perform t

/-- An edit in place stores the tree that the edit answers, or nothing. -/
theorem perform_eq (e : Edit) (t : TraitTree) :
    e.perform t =
      match e.apply t with
      | .ok u => (.ok (), u)
      | .error fault => (.error fault, t) := by
  have hsettle : e.perform t = InPlace.settle t ((e.apply t).map ((), ·)) := by
    cases e with
    | put key v => exact InPlace.perform_put key v t
    | putText key s => exact InPlace.perform_put key _ t
    | putRead key s => exact InPlace.perform_putRead key s t
    | newBranch key =>
      refine (InPlace.perform_discard (InPlace.perform_newBranch key t)).trans ?_
      rw [apply]
      cases t.newBranch key <;> rfl
    | openBranch key => exact InPlace.perform_discard (InPlace.perform_openBranch key t)
    | newList key =>
      refine (InPlace.perform_discard (InPlace.perform_newList key t)).trans ?_
      rw [apply]
      cases t.newList key <;> rfl
    | openList key => exact InPlace.perform_discard (InPlace.perform_openList key t)
    | push key node => exact InPlace.perform_push key node t
    | retag identity => rfl
  rw [hsettle]
  cases e.apply t <;> rfl

end Edit

end HostSurvey
