import HostSurvey.Tree.Reading

/-!
# Editing trait trees

Every edit checks the form of what it stores against the kind of the trait. An
edit that fails answers a fault and no tree.
-/

namespace HostSurvey

namespace TraitTree

/-- What may stand under a trait. -/
def checked (key : Trait) (v : TraitValue) : Except TraitFault TraitValue :=
  if key.kind.accepts v.form then .ok v else .error (.wrongKind key v.form)

def put (t : TraitTree) (key : Trait) (v : TraitValue) : Except TraitFault TraitTree := do
  return t.store key (← checked key v)

/-- Stores a text without the blanks at its ends. -/
def putText (t : TraitTree) (key : Trait) (s : String) : Except TraitFault TraitTree :=
  t.put key (.text (String.ofList (Text.trim s.toList)))

/-- Stores what a text means under a trait. -/
def putRead (t : TraitTree) (key : Trait) (s : List Char) : Except TraitFault TraitTree := do
  t.put key (← key.read s)

/-- Stores what texts mean, one after the other; the first fault ends it, and what was stored
before remains. -/
def putReadAll (t : TraitTree) : List (Trait × List Char) → TraitTree × Option TraitFault
  | [] => (t, none)
  | (key, s) :: rest =>
    match t.putRead key s with
    | .ok t => t.putReadAll rest
    | .error fault => (t, some fault)

/-- The node under a trait; an empty one is put there when there is nothing. -/
def openBranch (t : TraitTree) (key : Trait) : Except TraitFault (TraitTree × TraitTree) := do
  let fresh ← checked key (.branch (.empty key))
  match t.get? key with
  | none => return (.empty key, t.store key fresh)
  | some (.branch b) => return (b, t)
  | some v => .error (.noBranch key v.form)

/-- A fresh node under a trait that holds nothing yet. -/
def newBranch (t : TraitTree) (key : Trait) : Except TraitFault TraitTree :=
  if t.contains key then .error (.branchExists key) else (t.openBranch key).map Prod.snd

/-- The list of nodes under a trait; an empty one is put there when there is nothing. -/
def openList (t : TraitTree) (key : Trait) : Except TraitFault (List TraitTree × TraitTree) := do
  let fresh ← checked key (.list [])
  match t.get? key with
  | none => return ([], t.store key fresh)
  | some (.list l) => return (l, t)
  | some v => .error (.noNodeList key v.form)

/-- An empty list of nodes in place of whatever stands under a trait. -/
def newList (t : TraitTree) (key : Trait) : Except TraitFault TraitTree := t.put key (.list [])

/-- Adds a node at the end of the list under a trait. -/
def push (t : TraitTree) (key : Trait) (node : TraitTree) : Except TraitFault TraitTree := do
  let (l, t) ← t.openList key
  return t.store key (.list (l ++ [node]))

/-! ## What may be stored -/

theorem checked_cases (key : Trait) (v : TraitValue) :
    key.kind.accepts v.form = true ∧ checked key v = .ok v ∨
      key.kind.accepts v.form = false ∧ checked key v = .error (.wrongKind key v.form) := by
  unfold checked
  cases key.kind.accepts v.form
  · exact .inr ⟨rfl, rfl⟩
  · exact .inl ⟨rfl, rfl⟩

theorem accepts_of_checked {key : Trait} {v w : TraitValue} (h : checked key v = .ok w) :
    key.kind.accepts v.form = true ∧ w = v := by
  obtain ⟨haccepts, hchecked⟩ | ⟨-, hchecked⟩ := checked_cases key v
  · rw [hchecked] at h
    cases h
    exact ⟨haccepts, rfl⟩
  · rw [hchecked] at h
    cases h

theorem put_of_accepts {key : Trait} {v : TraitValue} (h : key.kind.accepts v.form = true)
    (t : TraitTree) : t.put key v = .ok (t.store key v) := by
  rw [put, checked, if_pos h]
  rfl

/-! ## Reaching into a tree -/

/-- One step down: into the branch under a trait, or into one node of the list under it. -/
inductive Descent where
  | branch (key : Trait)
  | item (key : Trait) (index : Nat)
  deriving DecidableEq, Repr

def child? (t : TraitTree) : Descent → Option TraitTree
  | .branch key => t.branch? key
  | .item key i => (t.list? key).bind (·[i]?)

def setChild (t : TraitTree) (node : TraitTree) : Descent → TraitTree
  | .branch key => t.store key (.branch node)
  | .item key i => t.store key (.list (((t.list? key).getD []).set i node))

/-- Applies `f` to the node at the end of a path; `none` when the path leads nowhere. -/
def editAt {α : Type} (f : TraitTree → α × TraitTree) :
    List Descent → TraitTree → Option (α × TraitTree)
  | [], t => some (f t)
  | d :: path, t => do
    let below ← t.child? d
    let (a, below) ← editAt f path below
    return (a, t.setChild below d)

end TraitTree

end HostSurvey
