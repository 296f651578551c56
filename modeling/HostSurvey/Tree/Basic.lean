import HostSurvey.Sorted.Map
import HostSurvey.Text.Hex
import HostSurvey.Tree.Trait

/-!
# Trait trees

A node says what it describes and holds values under traits, traits strictly
ascending. The kind of a trait decides which values may stand under it.
-/

namespace HostSurvey

mutual

inductive TraitTree where
  | node (identity : Trait) (entries : List (Trait × TraitValue))

inductive TraitValue where
  | text (s : String)
  | int (n : Int32)
  | long (n : Int64)
  | bytes (s : Bytes)
  | branch (tree : TraitTree)
  | list (trees : List TraitTree)
  | texts (l : List String)
  | ints (l : List Int32)

end

/-- The forms of a value. -/
inductive ValueForm where
  | text | int | long | bytes | branch | list | texts | ints
  deriving DecidableEq, Repr

def ValueForm.name : ValueForm → String
  | .text => "String"
  | .int => "Integer"
  | .long => "Long"
  | .bytes => "Bytes"
  | .branch => "TraitMap"
  | .list => "List<TraitMap>"
  | .texts => "List<String>"
  | .ints => "List<Integer>"

/-- Lists of any sort are of the one kind. -/
def ValueKind.accepts : ValueKind → ValueForm → Bool
  | .anything, _ => true
  | .text, .text | .int, .int | .long, .long | .bytes, .bytes | .branch, .branch => true
  | .list, .list | .list, .texts | .list, .ints => true
  | _, _ => false

namespace TraitTree

def identity : TraitTree → Trait
  | .node identity _ => identity

def entries : TraitTree → List (Trait × TraitValue)
  | .node _ entries => entries

def empty (identity : Trait) : TraitTree := .node identity []

instance : Inhabited TraitTree := ⟨empty .root⟩

def get? (t : TraitTree) (key : Trait) : Option TraitValue := SortedMap.findEntry key t.entries

def contains (t : TraitTree) (key : Trait) : Bool := (t.get? key).isSome

def size (t : TraitTree) : Nat := t.entries.length

def isEmpty (t : TraitTree) : Bool := t.entries.isEmpty

def keys (t : TraitTree) : List Trait := t.entries.map Prod.fst

/-- Stores a value, whatever its form. -/
def store (t : TraitTree) (key : Trait) (v : TraitValue) : TraitTree :=
  .node t.identity (SortedMap.insertEntry key v t.entries)

/-- The same entries under another identity. -/
def retag (t : TraitTree) (identity : Trait) : TraitTree := .node identity t.entries

def branch? (t : TraitTree) (key : Trait) : Option TraitTree :=
  match t.get? key with
  | some (.branch b) => some b
  | _ => none

def list? (t : TraitTree) (key : Trait) : Option (List TraitTree) :=
  match t.get? key with
  | some (.list l) => some l
  | _ => none

def text? (t : TraitTree) (key : Trait) : Option String :=
  match t.get? key with
  | some (.text s) => some s
  | _ => none

def int? (t : TraitTree) (key : Trait) : Option Int32 :=
  match t.get? key with
  | some (.int n) => some n
  | _ => none

def long? (t : TraitTree) (key : Trait) : Option Int64 :=
  match t.get? key with
  | some (.long n) => some n
  | _ => none

def texts? (t : TraitTree) (key : Trait) : Option (List String) :=
  match t.get? key with
  | some (.texts l) => some l
  | _ => none

theorem get?_store (t : TraitTree) (key k : Trait) (v : TraitValue) :
    (t.store key v).get? k = if key = k then some v else t.get? k :=
  SortedMap.findEntry_insertEntry ..

@[simp] theorem get?_store_self (t : TraitTree) (key : Trait) (v : TraitValue) :
    (t.store key v).get? key = some v := by simp [get?_store]

end TraitTree

namespace TraitValue

def form : TraitValue → ValueForm
  | .text _ => .text
  | .int _ => .int
  | .long _ => .long
  | .bytes _ => .bytes
  | .branch _ => .branch
  | .list _ => .list
  | .texts _ => .texts
  | .ints _ => .ints

def brackets (items : List String) : String := "[" ++ String.intercalate ", " items ++ "]"

/-- A value on one line; of nodes only their identity or number is told. -/
def display : TraitValue → String
  | .text s => s
  | .int n => toString n.toInt
  | .long n => toString n.toInt
  | .bytes s => String.ofList (Text.Hex.lower s)
  | .branch t => t.identity.name
  | .list ts => "[" ++ toString ts.length ++ " entries]"
  | .texts l => brackets l
  | .ints l => brackets (l.map fun n => toString n.toInt)

end TraitValue

end HostSurvey
