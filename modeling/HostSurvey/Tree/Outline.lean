import HostSurvey.Json.Value
import HostSurvey.Tree.Basic

/-!
# Writing trees

The outline of a tree has each trait on a line of its own and what stands under
it one column deeper. As a document a node is an object, its traits by name;
identities are not written there.
-/

namespace HostSurvey

def indented (columns : Nat) (s : String) : String :=
  String.ofList (List.replicate columns ' ') ++ s

mutual

/-- The lines of a node's entries, `depth + 1` columns from the margin. -/
def TraitTree.lines (depth : Nat) : TraitTree → List String
  | .node _ entries => linesOfEntries depth entries

def linesOfEntries (depth : Nat) : List (Trait × TraitValue) → List String
  | [] => []
  | (key, v) :: rest =>
    indented (depth + 1) key.name :: (linesOfValue depth v ++ linesOfEntries depth rest)

def linesOfValue (depth : Nat) : TraitValue → List String
  | .branch t => t.lines (depth + 1)
  | .list ts => linesOfTrees depth ts
  | .texts l => l.map (indented (depth + 2))
  | v => [indented (depth + 2) v.display]

def linesOfTrees (depth : Nat) : List TraitTree → List String
  | [] => []
  | t :: ts =>
    indented (depth + 2) t.identity.name :: (t.lines (depth + 2) ++ linesOfTrees depth ts)

end

/-- The outline of a tree, every line ended. -/
def TraitTree.outline (t : TraitTree) : String :=
  String.join ((t.lines 0).map (· ++ "\n"))

mutual

def TraitTree.toJson : TraitTree → Json
  | .node _ entries => .object (membersOfEntries entries)

def membersOfEntries : List (Trait × TraitValue) → List (Option String × Json)
  | [] => []
  | (key, v) :: rest => (some key.name, v.toJson) :: membersOfEntries rest

def TraitValue.toJson : TraitValue → Json
  | .text s => .text s
  | .int n => .int n.toInt
  | .long n => .int n.toInt
  | .bytes s => .array (s.map fun b => .nat b.toNat)
  | .branch t => t.toJson
  | .list ts => .array (documentsOfTrees ts)
  | .texts l => .array (l.map .text)
  | .ints l => .array (l.map fun n => .int n.toInt)

def documentsOfTrees : List TraitTree → List Json
  | [] => []
  | t :: ts => t.toJson :: documentsOfTrees ts

end

end HostSurvey
