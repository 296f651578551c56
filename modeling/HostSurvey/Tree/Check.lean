import HostSurvey.Tree.Basic

/-!
# Incomplete trees

What a tree lacks: entries in a node, items in a list, or a trait that the
identity of a node requires. Lists of integers are passed over.
-/

namespace HostSurvey

inductive Gap where
  | emptyNode (identity : Trait)
  | missing (identity key : Trait)
  | emptyList (key : Trait)
  deriving DecidableEq, Repr

def quotedName (t : Trait) : String := "\"" ++ t.name ++ "\""

def Gap.message : Gap → String
  | .emptyNode identity => "Encountered empty map " ++ quotedName identity
  | .missing identity key => quotedName identity ++ " missing " ++ quotedName key
  | .emptyList key => "Encountered empty list " ++ quotedName key

/-- The required traits that none of the entries stands under. -/
def missingTraits (identity : Trait) (entries : List (Trait × TraitValue)) : List Gap :=
  (identity.required.filter fun key => (SortedMap.findEntry key entries).isNone).map
    (.missing identity)

mutual

/-- The gaps of a tree, those of a node before those of what it holds. An empty node lacks
nothing else. -/
def TraitTree.gaps : TraitTree → List Gap
  | .node identity [] => [.emptyNode identity]
  | .node identity (e :: rest) =>
    missingTraits identity (e :: rest) ++ gapsOfEntries (e :: rest)

def gapsOfEntries : List (Trait × TraitValue) → List Gap
  | [] => []
  | (key, v) :: rest => gapsOfValue key v ++ gapsOfEntries rest

def gapsOfValue (key : Trait) : TraitValue → List Gap
  | .branch t => t.gaps
  | .list [] => [.emptyList key]
  | .list (t :: ts) => t.gaps ++ gapsOfTrees ts
  | .texts [] => [.emptyList key]
  | _ => []

def gapsOfTrees : List TraitTree → List Gap
  | [] => []
  | t :: ts => t.gaps ++ gapsOfTrees ts

end

end HostSurvey
