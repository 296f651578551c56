import HostSurvey.Text.Find

/-!
# Arguments

Options have a long and a short name. A short one may be joined with others and
with its value, a long one takes its value behind `=` or as the next argument.
Only `--cisco` may be repeated, and no value may be empty or look like an
option.
-/

namespace HostSurvey

structure Arguments where
  /-- The captured sessions to import. -/
  sessions : List String := []
  rules : Option String := none
  packets : Option String := none
  outputDir : Option String := none
  json : Bool := false
  tree : Bool := false
  deriving DecidableEq, Repr

namespace Arguments

open Text

inductive Switch where
  | json | tree
  deriving DecidableEq, Repr

inductive Setting where
  | session | rules | packets | outputDir
  deriving DecidableEq, Repr

/-- An option by itself, or one that needs a value. -/
inductive Opt where
  | switch (s : Switch)
  | setting (s : Setting)
  deriving DecidableEq, Repr

def short? (c : Char) : Option Opt :=
  match c with
  | 'c' => some (.setting .session)
  | 'r' => some (.setting .rules)
  | 'p' => some (.setting .packets)
  | 'o' => some (.setting .outputDir)
  | 'j' => some (.switch .json)
  | 't' => some (.switch .tree)
  | _ => none

def long? (name : String) : Option Opt :=
  match name with
  | "cisco" => some (.setting .session)
  | "rules" => some (.setting .rules)
  | "packets" => some (.setting .packets)
  | "output-dir" => some (.setting .outputDir)
  | "json" => some (.switch .json)
  | "tree" => some (.switch .tree)
  | _ => none

/-- A switch may be given once. -/
def turnOn (a : Arguments) : Switch → Option Arguments
  | .json => if a.json then none else some { a with json := true }
  | .tree => if a.tree then none else some { a with tree := true }

/-- Stores a value that is not empty, where there is none yet. -/
def set (a : Arguments) (s : Setting) (value : List Char) : Option Arguments :=
  if value.isEmpty then none
  else
    let v := String.ofList value
    match s with
    | .session => some { a with sessions := a.sessions ++ [v] }
    | .rules => if a.rules.isSome then none else some { a with rules := some v }
    | .packets => if a.packets.isSome then none else some { a with packets := some v }
    | .outputDir => if a.outputDir.isSome then none else some { a with outputDir := some v }

/-- What has been read: the arguments so far, and an option that waits for its value. -/
structure Progress where
  arguments : Arguments := {}
  waiting : Option Setting := none
  /-- No more options may follow. -/
  closed : Bool := false

/-- The letters of a short argument. What follows an option that needs a value is the value, behind
an optional `=`. -/
def readCluster (a : Arguments) : List Char → Option Progress
  | [] => some { arguments := a }
  | c :: rest =>
    match short? c with
    | none => none
    | some (.switch s) => (a.turnOn s).bind fun a => readCluster a rest
    | some (.setting s) =>
      match rest with
      | [] => some { arguments := a, waiting := some s }
      | '=' :: value => (a.set s value).map fun a => { arguments := a }
      | value => (a.set s value).map fun a => { arguments := a }

/-- A long argument, without the hyphens before it. -/
def readLong (a : Arguments) (s : List Char) : Option Progress :=
  match cut ['='] s with
  | none =>
    match long? (String.ofList s) with
    | some (.switch s) => (a.turnOn s).map fun a => { arguments := a }
    | some (.setting s) => some { arguments := a, waiting := some s }
    | none => none
  | some (name, value) =>
    match long? (String.ofList name) with
    | some (.setting s) => (a.set s value).map fun a => { arguments := a }
    | _ => none

/-- Reads one more argument. A hyphen alone is a value, and two of them end the options. -/
def readOne (p : Progress) (argument : String) : Option Progress :=
  if p.closed then none
  else
    match p.waiting, argument.toList with
    | some _, '-' :: _ :: _ => none
    | some s, value => (p.arguments.set s value).map fun a => { arguments := a }
    | none, ['-', '-'] => some { p with closed := true }
    | none, '-' :: '-' :: s => readLong p.arguments s
    | none, '-' :: c :: s => readCluster p.arguments (c :: s)
    | none, _ => none

/-- The arguments of a command line; `none` when they are not understood. Packets need rules. -/
def parse? (arguments : List String) : Option Arguments := do
  let p ← arguments.foldlM readOne {}
  if p.waiting.isSome || (p.arguments.packets.isSome && p.arguments.rules.isNone) then none
  else some p.arguments

end Arguments

end HostSurvey
