import HostSurvey.Device.Basic
import HostSurvey.Text.Find
import HostSurvey.Text.Hex

/-!
# Tables of interfaces

A status line opens the block of an interface; indented lines below it tell its
hardware, description and address. Of an interface that stands for a VLAN, the
VLAN takes the description and the address too.
-/

namespace HostSurvey.Interfaces

open Text

structure Status where
  name : String
  status : String
  line : String
  detail : Option String
  deriving DecidableEq, Repr

/-- The first of some words that a text begins with, and what follows it. -/
def stripWord? (words : List String) (s : List Char) : Option (String × List Char) :=
  words.findSome? fun w => (strip? w.toList s).map (w, ·)

/-- A note in parentheses, or nothing, and blanks up to the end. -/
def detail? (s : List Char) : Option (Option String) :=
  match strip? " (".toList s with
  | some inner =>
    let note := inner.takeWhile (· != ')')
    match inner.dropWhile (· != ')') with
    | ')' :: rest =>
      if !note.isEmpty && rest.all isBlank then some (some (String.ofList note)) else none
    | _ => none
  | none => if s.all isBlank then some none else none

def Status.parse? (line : List Char) : Option Status := do
  let name := line.takeWhile fun c => !isBlank c
  if name.isEmpty then none
  let rest ← strip? " is ".toList (line.dropWhile fun c => !isBlank c)
  let (status, rest) ← stripWord? ["up", "down", "administratively down"] rest
  let rest ← strip? ", line protocol is ".toList rest
  let (state, rest) ← stripWord? ["up", "down"] rest
  let detail ← detail? rest
  return { name := String.ofList name, status, line := state, detail }

/-- Something that a line below a status line tells. -/
inductive Property where
  | hardware (name : String) (mac : Mac)
  | description (text : String)
  | address (text : List Char)
  deriving DecidableEq

/-- What follows blanks, at least one, and a label. -/
def labelled? (label : String) (line : List Char) : Option (List Char) :=
  match line with
  | c :: _ => if isBlank c then strip? label.toList (trimStart line) else none
  | [] => none

def isHexDigit (c : Char) : Bool := (Hex.value c.toNat).isSome

/-- Three groups of four hexadecimal digits with dots between them, at the start of a text. -/
def dottedMac? (s : List Char) : Option Mac :=
  match fields (· == '.') (s.take 14) with
  | [a, b, c] =>
    if [a, b, c].all fun g => g.length == 4 && g.all isHexDigit then Mac.parse? (s.take 14)
    else none
  | _ => none

def hardware? (line : List Char) : Option Property := do
  let s ← labelled? "Hardware is " line
  let name := s.takeWhile (· != ',')
  if name.isEmpty then none
  let rest ← strip? ", address is ".toList (s.dropWhile (· != ','))
  let mac ← dottedMac? rest
  return .hardware (String.ofList (trim name)) mac

def description? (line : List Char) : Option Property := do
  let s ← labelled? "Description: " line
  if s.isEmpty || s.contains '\n' then none
  return .description (String.ofList (tidy (trim s)))

def address? (line : List Char) : Option Property := do
  let s ← labelled? "Internet address is " line
  let word := s.takeWhile fun c => !isBlank c
  if word.isEmpty then none
  return .address word

def Property.parse? (line : List Char) : Option Property :=
  hardware? line <|> description? line <|> address? line

/-- The VLAN that an interface stands for, changed by `f`. -/
def editOwnVlan (d : Device) (name : String) (f : Vlan → Vlan) : Device :=
  match Interface.vlanId? name.toList with
  | some id => d.editVlan id f
  | none => d

/-- Opens the port that is told of. What follows in its block goes to the port of the same key. -/
def applyStatus (d : Device) (s : Status) : String × Device :=
  let (key, d) := d.openPort s.name
  (key, d.modifyPort key fun p =>
    { p with status := some s.status, lineStatus := some s.line, lineDetail := s.detail })

def applyProperty (d : Device) (name : String) : Property → Device
  | .hardware hardware mac =>
    d.editPort name fun p => { p with hardware := some hardware, mac := some mac }
  | .description text =>
    (editOwnVlan d name fun v => { v with name := some text }).editPort name fun p =>
      { p with description := some text }
  | .address text =>
    match Ipv4.parseNetwork? text with
    | some (ip, cidr) =>
      editOwnVlan (d.editPort name fun p => { p with ip := some ip, cidr }) name fun v =>
        { v with ip := some ip, cidr }
    | none => d

structure State where
  /-- The interface whose block is read. -/
  current : Option String := none
  device : Device

def step (s : State) (line : List Char) : State :=
  match Status.parse? line with
  | some status =>
    let (key, d) := applyStatus s.device status
    ⟨some key, d⟩
  | none =>
    match s.current, Property.parse? line with
    | some name, some property => { s with device := applyProperty s.device name property }
    | _, _ => s

/-- Reads a table into a device; says whether it has any interface. -/
def read (lines : List (List Char)) (d : Device) : Bool × Device :=
  let s := lines.foldl step { device := d }
  (s.current.isSome, s.device)

end HostSurvey.Interfaces
