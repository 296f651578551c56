import HostSurvey.Json.Value
import HostSurvey.Text.Hex
import HostSurvey.Text.Ascii

/-!
# Reading JSON

`Json.read?` takes the text of one value and nothing else: no comments, no
trailing commas, no leading zeros, no raw control characters.
-/

namespace HostSurvey.Json

open Text

/-- The four characters JSON allows between its tokens. -/
def isSpace (c : Char) : Bool := c == ' ' || c == '\n' || c == '\t' || c == '\r'

def skipSpace (s : List Char) : List Char := s.dropWhile isSpace

/-! ## Strings -/

/-- The value of four hexadecimal digits. -/
def unit? (a b c d : Char) : Option Nat := do
  let a ← Hex.value a.toNat
  let b ← Hex.value b.toNat
  let c ← Hex.value c.toNat
  let d ← Hex.value d.toNat
  return ((a * 16 + b) * 16 + c) * 16 + d

/-- The character a one-letter escape stands for. -/
def escaped? : Char → Option Char
  | '"' => some '"'
  | '\\' => some '\\'
  | '/' => some '/'
  | 'b' => some '\x08'
  | 'f' => some '\x0c'
  | 'n' => some '\n'
  | 'r' => some '\r'
  | 't' => some '\t'
  | _ => none

/-- The code values up to the closing quote, surrogates still apart, and what follows it. -/
def readUnits : List Char → Option (List Nat × List Char)
  | [] => none
  | '"' :: s => some ([], s)
  | '\\' :: 'u' :: a :: b :: c :: d :: s => do
    let n ← unit? a b c d
    let (ns, rest) ← readUnits s
    return (n :: ns, rest)
  | '\\' :: c :: s => do
    let e ← escaped? c
    let (ns, rest) ← readUnits s
    return (e.toNat :: ns, rest)
  | c :: s => do
    guard (0x20 ≤ c.toNat)
    let (ns, rest) ← readUnits s
    return (c.toNat :: ns, rest)

/-- The text that code values spell, `none` when a surrogate lacks its partner. -/
def joinUnits : List Nat → Option (List Char)
  | [] => some []
  | high :: low :: ns =>
    if 0xD800 ≤ high ∧ high < 0xDC00 then
      if 0xDC00 ≤ low ∧ low < 0xE000 then
        (joinUnits ns).map (Char.ofNat (0x10000 + (high - 0xD800) * 1024 + (low - 0xDC00)) :: ·)
      else none
    else if 0xDC00 ≤ high ∧ high < 0xE000 then none
    else (joinUnits (low :: ns)).map (Char.ofNat high :: ·)
  | [n] => if 0xD800 ≤ n ∧ n < 0xE000 then none else some [Char.ofNat n]

/-- A string behind its opening quote. -/
def readString (s : List Char) : Option (Option String × List Char) := do
  let (ns, rest) ← readUnits s
  return ((joinUnits ns).map String.ofList, rest)

/-! ## Numbers -/

def digits (s : List Char) : List Char × List Char := s.span isAsciiDigit

/-- A whole part: a zero alone, or digits that start with another. -/
def readWhole (s : List Char) : Option (List Char × List Char) :=
  match digits s with
  | ([], _) => none
  | (['0'], rest) => some (['0'], rest)
  | ('0' :: _, _) => none
  | (ds, rest) => some (ds, rest)

def readFraction : List Char → Option (List Char × List Char)
  | '.' :: s =>
    match digits s with
    | ([], _) => none
    | (ds, rest) => some ('.' :: ds, rest)
  | s => some ([], s)

def readExponent : List Char → Option (List Char × List Char)
  | c :: s =>
    if c = 'e' ∨ c = 'E' then
      let (sign, s) :=
        match s with
        | '+' :: s => (['+'], s)
        | '-' :: s => (['-'], s)
        | s => ([], s)
      match digits s with
      | ([], _) => none
      | (ds, rest) => some (c :: sign ++ ds, rest)
    else some ([], c :: s)
  | [] => some ([], [])

def readNumber (s : List Char) : Option (Json × List Char) := do
  let (sign, s) :=
    match s with
    | '-' :: s => (['-'], s)
    | s => ([], s)
  let (whole, s) ← readWhole s
  let (fraction, s) ← readFraction s
  let (exponent, s) ← readExponent s
  return (.number (String.ofList (sign ++ whole ++ fraction ++ exponent)), s)

/-! ## Values -/

mutual

/-- One value and what follows it; `fuel` bounds the tokens read. -/
def readValue : Nat → List Char → Option (Json × List Char)
  | 0, _ => none
  | fuel + 1, s =>
    match skipSpace s with
    | 'n' :: 'u' :: 'l' :: 'l' :: s => some (.null, s)
    | 't' :: 'r' :: 'u' :: 'e' :: s => some (.bool true, s)
    | 'f' :: 'a' :: 'l' :: 's' :: 'e' :: s => some (.bool false, s)
    | '"' :: s => (readString s).map fun (t, s) => (.string t, s)
    | '[' :: s =>
      match skipSpace s with
      | ']' :: s => some (.array [], s)
      | s => (readItems fuel s).map fun (vs, s) => (.array vs, s)
    | '{' :: s =>
      match skipSpace s with
      | '}' :: s => some (.object [], s)
      | s => (readMembers fuel s).map fun (ms, s) => (.object ms, s)
    | s => readNumber s

/-- The values of an array up to its closing bracket. -/
def readItems : Nat → List Char → Option (List Json × List Char)
  | 0, _ => none
  | fuel + 1, s => do
    let (v, s) ← readValue fuel s
    match skipSpace s with
    | ']' :: s => return ([v], s)
    | ',' :: s =>
      let (vs, s) ← readItems fuel s
      return (v :: vs, s)
    | _ => none

/-- The members of an object up to its closing brace. -/
def readMembers : Nat → List Char → Option (List (Option String × Json) × List Char)
  | 0, _ => none
  | fuel + 1, s => do
    let '"' :: s := skipSpace s | none
    let (label, s) ← readString s
    let ':' :: s := skipSpace s | none
    let (v, s) ← readValue fuel s
    match skipSpace s with
    | '}' :: s => return ([(label, v)], s)
    | ',' :: s =>
      let (ms, s) ← readMembers fuel s
      return ((label, v) :: ms, s)
    | _ => none

end

/-- The value a text writes, with nothing but space around it. -/
def read? (s : List Char) : Option Json := do
  let (v, rest) ← readValue (s.length + 1) s
  guard (skipSpace rest).isEmpty
  return v

end HostSurvey.Json
