import HostSurvey.Pattern.Flags
import HostSurvey.Text.Ascii
import HostSurvey.Text.Hex

/-!
# Escapes

`readEscape` reads what stands behind a backslash: a character, given by itself,
by a letter or by number, one of the shorthand sets, a Unicode property or a
condition on the position.
-/

namespace HostSurvey.Pattern

open Text

/-- What an escape or a plain character stands for. -/
inductive Atom where
  /-- A character; `byte` marks the two-digit form `\xHH`, which is a byte outside Unicode mode. -/
  | literal (c : Char) (byte : Bool)
  /-- One of `\d`, `\s` and `\w`. -/
  | shorthand (p : Property) (negated : Bool)
  /-- A named property. -/
  | property (set : CharSet) (negated : Bool)
  | look (a : Assertion)

/-- A character that stands for itself behind a backslash: any ASCII character but letters,
digits and angle brackets. -/
def isEscapable (c : Char) : Bool :=
  c.toNat < 128 && !isAsciiDigit c && !isAsciiLetter c && c != '<' && c != '>'

/-! ## Characters by number -/

def isHexDigit (c : Char) : Bool := (Hex.value c.toNat).isSome

/-- The character with the number that hexadecimal digits write. -/
def hexChar? (digits : List Char) : Option Char := do
  guard (!digits.isEmpty)
  let values ← digits.mapM fun c => Hex.value c.toNat
  let n := values.foldl (fun n d => n * 16 + d) 0
  guard (n < 0xD800 ∨ (0xDFFF < n ∧ n < 0x110000))
  return Char.ofNat n

/-- Exactly `n` hexadecimal digits. -/
def readFixed (f : Flags) : Nat → List Char → List Char → Option (Char × List Char)
  | 0, acc, s => (hexChar? acc.reverse).map (·, s)
  | _ + 1, _, [] => none
  | n + 1, acc, c :: s => if isHexDigit c then readFixed f n (c :: acc) (f.skip s) else none

/-- A character given by number, behind `x`, `u` or `U`. -/
def readHex (f : Flags) (width : Nat) (s : List Char) : Option (Atom × List Char) :=
  match f.skip s with
  | '{' :: s =>
    match f.collect isHexDigit (f.skip s) with
    | (digits, '}' :: s) => (hexChar? digits).map fun c => (.literal c false, f.skip s)
    | _ => none
  | s => (readFixed f width [] s).map fun (c, s) => (.literal c (width == 2), s)

/-! ## Properties -/

/-- A property by its short or long name. Case, blanks, hyphens, underscores, an `is` in front and
characters beyond ASCII do not count. -/
def namedProperty? (name : List Char) : Option CharSet :=
  let named :=
    match lowered (name.take 2) with
    | ['i', 's'] => name.drop 2
    | _ => name
  let plain := (lowered named).filter fun c =>
    c.toNat < 128 && c != ' ' && c != '-' && c != '_'
  match String.ofList plain with
  | "l" | "letter" => some (Property.set .letter)
  | "lu" | "uppercaseletter" => some (Property.set .capital)
  | "ll" | "lowercaseletter" => some (Property.set .small)
  | "n" | "number" => some (Property.set .number)
  | "nd" | "digit" | "decimalnumber" => some (Property.set .digit)
  | "whitespace" | "space" => some (Property.set .blank)
  | "ascii" => some (.range 0 127)
  | "any" => some (CharSet.empty.compl 0x10FFFF)
  | _ => none

/-- A property's name behind `p` or `P`. -/
def readProperty (f : Flags) (negated : Bool) (s : List Char) : Option (Atom × List Char) :=
  match f.skip s with
  | [] => none
  | '{' :: s =>
    match f.collect (· ≠ '}') (f.skip s) with
    | (name, _ :: rest) => (namedProperty? name).map fun set => (.property set negated, rest)
    | _ => none
  | c :: s => (namedProperty? [c]).map fun set => (.property set negated, f.skip s)

/-! ## Conditions -/

def isBoundaryChar (c : Char) : Bool := isAsciiLetter c || c == '-'

/-- The word boundary that a name in braces asks for. What cannot be such a name is left to be
read as a repetition. -/
def readBoundary (f : Flags) (s : List Char) : Option (Assertion × List Char) :=
  match s with
  | '{' :: rest =>
    match f.skip rest with
    | [] => none
    | c :: rest =>
      if isBoundaryChar c then
        match f.collect isBoundaryChar (c :: rest) with
        | (name, '}' :: rest) =>
          match String.ofList name with
          | "start" => some (.wordStart f.unicode, rest)
          | "end" => some (.wordEnd f.unicode, rest)
          | "start-half" => some (.wordStartHalf f.unicode, rest)
          | "end-half" => some (.wordEndHalf f.unicode, rest)
          | _ => none
        | _ => none
      else some (.wordBoundary f.unicode, s)
  | _ => some (.wordBoundary f.unicode, s)

/-! ## All escapes -/

/-- What a backslash and the characters behind it stand for. -/
def readEscape (f : Flags) : List Char → Option (Atom × List Char)
  | [] => none
  | c :: s =>
    if isEscapable c then some (.literal c false, s)
    else
      match c with
      | 'x' => readHex f 2 s
      | 'u' => readHex f 4 s
      | 'U' => readHex f 8 s
      | 'p' => readProperty f false s
      | 'P' => readProperty f true s
      | 'd' => some (.shorthand .digit false, s)
      | 'D' => some (.shorthand .digit true, s)
      | 's' => some (.shorthand .blank false, s)
      | 'S' => some (.shorthand .blank true, s)
      | 'w' => some (.shorthand .word false, s)
      | 'W' => some (.shorthand .word true, s)
      | 'a' => some (.literal '\x07' false, s)
      | 'f' => some (.literal '\x0c' false, s)
      | 't' => some (.literal '\t' false, s)
      | 'n' => some (.literal '\n' false, s)
      | 'r' => some (.literal '\r' false, s)
      | 'v' => some (.literal '\x0b' false, s)
      | 'A' => some (.look .textStart, s)
      | 'z' => some (.look .textEnd, s)
      | 'b' => (readBoundary f s).map fun (a, s) => (.look a, s)
      | 'B' => some (.look (.notWordBoundary f.unicode), s)
      | '<' => some (.look (.wordStart f.unicode), s)
      | '>' => some (.look (.wordEnd f.unicode), s)
      | _ => none

/-- The ASCII characters of a shorthand. -/
def asciiShorthand : Property → CharSet
  | .digit => .range 48 57
  | .blank => ⟨[(9, 13), (32, 32)]⟩
  | _ => ⟨[(48, 57), (65, 90), (95, 95), (97, 122)]⟩

def Flags.shorthand (f : Flags) (p : Property) (negated : Bool) : CharSet :=
  let set := if f.unicode then p.set else asciiShorthand p
  if negated then f.compl set else set

/-- An atom as an expression. Properties need Unicode mode. -/
def Flags.atom? (f : Flags) : Atom → Option Expr
  | .literal c byte => some (f.literal c byte)
  | .shorthand p negated => some (f.one (f.shorthand p negated))
  | .property set negated => if f.unicode then some (f.one (f.close negated set)) else none
  | .look a => some (.look a)

end HostSurvey.Pattern
