import HostSurvey.Json.Value
import HostSurvey.Text.Hex

/-!
# Writing JSON

`compact` writes a value on one line. `pretty` puts every item and member on a
line of its own, two spaces deeper than what holds it; what is empty stays on
one line. Only quotes, backslashes and control characters are escaped.
-/

namespace HostSurvey.Json

open Text

def escape (c : Char) : List Char :=
  if c = '"' then ['\\', '"']
  else if c = '\\' then ['\\', '\\']
  else if c = '\x08' then ['\\', 'b']
  else if c = '\x0c' then ['\\', 'f']
  else if c = '\n' then ['\\', 'n']
  else if c = '\r' then ['\\', 'r']
  else if c = '\t' then ['\\', 't']
  else if c.toNat < 0x20 then ['\\', 'u', '0', '0'] ++ Hex.pair 97 c.toNat.toUInt8
  else [c]

def quote (s : String) : String := String.ofList ('"' :: s.toList.flatMap escape ++ ['"'])

/-- The text of a label or string value. -/
def quoteText (s : Option String) : String := quote (s.getD "")

mutual

def compact : Json → String
  | .null => "null"
  | .bool true => "true"
  | .bool false => "false"
  | .number literal => literal
  | .string s => quoteText s
  | .array items => "[" ++ String.intercalate "," (compactItems items) ++ "]"
  | .object members => "\x7b" ++ String.intercalate "," (compactMembers members) ++ "\x7d"

def compactItems : List Json → List String
  | [] => []
  | v :: vs => compact v :: compactItems vs

def compactMembers : List (Option String × Json) → List String
  | [] => []
  | (label, v) :: ms => (quoteText label ++ ":" ++ compact v) :: compactMembers ms

end

def indent (depth : Nat) : String := String.ofList (List.replicate (2 * depth) ' ')

/-- Lines between brackets, each one level deeper than `depth`. -/
def block (opening closing : String) (depth : Nat) (lines : List String) : String :=
  opening ++ "\n" ++ indent (depth + 1) ++ String.intercalate (",\n" ++ indent (depth + 1)) lines ++
    "\n" ++ indent depth ++ closing

mutual

def prettyAt (depth : Nat) : Json → String
  | .array (v :: vs) => block "[" "]" depth (prettyItems (depth + 1) (v :: vs))
  | .object (m :: ms) => block "\x7b" "\x7d" depth (prettyMembers (depth + 1) (m :: ms))
  | .null => "null"
  | .bool true => "true"
  | .bool false => "false"
  | .number literal => literal
  | .string s => quoteText s
  | .array [] => "[]"
  | .object [] => "\x7b\x7d"

def prettyItems (depth : Nat) : List Json → List String
  | [] => []
  | v :: vs => prettyAt depth v :: prettyItems depth vs

def prettyMembers (depth : Nat) : List (Option String × Json) → List String
  | [] => []
  | (label, v) :: ms => (quoteText label ++ ": " ++ prettyAt depth v) :: prettyMembers depth ms

end

def pretty (v : Json) : String := prettyAt 0 v

end HostSurvey.Json
