import HostSurvey.Rule.Fault
import HostSurvey.Text.Ascii
import HostSurvey.Text.Blank

/-!
# TCP flags

Nine bits of the TCP header and their names. `names` writes the set bits from
the highest to the lowest; `parse` reads any list of names, in any order and
case, back into bits.
-/

namespace HostSurvey.Flags

def table : List (String × UInt16) :=
  [("NS", 0x100), ("CWR", 0x080), ("ECE", 0x040), ("URG", 0x020), ("ACK", 0x010), ("PSH", 0x008),
    ("RST", 0x004), ("SYN", 0x002), ("FIN", 0x001)]

/-- The names of the set bits, separated by spaces. -/
def names (bits : UInt16) : String :=
  String.intercalate " " ((table.filter fun flag => bits &&& flag.2 != 0).map Prod.fst)

/-- Blanks, commas and bars separate names. -/
def isSeparator (c : Char) : Bool := Text.isBlank c || c == ',' || c == '|'

def bit? (token : List Char) : Option UInt16 :=
  (table.find? fun flag => Text.sameLetters flag.1.toList token).map Prod.snd

def union (bits : UInt16) : List (List Char) → Except RuleFault UInt16
  | [] => .ok bits
  | token :: tokens =>
    match bit? token with
    | some bit => union (bits ||| bit) tokens
    | none => .error (.unknownFlag (String.ofList token))

/-- The bits that a text names; the first unknown name is a fault. -/
def parse (text : String) : Except RuleFault UInt16 :=
  union 0 (Text.tokens isSeparator text.toList)

end HostSurvey.Flags
