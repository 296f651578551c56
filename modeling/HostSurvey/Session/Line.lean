import HostSurvey.Text.Ascii
import HostSurvey.Text.Blank
import HostSurvey.Text.Find

/-!
# Lines of a terminal session

A backspace takes back the character before it. A command line is a prompt, a
`#` and `show` or its first letters; in configuration mode `do` stands before
it and the mode in parentheses behind the name of the device.
-/

namespace HostSurvey.Session

open Text

/-- What is on the terminal after one more character, newest first. -/
def typed (shown : List Char) (c : Char) : List Char :=
  if c = '\x08' then shown.tail
  else if c = '\r' then shown
  else c :: shown

/-- The line as it is shown in the end, without carriage returns and blanks at its end. -/
def cleanLine (s : List Char) : List Char := trimEnd (s.foldl typed []).reverse

/-- `show` or an abbreviation of it to at least two letters. -/
def isShow (word : List Char) : Bool :=
  2 ≤ word.length && (lowered word).isPrefixOf "show".toList

/-- A command line: the device that it names, and what is to be shown. -/
structure Prompt where
  device : List Char
  command : List Char
  deriving DecidableEq, Repr

/-- What follows the prompt, past a `do` at its start. -/
def pastDo (s : List Char) : List Char :=
  if sameLetters (firstWord s) ['d', 'o'] then after s (firstWord s) else s

def Prompt.parse? (line : List Char) : Option Prompt := do
  let (name, rest) ← cut ['#'] line
  let rest := pastDo rest
  if isShow (firstWord rest) then
    some { device := (trim name).takeWhile (· != '('), command := after rest (firstWord rest) }
  else none

end HostSurvey.Session
