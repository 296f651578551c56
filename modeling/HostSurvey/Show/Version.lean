import HostSurvey.Device.Basic
import HostSurvey.Text.Find

/-!
# Version information

Five kinds of lines tell the software with the platform it runs on, the model,
the serial number and the image file. Of each value the first one counts, but a
line that names the model replaces what was known of it.
-/

namespace HostSurvey.Version

open Text

inductive Line where
  | software (platform version : String)
  | model (name : String)
  | serial (number : String)
  | image (file : String)
  deriving DecidableEq, Repr

def isNewline (c : Char) : Bool := c == '\n'

/-- The text up to the end of its line. -/
def restOfLine (s : List Char) : List Char := s.takeWhile fun c => !isNewline c

/-- The word at the start of a text, if there is one, and what follows it. -/
def word? (s : List Char) : Option (String × List Char) :=
  let word := s.takeWhile fun c => !isBlank c
  if word.isEmpty then none
  else some (String.ofList word, s.dropWhile fun c => !isBlank c)

/-- A version number ends at a comma or a blank. -/
def isVersionChar (c : Char) : Bool := c != ',' && !isBlank c

def versionAt? (s : List Char) : Option String := do
  let number := (← strip? "Version ".toList s).takeWhile isVersionChar
  if number.isEmpty then none
  return String.ofList number

/-- The last version number that a text tells. -/
def lastVersion? : List Char → Option String
  | [] => none
  | c :: s =>
    match lastVersion? s with
    | some number => some number
    | none => versionAt? (c :: s)

def software? (line : List Char) : Option Line := do
  let rest ← strip? "Cisco IOS Software, ".toList line
  let (platform, rest) ← word? rest
  let rest ← strip? " Software".toList rest
  return .software platform (← lastVersion? (restOfLine rest))

/-- What follows a colon with blanks on either side. -/
def pastColon? (s : List Char) : Option (List Char) :=
  (strip? [':'] (trimStart s)).map trimStart

def modelNumber? (line : List Char) : Option Line := do
  let rest ← strip? "Model ".toList line
  let rest ← strip? "Number".toList rest <|> strip? "number".toList rest
  let (name, _) ← word? (← pastColon? rest)
  return .model name

def processor? (line : List Char) : Option Line := do
  let rest ← strip? "Cisco ".toList line <|> strip? "cisco ".toList line
  let (name, rest) ← word? rest
  let rest ← strip? " (".toList rest
  if contains ") processor".toList (restOfLine rest) then return .model name else none

def serialNumber? (line : List Char) : Option (List Char) := do
  let rest ← strip? "System ".toList line
  let rest ← strip? "Serial ".toList rest <|> strip? "serial ".toList rest
  let rest ← strip? "Number".toList rest <|> strip? "number".toList rest
  pastColon? rest

def boardId? (line : List Char) : Option (List Char) :=
  (strip? "Processor board ID".toList line).map trimStart

def serial? (line : List Char) : Option Line := do
  let (number, _) ← word? (← serialNumber? line <|> boardId? line)
  return .serial number

def image? (line : List Char) : Option Line := do
  let rest ← strip? "System image file is \"".toList line
  let file := rest.takeWhile (· != '"')
  if file.isEmpty || file.length = rest.length then none
  return .image (String.ofList file)

def Line.parse? (line : List Char) : Option Line :=
  software? line <|> modelNumber? line <|> processor? line <|> serial? line <|> image? line

/-- A value that is known already stays. -/
def keep (known : Option String) (value : String) : Option String := some (known.getD value)

def Line.apply (v : VersionInfo) : Line → VersionInfo
  | .software platform version =>
    { v with version := keep v.version version, model := keep v.model platform }
  | .model name => { v with model := some name }
  | .serial number => { v with serial := keep v.serial number }
  | .image file => { v with image := keep v.image file }

/-- Reads version information into a device; says whether any line tells something. -/
def read (lines : List (List Char)) (d : Device) : Bool × Device :=
  let told := lines.filterMap Line.parse?
  (!told.isEmpty, { d with version := told.foldl Line.apply d.version })

end HostSurvey.Version
