import HostSurvey.Session.Line
import HostSurvey.Sorted.Map
import HostSurvey.Text.Lines
import HostSurvey.Text.Utf8

/-!
# Sections of a terminal session

A session is cut at its command lines. The lines up to the next command line
are the output of a command; a line with only `^` marks a command that the
device refused, and what was shown up to it does not count. Short sections and
those without a command are dropped, and no command may be kept twice.
-/

namespace HostSurvey.Session

open Text

/-- The lines of a captured session, carriage returns at their ends dropped. -/
def linesOf (content : Bytes) : List (List Char) :=
  (linesAt 10 content).map fun l => dropTrailing '\r' (Utf8.lossy l)

structure Section where
  prompt : Prompt
  /-- The command line itself. -/
  line : List Char
  /-- The number of the command line in the session, the first line being 1. -/
  first : Nat
  body : List (List Char)
  deriving DecidableEq, Repr

def isRefusal (line : List Char) : Bool := trim line == ['^']

/-- The lines behind the last refusal. -/
def afterRefusal (lines : List (List Char)) : List (List Char) :=
  (lines.reverse.takeWhile fun l => !isRefusal l).reverse

/-- The lines before the first command line, and the sections of all command lines. The first of
the lines has the number `n`. -/
def cutSections (n : Nat) : List (List Char) → List (List Char) × List Section
  | [] => ([], [])
  | l :: rest =>
    let (lead, sections) := cutSections (n + 1) rest
    match Prompt.parse? l with
    | some prompt => ([], ⟨prompt, l, n, afterRefusal lead⟩ :: sections)
    | none => (l :: lead, sections)

namespace Section

def command (s : Section) : String := String.ofList s.prompt.command

def last (s : Section) : Nat := s.first + s.body.length

/-- The output as the terminal showed it. -/
def output (s : Section) : List (List Char) := s.body.map cleanLine

/-- Long enough, counting the command line, and of some command. -/
def isKept (required : Nat) (s : Section) : Bool :=
  required < s.body.length + 1 && !s.prompt.command.isEmpty

def isFileNameChar (c : Char) : Bool := isAsciiLetter c || isAsciiDigit c

/-- The beginning of the name of the file for a section, up to what makes it unique. -/
def fileStem (s : Section) : String :=
  "cisco-" ++ String.ofList (s.prompt.command.map fun c => if isFileNameChar c then c else '_') ++
    "-"

/-- How many characters make the name of a section's file unique. -/
def uniqueLength : Nat := 6

def fileExtension : String := ".txt"

/-- The bytes of the name of a section's file, which are all ASCII. -/
def fileNameLength (s : Section) : Nat :=
  s.fileStem.length + uniqueLength + fileExtension.length

/-- A section as a file: the command line and the lines of the body. -/
def fileText (s : Section) : String :=
  String.ofList ((s.line :: s.body).flatMap fun l => l ++ ['\n'])

def fileBytes (s : Section) : Bytes := Utf8.encode s.fileText.toList

/-- The output that the file of a section holds: what the terminal showed of the lines behind the
first one. -/
def readLines (file : Bytes) : List (List Char) :=
  ((linesAt 10 file).drop 1).map fun l => cleanLine (Utf8.lossy l)

end Section

end HostSurvey.Session

namespace HostSurvey

open Session

structure SplitOptions where
  /-- Sections of at most so many lines are dropped. -/
  shortest : Nat := 5
  /-- The longest name that a file can have. -/
  longestName : Option Nat := some 255

inductive SplitFault where
  | duplicate (command : String)
  /-- The file of a section cannot be written. -/
  | unwritable
  deriving DecidableEq, Repr

/-- A session cut into the output of its commands. -/
structure Session where
  device : String
  lineCount : Nat
  sections : SortedMap String Session.Section

namespace Session

def isWritable (options : SplitOptions) (s : Section) : Bool :=
  options.longestName.all fun n => s.fileNameLength ≤ n

/-- Adds a section under its command. -/
def store (options : SplitOptions) (kept : SortedMap String Section) (s : Section) :
    Except SplitFault (SortedMap String Section) :=
  if kept.contains s.command then .error (.duplicate s.command)
  else if isWritable options s then .ok (kept.insert s.command s)
  else .error .unwritable

/-- The last device name that is not empty, and the empty one when there is none. -/
def deviceName (sections : List Section) : List Char :=
  ((sections.map fun s => s.prompt.device).filter fun d => !d.isEmpty).getLast?.getD []

/-- The sections that a session keeps, in the order of the file. -/
def keptSections (options : SplitOptions) (lines : List (List Char)) : List Section :=
  (cutSections 1 lines).2.filter (Section.isKept options.shortest)

/-- The kept sections, each one stored; with the first fault, those stored before it. -/
def storeAll (options : SplitOptions) (kept : SortedMap String Section) :
    List Section → SortedMap String Section × Option SplitFault
  | [] => (kept, none)
  | s :: rest =>
    match store options kept s with
    | .ok kept => storeAll options kept rest
    | .error fault => (kept, some fault)

def split (options : SplitOptions) (content : Bytes) : Except SplitFault Session :=
  let lines := linesOf content
  match storeAll options .empty (keptSections options lines) with
  | (_, some fault) => .error fault
  | (sections, none) =>
    .ok {
      device := String.ofList (deviceName (cutSections 1 lines).2)
      lineCount := lines.length
      sections }

end Session

end HostSurvey
