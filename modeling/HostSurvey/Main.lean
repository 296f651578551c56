import HostSurvey.CommandLine.Run

/-!
# The program

Reads the files that the arguments name, runs, and writes what the run leaves.
-/

namespace HostSurvey.Program

def readFile? (path : String) : IO (Option Bytes) := do
  try
    return some (← IO.FS.readBinFile path).toList
  catch _ => return none

/-- The given path with its content. -/
def readEntry (path : String) : IO (String × Option Bytes) := do
  return (path, ← readFile? path)

/-- Makes a directory; says whether it cannot be made. -/
def makeDirectory (path : String) : IO Bool := do
  try
    IO.FS.createDirAll path
    return false
  catch _ => return true

def uniqueChars : List Char :=
  "abcdefghijklmnopqrstuvwxyzABCDEFGHIJKLMNOPQRSTUVWXYZ0123456789".toList

def uniquePart : Nat → IO (List Char)
  | 0 => return []
  | n + 1 => do
    let i ← IO.rand 0 (uniqueChars.length - 1)
    return uniqueChars.getD i 'a' :: (← uniquePart n)

def writeSection (directory : String) (s : Session.Section) : IO Unit := do
  let unique ← uniquePart Session.Section.uniqueLength
  let name := s.fileStem ++ String.ofList unique ++ Session.Section.fileExtension
  IO.FS.writeFile (directory ++ "/" ++ name) s.fileText

/-- Writes a file; a failure has no consequence. -/
def writeQuietly (path content : String) : IO Unit := do
  try
    IO.FS.writeFile path content
  catch _ => return ()

/-- The directories that a run wants, the outer one first. -/
def wantedDirectories (a : Arguments) : List String :=
  match a.outputDir with
  | none => []
  | some dir => if a.sessions.isEmpty then [dir] else [dir, CommandLine.sectionDirectory dir]

def perform (a : Arguments) : IO UInt32 := do
  let blocked ← (wantedDirectories a).filterM fun path => makeDirectory path
  let files ← (a.sessions ++ a.rules.toList ++ a.packets.toList).mapM readEntry
  let outcome := CommandLine.perform a {
    read := fun path => (files.lookup path).join
    isBlocked := fun path => blocked.contains path }
  (← IO.getStdout).putStr outcome.output
  for (path, content) in outcome.documents do
    writeQuietly path content
  for s in outcome.sections do
    writeSection (CommandLine.sectionDirectory (a.outputDir.getD "")) s
  return outcome.exitCode

end HostSurvey.Program

open HostSurvey in
def main (arguments : List String) : IO UInt32 :=
  match Arguments.parse? arguments with
  | some a => Program.perform a
  | none => return CommandLine.misuse
