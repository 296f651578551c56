import HostSurvey.CommandLine.Arguments
import HostSurvey.Device.Document
import HostSurvey.Device.Export
import HostSurvey.Json.Printer
import HostSurvey.Pattern.Search
import HostSurvey.Report.Devices
import HostSurvey.Report.Packets
import HostSurvey.Show.Import

/-!
# The command line

A run imports captured sessions and classifies packets. What it prints and what
it leaves in the output directory is a value here; nothing is read or written.
The rules may have patterns, for which a run takes any engine, by default that of
`Pattern.Search`.
-/

namespace HostSurvey.CommandLine

/-- What a run finds: the content of files, and the directories that cannot be made. -/
structure Surroundings where
  read : String → Option Bytes
  isBlocked : String → Bool := fun _ => false

structure Outcome where
  exitCode : UInt32 := 0
  output : String := ""
  /-- The directories that are made. -/
  directories : List String := []
  /-- The documents written, by their paths. -/
  documents : List (String × String) := []
  /-- The sections that are written, each to a file of its own. -/
  sections : List Session.Section := []

/-- The exit code of a run that fails. -/
def failure : UInt32 := 1

/-- The exit code for arguments that are not understood. -/
def misuse : UInt32 := 2

def sectionDirectory (outputDir : String) : String := outputDir ++ "/sections"

namespace Outcome

def print (o : Outcome) (s : String) : Outcome := { o with output := o.output ++ s }

def fail (o : Outcome) : Outcome := { o with exitCode := failure }

/-- Writes a document to the output directory, or prints it when there is none. -/
def emit (o : Outcome) (outputDir : Option String) (name : String) (v : Json) : Outcome :=
  match outputDir with
  | some dir => { o with documents := o.documents ++ [(dir ++ "/" ++ name, v.pretty)] }
  | none => o.print (v.pretty ++ "\n")

end Outcome

/-! ## Devices -/

/-- The sections that a session keeps, up to the first fault. -/
def storedSections (content : Option Bytes) : List Session.Section :=
  match content with
  | none => []
  | some content =>
    (Session.storeAll {} .empty (Session.keptSections {} (Session.linesOf content))).1.values

/-- The devices of all sessions that can be imported. -/
def importAll (s : Surroundings) (sessions : List String) : List Device :=
  sessions.filterMap fun file => (importDevice .standard {} file (s.read file)).toOption

def treesOf (ds : List Device) : List TraitTree := ds.filterMap fun d => d.toTree.toOption

/-- The devices with their outlines, if these are asked for: as many as there are trees, under the
names of the first devices. -/
def deviceText (ds : List Device) (tree : Bool) : String :=
  let outlines := if tree then (ds.zip (treesOf ds)).flatMap fun (d, t) => Report.treeLines d.name t
    else []
  Report.joined (Report.devicesLines ds ++ outlines)

def deviceDocument (ds : List Device) (tree : Bool) : Json :=
  .array (if tree then (treesOf ds).map TraitTree.toJson else ds.map Device.toJson)

def reportDevices (a : Arguments) (ds : List Device) (o : Outcome) : Outcome :=
  if a.json then o.emit a.outputDir "devices.json" (deviceDocument ds a.tree)
  else o.print (deviceText ds a.tree)

def makeSectionDirectory (a : Arguments) (s : Surroundings) (o : Outcome) : Option Outcome :=
  match a.outputDir with
  | none => some o
  | some dir =>
    let path := sectionDirectory dir
    if s.isBlocked path then none
    else
      some { o with
        directories := o.directories ++ [path]
        sections := a.sessions.flatMap fun file => storedSections (s.read file) }

/-- Imports the sessions; it fails when no session can be imported. -/
def importDevices (a : Arguments) (s : Surroundings) (o : Outcome) : Outcome :=
  match makeSectionDirectory a s o with
  | none => o.fail
  | some o =>
    match importAll s a.sessions with
    | [] => o.fail
    | d :: ds => reportDevices a (d :: ds) o

/-! ## Packets -/

def readText (s : Surroundings) (file : String) : Except RuleFault (List Char) :=
  match (s.read file).bind Text.Utf8.decode with
  | some text => .ok text
  | none => .error .unreadable

/-- The reports on all packets that can be read. -/
def packetReports [Pattern.Engine] (s : Surroundings) (rules packets : String) :
    Except RuleFault (List Classifier.Report) := do
  let c ← Classifier.ofFingerprints (← Rule.readDocument (← readText s rules))
  let records ← Classifier.readRecords (← readText s packets)
  return records.filterMap fun r => (c.report r).toOption

def reportPackets (a : Arguments) (rs : List Classifier.Report) (o : Outcome) : Outcome :=
  if a.json then
    o.emit a.outputDir "fingerprints.json" (.array (rs.map Classifier.Report.toJson))
  else o.print (Report.joined (Report.packetsLines rs))

def classifyPackets [Pattern.Engine] (a : Arguments) (s : Surroundings) (rules packets : String)
    (o : Outcome) : Outcome :=
  match packetReports s rules packets with
  | .ok rs => reportPackets a rs o
  | .error _ => o.fail

/-! ## Runs -/

def makeOutputDirectory (a : Arguments) (s : Surroundings) : Option Outcome :=
  match a.outputDir with
  | none => some {}
  | some dir => if s.isBlocked dir then none else some { directories := [dir] }

/-- A run with nothing to do fails; packets are classified after the import, unless that fails. -/
def perform [Pattern.Engine] (a : Arguments) (s : Surroundings) : Outcome :=
  match makeOutputDirectory a s with
  | none => ({} : Outcome).fail
  | some o =>
    if a.sessions.isEmpty && a.packets.isNone then o.fail
    else
      let o := if a.sessions.isEmpty then o else importDevices a s o
      match a.rules, a.packets with
      | some rules, some packets =>
        if o.exitCode = 0 then classifyPackets a s rules packets o else o
      | _, _ => o

def run [Pattern.Engine] (arguments : List String) (s : Surroundings) : Outcome :=
  match Arguments.parse? arguments with
  | some a => perform a s
  | none => { exitCode := misuse }

end HostSurvey.CommandLine
