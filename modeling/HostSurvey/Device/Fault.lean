import HostSurvey.Session.Section
import HostSurvey.Tree.Reading

/-!
# Faults in imports

What can go wrong between a captured session and the tree of a device.
-/

namespace HostSurvey

inductive ImportFault where
  /-- A file cannot be read or written. -/
  | unreadable
  | duplicateCommand (command : String)
  /-- No command line names the device. -/
  | noDevice (file : String)
  /-- No section is kept. -/
  | noCommands (file : String)
  | unknownAddress (text : String)
  /-- The number of an interface has no slot. -/
  | noSlot (numbering : String)
  | tree (fault : TraitFault)
  deriving DecidableEq, Repr

namespace ImportFault

def message : ImportFault → String
  | .unreadable => "I/O error"
  | .duplicateCommand command => "Cannot process duplicate commands, \"" ++ command ++ "\""
  | .noDevice file => "Could not determine device-name within file \"" ++ file ++ "\""
  | .noCommands file => "Could not recognize commands within \"" ++ file ++ "\""
  | .unknownAddress text => HostSurvey.unknownAddress text
  | .noSlot numbering => "Expected 2 or more module slots in '" ++ numbering ++ "'"
  | .tree fault => fault.message

def ofSplit : SplitFault → ImportFault
  | .duplicate command => .duplicateCommand command
  | .unwritable => .unreadable

end ImportFault

/-- An address with an optional length or mask; a fault tells the text without blanks around it. -/
def Ipv4.readNetwork (s : List Char) : Except ImportFault (Ipv4 × Option UInt8) :=
  match parseNetwork? (Text.trim s) with
  | some network => .ok network
  | none => .error (.unknownAddress (String.ofList (Text.trim s)))

/-- A hardware address; a fault tells the text as it is. -/
def Mac.read (s : List Char) : Except ImportFault Mac :=
  match parse? s with
  | some m => .ok m
  | none => .error (.unknownAddress (String.ofList s))

end HostSurvey
