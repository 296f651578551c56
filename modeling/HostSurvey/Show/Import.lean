import HostSurvey.Device.Fault
import HostSurvey.Show.Command

/-!
# Importing sessions

A session becomes a device: it is cut into sections, and each section whose
command is understood is read, in the order of the commands. Sections that tell
nothing are left out of the list of commands.
-/

namespace HostSurvey

/-- Reads one section, if its command is understood. -/
def readSection (r : Registry) (d : Device) (s : Session.Section) : Device :=
  match r.lookup s.prompt.command with
  | .reader _ reader =>
    match reader.read s.output d with
    | (true, d) => d.addCommand s.command
    | (false, d) => d
  | _ => d

/-- The device that a split session shows. -/
def Session.toDevice (r : Registry) (s : Session) (file : String) : Except ImportFault Device :=
  if s.device.isEmpty then .error (.noDevice file)
  else if s.sections.isEmpty then .error (.noCommands file)
  else
    .ok (s.sections.values.foldl (readSection r) { Device.blank s.device with source := some file })

/-- Splits the content of a file and reads its sections; `none` is a file that cannot be read. -/
def importDevice (r : Registry) (options : SplitOptions) (file : String) (content : Option Bytes) :
    Except ImportFault Device := do
  let some content := content | .error .unreadable
  let session ← (Session.split options content).mapError .ofSplit
  session.toDevice r file

end HostSurvey
