import HostSurvey.Filter.Engine
import HostSurvey.Payload.Program

/-!
# Rule documents

A fingerprint names payloads and groups of conditions that feed them. The
groups are alternatives; each has to feed a payload of its own fingerprint.
-/

namespace HostSurvey

/-- Conditions that lead to the payload named `target`. -/
structure FilterGroup where
  target : String
  conditions : List Condition := []
  deriving DecidableEq

structure Fingerprint where
  name : String
  author : String := ""
  description : String := ""
  filters : List FilterGroup := []
  payloads : List Payload := []
  deriving DecidableEq

namespace Fingerprint

/-- The place of the first payload with a name. -/
def payloadIndex? (f : Fingerprint) (name : String) : Option Nat :=
  f.payloads.findIdx? fun p => p.name == name

def payload? (f : Fingerprint) (name : String) : Option Payload :=
  f.payloads.find? fun p => p.name == name

/-- Whether some search of the payload has nothing to search for. -/
def hasEmptyMatch (p : Payload) : Bool :=
  p.operations.any fun
    | .search op => op.isEmpty
    | _ => false

def checkPayload (f : Fingerprint) (p : Payload) : Except RuleFault Unit :=
  if hasEmptyMatch p then .error (.emptyMatch f.name p.name) else .ok ()

def checkGroup (f : Fingerprint) (g : FilterGroup) : Except RuleFault Unit :=
  if (f.payloadIndex? g.target).isNone then .error (.unknownPayload f.name g.target) else .ok ()

/-- Every match searches for something, and every group feeds a payload. -/
def check (f : Fingerprint) : Except RuleFault Unit := do
  f.payloads.forM f.checkPayload
  f.filters.forM f.checkGroup

end Fingerprint

end HostSurvey
