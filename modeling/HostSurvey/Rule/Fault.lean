import HostSurvey.Text.Hex

/-!
# Faults in rules and records

What can be wrong with a rule document, a rule or a packet record.
-/

namespace HostSurvey

inductive RuleFault where
  /-- No JSON, or JSON of another shape. -/
  | malformed
  | badPattern
  | badHex (fault : Text.Hex.Fault)
  | unreadable
  | emptyRange (field : String) (min max : Nat)
  | unknownFlag (token : String)
  /-- A filter group names a payload that its fingerprint lacks. -/
  | unknownPayload (fingerprint payload : String)
  /-- A match has nothing to search for. -/
  | emptyMatch (fingerprint payload : String)
  deriving DecidableEq, Repr

def RuleFault.message : RuleFault → String
  | .malformed => "Malformed rule document"
  | .badPattern => "Bad pattern"
  | .badHex fault => "Bad hex content: " ++ fault.message
  | .unreadable => "I/O error"
  | .emptyRange field min max =>
    "Range " ++ toString min ++ "..=" ++ toString max ++ " of " ++ field ++ " is empty"
  | .unknownFlag token => "Unknown TCP flag '" ++ token ++ "'"
  | .unknownPayload fingerprint payload =>
    "Filter of '" ++ fingerprint ++ "' feeds unknown payload '" ++ payload ++ "'"
  | .emptyMatch fingerprint payload =>
    "Match in '" ++ fingerprint ++ "/" ++ payload ++ "' has neither pattern nor content"

end HostSurvey
