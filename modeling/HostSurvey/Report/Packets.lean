import HostSurvey.Classifier
import HostSurvey.Report.Line

/-!
# Reports on packets

One block for each packet that matched some fingerprint, with all that is known
of its host, and how many packets matched none.
-/

namespace HostSurvey.Report

open Classifier (Report)

def packetTitle (r : Report) : String :=
  "Frame " ++ Colour.red.paint (toString r.frame.toNat) ++ " (" ++ toString r.src.toNat ++ " -> " ++
    toString r.dst.toNat ++ ", proto " ++ toString r.proto.toNat ++ ")"

def attributeLine (e : String × String) : String := framed ("  " ++ padded 15 e.1 ++ ": " ++ e.2)

def packetLines (r : Report) : List String :=
  [bar "", framed (packetTitle r),
    labelled "Matched" (Colour.yellow.paint (String.intercalate ", " r.fingerprints))] ++
    r.host.texts.map attributeLine

def isMatched (r : Report) : Bool := !r.fingerprints.isEmpty

def packetsLines (rs : List Report) : List String :=
  heading "Fingerprints" ++ (rs.filter isMatched).flatMap packetLines ++
    [framed "", framed (toString rs.length ++ " record(s), " ++
      toString (rs.filter fun r => !isMatched r).length ++ " unmatched")]

end HostSurvey.Report
