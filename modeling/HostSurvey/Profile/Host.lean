import HostSurvey.Profile.Attributes
import HostSurvey.Profile.Vocabulary
import HostSurvey.Text.Decimal

/-!
# Host profiles

What is known of a host: free attributes, a confidence from 0 to 5 that only
rises, the kind of device, its role, the direction, and the names of the
fingerprints that contributed.
-/

namespace HostSurvey

structure HostProfile where
  attributes : Attributes := .empty
  confidence : Fin 6 := 0
  category : Category := .unknown
  role : Role := .unknown
  direction : Direction := .source
  names : SortedSet String := .empty

namespace HostProfile

def blank : HostProfile := {}

instance : Inhabited HostProfile := ⟨blank⟩

def put (p : HostProfile) (key value : String) : HostProfile :=
  { p with attributes := p.attributes.put key value }

def putPending (p : HostProfile) (key : String) (raw : Pending) : HostProfile :=
  { p with attributes := p.attributes.putPending key raw }

/-- Raises the confidence, at most to 5; a lower one changes nothing. -/
def raise (p : HostProfile) (confidence : Nat) : HostProfile :=
  { p with confidence := ⟨max p.confidence.val (min confidence 5), by omega⟩ }

def addName (p : HostProfile) (name : String) : HostProfile :=
  { p with names := p.names.insert name }

/-- Sets the category unless the new one says nothing. -/
def refine (p : HostProfile) (category : Category) : HostProfile :=
  if category = .unknown then p else { p with category }

/-- Binds all attributes and records the classification among them. -/
def bind (p : HostProfile) : HostProfile :=
  { p with
    attributes :=
      (((p.attributes.bindAll.put "Category" p.category.title).put "Role" p.role.title).put
        "Confidence" (String.ofList (Text.Decimal.ofNat p.confidence.val))).put
        "Direction" p.direction.label }

/-- Every attribute and the classification, in the order of the keys. -/
def texts (p : HostProfile) : List (String × String) := p.bind.attributes.readAll.1

/-- Folds what is known from elsewhere into a profile. -/
def merge (p other : HostProfile) : HostProfile :=
  let merged : HostProfile :=
    { p with
      attributes := p.attributes.putAll other.attributes
      names := p.names.insertAll other.names.toList }
  { (merged.refine other.category).raise other.confidence.val with
    direction := other.direction
    role := other.role }

/-- A profile as a document; the classification stands beside the attributes. -/
def toJson (p : HostProfile) : Json :=
  .record [
    ("details", p.attributes.toJson.1),
    ("confidence", .nat p.confidence.val),
    ("category", .text p.category.label),
    ("role", .text p.role.label),
    ("direction", .text p.direction.label),
    ("names", .array (p.names.toList.map .text))]

end HostProfile

end HostSurvey
