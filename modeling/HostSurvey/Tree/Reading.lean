import HostSurvey.Address.Ipv4
import HostSurvey.Address.Mac
import HostSurvey.Tree.Basic

/-!
# Reading values from text

Numbers, addresses and hardware addresses can be given as text; addresses are
stored as the integers of their bits.
-/

namespace HostSurvey

open Text

inductive Reading where
  | number | address | hardwareAddress
  deriving DecidableEq, Repr

/-- How text is read into the value of a trait, for the traits that are given as text. -/
def Trait.reading? : Trait → Option Reading
  | .subInterfaceId | .interfaceModule | .interfaceSlot | .interfaceId | .cidr | .vlanId =>
    some .number
  | .ipv4 | .ipv4Src | .ipv4Dst | .ipv4Netmask => some .address
  | .macAddr => some .hardwareAddress
  | _ => none

inductive ReadFault where
  | number (fault : Decimal.Fault)
  | address
  | hardwareAddress (text : String)
  deriving DecidableEq, Repr

def unknownAddress (text : String) : String := "Cannot parse address '" ++ text ++ "'"

def ReadFault.message : ReadFault → String
  | .number fault => fault.message
  | .address => "invalid IPv4 address syntax"
  | .hardwareAddress text => unknownAddress text

inductive TraitFault where
  | wrongKind (key : Trait) (found : ValueForm)
  /-- Where a node was to be opened, something else stands. -/
  | noBranch (key : Trait) (found : ValueForm)
  /-- Where a list of nodes was to be opened, something else stands. -/
  | noNodeList (key : Trait) (found : ValueForm)
  | branchExists (key : Trait)
  | notReadable (key : Trait)
  | unread (key : Trait) (input : String) (reason : ReadFault)
  deriving DecidableEq, Repr

def mismatch (key : Trait) (expected : String) (found : ValueForm) : String :=
  "Trait " ++ key.label ++ " expects " ++ expected ++ ", found " ++ found.name

def TraitFault.message : TraitFault → String
  | .wrongKind key found => mismatch key key.kind.name found
  | .noBranch key found => mismatch key ValueKind.branch.name found
  | .noNodeList key found => mismatch key ValueForm.list.name found
  | .branchExists key => "Cannot branch on existing vector " ++ key.label
  | .notReadable key => "Trait " ++ key.label ++ " has no parse method"
  | .unread key input reason =>
    "Trait " ++ key.label ++ " cannot parse '" ++ input ++ "': " ++ reason.message

/-- The integer with the bits of an address. -/
def Ipv4.toInt32 (ip : Ipv4) : Int32 := ip.bits.toInt32

def Mac.toInt64 (m : Mac) : Int64 := Int64.ofNat m.toNat

def Reading.read (r : Reading) (s : List Char) : Except ReadFault TraitValue :=
  match r with
  | .number =>
    match Decimal.readInt32 s with
    | .ok n => .ok (.int n)
    | .error fault => .error (.number fault)
  | .address =>
    match Ipv4.parse? s with
    | some ip => .ok (.int ip.toInt32)
    | none => .error .address
  | .hardwareAddress =>
    match Mac.parse? s with
    | some m => .ok (.long m.toInt64)
    | none => .error (.hardwareAddress (String.ofList s))

/-- The value that a text means under a trait, blanks at its ends aside. -/
def Trait.read (key : Trait) (s : List Char) : Except TraitFault TraitValue :=
  match key.reading? with
  | none => .error (.notReadable key)
  | some r => (r.read (trim s)).mapError (.unread key (String.ofList s))

theorem Reading.form_of_read {r : Reading} {s : List Char} {v : TraitValue} (h : r.read s = .ok v) :
    v.form = match r with
      | .number | .address => ValueForm.int
      | .hardwareAddress => .long := by
  cases r <;> simp only [Reading.read] at h <;> split at h <;> cases h <;> rfl

/-- What is read under a trait is of the trait's kind. -/
theorem Trait.accepts_of_read {key : Trait} {s : List Char} {v : TraitValue}
    (h : key.read s = .ok v) : key.kind.accepts v.form = true := by
  simp only [Trait.read] at h
  split at h
  · cases h
  · rename_i r hr
    cases hv : r.read (trim s) with
    | error e => rw [hv] at h; cases h
    | ok w =>
      rw [hv] at h
      obtain rfl : w = v := Except.ok.inj h
      rw [Reading.form_of_read hv]
      cases key <;> simp only [Trait.reading?, Option.some.injEq, reduceCtorEq] at hr <;>
        subst hr <;> rfl

end HostSurvey
