import HostSurvey.Show.AddressTable
import HostSurvey.Show.Interfaces
import HostSurvey.Show.RunningConfig
import HostSurvey.Show.Version
import HostSurvey.Text.Utf8

/-!
# Commands

A command is read as the registered one that it has the longest stretch of text
in common with, so that abbreviations are understood. Lengths are in bytes.
-/

namespace HostSurvey

open Text

/-- How the output of a command is read. -/
inductive OutputReader where
  | runningConfig
  | interfaces
  | arp
  | macTable (layout : AddressTable.MacLayout)
  | version
  deriving DecidableEq, Repr

/-- Reads the output of a command into a device; says whether it told anything. -/
def OutputReader.read : OutputReader → List (List Char) → Device → Bool × Device
  | .runningConfig => RunningConfig.read
  | .interfaces => Interfaces.read
  | .arp => AddressTable.readArp
  | .macTable layout => layout.read
  | .version => Version.read

/-! ## Common stretches -/

section Common

variable {α : Type} [DecidableEq α]

/-- How far two lists agree from their starts. -/
def agreement : List α → List α → Nat
  | a :: as, b :: bs => if a = b then agreement as bs + 1 else 0
  | _, _ => 0

/-- How far a list agrees with some part of another one. -/
def longestAgreement (s : List α) : List α → Nat
  | [] => 0
  | b :: bs => max (agreement s (b :: bs)) (longestAgreement s bs)

/-- How far a list agrees with each part of another one, from the whole of it to its last
element. -/
def agreements (s : List α) : List α → List Nat
  | [] => []
  | b :: bs => agreement s (b :: bs) :: agreements s bs

/-- The agreements of a list from those of its tail. -/
def extendAgreements (a : α) (t : List α) (row : List Nat) : List Nat :=
  List.zipWith (fun b n => if a = b then n + 1 else 0) t (row.drop 1 ++ [0])

/-- The agreements of a list with `t`, and the best that it or a part of it reaches. -/
def commonStretches (t : List α) : List α → List Nat × Nat
  | [] => (t.map fun _ => 0, 0)
  | a :: as =>
    let (row, best) := commonStretches t as
    let row := extendAgreements a t row
    (row, max (row.foldr max 0) best)

/-- The length of the longest list that stands in both of two lists. -/
def longestCommon (s t : List α) : Nat := (commonStretches t s).2

theorem agreement_le_length (s t : List α) : agreement s t ≤ s.length := by
  induction s generalizing t with
  | nil => simp [agreement]
  | cons a s ih =>
    cases t with
    | nil => simp [agreement]
    | cons b t =>
      simp only [agreement]
      split
      · simpa using ih t
      · simp

theorem take_agreement (s t : List α) : s.take (agreement s t) = t.take (agreement s t) := by
  induction s generalizing t with
  | nil => simp [agreement]
  | cons a s ih =>
    cases t with
    | nil => simp [agreement]
    | cons b t =>
      simp only [agreement]
      split
      · rename_i h; simp [h, ih]
      · simp

theorem agreements_nil (t : List α) : agreements [] t = t.map fun _ => 0 := by
  induction t with
  | nil => rfl
  | cons b t ih => simp [agreements, agreement, ih]

theorem agreements_cons (a : α) (s t : List α) :
    agreements (a :: s) t = extendAgreements a t (agreements s t) := by
  induction t with
  | nil => simp [agreements, extendAgreements]
  | cons b t ih =>
    cases t with
    | nil => cases s <;> simp [agreements, extendAgreements, agreement]
    | cons c t =>
      rw [agreements, ih]
      simp [agreements, extendAgreements, agreement]

theorem longestAgreement_eq_foldr (s t : List α) :
    longestAgreement s t = (agreements s t).foldr max 0 := by
  induction t with
  | nil => rfl
  | cons b t ih => simp [longestAgreement, agreements, ih]

theorem fst_commonStretches (t s : List α) : (commonStretches t s).1 = agreements s t := by
  induction s with
  | nil => exact (agreements_nil t).symm
  | cons a s ih => rw [agreements_cons, ← ih]; rfl

/-- The longest list in common starts with the first element or lies behind it. -/
theorem longestCommon_cons (a : α) (s t : List α) :
    longestCommon (a :: s) t = max (longestAgreement (a :: s) t) (longestCommon s t) := by
  rw [longestAgreement_eq_foldr, agreements_cons, ← fst_commonStretches]
  rfl

end Common

/-! ## The registry -/

/-- The commands that are understood. -/
abbrev Registry := List (String × OutputReader)

namespace Registry

def standard : Registry :=
  [("interfaces", .interfaces),
    ("interfaces static", .interfaces),
    ("arp", .arp),
    ("ip arp", .arp),
    ("running-config", .runningConfig),
    ("mac address-table", .macTable .vlanFirst),
    ("mac-address-table", .macTable .addressFirst),
    ("version", .version)]

inductive Answer where
  | unsupported
  /-- The closest command is shorter than what was asked for. -/
  | subcommand (key : String)
  | reader (key : String) (reader : OutputReader)
  deriving DecidableEq, Repr

def bytesOf (s : List Char) : Bytes := Utf8.encode s

/-- How much a command has in common with a registered one. -/
def likeness (command : Bytes) (entry : String × OutputReader) : Nat :=
  longestCommon command (bytesOf entry.1.toList)

/-- The first of the entries that have the most in common with a command, and how much it is. -/
def closest? (command : Bytes) : Registry → Option (Nat × String × OutputReader)
  | [] => none
  | e :: rest =>
    match closest? command rest with
    | some (n, best) =>
      if likeness command e < n then some (n, best) else some (likeness command e, e)
    | none => some (likeness command e, e)

/-- How a command is read. It has to share three bytes with the registered one, or all of its own
when it is shorter. -/
def lookup (r : Registry) (command : List Char) : Answer :=
  let command := bytesOf (trim command)
  match r.closest? command with
  | none => .unsupported
  | some (n, key, reader) =>
    if n = 0 ∨ n < min command.length 3 then .unsupported
    else if key.utf8ByteSize < command.length then .subcommand key
    else .reader key reader

end Registry

end HostSurvey
