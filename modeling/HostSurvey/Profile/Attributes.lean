import HostSurvey.Json.Value
import HostSurvey.Sorted.Map
import HostSurvey.Text.Utf8

/-!
# Attributes with late binding

A value may be stored as raw bytes together with the way to render them; it is
pending until somebody reads it and resolved from then on. A resolved value
that is already there stays until then. Every reading gives the map after it.
-/

namespace HostSurvey

/-- Bytes to be rendered as text on the first reading. -/
structure Pending where
  bytes : Bytes
  render : Bytes → String

namespace Pending

def text (raw : Pending) : String := raw.render raw.bytes

end Pending

/-- A resolved value, a pending one, or both until the pending one is resolved. -/
structure Slot where
  value : Option String := none
  raw : Option Pending := none

namespace Slot

/-- Renders the pending value, if there is one, in place of the resolved one. -/
def resolve (s : Slot) : Slot :=
  match s.raw with
  | some raw => { value := some raw.text, raw := none }
  | none => s

def isPending (s : Slot) : Bool := s.raw.isSome

@[simp] theorem isPending_resolve (s : Slot) : s.resolve.isPending = false := by
  cases hr : s.raw <;> simp [resolve, isPending, hr]

theorem resolve_of_not_pending {s : Slot} (h : s.isPending = false) : s.resolve = s := by
  have hr : s.raw = none := by simpa [isPending] using h
  simp [resolve, hr]

@[simp] theorem resolve_resolve (s : Slot) : s.resolve.resolve = s.resolve :=
  resolve_of_not_pending (isPending_resolve s)

end Slot

abbrev Attributes := SortedMap String Slot

namespace Attributes

/-- Stores a text; a pending value under the key is forgotten. -/
def put (m : Attributes) (key value : String) : Attributes := m.insert key { value := some value }

/-- Stores bytes to be rendered later, beside a value that is already there. -/
def putPending (m : Attributes) (key : String) (raw : Pending) : Attributes :=
  m.alter key {} fun s => { s with raw := some raw }

/-- Reads one key, which is resolved by it. -/
def read (m : Attributes) (key : String) : Option String × Attributes :=
  match m.find? key with
  | some s => (s.resolve.value, m.insert key s.resolve)
  | none => (none, m)

/-- Resolves every key. -/
def bindAll (m : Attributes) : Attributes := m.mapValues Slot.resolve

def isBound (m : Attributes) : Bool := !m.values.any Slot.isPending

def isUnbound (m : Attributes) : Bool := !m.isBound

/-- Every key that has a value, with it, in the order of the keys. All of them are resolved. -/
def readAll (m : Attributes) : List (String × String) × Attributes :=
  (m.bindAll.entries.filterMap fun e => e.2.value.map fun value => (e.1, value), m.bindAll)

/-- Visits every key with its value, in the order of the keys. All of them are resolved. -/
def visitAll {σ : Type} (m : Attributes) (visit : σ → String → String → σ) (s : σ) :
    σ × Attributes :=
  let (texts, m) := m.readAll
  (texts.foldl (fun s e => visit s e.1 e.2) s, m)

/-- Takes over the slots of another map, pending ones still pending. -/
def putAll (m other : Attributes) : Attributes := m.insertAll other.entries

/-- The map as an object of texts. All keys are resolved. -/
def toJson (m : Attributes) : Json × Attributes :=
  let (texts, m) := m.readAll
  (.record (texts.map fun e => (e.1, .text e.2)), m)

end Attributes

end HostSurvey
