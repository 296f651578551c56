import HostSurvey.Interface.Name
import HostSurvey.Tree.Edit

/-!
# Numbers of interfaces and VLANs

Lists such as `1,3-5`, ranges of interface names such as `Gi1/0/1 - 3`, and the
module, slot and port that an interface number is made of.
-/

namespace HostSurvey.Interface

open Text

/-- The numbers of a text that fit 32 bits, in order. Digits that are not ASCII write none. -/
def numbersIn (s : List Char) : List Nat :=
  (tokens (fun c => !isDigit c) s).filterMap fun w => (Decimal.readUInt32 w).map UInt32.toNat

/-- The widest range that is expanded, by the difference of its bounds. -/
def widestRange : Nat := 4095

/-- The numbers from one bound to the other, both included, in either order of the bounds; nothing
for too wide a range or when there are not two bounds. -/
def expandRange (s : List Char) : List Nat :=
  match numbersIn s with
  | [a, b] =>
    let low := min a b
    let width := max a b - low
    if width ≤ widestRange then (List.range (width + 1)).map (low + ·) else []
  | _ => []

/-- The digits that a text begins with, at least one, and what follows them. -/
def leadingDigits? (s : List Char) : Option (List Char × List Char) :=
  if (s.takeWhile isDigit).isEmpty then none
  else some (s.takeWhile isDigit, s.dropWhile isDigit)

/-- A hyphen and a further number at the start of a text, blanks around the hyphen: the number, and
what follows it. -/
def upTo? (s : List Char) : Option (List Char × List Char) :=
  match trimStart s with
  | '-' :: t => leadingDigits? (trimStart t)
  | _ => none

theorem length_dropWhile_le {α : Type} (p : α → Bool) (l : List α) :
    (l.dropWhile p).length ≤ l.length := (List.dropWhile_sublist p).length_le

theorem length_of_leadingDigits? {s digits rest : List Char}
    (h : leadingDigits? s = some (digits, rest)) : rest.length ≤ s.length := by
  unfold leadingDigits? at h
  split at h
  · cases h
  · obtain ⟨rfl, rfl⟩ := Prod.mk.inj (Option.some.inj h)
    exact length_dropWhile_le ..

theorem length_of_upTo? {s number rest : List Char} (h : upTo? s = some (number, rest)) :
    rest.length < s.length := by
  unfold upTo? at h
  split at h
  · rename_i t ht
    have h1 := length_dropWhile_le isBlank s
    have h2 := length_dropWhile_le isBlank t
    have h3 := length_of_leadingDigits? h
    have h4 := congrArg List.length ht
    simp only [trimStart, List.length_cons] at h3 h4
    omega
  · cases h

/-- An item of a list: a number by itself, or two with a hyphen between them. -/
inductive Item where
  | one (digits : List Char)
  | range (first last : List Char)
  deriving DecidableEq, Repr

/-- The items of a text, from left to right. -/
def items (s : List Char) : List Item :=
  match s with
  | [] => []
  | c :: rest =>
    if isDigit c then
      let digits := c :: rest.takeWhile isDigit
      match _h : upTo? (rest.dropWhile isDigit) with
      | some (last, rest') => .range digits last :: items rest'
      | none => .one digits :: items (rest.dropWhile isDigit)
    else items rest
termination_by s.length
decreasing_by
  · have h1 := length_of_upTo? _h
    have h2 := length_dropWhile_le isDigit rest
    simp only [List.length_cons]
    omega
  · have h2 := length_dropWhile_le isDigit rest
    simp only [List.length_cons]
    omega
  · simp

def Item.numbers : Item → List Nat
  | .one digits => ((Decimal.readUInt32 digits).map UInt32.toNat).toList
  | .range first last => expandRange (first ++ '-' :: last)

/-- All numbers of a text, ranges expanded, ascending and with repetitions. -/
def numberList (s : List Char) : List Nat :=
  ((items s).flatMap Item.numbers).mergeSort (· ≤ ·)

/-! ## Ranges of names -/

/-- A number, a hyphen and a number, and nothing else. -/
def bounds? (s : List Char) : Option (List Char × List Char) := do
  let (first, rest) ← leadingDigits? s
  match upTo? rest with
  | some (last, []) => return (first, last)
  | _ => none

/-- The shortest beginning without blanks behind which two bounds make up the rest. -/
def rangeParts? : List Char → Option (List Char × List Char × List Char)
  | [] => none
  | c :: s =>
    match bounds? (c :: s) with
    | some (first, last) => some ([], first, last)
    | none =>
      if isBlank c then none
      else (rangeParts? s).map fun (base, first, last) => (c :: base, first, last)

def expandMember (member : List Char) : List (List Char) :=
  match rangeParts? member with
  | some (base, first, last) =>
    (expandRange (first ++ '-' :: last)).map fun n => base ++ Decimal.ofNat n
  | none => [member]

/-- The names of a list of members between commas, ranges expanded. -/
def expand (s : List Char) : List (List Char) :=
  (((fields (· == ',') s).map trim).filter fun m => !m.isEmpty).flatMap expandMember

/-! ## Module, slot and port -/

/-- The traits of the parts of an interface number: with three parts or more the first one is the
module; then slot, port and perhaps a sub-interface. One part alone is none. -/
def placement? (numbering : List Char) : Option (List (Trait × List Char)) :=
  match tokens (fun c => !isDigit c) numbering with
  | [] | [_] => none
  | [slot, port] => some [(.interfaceSlot, slot), (.interfaceId, port)]
  | [module, slot, port] =>
    some [(.interfaceModule, module), (.interfaceSlot, slot), (.interfaceId, port)]
  | module :: slot :: port :: sub :: _ =>
    some [(.interfaceModule, module), (.interfaceSlot, slot), (.interfaceId, port),
      (.subInterfaceId, sub)]

end HostSurvey.Interface
