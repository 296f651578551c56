import HostSurvey.Text.Blank

/-!
# Finding a part of a text

`cut pat s` splits `s` around the first place where `pat` stands, and `strip?`
takes `pat` from its start.
-/

namespace HostSurvey.Text

/-- What stands before and after the first occurrence of `pat`. -/
def cut (pat : List Char) : List Char → Option (List Char × List Char)
  | [] => if pat.isEmpty then some ([], []) else none
  | c :: s =>
    if pat.isPrefixOf (c :: s) then some ([], (c :: s).drop pat.length)
    else (cut pat s).map fun (before, rest) => (c :: before, rest)

def contains (pat s : List Char) : Bool := (cut pat s).isSome

/-- What follows the first occurrence of `pat`, or the whole text without one, trimmed. -/
def after (s pat : List Char) : List Char :=
  match cut pat s with
  | some (_, rest) => trim rest
  | none => trim s

/-- What follows `pat` at the start of a text. -/
def strip? : List Char → List Char → Option (List Char)
  | [], s => some s
  | _ :: _, [] => none
  | p :: pat, c :: s => if p = c then strip? pat s else none

/-- The text begins with the characters of `pat`. -/
def startsWith (s : List Char) (pat : String) : Bool := pat.toList.isPrefixOf s

theorem strip?_eq_some_iff {pat s rest : List Char} :
    strip? pat s = some rest ↔ s = pat ++ rest := by
  induction pat generalizing s with
  | nil => simp [strip?]
  | cons p pat ih =>
    cases s with
    | nil => simp [strip?]
    | cons c s =>
      simp only [strip?, List.cons_append, List.cons.injEq]
      split
      · rename_i h; simp [h, ih]
      · rename_i h; simp [Ne.symm h]

theorem strip?_append (pat s : List Char) : strip? pat (pat ++ s) = some s :=
  strip?_eq_some_iff.2 rfl

theorem append_of_cut {pat s before rest : List Char} (h : cut pat s = some (before, rest)) :
    s = before ++ pat ++ rest := by
  induction s generalizing before with
  | nil =>
    simp only [cut] at h
    split at h
    · rename_i hp
      obtain ⟨rfl, rfl⟩ := Prod.mk.inj (Option.some.inj h)
      simpa using hp
    · simp at h
  | cons c s ih =>
    simp only [cut] at h
    split at h
    · rename_i hp
      obtain ⟨rfl, rfl⟩ := Prod.mk.inj (Option.some.inj h)
      obtain ⟨t, ht⟩ := List.isPrefixOf_iff_prefix.1 hp
      rw [← ht]
      simp
    · obtain ⟨⟨b, r⟩, hb, he⟩ := Option.map_eq_some_iff.1 h
      obtain ⟨rfl, rfl⟩ := Prod.mk.inj he
      rw [ih hb]
      simp

theorem contains_iff {pat s : List Char} : contains pat s = true ↔ pat <:+: s := by
  constructor
  · intro h
    obtain ⟨⟨before, rest⟩, hcut⟩ := Option.isSome_iff_exists.1 h
    exact ⟨before, rest, (append_of_cut hcut).symm⟩
  · intro h
    unfold contains
    induction s with
    | nil => simp [cut, List.infix_nil.1 h]
    | cons c s ih =>
      rw [cut]
      split
      · rfl
      · rename_i hstart
        rw [Option.isSome_map]
        obtain hpre | hin := List.infix_cons_iff.1 h
        · exact absurd (List.isPrefixOf_iff_prefix.2 hpre) hstart
        · exact ih hin

end HostSurvey.Text
