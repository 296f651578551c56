import HostSurvey.Interface.Name
import Mathlib.Data.List.DropRight
import Mathlib.Data.String.Basic

/-!
# Spellings of interface names

`Interface.same` is no equivalence: `Gi0/1` stands for an interface of type
`Gigabit` and for one of type `Giraffe`. Between names without blanks it comes
from an order, however. `Shortens a b` says that `b` writes out what `a`
abbreviates; it is transitive, and two names that shorten one name are of the
same interface.
-/

namespace HostSurvey

open Text

/-! ## Case and blanks -/

namespace Text

/-- There is no blank in the text. -/
def Unbroken (s : List Char) : Prop := ∀ c ∈ s, isBlank c = false

instance (s : List Char) : Decidable (Unbroken s) :=
  List.decidableBAll _ s

/-- A character and its lower case are equal, or are a capital and its small letter. -/
theorem lower_cases (c : Char) :
    lower c = c ∨ (65 ≤ c.toNat ∧ c.toNat ≤ 90 ∧ (lower c).toNat = c.toNat + 32) := by
  unfold lower
  split
  · rename_i h
    have hlow : 65 ≤ c.toNat := h.1
    have hhigh : c.toNat ≤ 90 := h.2
    refine .inr ⟨hlow, hhigh, ?_⟩
    have hvalid : (c.toNat + 32).isValidChar := .inl (by omega)
    rw [Char.ofNat, dif_pos hvalid]
    rfl
  · exact .inl rfl

theorem isBlank_lower (c : Char) : isBlank (lower c) = isBlank c := by
  rcases lower_cases c with h | ⟨hlow, hhigh, h⟩
  · rw [h]
  · rw [Bool.eq_iff_iff]
    simp only [isBlank, h, Bool.or_eq_true, Bool.and_eq_true, beq_iff_eq, decide_eq_true_eq]
    omega

/-- There are no digits between the ASCII ones and the Arabic ones. -/
theorem isDigit_eq_false {c : Char} (hlow : 58 ≤ c.toNat) (hhigh : c.toNat < 1632) :
    isDigit c = false := by
  have hgap : ∀ first ∈ digitZeros, first + 10 ≤ 58 ∨ 1632 ≤ first := by decide
  unfold isDigit
  rw [List.any_eq_false]
  intro first hfirst
  have := hgap first hfirst
  simp only [Bool.and_eq_true, decide_eq_true_eq]
  omega

theorem isDigit_lower (c : Char) : isDigit (lower c) = isDigit c := by
  rcases lower_cases c with h | ⟨hlow, hhigh, h⟩
  · rw [h]
  · rw [isDigit_eq_false (by omega) (by omega), isDigit_eq_false (by omega) (by omega)]

theorem utf8Size_lower (c : Char) : (lower c).utf8Size = c.utf8Size := by
  rcases lower_cases c with h | ⟨hlow, hhigh, h⟩
  · rw [h]
  · have hone {d : Char} (hd : d.toNat ≤ 127) : d.utf8Size = 1 := Char.utf8Size_eq_one_iff.2 hd
    rw [hone (by omega), hone (by omega)]

theorem utf8Len_lowered (s : List Char) : String.utf8Len (lowered s) = String.utf8Len s := by
  induction s with
  | nil => rfl
  | cons c s ih =>
    have hcons : lowered (c :: s) = lower c :: lowered s := rfl
    rw [hcons, String.utf8Len_cons, String.utf8Len_cons, ih, utf8Size_lower]

theorem not_isDigit_comp_lower : (fun c => !isDigit c) ∘ lower = fun c => !isDigit c := by
  funext c
  simp [isDigit_lower]

theorem isBlank_comp_lower : isBlank ∘ lower = isBlank := funext isBlank_lower

theorem trimStart_lowered (s : List Char) : trimStart (lowered s) = lowered (trimStart s) := by
  unfold trimStart lowered
  rw [List.dropWhile_map, isBlank_comp_lower]

theorem trimEnd_lowered (s : List Char) : trimEnd (lowered s) = lowered (trimEnd s) := by
  unfold trimEnd lowered
  rw [← List.map_reverse, List.dropWhile_map, isBlank_comp_lower, List.map_reverse]

theorem trim_lowered (s : List Char) : trim (lowered s) = lowered (trim s) := by
  rw [trim, trimStart_lowered, trimEnd_lowered, trim]

theorem trimStart_eq_self {s : List Char} (h : ∀ c ∈ s.head?, isBlank c = false) :
    trimStart s = s := by
  unfold trimStart
  cases s with
  | nil => rfl
  | cons c s => rw [List.dropWhile_cons_of_neg (by simp [h c rfl])]

theorem trimEnd_eq_rdropWhile (s : List Char) : trimEnd s = s.rdropWhile isBlank := rfl

theorem mem_of_mem_trimEnd {s : List Char} {c : Char} (h : c ∈ trimEnd s) : c ∈ s :=
  (List.rdropWhile_prefix isBlank s).subset h

theorem mem_of_mem_trim {s : List Char} {c : Char} (h : c ∈ trim s) : c ∈ s :=
  (List.dropWhile_suffix isBlank).subset (mem_of_mem_trimEnd h)

theorem lowered_takeWhile (s : List Char) :
    lowered (s.takeWhile fun c => !isDigit c) = (lowered s).takeWhile fun c => !isDigit c := by
  unfold lowered
  rw [List.takeWhile_map, not_isDigit_comp_lower]

theorem lowered_dropWhile (s : List Char) :
    lowered (s.dropWhile fun c => !isDigit c) = (lowered s).dropWhile fun c => !isDigit c := by
  unfold lowered
  rw [List.dropWhile_map, not_isDigit_comp_lower]

theorem trimStart_append_of_blank {gap : List Char} (h : ∀ c ∈ gap, isBlank c = true)
    (s : List Char) : trimStart (gap ++ s) = trimStart s :=
  List.dropWhile_append_of_pos h

theorem trimEnd_append_of_blank {gap : List Char} (h : ∀ c ∈ gap, isBlank c = true)
    (s : List Char) : trimEnd (s ++ gap) = trimEnd s := by
  unfold trimEnd
  rw [List.reverse_append, List.dropWhile_append_of_pos (by simpa using h)]

theorem trimEnd_eq_self {s : List Char} (h : ∀ c ∈ s.getLast?, isBlank c = false) :
    trimEnd s = s := by
  have hreverse : trimStart s.reverse = s.reverse := trimStart_eq_self (by simpa using h)
  unfold trimEnd
  rw [show s.reverse.dropWhile isBlank = s.reverse from hreverse, List.reverse_reverse]

theorem trimEnd_of_unbroken {s : List Char} (h : Unbroken s) : trimEnd s = s :=
  trimEnd_eq_self fun c hc => h c (List.mem_of_getLast? hc)

/-- Blanks around a text that has none at its own ends are trimmed. -/
theorem trim_padded {gap gap' s : List Char} (hgap : ∀ c ∈ gap, isBlank c = true)
    (hgap' : ∀ c ∈ gap', isBlank c = true) (hne : s ≠ [])
    (hhead : ∀ c ∈ s.head?, isBlank c = false) (hlast : ∀ c ∈ s.getLast?, isBlank c = false) :
    trim (gap ++ (s ++ gap')) = s := by
  have hstart : trimStart (s ++ gap') = s ++ gap' := by
    obtain ⟨c, t, rfl⟩ := List.exists_cons_of_ne_nil hne
    exact trimStart_eq_self hhead
  rw [trim, trimStart_append_of_blank hgap, hstart, trimEnd_append_of_blank hgap',
    trimEnd_eq_self hlast]

theorem trim_of_unbroken {s : List Char} (h : Unbroken s) : trim s = s := by
  have hstart : trimStart s = s := trimStart_eq_self fun c hc => h c (List.mem_of_mem_head? hc)
  rw [trim, hstart, trimEnd_of_unbroken h]

theorem trimEnd_trimEnd (s : List Char) : trimEnd (trimEnd s) = trimEnd s :=
  List.rdropWhile_idempotent isBlank s

theorem trim_trim (s : List Char) : trim (trim s) = trim s := by
  have hhead : ∀ c ∈ (trim s).head?, isBlank c = false := by
    intro c hc
    -- the first character behind the leading blanks is still the first after the trailing ones go
    have hbegins : trim s <+: trimStart s := List.rdropWhile_prefix isBlank (trimStart s)
    obtain ⟨rest, hrest⟩ := hbegins
    have hc' : (trimStart s).head? = some c := by
      rw [← hrest, List.head?_append, hc, Option.some_or]
    exact eq_false_of_mem_head?_dropWhile hc'
  have hstart : trimStart (trim s) = trim s := trimStart_eq_self hhead
  calc trim (trim s) = trimEnd (trim s) := by rw [trim, hstart]
    _ = trim s := trimEnd_trimEnd (trimStart s)

/-- What is no separator stands in one of the stretches between them. -/
theorem exists_mem_fields {sep : Char → Bool} {s : List Char} {c : Char} (hsep : sep c = false)
    (hc : c ∈ s) : ∃ w ∈ fields sep s, c ∈ w := by
  induction s with
  | nil => cases hc
  | cons d s ih =>
    unfold fields
    rcases List.mem_cons.1 hc with rfl | hc
    · rw [hsep]
      cases fields sep s with
      | nil => exact ⟨[c], by simp, by simp⟩
      | cons w ws => exact ⟨c :: w, by simp, by simp⟩
    · obtain ⟨w, hw, hcw⟩ := ih hc
      split
      · exact ⟨w, List.mem_cons_of_mem _ hw, hcw⟩
      · cases hfields : fields sep s with
        | nil => simp [hfields] at hw
        | cons v vs =>
          rw [hfields] at hw
          rcases List.mem_cons.1 hw with rfl | hw
          · exact ⟨d :: w, by simp, List.mem_cons_of_mem _ hcw⟩
          · exact ⟨w, List.mem_cons_of_mem _ hw, hcw⟩

end Text

/-! ## Shortened names -/

namespace Interface

theorem isDigitOrSlash_of_isNumbering {s : List Char} (h : isNumbering s = true) {c : Char}
    (hc : c ∈ s) : isDigitOrSlash c = true := by
  unfold isDigitOrSlash
  by_cases hslash : (c == '/') = true
  · simp [hslash]
  · obtain ⟨group, hgroup, hmem⟩ := @exists_mem_fields (· == '/') s c (Bool.eq_false_iff.2 hslash) hc
    have := List.all_eq_true.1 h group hgroup
    simp only [Bool.and_eq_true, List.all_eq_true] at this
    simp [this.2 c hmem]

/-- Digits and slashes are the lower case of themselves alone. -/
theorem eq_of_lower_eq {c d : Char} (hd : isDigitOrSlash d = true) (h : lower c = lower d) :
    c = d := by
  have hnotLetter (hlow : 65 ≤ d.toNat) (hhigh : d.toNat ≤ 122) : False := by
    simp only [isDigitOrSlash, isDigit_eq_false (show 58 ≤ d.toNat by omega) (by omega),
      Bool.false_or, beq_iff_eq] at hd
    subst hd
    exact absurd hlow (by decide)
  have hdself : lower d = d := by
    rcases lower_cases d with h' | ⟨hlow, hhigh, -⟩
    · exact h'
    · exact (hnotLetter hlow (by omega)).elim
  rw [hdself] at h
  rcases lower_cases c with h' | ⟨hlow, hhigh, hlower⟩
  · rw [← h', h]
  · rw [h] at hlower
    exact (hnotLetter (by omega) (by omega)).elim

theorem eq_of_lowered_eq {s t : List Char} (ht : ∀ d ∈ t, isDigitOrSlash d = true)
    (h : lowered s = lowered t) : s = t := by
  induction s generalizing t with
  | nil => simpa [lowered] using h
  | cons c s ih =>
    cases t with
    | nil => simp [lowered] at h
    | cons d t =>
      simp only [lowered, List.map_cons, List.cons.injEq] at h
      rw [List.forall_mem_cons] at ht
      rw [eq_of_lower_eq ht.1 h.1, ih ht.2 h.2]

/-- The parts of a name that has a type and a number. -/
theorem split?_eq_some_iff {name kind numbers : List Char} :
    split? name = some (kind, numbers) ↔
      kind = trimEnd ((trim name).takeWhile fun c => !isDigit c) ∧
        numbers = (trim name).dropWhile (fun c => !isDigit c) ∧
        kind ≠ [] ∧ isNumbering numbers = true := by
  unfold split?
  simp only [Option.ite_none_right_eq_some, Bool.and_eq_true, Bool.not_eq_true',
    List.isEmpty_eq_false_iff, Option.some.injEq, Prod.mk.injEq]
  constructor
  · rintro ⟨⟨hkind, hnumbers⟩, rfl, rfl⟩
    exact ⟨rfl, rfl, hkind, hnumbers⟩
  · rintro ⟨rfl, rfl, hkind, hnumbers⟩
    exact ⟨⟨hkind, hnumbers⟩, rfl, rfl⟩

/-- Names that differ in case have the same number, and types that differ in case. -/
theorem split?_of_sameLetters {a b kind numbers : List Char} (h : sameLetters a b = true)
    (ha : split? a = some (kind, numbers)) :
    ∃ kind', split? b = some (kind', numbers) ∧ lowered kind' = lowered kind := by
  have hletters : lowered (trim b) = lowered (trim a) := by
    rw [← trim_lowered, ← trim_lowered, eq_of_beq h]
  obtain ⟨rfl, rfl, hkind, hnumbers⟩ := split?_eq_some_iff.1 ha
  have htake : lowered (trimEnd ((trim b).takeWhile fun c => !isDigit c)) =
      lowered (trimEnd ((trim a).takeWhile fun c => !isDigit c)) := by
    rw [← trimEnd_lowered, ← trimEnd_lowered, lowered_takeWhile, lowered_takeWhile, hletters]
  have hdrop : (trim b).dropWhile (fun c => !isDigit c) =
      (trim a).dropWhile (fun c => !isDigit c) := by
    refine eq_of_lowered_eq (fun d hd => isDigitOrSlash_of_isNumbering hnumbers hd) ?_
    rw [lowered_dropWhile, lowered_dropWhile, hletters]
  refine ⟨_, split?_eq_some_iff.2 ⟨rfl, hdrop.symm, ?_, hnumbers⟩, htake⟩
  intro hnil
  rw [hnil] at htake
  exact hkind (List.map_eq_nil_iff.1 htake.symm)

/-- A name without blanks is its type and its number. -/
theorem append_of_split? {name kind numbers : List Char} (hname : Unbroken name)
    (h : split? name = some (kind, numbers)) : name = kind ++ numbers := by
  obtain ⟨rfl, rfl, -, -⟩ := split?_eq_some_iff.1 h
  have htake : Unbroken (name.takeWhile fun c => !isDigit c) :=
    fun c hc => hname c (List.takeWhile_subset _ hc)
  rw [trim_of_unbroken hname, trimEnd_of_unbroken htake, List.takeWhile_append_dropWhile]

theorem same_eq_true_iff {a b : List Char} :
    same a b = true ↔ sameLetters a b = true ∨
      ∃ kind kind' numbers, split? a = some (kind, numbers) ∧ split? b = some (kind', numbers) ∧
        (lowered kind <+: lowered kind' ∨ lowered kind' <+: lowered kind) := by
  unfold same
  rw [Bool.or_eq_true]
  refine or_congr_right ?_
  constructor
  · intro h
    split at h
    · rename_i kind numbers kind' numbers' hsa hsb
      simp only [abbreviates, Bool.and_eq_true, Bool.or_eq_true, beq_iff_eq,
        List.isPrefixOf_iff_prefix] at h
      obtain ⟨rfl, habbr⟩ := h
      exact ⟨kind, kind', numbers, hsa, hsb, habbr⟩
    · cases h
  · rintro ⟨kind, kind', numbers, hsa, hsb, habbr⟩
    simpa only [hsa, hsb, abbreviates, Bool.and_eq_true, Bool.or_eq_true, beq_self_eq_true,
      List.isPrefixOf_iff_prefix, true_and] using habbr

theorem eq_of_prefix_of_utf8Len_le {s t : List Char} (hbegins : s <+: t)
    (hlen : String.utf8Len t ≤ String.utf8Len s) : s = t := by
  obtain ⟨rest, rfl⟩ := hbegins
  rw [String.utf8Len_append] at hlen
  have hrest : rest = [] := String.utf8Len_eq_zero.1 (by omega)
  rw [hrest, List.append_nil]

/-- `b` is a name of the same interface, and no shorter. -/
def Shortens (a b : List Char) : Prop :=
  same a b = true ∧ String.utf8Len a ≤ String.utf8Len b

/-- One name shortens another when they differ in case alone, or when they have the same number and
the type of the one begins the type of the other. -/
theorem shortens_iff {a b : List Char} (ha : Unbroken a) (hb : Unbroken b) :
    Shortens a b ↔ sameLetters a b = true ∨
      ∃ kind kind' numbers, split? a = some (kind, numbers) ∧ split? b = some (kind', numbers) ∧
        lowered kind <+: lowered kind' := by
  constructor
  · rintro ⟨hsame, hlen⟩
    obtain hletters | ⟨kind, kind', numbers, hsa, hsb, habbr⟩ := same_eq_true_iff.1 hsame
    · exact .inl hletters
    · refine .inr ⟨kind, kind', numbers, hsa, hsb, ?_⟩
      obtain hbegins | hbegins := habbr
      · exact hbegins
      · -- the longer name cannot have the shorter type, unless both have one length
        have hle : String.utf8Len (lowered kind) ≤ String.utf8Len (lowered kind') := by
          rw [append_of_split? ha hsa, append_of_split? hb hsb, String.utf8Len_append,
            String.utf8Len_append] at hlen
          rw [utf8Len_lowered, utf8Len_lowered]
          omega
        exact eq_of_prefix_of_utf8Len_le hbegins hle ▸ List.prefix_refl _
  · rintro (hletters | ⟨kind, kind', numbers, hsa, hsb, hbegins⟩)
    · refine ⟨same_eq_true_iff.2 (.inl hletters), ?_⟩
      rw [← utf8Len_lowered a, ← utf8Len_lowered b, eq_of_beq hletters]
    · refine ⟨same_eq_true_iff.2 (.inr ⟨kind, kind', numbers, hsa, hsb, .inl hbegins⟩), ?_⟩
      have hle := String.utf8Len_le_of_prefix hbegins
      rw [utf8Len_lowered, utf8Len_lowered] at hle
      rw [append_of_split? ha hsa, append_of_split? hb hsb, String.utf8Len_append,
        String.utf8Len_append]
      omega

theorem Shortens.trans {a b c : List Char} (ha : Unbroken a) (hb : Unbroken b) (hc : Unbroken c)
    (hab : Shortens a b) (hbc : Shortens b c) : Shortens a c := by
  rw [shortens_iff ha hb] at hab
  rw [shortens_iff hb hc] at hbc
  rw [shortens_iff ha hc]
  obtain hab | ⟨kind, kind', numbers, hsa, hsb, hbegins⟩ := hab
  · obtain hbc | ⟨kind', kind'', numbers, hsb, hsc, hbegins'⟩ := hbc
    · exact .inl (by rw [sameLetters, eq_of_beq hab, eq_of_beq hbc, beq_self_eq_true])
    · obtain ⟨kind, hsa, hkind⟩ := split?_of_sameLetters (by rwa [sameLetters_comm]) hsb
      exact .inr ⟨kind, kind'', numbers, hsa, hsc, hkind ▸ hbegins'⟩
  · obtain hbc | ⟨_, kind'', _, hsb', hsc, hbegins'⟩ := hbc
    · obtain ⟨kind'', hsc, hkind⟩ := split?_of_sameLetters hbc hsb
      exact .inr ⟨kind, kind'', numbers, hsa, hsc, hkind ▸ hbegins⟩
    · rw [hsb] at hsb'
      cases hsb'
      exact .inr ⟨kind, kind'', numbers, hsa, hsc, hbegins.trans hbegins'⟩

/-- Two names that shorten a third one are of one interface. -/
theorem Shortens.same {a b c : List Char} (ha : Unbroken a) (hb : Unbroken b) (hc : Unbroken c)
    (hac : Shortens a c) (hbc : Shortens b c) : same a b = true := by
  rw [shortens_iff ha hc] at hac
  rw [shortens_iff hb hc] at hbc
  rw [same_eq_true_iff]
  obtain hac | ⟨kind, kind'', numbers, hsa, hsc, hbegins⟩ := hac
  · obtain hbc | ⟨kind', kind'', numbers, hsb, hsc, hbegins'⟩ := hbc
    · exact .inl (by rw [sameLetters, eq_of_beq hac, eq_of_beq hbc, beq_self_eq_true])
    · obtain ⟨kind, hsa, hkind⟩ := split?_of_sameLetters (by rwa [sameLetters_comm]) hsc
      exact .inr ⟨kind, kind', numbers, hsa, hsb, .inr (hkind ▸ hbegins')⟩
  · obtain hbc | ⟨kind', _, _, hsb, hsc', hbegins'⟩ := hbc
    · obtain ⟨kind', hsb, hkind⟩ := split?_of_sameLetters (by rwa [sameLetters_comm]) hsc
      exact .inr ⟨kind, kind', numbers, hsa, hsb, .inl (hkind ▸ hbegins)⟩
    · rw [hsc] at hsc'
      cases hsc'
      exact .inr ⟨kind, kind', numbers, hsa, hsb, List.prefix_or_prefix_of_prefix hbegins hbegins'⟩

end Interface

end HostSurvey
