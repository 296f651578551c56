import HostSurvey.Interface.Numbering
import HostSurvey.Proofs.NumberText
import Mathlib.Data.List.Intervals

/-!
# Lists of numbers

The entries of a list such as `1, 3 - 5` are numbers and pairs of bounds, with
gaps between them that have neither digits nor hyphens. `Lists` tells which
texts write which entries. Each entry is read as one item, since no digit and no
hyphen comes next where it ends, so that what is read from the list is what its
entries stand for.
-/

namespace HostSurvey

open Text

namespace Text

namespace Decimal

variable {s : List Char} {n : Nat}

/-- One ASCII digit or more that write the number `n`, which fits 32 bits. Zeros may lead. -/
structure Writes (s : List Char) (n : Nat) : Prop where
  ne_nil : s ≠ []
  ascii : ∀ c ∈ s, isAsciiDigit c = true
  value_eq : value s = n
  fits : n < 4294967296

instance (s : List Char) (n : Nat) : Decidable (Writes s n) :=
  decidable_of_iff (s ≠ [] ∧ s.all isAsciiDigit = true ∧ value s = n ∧ n < 4294967296)
    ⟨fun ⟨hne, hascii, hvalue, hfits⟩ => ⟨hne, List.all_eq_true.1 hascii, hvalue, hfits⟩,
      fun h => ⟨h.ne_nil, List.all_eq_true.2 h.ascii, h.value_eq, h.fits⟩⟩

theorem Writes.isDigit (h : Writes s n) : ∀ c ∈ s, isDigit c = true := fun c hc =>
  isDigit_of_ascii (by simpa [isAsciiDigit] using h.ascii c hc)

/-- What is written is read. -/
theorem Writes.read (h : Writes s n) : (readUInt32 s).map UInt32.toNat = some n := by
  have hdigits : readDigits 4294967295 .tooLarge 0 s = .ok n :=
    (readDigits_eq_ok_iff (Nat.zero_le _)).2
      ⟨List.all_eq_true.2 h.ascii, h.value_eq, Nat.le_of_lt_succ h.fits⟩
  have hread : readNat 4294967295 s = .ok n := by
    unfold readNat
    split
    · exact absurd rfl h.ne_nil
    · exact absurd (h.ascii '+' List.mem_cons_self) (by decide)
    · rw [readMagnitude, if_neg (by simpa using h.ne_nil), hdigits]
  rw [readUInt32, hread]
  exact congrArg some (Nat.mod_eq_of_lt h.fits)

end Decimal

end Text

namespace Interface

/-! ## Bounds -/

/-- The two texts with a hyphen between them, and any blanks around the hyphen. -/
def Joins (first last s : List Char) : Prop :=
  ∃ gap gap', (∀ c ∈ gap, isBlank c = true) ∧ (∀ c ∈ gap', isBlank c = true) ∧
    s = first ++ (gap ++ '-' :: (gap' ++ last))

/-- Digits, a hyphen and digits. -/
structure IsRange (first last s : List Char) : Prop where
  first_ne_nil : first ≠ []
  last_ne_nil : last ≠ []
  first_digits : ∀ c ∈ first, isDigit c = true
  last_digits : ∀ c ∈ last, isDigit c = true
  joins : Joins first last s

theorem Joins.isRange {first last s : List Char} {a b : Nat} (h : Joins first last s)
    (ha : Decimal.Writes first a) (hb : Decimal.Writes last b) : IsRange first last s :=
  ⟨ha.ne_nil, hb.ne_nil, ha.isDigit, hb.isDigit, h⟩

theorem leadingDigits?_append {digits rest : List Char} (hne : digits ≠ [])
    (hdigits : ∀ c ∈ digits, isDigit c = true) (hrest : ∀ c ∈ rest.head?, isDigit c = false) :
    leadingDigits? (digits ++ rest) = some (digits, rest) := by
  obtain ⟨htake, hdrop⟩ := span_append hdigits hrest
  rw [leadingDigits?, htake, hdrop, if_neg (by simpa using hne)]

/-- In front of what does not begin with a digit, the second bound is found behind the first one. -/
theorem IsRange.upTo? {first last s rest : List Char} (h : IsRange first last s)
    (hrest : ∀ c ∈ rest.head?, isDigit c = false) :
    ∃ t, s ++ rest = first ++ t ∧ (∀ c ∈ t.head?, isDigit c = false) ∧
      Interface.upTo? t = some (last, rest) := by
  obtain ⟨-, hne, -, hlast, gap, gap', hgap, hgap', rfl⟩ := h
  refine ⟨gap ++ '-' :: (gap' ++ (last ++ rest)), by simp, ?_, ?_⟩
  · cases gap with
    | nil =>
      rintro c ⟨⟩
      decide
    | cons d gap =>
      rintro c ⟨⟩
      exact isDigit_of_isBlank (hgap _ List.mem_cons_self)
  · have hhyphen : trimStart (gap ++ '-' :: (gap' ++ (last ++ rest))) =
        '-' :: (gap' ++ (last ++ rest)) := by
      rw [trimStart_append_of_blank hgap]
      exact trimStart_eq_self (by rintro c ⟨⟩; decide)
    have hnumber : trimStart (last ++ rest) = last ++ rest := by
      refine trimStart_eq_self fun c hc => ?_
      rw [List.head?_append_of_ne_nil _ hne] at hc
      exact isBlank_of_isDigit (hlast c (List.mem_of_mem_head? hc))
    rw [Interface.upTo?, hhyphen]
    simp only
    rw [trimStart_append_of_blank hgap', hnumber, leadingDigits?_append hne hlast hrest]

/-! ## Expanding a range -/

theorem numbersIn_hyphen {first last : List Char} {a b : Nat} (ha : Decimal.Writes first a)
    (hb : Decimal.Writes last b) : numbersIn (first ++ '-' :: last) = [a, b] := by
  have hapart {s : List Char} {n : Nat} (h : Decimal.Writes s n) : ∀ c ∈ s, (!isDigit c) = false :=
    fun c hc => by simp [h.isDigit c hc]
  have htokens : tokens (fun c => !isDigit c) (first ++ '-' :: last) = [first, last] := by
    rw [tokens, fields_append (hapart ha) (by decide), fields_eq_singleton (hapart hb)]
    simp [ha.ne_nil, hb.ne_nil]
  simp [numbersIn, htokens, ha.read, hb.read]

/-- Two bounds are expanded to all numbers from the lesser to the greater one, unless these are too
many. -/
theorem expandRange_hyphen {first last : List Char} {a b : Nat} (ha : Decimal.Writes first a)
    (hb : Decimal.Writes last b) :
    expandRange (first ++ '-' :: last) =
      if max a b - min a b < 4096 then List.Ico (min a b) (max a b + 1) else [] := by
  have hlength : max a b + 1 - min a b = max a b - min a b + 1 := by omega
  have hrange : (List.range (max a b - min a b + 1)).map (min a b + ·) =
      List.Ico (min a b) (max a b + 1) := by
    rw [List.Ico, hlength, List.range'_eq_map_range]
  rw [expandRange, numbersIn_hyphen ha hb]
  simp only [widestRange, Nat.lt_succ_iff, hrange]

/-! ## Items -/

theorem upTo?_eq_none {s : List Char} (h : ∀ c ∈ (trimStart s).head?, c ≠ '-') :
    upTo? s = none := by
  unfold upTo?
  split
  · rename_i t ht
    exact absurd rfl (h '-' (by rw [ht]; rfl))
  · rfl

theorem items_digits {digits rest : List Char} (hne : digits ≠ [])
    (hdigits : ∀ c ∈ digits, isDigit c = true) (hrest : ∀ c ∈ rest.head?, isDigit c = false) :
    items (digits ++ rest) =
      match upTo? rest with
      | some (last, rest') => .range digits last :: items rest'
      | none => .one digits :: items rest := by
  obtain ⟨c, digits, rfl⟩ := List.exists_cons_of_ne_nil hne
  obtain ⟨hc, hdigits⟩ := List.forall_mem_cons.1 hdigits
  obtain ⟨htake, hdrop⟩ := span_append hdigits hrest
  rw [List.cons_append, items, if_pos hc]
  simp only [htake, hdrop]
  -- the match of the definition keeps its own equation, so that each case is rewritten by itself
  split
  · rename_i last rest' h
    rw [hdrop] at h
    rw [h]
  · rename_i h
    rw [hdrop] at h
    rw [h]

/-- Characters that are no digits mean nothing where an item may begin. -/
theorem items_append_of_not_digits {gap : List Char} (h : ∀ c ∈ gap, isDigit c = false)
    (s : List Char) : items (gap ++ s) = items s := by
  induction gap with
  | nil => rfl
  | cons c gap ih =>
    obtain ⟨hc, hgap⟩ := List.forall_mem_cons.1 h
    rw [List.cons_append, items, if_neg (by simp [hc]), ih hgap]

/-- Neither a digit nor, behind blanks, a hyphen comes next: an entry ends here. -/
structure Ends (rest : List Char) : Prop where
  digit : ∀ c ∈ rest.head?, isDigit c = false
  hyphen : ∀ c ∈ (trimStart rest).head?, c ≠ '-'

theorem ends_nil : Ends [] := ⟨by simp, by simp [trimStart]⟩

/-- Something without digits and hyphens. -/
structure Separates (gap : List Char) : Prop where
  ne_nil : gap ≠ []
  apart : ∀ c ∈ gap, isDigit c = false ∧ c ≠ '-'

instance (gap : List Char) : Decidable (Separates gap) :=
  decidable_of_iff (gap ≠ [] ∧ gap.all (fun c => !isDigit c && c != '-') = true)
    ⟨fun ⟨hne, hall⟩ => ⟨hne, by simpa using hall⟩, fun h => ⟨h.ne_nil, by simpa using h.apart⟩⟩

/-- An entry ends at a gap without hyphens, since no entry begins with a hyphen. -/
theorem Separates.ends {gap rest : List Char} (h : Separates gap)
    (hrest : ∀ c ∈ rest.head?, isDigit c = true) : Ends (gap ++ rest) where
  digit c hc := by
    rw [List.head?_append_of_ne_nil _ h.ne_nil] at hc
    exact (h.apart c (List.mem_of_mem_head? hc)).1
  hyphen := by
    have hhead : ∀ c ∈ (trimStart rest).head?, c ≠ '-' := by
      rw [trimStart_eq_self fun c hc => isBlank_of_isDigit (hrest c hc)]
      rintro c hc rfl
      exact absurd (hrest _ hc) (by decide)
    have hgap := h.apart
    clear h
    induction gap with
    | nil => exact hhead
    | cons d gap ih =>
      obtain ⟨hd, hgap⟩ := List.forall_mem_cons.1 hgap
      cases hblank : isBlank d with
      | true =>
        have hskip : trimStart (d :: gap ++ rest) = trimStart (gap ++ rest) :=
          List.dropWhile_cons_of_pos hblank
        rw [hskip]
        exact ih hgap
      | false =>
        rw [trimStart_eq_self (by rintro c ⟨⟩; exact hblank)]
        rintro c ⟨⟩
        exact hd.2

/-! ## Lists -/

/-- What is written in a list: a number, or two bounds in either order. -/
inductive Entry where
  | number (n : Nat)
  | bounds (a b : Nat)

namespace Entry

/-- All numbers that an entry stands for; none when its bounds are too far apart. -/
def numbers : Entry → List Nat
  | number n => [n]
  | bounds a b => if max a b - min a b < 4096 then List.Ico (min a b) (max a b + 1) else []

inductive Spells : Entry → List Char → Prop
  | number {n : Nat} {s : List Char} (hs : Decimal.Writes s n) : Spells (number n) s
  | bounds {a b : Nat} {first last s : List Char} (ha : Decimal.Writes first a)
      (hb : Decimal.Writes last b) (hs : Joins first last s) : Spells (bounds a b) s

theorem Spells.head {e : Entry} {s : List Char} (h : e.Spells s) :
    s ≠ [] ∧ ∀ c ∈ s.head?, isDigit c = true := by
  have hdigits {s : List Char} {n : Nat} (hs : Decimal.Writes s n) :
      ∀ c ∈ s.head?, isDigit c = true := fun c hc => hs.isDigit c (List.mem_of_mem_head? hc)
  cases h with
  | number hs => exact ⟨hs.ne_nil, hdigits hs⟩
  | bounds ha _ hs =>
    obtain ⟨gap, gap', -, -, rfl⟩ := hs
    rw [List.head?_append_of_ne_nil _ ha.ne_nil]
    exact ⟨by simp, hdigits ha⟩

/-- An entry is one item, whatever follows where it ends. -/
theorem Spells.items {e : Entry} {s rest : List Char} (h : e.Spells s) (hrest : Ends rest) :
    ∃ item, Interface.items (s ++ rest) = item :: Interface.items rest ∧
      item.numbers = e.numbers := by
  cases h with
  | number hs =>
    refine ⟨.one s, ?_, ?_⟩
    · rw [items_digits hs.ne_nil hs.isDigit hrest.digit, upTo?_eq_none hrest.hyphen]
    · rw [Item.numbers, hs.read]
      rfl
  | @bounds a b first last _ ha hb hs =>
    obtain ⟨t, heq, hapart, hupTo⟩ := (hs.isRange ha hb).upTo? hrest.digit
    refine ⟨.range first last, ?_, expandRange_hyphen ha hb⟩
    rw [heq, items_digits ha.ne_nil ha.isDigit hapart, hupTo]

end Entry

/-- The entries of a text in order, a gap between each two, without digits and hyphens. A gap may
also stand at the end. -/
inductive Lists : List Entry → List Char → Prop
  | nil : Lists [] []
  | last {e : Entry} {s : List Char} (hs : e.Spells s) : Lists [e] s
  | gap {e : Entry} {s gap rest : List Char} {es : List Entry} (hs : e.Spells s)
      (hgap : Separates gap) (hrest : Lists es rest) : Lists (e :: es) (s ++ (gap ++ rest))

theorem Lists.head {es : List Entry} {text : List Char} (h : Lists es text) :
    ∀ c ∈ text.head?, isDigit c = true := by
  cases h with
  | nil => simp
  | last hs => exact hs.head.2
  | gap hs _ _ =>
    rw [List.head?_append_of_ne_nil _ hs.head.1]
    exact hs.head.2

theorem Lists.flatMap_items {es : List Entry} {text : List Char} (h : Lists es text) :
    (items text).flatMap Item.numbers = es.flatMap Entry.numbers := by
  induction h with
  | nil => simp [items]
  | last hs =>
    obtain ⟨item, hitems, hnumbers⟩ := hs.items ends_nil
    rw [List.append_nil] at hitems
    simp [hitems, hnumbers, items]
  | gap hs hgap hrest ih =>
    obtain ⟨item, hitems, hnumbers⟩ := hs.items (hgap.ends hrest.head)
    rw [hitems, items_append_of_not_digits fun c hc => (hgap.apart c hc).1, List.flatMap_cons,
      List.flatMap_cons, hnumbers, ih]

/-- What is read from a list is all that its entries stand for, repetitions included, in ascending
order. -/
theorem numberList_sorted_perm {es : List Entry} {text : List Char} (h : Lists es text) :
    (numberList text).Pairwise (· ≤ ·) ∧ (numberList text).Perm (es.flatMap Entry.numbers) := by
  rw [numberList, h.flatMap_items]
  have hsorted : ((es.flatMap Entry.numbers).mergeSort (· ≤ ·)).Pairwise fun m n =>
      decide (m ≤ n) = true :=
    List.pairwise_mergeSort (by simpa using fun _ _ _ => Nat.le_trans)
      (by simpa using Nat.le_total) _
  exact ⟨by simpa using hsorted, List.mergeSort_perm _ _⟩

/-- Two numbers, bounds in the wrong order, the greatest number there is, bounds that are one too
far apart, and a number that the bounds in the middle gave before. -/
def mixedEntries : List Entry :=
  [.number 10, .number 7, .bounds 3 1, .number 4294967295, .bounds 0 4096, .number 3]

def mixedList : List Char := "10, 007;3 -\t1 4294967295,0-4096/3.".toList

theorem numberList_mixed :
    Lists mixedEntries mixedList ∧
      ((numberList mixedList).Pairwise (· ≤ ·) ∧
        (numberList mixedList).Perm (mixedEntries.flatMap Entry.numbers)) ∧
      numberList mixedList = [1, 2, 3, 3, 7, 10, 4294967295] := by
  have hdown : Entry.Spells (.bounds 3 1) "3 -\t1".toList := by
    have hfirst : Decimal.Writes ['3'] 3 := by decide
    have hlast : Decimal.Writes ['1'] 1 := by decide
    exact .bounds hfirst hlast
      ⟨[' '], ['\t'], List.all_eq_true.1 (by decide), List.all_eq_true.1 (by decide), rfl⟩
  have hwide : Entry.Spells (.bounds 0 4096) "0-4096".toList := by
    have hfirst : Decimal.Writes ['0'] 0 := by decide
    have hlast : Decimal.Writes ['4', '0', '9', '6'] 4096 := by decide
    exact .bounds hfirst hlast ⟨[], [], by simp, by simp, rfl⟩
  have hlist : Lists mixedEntries mixedList := by
    show Lists mixedEntries ("10".toList ++ (", ".toList ++ ("007".toList ++ (";".toList ++
      ("3 -\t1".toList ++ (" ".toList ++ ("4294967295".toList ++ (",".toList ++
        ("0-4096".toList ++ ("/".toList ++ ("3".toList ++ (".".toList ++ []))))))))))))
    exact .gap (.number (by decide)) (by decide) <|
      .gap (.number (by decide)) (by decide) <|
      .gap hdown (by decide) <|
      .gap (.number (by decide)) (by decide) <|
      .gap hwide (by decide) <|
      .gap (.number (by decide)) (by decide) .nil
  obtain ⟨hsorted, hperm⟩ := numberList_sorted_perm hlist
  have hwritten : (mixedEntries.flatMap Entry.numbers).Perm [1, 2, 3, 3, 7, 10, 4294967295] := by
    decide +kernel
  refine ⟨hlist, ⟨hsorted, hperm⟩, (hperm.trans hwritten).eq_of_pairwise ?_ hsorted (by decide)⟩
  exact fun _ _ _ _ => Nat.le_antisymm

end Interface

end HostSurvey
