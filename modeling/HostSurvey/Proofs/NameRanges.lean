import HostSurvey.Proofs.NumberLists
import Mathlib.Data.List.Infix

/-!
# Ranges of names

A member of a list of names is a name, or a base with two bounds behind it that
stands for as many names. A base may have digits, slashes and hyphens of its
own, and it is found nevertheless: in a range, the hyphen is the only character
that is neither a digit nor a blank, so that no range begins before the last
character of a base that ends in something else (`IsRange.not_append`).
-/

namespace HostSurvey.Interface

open Text

/-! ## Bounds at the end -/

theorem leadingDigits?_eq_some {s digits rest : List Char}
    (h : leadingDigits? s = some (digits, rest)) :
    s = digits ++ rest ∧ digits ≠ [] ∧ ∀ c ∈ digits, isDigit c = true := by
  unfold leadingDigits? at h
  split at h
  · cases h
  · rename_i hne
    cases h
    exact ⟨List.takeWhile_append_dropWhile.symm, by simpa using hne,
      fun c hc => List.mem_takeWhile_imp hc⟩

theorem upTo?_eq_some {s last rest : List Char} (h : upTo? s = some (last, rest)) :
    last ≠ [] ∧ (∀ c ∈ last, isDigit c = true) ∧ ∃ gap gap', (∀ c ∈ gap, isBlank c = true) ∧
      (∀ c ∈ gap', isBlank c = true) ∧ s = gap ++ '-' :: (gap' ++ (last ++ rest)) := by
  unfold upTo? at h
  split at h
  · rename_i t ht
    obtain ⟨hlast, hne, hdigits⟩ := leadingDigits?_eq_some h
    obtain ⟨gap, hgap, hs⟩ := exists_append_trimStart s
    obtain ⟨gap', hgap', htail⟩ := exists_append_trimStart t
    rw [hlast] at htail
    rw [ht, htail] at hs
    exact ⟨hne, hdigits, gap, gap', hgap, hgap', hs⟩
  · cases h

theorem bounds?_eq_some_iff {s first last : List Char} :
    bounds? s = some (first, last) ↔ IsRange first last s := by
  constructor
  · intro h
    obtain ⟨⟨digits, rest⟩, hlead, hrest⟩ := Option.bind_eq_some_iff.1 h
    obtain ⟨rfl, hfirst, hfirstDigits⟩ := leadingDigits?_eq_some hlead
    simp only at hrest
    split at hrest
    · rename_i number hupTo
      cases hrest
      obtain ⟨hlast, hlastDigits, gap, gap', hgap, hgap', rfl⟩ := upTo?_eq_some hupTo
      exact ⟨hfirst, hlast, hfirstDigits, hlastDigits, gap, gap', hgap, hgap', by simp⟩
    · cases hrest
  · intro h
    have hend : ∀ c ∈ ([] : List Char).head?, isDigit c = false := by simp
    obtain ⟨t, heq, hapart, hupTo⟩ := h.upTo? hend
    rw [List.append_nil] at heq
    rw [bounds?, heq, leadingDigits?_append h.first_ne_nil h.first_digits hapart]
    simp only [Option.bind_eq_bind, Option.bind_some, hupTo]
    rfl

/-- Digits, a hyphen and digits stand at the end of the text. -/
def EndsInRange (s : List Char) : Prop :=
  ∃ t, t <:+ s ∧ ∃ first last, IsRange first last t

theorem endsInRange_iff {s : List Char} :
    EndsInRange s ↔ ∃ t ∈ s.tails, (bounds? t).isSome = true := by
  simp only [EndsInRange, List.mem_tails, Option.isSome_iff_exists, Prod.exists,
    bounds?_eq_some_iff]

instance (s : List Char) : Decidable (EndsInRange s) :=
  decidable_of_iff _ endsInRange_iff.symm

/-- All characters of a range but one are digits or blanks, and that one is the hyphen. -/
theorem IsRange.count_hyphen {first last s : List Char} (h : IsRange first last s) :
    s.count '-' = 1 ∧ ∀ c ∈ s, isDigit c = true ∨ isBlank c = true ∨ c = '-' := by
  obtain ⟨-, -, hfirst, hlast, gap, gap', hgap, hgap', rfl⟩ := h
  have hzero {t : List Char} {p : Char → Bool} (ht : ∀ c ∈ t, p c = true) (hp : p '-' = false) :
      t.count '-' = 0 := List.count_eq_zero_of_not_mem fun hmem => by
    rw [ht _ hmem] at hp
    cases hp
  constructor
  · simp [hzero hfirst (by decide), hzero hlast (by decide), hzero hgap (by decide),
      hzero hgap' (by decide)]
  · intro c hc
    simp only [List.mem_append, List.mem_cons] at hc
    rcases hc with hc | hc | rfl | hc | hc
    · exact .inl (hfirst c hc)
    · exact .inr (.inl (hgap c hc))
    · exact .inr (.inr rfl)
    · exact .inr (.inl (hgap' c hc))
    · exact .inl (hlast c hc)

/-- No range begins before the first digit of its lower bound: what stands there ends in a
character that no range has, or in a second hyphen. -/
theorem IsRange.not_append {first last first' last' base t : List Char}
    (h : IsRange first last t) (hne : base ≠ []) (hbase : Unbroken base)
    (hlast : ∀ c ∈ base.getLast?, isDigit c = false) : ¬ IsRange first' last' (base ++ t) := by
  intro hrange
  obtain ⟨hcount, hchars⟩ := hrange.count_hyphen
  have hmem : base.getLast hne ∈ base := List.getLast_mem hne
  have hdigit := hlast _ (List.getLast?_eq_some_getLast hne)
  rcases hchars _ (List.mem_append_left t hmem) with hc | hc | hc
  · rw [hdigit] at hc
    cases hc
  · rw [hbase _ hmem] at hc
    cases hc
  · have hpos : 0 < base.count '-' := List.count_pos_iff.2 (hc ▸ hmem)
    rw [List.count_append, h.count_hyphen.1] at hcount
    omega

theorem rangeParts?_eq_none {s : List Char} (h : ¬ EndsInRange s) : rangeParts? s = none := by
  induction s with
  | nil => rfl
  | cons c s ih =>
    have hnone : bounds? (c :: s) = none := by
      cases hbounds : bounds? (c :: s) with
      | none => rfl
      | some parts =>
        exact absurd ⟨c :: s, List.suffix_refl _, _, _, bounds?_eq_some_iff.1 hbounds⟩ h
    have htail : ¬ EndsInRange s := fun ⟨t, ht, hrange⟩ =>
      h ⟨t, ht.trans (List.suffix_cons c s), hrange⟩
    rw [rangeParts?, hnone]
    simp [ih htail]

/-- A base without blanks that does not end in a digit is found in front of a range. -/
theorem IsRange.rangeParts?_append {base first last t : List Char} (h : IsRange first last t)
    (hbase : Unbroken base) (hlast : ∀ c ∈ base.getLast?, isDigit c = false) :
    rangeParts? (base ++ t) = some (base, first, last) := by
  induction base with
  | nil =>
    have hbounds := bounds?_eq_some_iff.2 h
    cases t with
    | nil => cases hbounds
    | cons c t => rw [List.nil_append, rangeParts?, hbounds]
  | cons c base ih =>
    have hnone : bounds? (c :: base ++ t) = none := by
      cases hbounds : bounds? (c :: base ++ t) with
      | none => rfl
      | some parts =>
        exact absurd (bounds?_eq_some_iff.1 hbounds) (h.not_append (by simp) hbase hlast)
    obtain ⟨hc, hbase⟩ := List.forall_mem_cons.1 hbase
    have htail : ∀ d ∈ base.getLast?, isDigit d = false := by
      intro d hd
      refine hlast d ?_
      rw [List.getLast?_cons, Option.mem_def.1 hd]
      rfl
    rw [List.cons_append] at hnone ⊢
    simp [rangeParts?, hnone, hc, ih hbase htail]

/-! ## Members -/

/-- A member of a list of names: a name, or all names of a base with the numbers between two
bounds. -/
inductive Member where
  | name (s : List Char)
  | range (base : List Char) (first last : Nat)

namespace Member

def names : Member → List (List Char)
  | name s => [s]
  | range base first last =>
    (List.Ico first (last + 1)).map fun n => base ++ Decimal.ofNat n

/-- The text of a member. A single name must not end in what reads as a range, and the bounds of a
range are in order and not too far apart. -/
inductive Spells : Member → List Char → Prop
  | name {s : List Char} (hne : s ≠ []) (hcomma : ',' ∉ s)
      (hhead : ∀ c ∈ s.head?, isBlank c = false) (hlast : ∀ c ∈ s.getLast?, isBlank c = false)
      (hrange : ¬ EndsInRange s) : Spells (name s) s
  | range {base first last t : List Char} {a b : Nat} (hbase : Unbroken base) (hcomma : ',' ∉ base)
      (hdigit : ∀ c ∈ base.getLast?, isDigit c = false) (ha : Decimal.Writes first a)
      (hb : Decimal.Writes last b) (ht : Joins first last t) (hle : a ≤ b)
      (hwidth : b - a < 4096) : Spells (range base a b) (base ++ t)

/-- The member stands in a part of a list, with any blanks around it. -/
def Stands (m : Member) (part : List Char) : Prop :=
  ∃ s gap gap', m.Spells s ∧ (∀ c ∈ gap, isBlank c = true) ∧ (∀ c ∈ gap', isBlank c = true) ∧
    part = gap ++ (s ++ gap')

theorem Spells.expandMember {m : Member} {s : List Char} (h : m.Spells s) :
    Interface.expandMember s = m.names := by
  cases h with
  | name _ _ _ _ hrange =>
    rw [Interface.expandMember, rangeParts?_eq_none hrange]
    rfl
  | @range base first last t a b hbase _ hdigit ha hb ht hle hwidth =>
    rw [Interface.expandMember, (ht.isRange ha hb).rangeParts?_append hbase hdigit]
    simp only
    rw [expandRange_hyphen ha hb, Nat.max_eq_right hle, Nat.min_eq_left hle, if_pos hwidth]
    rfl

theorem Spells.ends {m : Member} {s : List Char} (h : m.Spells s) :
    s ≠ [] ∧ (∀ c ∈ s.head?, isBlank c = false) ∧ (∀ c ∈ s.getLast?, isBlank c = false) ∧
      ',' ∉ s := by
  cases h with
  | name hne hcomma hhead hlast _ => exact ⟨hne, hhead, hlast, hcomma⟩
  | @range base first last t a b hbase hcomma _ ha hb ht _ _ =>
    obtain ⟨gap, gap', hgap, hgap', rfl⟩ := ht
    have hdigit {c : Char} {s : List Char} {n : Nat} (hs : Decimal.Writes s n) (hc : c ∈ s) :
        isBlank c = false := isBlank_of_isDigit (hs.isDigit c hc)
    have hnot {s : List Char} {p : Char → Bool} (hs : ∀ c ∈ s, p c = true) (hp : p ',' = false) :
        ',' ∉ s := fun hmem => by
      rw [hs _ hmem] at hp
      cases hp
    refine ⟨by simp, fun c hc => ?_, fun c hc => ?_, ?_⟩
    · cases base with
      | nil =>
        obtain ⟨d, digits, rfl⟩ := List.exists_cons_of_ne_nil ha.ne_nil
        cases hc
        exact hdigit ha List.mem_cons_self
      | cons d base =>
        cases hc
        exact hbase _ List.mem_cons_self
    · have hsplit : base ++ (first ++ (gap ++ '-' :: (gap' ++ last))) =
          (base ++ (first ++ (gap ++ '-' :: gap'))) ++ last := by simp
      rw [hsplit, List.getLast?_append_of_ne_nil _ hb.ne_nil] at hc
      exact hdigit hb (List.mem_of_getLast? hc)
    · simp [hcomma, hnot ha.isDigit (by decide), hnot hb.isDigit (by decide),
        hnot hgap (by decide), hnot hgap' (by decide)]

end Member

/-! ## Lists -/

/-- The members of a text in order, with a comma between each two. A comma may also stand at the
end. -/
inductive Members : List Member → List Char → Prop
  | nil : Members [] []
  | last {m : Member} {part : List Char} (hm : m.Stands part) : Members [m] part
  | comma {m : Member} {part rest : List Char} {ms : List Member} (hm : m.Stands part)
      (hrest : Members ms rest) : Members (m :: ms) (part ++ ',' :: rest)

theorem expand_of_not_comma {part : List Char} (h : ∀ c ∈ part, (c == ',') = false)
    (hne : trim part ≠ []) : expand part = expandMember (trim part) := by
  rw [expand, fields_eq_singleton h]
  simp [hne]

theorem expand_append_comma {part : List Char} (h : ∀ c ∈ part, (c == ',') = false)
    (rest : List Char) : expand (part ++ ',' :: rest) = expand part ++ expand rest := by
  unfold expand
  rw [fields_append h rfl, fields_eq_singleton h, ← List.flatMap_append, ← List.filter_append,
    ← List.map_append]
  rfl

theorem Member.Stands.expand {m : Member} {part : List Char} (h : m.Stands part) :
    (∀ c ∈ part, (c == ',') = false) ∧ Interface.expand part = m.names := by
  obtain ⟨s, gap, gap', hs, hgap, hgap', rfl⟩ := h
  obtain ⟨hne, hhead, hlast, hcomma⟩ := hs.ends
  have htrim := trim_padded hgap hgap' hne hhead hlast
  have hpart : ∀ c ∈ gap ++ (s ++ gap'), (c == ',') = false := by
    intro c hc
    rw [beq_eq_false_iff_ne]
    rintro rfl
    simp only [List.mem_append] at hc
    rcases hc with hc | hc | hc
    · exact absurd (hgap _ hc) (by decide)
    · exact hcomma hc
    · exact absurd (hgap' _ hc) (by decide)
  have hexpand := expand_of_not_comma hpart (by rwa [htrim])
  rw [htrim, hs.expandMember] at hexpand
  exact ⟨hpart, hexpand⟩

/-- A list of names is expanded member by member. -/
theorem expand_members {ms : List Member} {text : List Char} (h : Members ms text) :
    expand text = ms.flatMap Member.names := by
  induction h with
  | nil => rfl
  | last hm => simpa using hm.expand.2
  | comma hm _ ih => rw [expand_append_comma hm.expand.1, hm.expand.2, ih, List.flatMap_cons]

/-- A range whose bounds have a zero and blanks in front, a name with a hyphen and a number behind
it but not at its end, a base that looks like bounds itself, and bounds with nothing in front. -/
def fourMembers : List Member :=
  [.range "Gi1/0/".toList 9 11, .name "Po-1 x".toList, .range "1-2/".toList 3 3, .range [] 7 8]

def memberList : List Char := " Gi1/0/09 -\t11,Po-1 x ,1-2/3-3, 7 - 8".toList

theorem expand_fourMembers :
    Members fourMembers memberList ∧
      expand memberList = fourMembers.flatMap Member.names ∧
      (expand memberList).map String.ofList =
        ["Gi1/0/9", "Gi1/0/10", "Gi1/0/11", "Po-1 x", "1-2/3", "7", "8"] := by
  have hblank : ∀ c ∈ [' '], isBlank c = true := List.all_eq_true.1 (by decide)
  have hnone : ∀ c ∈ ([] : List Char), isBlank c = true := by simp
  have hslot : Member.Stands (.range "Gi1/0/".toList 9 11) " Gi1/0/09 -\t11".toList := by
    have hfirst : Decimal.Writes ['0', '9'] 9 := by decide
    have hlast : Decimal.Writes ['1', '1'] 11 := by decide
    have hjoins : Joins ['0', '9'] ['1', '1'] "09 -\t11".toList :=
      ⟨[' '], ['\t'], hblank, List.all_eq_true.1 (by decide), rfl⟩
    exact ⟨_, [' '], [], .range (by decide) (by decide) (by rintro c ⟨⟩; decide) hfirst hlast
      hjoins (by decide) (by decide), hblank, hnone, rfl⟩
  have hname : Member.Stands (.name "Po-1 x".toList) "Po-1 x ".toList :=
    ⟨_, [], [' '], .name (by decide) (by decide) (by rintro c ⟨⟩; decide)
      (by rintro c ⟨⟩; decide) (by decide), hnone, hblank, rfl⟩
  have hnested : Member.Stands (.range "1-2/".toList 3 3) "1-2/3-3".toList := by
    have hthree : Decimal.Writes ['3'] 3 := by decide
    exact ⟨_, [], [], .range (by decide) (by decide) (by rintro c ⟨⟩; decide) hthree hthree
      ⟨[], [], hnone, hnone, rfl⟩ (by decide) (by decide), hnone, hnone, rfl⟩
  have hbare : Member.Stands (.range [] 7 8) " 7 - 8".toList := by
    have hfirst : Decimal.Writes ['7'] 7 := by decide
    have hlast : Decimal.Writes ['8'] 8 := by decide
    exact ⟨_, [' '], [], .range (by decide) (by decide) (by simp) hfirst hlast
      ⟨[' '], [' '], hblank, hblank, rfl⟩ (by decide) (by decide), hblank, hnone, rfl⟩
  have hlist : Members fourMembers memberList :=
    .comma hslot (.comma hname (.comma hnested (.last hbare)))
  exact ⟨hlist, expand_members hlist, by decide +kernel⟩

end HostSurvey.Interface
