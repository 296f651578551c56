import HostSurvey.Proofs.FlagNames
import Mathlib.Data.Nat.Bitwise

/-!
# Sets of flags

A flag text is a set of names. `Names` says bit by bit what a list of words
names, without the order in which they are gone through. Reading a text is told
by it, and what is written of bits is read back.
-/

namespace HostSurvey

open Text (sameLetters)

namespace Flags

variable {text : String} {bits start : UInt16} {words : List (List Char)} {word : List Char}
variable {flag : String × UInt16}

/-! ## Words and bits -/

/-- The words of a flag text. -/
def wordsOf (text : String) : List (List Char) := Text.tokens isSeparator text.toList

/-- Some flag has this name, but for the case of its letters. -/
def Known (word : List Char) : Prop := ∃ flag ∈ table, sameLetters flag.1.toList word = true

def Mentions (words : List (List Char)) (flag : String × UInt16) : Prop :=
  ∃ word ∈ words, sameLetters flag.1.toList word = true

theorem mentions_cons :
    Mentions (word :: words) flag ↔
      sameLetters flag.1.toList word = true ∨ Mentions words flag := by
  simp [Mentions]

/-- All words are names of flags, and a bit is set if it is one of a flag that is mentioned. -/
structure Names (words : List (List Char)) (bits : UInt16) : Prop where
  known : ∀ word ∈ words, Known word
  union : ∀ k, bits.toNat.testBit k = true ↔
    ∃ flag ∈ table, Mentions words flag ∧ flag.2.toNat.testBit k = true

theorem eq_iff_testBit {a b : UInt16} :
    a = b ↔ ∀ k, (a.toNat.testBit k = true ↔ b.toNat.testBit k = true) := by
  refine ⟨fun h k => h ▸ Iff.rfl, fun h => ?_⟩
  rw [← UInt16.toNat_inj]
  exact Nat.eq_of_testBit_eq fun k => Bool.eq_iff_iff.2 (h k)

/-- The names differ in more than the case of their letters. -/
theorem eq_of_sameLetters {f g : String × UInt16} (hf : f ∈ table) (hg : g ∈ table)
    (hfw : sameLetters f.1.toList word = true) (hgw : sameLetters g.1.toList word = true) :
    f = g := by
  have hdistinct : ∀ f ∈ table, ∀ g ∈ table,
      Text.lowered f.1.toList = Text.lowered g.1.toList → f = g := by decide
  unfold sameLetters at hfw hgw
  rw [beq_iff_eq] at hfw hgw
  exact hdistinct f hf g hg (hfw.trans hgw.symm)

theorem mem_of_find? {found : String × UInt16}
    (h : (table.find? fun flag => sameLetters flag.1.toList word) = some found) :
    found ∈ table ∧ sameLetters found.1.toList word = true := by
  have hsame := List.find?_some h
  exact ⟨List.mem_of_find?_eq_some h, hsame⟩

theorem bit?_eq_some_iff {bit : UInt16} :
    bit? word = some bit ↔
      ∃ flag ∈ table, sameLetters flag.1.toList word = true ∧ flag.2 = bit := by
  unfold bit?
  rw [Option.map_eq_some_iff]
  constructor
  · rintro ⟨flag, hfind, rfl⟩
    exact ⟨flag, (mem_of_find? hfind).1, (mem_of_find? hfind).2, rfl⟩
  · rintro ⟨flag, hflag, hsame, rfl⟩
    cases hfind : table.find? fun flag => sameLetters flag.1.toList word with
    | none => exact absurd hsame (List.find?_eq_none.1 hfind flag hflag)
    | some found =>
      obtain ⟨hfound, hsame'⟩ := mem_of_find? hfind
      exact ⟨found, rfl, by rw [eq_of_sameLetters hfound hflag hsame' hsame]⟩

theorem bit?_eq_none_iff : bit? word = none ↔ ¬ Known word := by
  unfold bit? Known
  rw [Option.map_eq_none_iff, List.find?_eq_none]
  simp

/-! ## Reading a text -/

/-- Words are united in front of what is there already. -/
theorem union_eq_ok_iff :
    union start words = .ok bits ↔
      (∀ word ∈ words, Known word) ∧
        ∀ k, bits.toNat.testBit k = true ↔
          start.toNat.testBit k = true ∨
            ∃ flag ∈ table, Mentions words flag ∧ flag.2.toNat.testBit k = true := by
  induction words generalizing start with
  | nil =>
    rw [union, Except.ok.injEq, eq_comm, eq_iff_testBit]
    simp [Mentions]
  | cons word words ih =>
    rw [union, List.forall_mem_cons]
    cases hbit : bit? word with
    | none => simp [bit?_eq_none_iff.1 hbit]
    | some bit =>
      obtain ⟨flag, hflag, hsame, rfl⟩ := bit?_eq_some_iff.1 hbit
      have hknown : Known word := ⟨flag, hflag, hsame⟩
      have hfirst (k : Nat) : flag.2.toNat.testBit k = true ↔
          ∃ f ∈ table, sameLetters f.1.toList word = true ∧ f.2.toNat.testBit k = true := by
        refine ⟨fun hk => ⟨flag, hflag, hsame, hk⟩, ?_⟩
        rintro ⟨f, hf, hfw, hk⟩
        rwa [eq_of_sameLetters hflag hf hsame hfw]
      simp only [ih, hknown, true_and, UInt16.toNat_or, Nat.testBit_or, Bool.or_eq_true, hfirst,
        mentions_cons, or_and_right, and_or_left, exists_or, or_assoc]

/-- A text is read as the bits that its words name. -/
theorem parse_eq_ok_iff : parse text = .ok bits ↔ Names (wordsOf text) bits := by
  unfold parse
  rw [union_eq_ok_iff]
  simp only [UInt16.toNat_zero, Nat.zero_testBit, Bool.false_eq_true, false_or]
  exact ⟨fun h => ⟨h.1, h.2⟩, fun h => ⟨h.known, h.union⟩⟩

/-- The fault tells of the first word that is no name. -/
theorem union_eq_error_iff {fault : RuleFault} :
    union start words = .error fault ↔
      ∃ before word behind, words = before ++ word :: behind ∧ (∀ w ∈ before, Known w) ∧
        ¬ Known word ∧ fault = .unknownFlag (String.ofList word) := by
  constructor
  · intro h
    induction words generalizing start with
    | nil => cases h
    | cons word words ih =>
      unfold union at h
      split at h
      · rename_i bit hbit
        obtain ⟨flag, hflag, hsame, -⟩ := bit?_eq_some_iff.1 hbit
        obtain ⟨before, w, behind, rfl, hbefore, hw, hfault⟩ := ih h
        exact ⟨word :: before, w, behind, rfl,
          List.forall_mem_cons.2 ⟨⟨flag, hflag, hsame⟩, hbefore⟩, hw, hfault⟩
      · rename_i hnone
        cases h
        exact ⟨[], word, words, rfl, by simp, bit?_eq_none_iff.1 hnone, rfl⟩
  · rintro ⟨before, word, behind, rfl, hbefore, hword, rfl⟩
    induction before generalizing start with
    | nil =>
      rw [List.nil_append, union, bit?_eq_none_iff.2 hword]
    | cons w before ih =>
      obtain ⟨⟨flag, hflag, hsame⟩, hbefore⟩ := List.forall_mem_cons.1 hbefore
      have hbit : bit? w = some flag.2 := bit?_eq_some_iff.2 ⟨flag, hflag, hsame, rfl⟩
      rw [List.cons_append, union, hbit]
      exact ih hbefore

theorem exists_parse_eq_ok_iff :
    (∃ bits, parse text = .ok bits) ↔ ∀ word ∈ wordsOf text, Known word := by
  refine ⟨fun ⟨bits, h⟩ => (parse_eq_ok_iff.1 h).known, fun hknown => ?_⟩
  cases h : parse text with
  | ok bits => exact ⟨bits, rfl⟩
  | error fault =>
    obtain ⟨before, word, behind, hsplit, -, hword, -⟩ := union_eq_error_iff.1 h
    refine absurd (hknown word ?_) hword
    unfold wordsOf
    simp [hsplit]

/-- Texts of names are read alike if they mention the same flags. -/
theorem parse_congr {other : String} (htext : ∀ word ∈ wordsOf text, Known word)
    (hother : ∀ word ∈ wordsOf other, Known word)
    (hsame : ∀ flag ∈ table, Mentions (wordsOf text) flag ↔ Mentions (wordsOf other) flag) :
    parse text = parse other := by
  obtain ⟨bits, h⟩ := exists_parse_eq_ok_iff.2 htext
  rw [h, eq_comm, parse_eq_ok_iff]
  refine ⟨hother, fun k => ?_⟩
  rw [(parse_eq_ok_iff.1 h).union]
  refine exists_congr fun flag => and_congr_right fun hflag => and_congr_left fun _ => ?_
  exact hsame flag hflag

/-! ## Writing a text -/

/-- A flag is one of the lowest nine bits. -/
theorem exists_bit_of_mem_table : ∀ flag ∈ table, ∃ i < 9, flag.2.toNat = 2 ^ i := by decide

theorem exists_mem_table_of_lt : ∀ i < 9, ∃ flag ∈ table, flag.2.toNat = 2 ^ i := by decide

theorem and_ne_zero_iff {i : Nat} (hflag : flag.2.toNat = 2 ^ i) :
    (bits &&& flag.2 != 0) = true ↔ bits.toNat.testBit i = true := by
  rw [bne_iff_ne, ne_eq, ← UInt16.toNat_inj, UInt16.toNat_and, hflag, Nat.and_two_pow]
  cases bits.toNat.testBit i <;> simp

/-- The mask keeps the nine lowest bits. -/
theorem toNat_and_mask (bits : UInt16) : (bits &&& 0x01FF).toNat = bits.toNat % 2 ^ 9 := by
  have hmask : (0x01FF : UInt16).toNat = 2 ^ 9 - 1 := rfl
  rw [UInt16.toNat_and, hmask, Nat.and_two_pow_sub_one_eq_mod]

theorem testBit_and_mask (k : Nat) :
    (bits &&& 0x01FF).toNat.testBit k = true ↔ k < 9 ∧ bits.toNat.testBit k = true := by
  rw [toNat_and_mask, Nat.testBit_mod_two_pow, Bool.and_eq_true, decide_eq_true_eq]

theorem wordsOf_names (bits : UInt16) :
    wordsOf (names bits) =
      (table.filter fun flag => bits &&& flag.2 != 0).map fun flag => flag.1.toList :=
  tokens_names (by decide) (by decide) bits

/-- The names that are written mention the flags that are set. -/
theorem mentions_names_iff (hflag : flag ∈ table) :
    Mentions (wordsOf (names bits)) flag ↔ (bits &&& flag.2 != 0) = true := by
  have hself (s : List Char) : sameLetters s s = true := by simp [sameLetters]
  unfold Mentions
  rw [wordsOf_names]
  constructor
  · rintro ⟨word, hword, hsame⟩
    obtain ⟨f, hf, rfl⟩ := List.mem_map.1 hword
    obtain ⟨hf, hset⟩ := List.mem_filter.1 hf
    rwa [eq_of_sameLetters hflag hf hsame (hself _)]
  · intro hset
    exact ⟨_, List.mem_map_of_mem (List.mem_filter.2 ⟨hflag, hset⟩), hself _⟩

/-- What is written of bits is read back as the nine of them that have names. -/
theorem parse_names (bits : UInt16) : parse (names bits) = .ok (bits &&& 0x01FF) := by
  rw [parse_eq_ok_iff]
  refine ⟨fun word hword => ?_, fun k => ?_⟩
  · rw [wordsOf_names] at hword
    obtain ⟨flag, hflag, rfl⟩ := List.mem_map.1 hword
    exact ⟨flag, (List.mem_filter.1 hflag).1, by simp [sameLetters]⟩
  · rw [testBit_and_mask]
    constructor
    · rintro ⟨hk, hset⟩
      obtain ⟨flag, hflag, hbit⟩ := exists_mem_table_of_lt k hk
      refine ⟨flag, hflag, (mentions_names_iff hflag).2 ((and_ne_zero_iff hbit).2 hset), ?_⟩
      simp [hbit]
    · rintro ⟨flag, hflag, hmentions, hset⟩
      obtain ⟨i, hi, hbit⟩ := exists_bit_of_mem_table flag hflag
      rw [hbit, Nat.testBit_two_pow, decide_eq_true_eq] at hset
      subst hset
      exact ⟨hi, (and_ne_zero_iff hbit).1 ((mentions_names_iff hflag).1 hmentions)⟩

/-- A text names no bits but those of flags. -/
theorem Names.and_mask (h : Names words bits) : bits &&& 0x01FF = bits := by
  rw [eq_iff_testBit]
  intro k
  rw [testBit_and_mask, and_iff_right_iff_imp, h.union]
  rintro ⟨flag, hflag, -, hset⟩
  obtain ⟨i, hi, hbit⟩ := exists_bit_of_mem_table flag hflag
  rw [hbit, Nat.testBit_two_pow, decide_eq_true_eq] at hset
  exact hset ▸ hi

/-- Reading, writing and reading again gives what was read first. -/
theorem parse_names_of_parse (h : parse text = .ok bits) : parse (names bits) = .ok bits := by
  rw [parse_names, (parse_eq_ok_iff.1 h).and_mask]

end Flags

end HostSurvey
