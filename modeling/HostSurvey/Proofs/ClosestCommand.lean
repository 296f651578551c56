import HostSurvey.Proofs.CharacterBytes
import HostSurvey.Proofs.CommonStretches

/-!
# The closest command

A command is looked up by what it has in common with the registered ones.
`IsClosest` says without any search which entry is the closest: the earliest of
those that share the longest stretch of bytes with the command. The answer
depends on this entry, on how much it shares and on the two lengths.
-/

namespace HostSurvey.Registry

open Text

variable {r : Registry} {command : Bytes} {e : String × OutputReader} {m : Nat}

/-! ## The first of the best -/

theorem closest?_eq_none_iff : r.closest? command = none ↔ r = [] := by
  cases r with
  | nil => exact ⟨fun _ => rfl, fun _ => rfl⟩
  | cons d r =>
    refine ⟨fun h => ?_, nofun⟩
    unfold closest? at h
    split at h
    · split at h <;> cases h
    · cases h

/-- The entry that is found has more in common with the command than any before it, and no less than
any behind it. -/
theorem exists_split_of_closest? (h : r.closest? command = some (m, e)) :
    ∃ before behind, r = before ++ e :: behind ∧ m = likeness command e ∧
      (∀ d ∈ before, likeness command d < m) ∧ ∀ d ∈ behind, likeness command d ≤ m := by
  induction r generalizing m e with
  | nil => cases h
  | cons d r ih =>
    unfold closest? at h
    split at h
    · rename_i n best hbest
      obtain ⟨before, behind, hr, hn, hbefore, hbehind⟩ := ih hbest
      split at h
      · rename_i hless
        cases h
        exact ⟨d :: before, behind, by rw [hr, List.cons_append], hn,
          List.forall_mem_cons.2 ⟨hless, hbefore⟩, hbehind⟩
      · rename_i hleast
        cases h
        refine ⟨[], r, rfl, rfl, by simp, fun x hx => ?_⟩
        rw [hr, List.mem_append, List.mem_cons] at hx
        rcases hx with hx | rfl | hx
        · have := hbefore x hx
          omega
        · omega
        · have := hbehind x hx
          omega
    · rename_i hnone
      cases h
      exact ⟨[], [], by rw [closest?_eq_none_iff.1 hnone, List.nil_append], rfl, by simp, by simp⟩

/-- An entry that beats those before it and is not beaten behind it is the one that is found. -/
theorem closest?_split {before behind : Registry}
    (hbefore : ∀ d ∈ before, likeness command d < likeness command e)
    (hbehind : ∀ d ∈ behind, likeness command d ≤ likeness command e) :
    closest? command (before ++ e :: behind) = some (likeness command e, e) := by
  induction before with
  | nil =>
    rw [List.nil_append, closest?]
    cases hrest : closest? command behind with
    | none => rfl
    | some found =>
      obtain ⟨n, best⟩ := found
      obtain ⟨front, back, rfl, rfl, -, -⟩ := exists_split_of_closest? hrest
      exact if_neg (Nat.not_lt.2 (hbehind best (by simp)))
  | cons d before ih =>
    obtain ⟨hd, hbefore⟩ := List.forall_mem_cons.1 hbefore
    rw [List.cons_append, closest?, ih hbefore]
    exact if_pos hd

/-! ## The closest entry -/

/-- `m` bytes are the longest stretch that the command and the key of the entry have in common. The
keys before it share less with the command, and those behind it share no more. -/
def IsClosest (r : Registry) (command : Bytes) (e : String × OutputReader) (m : Nat) : Prop :=
  IsGreatest (commonLengths command (bytesOf e.1.toList)) m ∧
  ∃ before behind, r = before ++ e :: behind ∧
    (∀ d ∈ before, ∀ n ∈ commonLengths command (bytesOf d.1.toList), n < m) ∧
    ∀ d ∈ behind, ∀ n ∈ commonLengths command (bytesOf d.1.toList), n ≤ m

theorem isGreatest_likeness (command : Bytes) (d : String × OutputReader) :
    IsGreatest (commonLengths command (bytesOf d.1.toList)) (likeness command d) :=
  isGreatest_longestCommon command _

theorem closest?_eq_some_iff : r.closest? command = some (m, e) ↔ IsClosest r command e m := by
  constructor
  · intro h
    obtain ⟨before, behind, hr, rfl, hbefore, hbehind⟩ := exists_split_of_closest? h
    exact ⟨isGreatest_likeness command e, before, behind, hr,
      fun d hd => (isGreatest_likeness command d).lt_iff.1 (hbefore d hd),
      fun d hd => (isLUB_le_iff (isGreatest_likeness command d).isLUB).1 (hbehind d hd)⟩
  · rintro ⟨hm, before, behind, rfl, hbefore, hbehind⟩
    obtain rfl : m = likeness command e := hm.unique (isGreatest_likeness command e)
    exact closest?_split
      (fun d hd => (isGreatest_likeness command d).lt_iff.2 (hbefore d hd))
      fun d hd => (isLUB_le_iff (isGreatest_likeness command d).isLUB).2 (hbehind d hd)

theorem existsUnique_isClosest (hr : r ≠ []) (command : Bytes) :
    ∃! p : (String × OutputReader) × Nat, IsClosest r command p.1 p.2 := by
  cases h : r.closest? command with
  | none => exact absurd (closest?_eq_none_iff.1 h) hr
  | some found =>
    obtain ⟨m, e⟩ := found
    refine ⟨(e, m), closest?_eq_some_iff.1 h, fun p hp => ?_⟩
    have hsame := (closest?_eq_some_iff.2 hp).symm.trans h
    obtain ⟨hm, he⟩ := Prod.mk.inj (Option.some.inj hsame)
    exact Prod.ext he hm

/-! ## The answer -/

/-- Too little is in common: nothing, or less than three bytes of a command that has them. -/
def IsFaint (command : Bytes) (m : Nat) : Prop := m = 0 ∨ m < min 3 command.length

instance (command : Bytes) (m : Nat) : Decidable (IsFaint command m) :=
  inferInstanceAs (Decidable (_ ∨ _))

/-- What the closest entry answers. -/
def answer (command : Bytes) (e : String × OutputReader) (m : Nat) : Answer :=
  if IsFaint command m then .unsupported
  else if e.1.utf8ByteSize < command.length then .subcommand e.1
  else .reader e.1 e.2

theorem answer_eq_unsupported_iff : answer command e m = .unsupported ↔ IsFaint command m := by
  unfold answer
  split_ifs with hfaint <;> simp [hfaint]

theorem answer_eq_subcommand_iff {key : String} :
    answer command e m = .subcommand key ↔
      ¬ IsFaint command m ∧ e.1 = key ∧ key.utf8ByteSize < command.length := by
  unfold answer
  split_ifs with hfaint hlonger
  · simp [hfaint]
  · rw [Answer.subcommand.injEq]
    exact ⟨fun h => ⟨hfaint, h, h ▸ hlonger⟩, fun h => h.2.1⟩
  · refine ⟨nofun, fun h => ?_⟩
    rw [h.2.1] at hlonger
    exact absurd h.2.2 hlonger

theorem answer_eq_reader_iff {key : String} {reader : OutputReader} :
    answer command e m = .reader key reader ↔
      ¬ IsFaint command m ∧ e = (key, reader) ∧ command.length ≤ key.utf8ByteSize := by
  unfold answer
  split_ifs with hfaint hlonger
  · simp [hfaint]
  · refine ⟨nofun, fun h => ?_⟩
    rw [h.2.1] at hlonger
    exact absurd hlonger (Nat.not_lt.2 h.2.2)
  · rw [Answer.reader.injEq, ← Prod.mk.injEq]
    refine ⟨fun h => ⟨hfaint, h, ?_⟩, fun h => h.2.1⟩
    rw [← (Prod.mk.inj h).1]
    exact Nat.not_lt.1 hlonger

/-- The answer is that of the closest entry, if there is any. -/
theorem lookup_eq_iff {text : List Char} {a : Answer} :
    r.lookup text = a ↔
      (r = [] ∧ .unsupported = a) ∨
        ∃ e m, IsClosest r (bytesOf (trim text)) e m ∧ answer (bytesOf (trim text)) e m = a := by
  have heq {e : String × OutputReader} {m : Nat} (h : IsClosest r (bytesOf (trim text)) e m) :
      r.lookup text = answer (bytesOf (trim text)) e m := by
    unfold lookup answer IsFaint
    simp only [closest?_eq_some_iff.2 h, Nat.min_comm 3]
  constructor
  · rintro rfl
    by_cases hr : r = []
    · subst hr
      exact .inl ⟨rfl, rfl⟩
    · obtain ⟨⟨e, m⟩, h, -⟩ := existsUnique_isClosest hr (bytesOf (trim text))
      exact .inr ⟨e, m, h, (heq h).symm⟩
  · rintro (⟨rfl, rfl⟩ | ⟨e, m, h, rfl⟩)
    · rfl
    · exact heq h

theorem lookup_eq_unsupported_iff {text : List Char} :
    r.lookup text = .unsupported ↔
      r = [] ∨ ∃ e m, IsClosest r (bytesOf (trim text)) e m ∧ IsFaint (bytesOf (trim text)) m := by
  simp only [lookup_eq_iff, answer_eq_unsupported_iff, and_true]

theorem lookup_eq_subcommand_iff {text : List Char} {key : String} :
    r.lookup text = .subcommand key ↔
      ∃ reader m, IsClosest r (bytesOf (trim text)) (key, reader) m ∧
        ¬ IsFaint (bytesOf (trim text)) m ∧ key.utf8ByteSize < (bytesOf (trim text)).length := by
  simp only [lookup_eq_iff, answer_eq_subcommand_iff, reduceCtorEq, and_false, false_or]
  constructor
  · rintro ⟨⟨key', reader⟩, m, h, hclear, rfl, hlonger⟩
    exact ⟨reader, m, h, hclear, hlonger⟩
  · rintro ⟨reader, m, h, hclear, hlonger⟩
    exact ⟨(key, reader), m, h, hclear, rfl, hlonger⟩

theorem lookup_eq_reader_iff {text : List Char} {key : String} {reader : OutputReader} :
    r.lookup text = .reader key reader ↔
      ∃ m, IsClosest r (bytesOf (trim text)) (key, reader) m ∧
        ¬ IsFaint (bytesOf (trim text)) m ∧ (bytesOf (trim text)).length ≤ key.utf8ByteSize := by
  simp only [lookup_eq_iff, answer_eq_reader_iff, reduceCtorEq, and_false, false_or]
  constructor
  · rintro ⟨e, m, h, hclear, rfl, hfits⟩
    exact ⟨m, h, hclear, hfits⟩
  · rintro ⟨m, h, hclear, hfits⟩
    exact ⟨(key, reader), m, h, hclear, rfl, hfits⟩

/-- A key that stands in no key before it is the closest to itself, and all of it is shared. -/
theorem isClosest_own_key {before behind : Registry} {key : String} {reader : OutputReader}
    (hnew : ∀ d ∈ before, ¬ key.toList <:+: d.1.toList) :
    IsClosest (before ++ (key, reader) :: behind) (bytesOf key.toList) (key, reader)
      (bytesOf key.toList).length := by
  refine ⟨⟨length_mem_commonLengths_iff.2 (List.infix_refl _),
    fun n hn => le_length_of_mem_commonLengths hn⟩, before, behind, rfl, fun d hd n hn => ?_,
    fun d _ n hn => le_length_of_mem_commonLengths hn⟩
  refine lt_of_le_of_ne (le_length_of_mem_commonLengths hn) ?_
  rintro rfl
  exact hnew d hd (Utf8.encode_isInfix_iff.1 (length_mem_commonLengths_iff.1 hn))

theorem lookup_own_key {before behind : Registry} {key : String} {reader : OutputReader}
    (hne : key ≠ "") (htrim : trim key.toList = key.toList)
    (hnew : ∀ d ∈ before, ¬ key.toList <:+: d.1.toList) :
    lookup (before ++ (key, reader) :: behind) key.toList = .reader key reader := by
  have hclosest : IsClosest (before ++ (key, reader) :: behind) (bytesOf key.toList) (key, reader)
      (bytesOf key.toList).length := isClosest_own_key hnew
  have hlength : (bytesOf key.toList).length = key.utf8ByteSize := Utf8.length_encode key
  have hpos : (bytesOf key.toList).length ≠ 0 := by
    rw [hlength]
    simpa using hne
  rw [← htrim] at hclosest hlength hpos
  rw [lookup_eq_reader_iff]
  refine ⟨_, hclosest, ?_, hlength.le⟩
  unfold IsFaint
  omega

/-- What is asked for has one closest entry in a registry that has any. It is not supported if the
registry is empty or too little is in common, it is a subcommand of the closest key if it is longer
than this key, and otherwise the reader of this key reads it. So a key that stands in none before it
is read under its own name, and what is longer than every key is never read. -/
theorem lookup_closest (r : Registry) (text : List Char) :
    (r ≠ [] → ∃! p : (String × OutputReader) × Nat,
      IsClosest r (bytesOf (trim text)) p.1 p.2) ∧
    (r.lookup text = .unsupported ↔
      r = [] ∨ ∃ e m, IsClosest r (bytesOf (trim text)) e m ∧ IsFaint (bytesOf (trim text)) m) ∧
    (∀ key, r.lookup text = .subcommand key ↔
      ∃ reader m, IsClosest r (bytesOf (trim text)) (key, reader) m ∧
        ¬ IsFaint (bytesOf (trim text)) m ∧ key.utf8ByteSize < (bytesOf (trim text)).length) ∧
    (∀ key reader, r.lookup text = .reader key reader ↔
      ∃ m, IsClosest r (bytesOf (trim text)) (key, reader) m ∧
        ¬ IsFaint (bytesOf (trim text)) m ∧ (bytesOf (trim text)).length ≤ key.utf8ByteSize) ∧
    (∀ before key reader behind, r = before ++ (key, reader) :: behind → key ≠ "" →
      trim key.toList = key.toList → (∀ d ∈ before, ¬ key.toList <:+: d.1.toList) →
      r.lookup key.toList = .reader key reader) ∧
    ((∀ d ∈ r, d.1.utf8ByteSize < (bytesOf (trim text)).length) →
      ∀ key reader, r.lookup text ≠ .reader key reader) := by
  refine ⟨fun hr => existsUnique_isClosest hr _, lookup_eq_unsupported_iff,
    fun key => lookup_eq_subcommand_iff, fun key reader => lookup_eq_reader_iff, ?_, ?_⟩
  · rintro before key reader behind rfl hne htrim hnew
    exact lookup_own_key hne htrim hnew
  · intro hlonger key reader h
    obtain ⟨m, ⟨-, before, behind, rfl, -⟩, -, hfits⟩ := lookup_eq_reader_iff.1 h
    have hkey := hlonger (key, reader) (by simp)
    exact absurd hkey (Nat.not_lt.2 hfits)

/-- `arp` stands in `ip arp`, which comes behind it. -/
theorem lookup_closest_overlapping :
    trim "ip arp".toList = "ip arp".toList ∧
      (∀ d ∈ standard.take 3, ¬ "ip arp".toList <:+: d.1.toList) ∧
      standard.lookup "ip arp".toList = .reader "ip arp" .arp ∧
      (∀ d ∈ standard, d.1.utf8ByteSize < (bytesOf (trim " ip arp vrf management ".toList)).length) ∧
      ∀ key reader, standard.lookup " ip arp vrf management ".toList ≠ .reader key reader := by
  have htrim : trim "ip arp".toList = "ip arp".toList := by decide
  have hnew : ∀ d ∈ standard.take 3, ¬ "ip arp".toList <:+: d.1.toList := by decide
  have hlonger : ∀ d ∈ standard,
      d.1.utf8ByteSize < (bytesOf (trim " ip arp vrf management ".toList)).length := by decide
  obtain ⟨-, -, -, -, hown, -⟩ := lookup_closest standard "ip arp".toList
  obtain ⟨-, -, -, -, -, hnever⟩ := lookup_closest standard " ip arp vrf management ".toList
  exact ⟨htrim, hnew, hown _ _ _ (standard.drop 4) rfl (by decide) htrim hnew, hlonger,
    hnever hlonger⟩

example :
    standard.lookup "ver".toList = .reader "version" .version ∧
      standard.lookup "arp vrf".toList = .subcommand "arp" := by
  decide

end HostSurvey.Registry
