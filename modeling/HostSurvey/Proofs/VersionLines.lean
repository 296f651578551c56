import HostSurvey.Proofs.Spelling
import HostSurvey.Show.Version

/-!
# Lines that tell of a version

`Tells line l` says how the lines are spelled that tell of the software, the
model, the serial number or the image of a device, and what they tell. Each kind
of line begins in its own way, so that no line tells two things, and reading a
line finds just what it tells.
-/

namespace HostSurvey

/-! ## Runs of characters -/

namespace Text

variable {p : Char → Bool} {run rest s : List Char}

/-- `run` is the whole stretch of characters of a kind that `run ++ rest` begins with. -/
structure IsRun (p : Char → Bool) (run rest : List Char) : Prop where
  ne_nil : run ≠ []
  of_mem : ∀ c ∈ run, p c = true
  ends : ∀ c ∈ rest.head?, p c = false

theorem isRun_iff :
    s = run ++ rest ∧ IsRun p run rest ↔ s.takeWhile p = run ∧ s.dropWhile p = rest ∧ run ≠ [] := by
  constructor
  · rintro ⟨rfl, hne, hrun, hrest⟩
    obtain ⟨htake, hdrop⟩ := span_append hrun hrest
    exact ⟨htake, hdrop, hne⟩
  · rintro ⟨rfl, rfl, hne⟩
    exact ⟨List.takeWhile_append_dropWhile.symm, hne, fun c hc => List.mem_takeWhile_imp hc,
      fun c hc => eq_false_of_mem_head?_dropWhile hc⟩

/-- A text begins with one run of a kind at most. -/
theorem IsRun.unique {run' rest' : List Char} (h : IsRun p run rest) (h' : IsRun p run' rest')
    (heq : run ++ rest = run' ++ rest') : run = run' ∧ rest = rest' := by
  obtain ⟨htake, hdrop, -⟩ := isRun_iff.1 ⟨rfl, h⟩
  obtain ⟨htake', hdrop', -⟩ := isRun_iff.1 ⟨heq, h'⟩
  exact ⟨htake.symm.trans htake', hdrop.symm.trans hdrop'⟩

end Text

namespace Version

open Text

/-! ## Spellings of lines -/

abbrev IsWord : List Char → List Char → Prop := IsRun fun c => !isBlank c

theorem IsWord.filled {w rest : List Char} (h : IsWord w rest) :
    ∀ c ∈ (w ++ rest).head?, isBlank c = false := by
  obtain ⟨d, w, rfl⟩ := List.exists_cons_of_ne_nil h.ne_nil
  have hd := h.of_mem d List.mem_cons_self
  simpa using hd

/-- `gap` ends on the line that it begins on. -/
def OnLine (gap : List Char) : Prop := ∀ c ∈ gap, isNewline c = false

instance (gap : List Char) : Decidable (OnLine gap) := List.decidableBAll _ gap

/-- A colon with any blanks around it. -/
def IsColon (s : List Char) : Prop :=
  ∃ gap gap', s = gap ++ ':' :: gap' ∧ (∀ c ∈ gap, isBlank c = true) ∧ ∀ c ∈ gap', isBlank c = true

/-- The version number stands behind `gap`. -/
def NumberBehind (gap : List Char) (number : String) (s : List Char) : Prop :=
  ∃ rest, OnLine gap ∧ s = gap ++ ("Version ".toList ++ (number.toList ++ rest)) ∧
    IsRun isVersionChar number.toList rest

/-- No version number stands further behind on the line. -/
def LastNumber (number : String) (s : List Char) : Prop :=
  ∃ gap, NumberBehind gap number s ∧
    ∀ gap' number', NumberBehind gap' number' s → gap'.length ≤ gap.length

/-- The line tells this. What it tells is as long as the line allows. -/
inductive Tells : List Char → Line → Prop
  | software {platform version : String} {rest : List Char}
      (hplatform : IsWord platform.toList (" Software".toList ++ rest))
      (hversion : LastNumber version rest) :
      Tells ("Cisco IOS Software, ".toList ++ (platform.toList ++ (" Software".toList ++ rest)))
        (.software platform version)
  | modelNumber {n : Char} {colon rest : List Char} {name : String} (hn : n = 'N' ∨ n = 'n')
      (hcolon : IsColon colon) (hname : IsWord name.toList rest) :
      Tells ("Model ".toList ++ n :: ("umber".toList ++ (colon ++ (name.toList ++ rest))))
        (.model name)
  | processor {c : Char} {detail rest : List Char} {name : String} (hc : c = 'C' ∨ c = 'c')
      (hname : IsWord name.toList (" (".toList ++ (detail ++ (") processor".toList ++ rest))))
      (hdetail : OnLine detail) :
      Tells (c :: ("isco ".toList ++ (name.toList ++
        (" (".toList ++ (detail ++ (") processor".toList ++ rest)))))) (.model name)
  | systemSerial {s n : Char} {colon rest : List Char} {id : String} (hs : s = 'S' ∨ s = 's')
      (hn : n = 'N' ∨ n = 'n') (hcolon : IsColon colon) (hid : IsWord id.toList rest) :
      Tells ("System ".toList ++ s :: ("erial ".toList ++ n :: ("umber".toList ++
        (colon ++ (id.toList ++ rest))))) (.serial id)
  | boardId {gap rest : List Char} {id : String} (hgap : ∀ c ∈ gap, isBlank c = true)
      (hid : IsWord id.toList rest) :
      Tells ("Processor board ID".toList ++ (gap ++ (id.toList ++ rest))) (.serial id)
  | image {file : String} {rest : List Char} (hfile : IsRun (· != '"') file.toList ('"' :: rest)) :
      Tells ("System image file is \"".toList ++ (file.toList ++ '"' :: rest)) (.image file)

/-! ## Parts of lines -/

section Parts

variable {s rest gap number : List Char} {w : String}

theorem word?_eq_some_iff :
    word? s = some (w, rest) ↔ s = w.toList ++ rest ∧ IsWord w.toList rest := by
  rw [isRun_iff]
  unfold word?
  dsimp only
  split
  · rename_i hnone
    rw [List.isEmpty_iff] at hnone
    simp only [reduceCtorEq, false_iff]
    rintro ⟨htake, -, hne⟩
    exact hne (htake.symm.trans hnone)
  · rename_i hsome
    rw [List.isEmpty_iff] at hsome
    rw [Option.some.injEq, Prod.mk.injEq, String.ofList_eq]
    exact ⟨fun ⟨htake, hdrop⟩ => ⟨htake, hdrop, htake ▸ hsome⟩, fun ⟨htake, hdrop, _⟩ =>
      ⟨htake, hdrop⟩⟩

theorem versionAt?_eq_some_iff :
    versionAt? s = some w ↔
      ∃ rest, s = "Version ".toList ++ (w.toList ++ rest) ∧ IsRun isVersionChar w.toList rest := by
  unfold versionAt?
  simp only [Option.bind_eq_bind, Option.bind_eq_some_iff, strip?_eq_some_iff]
  constructor
  · rintro ⟨t, rfl, hnumber⟩
    split at hnumber
    · cases hnumber
    · rename_i hne
      rw [List.isEmpty_iff] at hne
      have hw : t.takeWhile isVersionChar = w.toList := String.ofList_eq.1 (Option.some.inj hnumber)
      obtain ⟨ht, hrun⟩ := isRun_iff.2 ⟨hw, rfl, hw ▸ hne⟩
      exact ⟨_, congrArg _ ht, hrun⟩
  · rintro ⟨t, rfl, hrun⟩
    obtain ⟨htake, -, hne⟩ := isRun_iff.1 ⟨rfl, hrun⟩
    refine ⟨_, rfl, ?_⟩
    rw [htake, if_neg (by simpa using hne)]
    exact congrArg some String.ofList_toList

theorem pastColon?_eq_some_iff :
    pastColon? s = some rest ↔
      (∃ colon, IsColon colon ∧ s = colon ++ rest) ∧ ∀ c ∈ rest.head?, isBlank c = false := by
  unfold pastColon?
  simp only [Option.map_eq_some_iff, strip?_eq_some_iff]
  constructor
  · rintro ⟨t, ht, rfl⟩
    obtain ⟨gap, hgap, hs⟩ := exists_append_trimStart s
    obtain ⟨gap', hgap', htail⟩ := exists_append_trimStart t
    refine ⟨⟨gap ++ ':' :: gap', ⟨gap, gap', rfl, hgap, hgap'⟩, ?_⟩, fun c hc =>
      eq_false_of_mem_head?_dropWhile hc⟩
    rw [List.append_assoc, List.cons_append, ← htail]
    exact hs.trans (congrArg _ ht)
  · rintro ⟨⟨colon, ⟨before, behind, rfl, hbefore, hbehind⟩, rfl⟩, hrest⟩
    refine ⟨behind ++ rest, ?_, ?_⟩
    · rw [List.append_assoc, trimStart_append_of_blank hbefore]
      rfl
    · rw [trimStart_append_of_blank hbehind, trimStart_eq_self hrest]

/-- A word stands behind a colon. -/
theorem word_pastColon_iff :
    (∃ t, pastColon? s = some t ∧ word? t = some (w, rest)) ↔
      ∃ colon, IsColon colon ∧ s = colon ++ (w.toList ++ rest) ∧ IsWord w.toList rest := by
  simp only [pastColon?_eq_some_iff, word?_eq_some_iff]
  constructor
  · rintro ⟨t, ⟨⟨colon, hcolon, rfl⟩, -⟩, rfl, hw⟩
    exact ⟨colon, hcolon, rfl, hw⟩
  · rintro ⟨colon, hcolon, rfl, hw⟩
    exact ⟨_, ⟨⟨colon, hcolon, rfl⟩, hw.filled⟩, rfl, hw⟩

theorem word?_append (h : IsWord w.toList rest) : word? (w.toList ++ rest) = some (w, rest) :=
  word?_eq_some_iff.2 ⟨rfl, h⟩

theorem pastColon?_append {colon : List Char} (hcolon : IsColon colon) (h : IsWord number rest) :
    pastColon? (colon ++ (number ++ rest)) = some (number ++ rest) :=
  pastColon?_eq_some_iff.2 ⟨⟨colon, hcolon, rfl⟩, h.filled⟩

theorem restOfLine_append (h : OnLine gap) (s : List Char) :
    restOfLine (gap ++ s) = gap ++ restOfLine s :=
  List.takeWhile_append_of_pos fun c hc => by simp [h c hc]

theorem restOfLine_cons {c : Char} (hc : isNewline c = false) (s : List Char) :
    restOfLine (c :: s) = c :: restOfLine s := List.takeWhile_cons_of_pos (by simp [hc])

theorem restOfLine_of_newline {c : Char} (hc : isNewline c = true) (s : List Char) :
    restOfLine (c :: s) = [] := List.takeWhile_cons_of_neg (by simp [hc])

theorem contains_restOfLine_iff {pat : List Char} (hpat : OnLine pat) :
    contains pat (restOfLine s) = true ↔
      ∃ detail rest, OnLine detail ∧ s = detail ++ (pat ++ rest) := by
  rw [contains_iff]
  constructor
  · rintro ⟨detail, rest, hline⟩
    have hdetail : OnLine detail := fun c hc => by
      have hc' : c ∈ restOfLine s := by
        rw [← hline, List.append_assoc]
        exact List.mem_append_left _ hc
      simpa using List.mem_takeWhile_imp hc'
    refine ⟨detail, rest ++ s.dropWhile fun c => !isNewline c, hdetail, ?_⟩
    rw [← List.append_assoc pat, ← List.append_assoc detail, ← List.append_assoc detail, hline,
      restOfLine, List.takeWhile_append_dropWhile]
  · rintro ⟨detail, rest, hdetail, rfl⟩
    rw [restOfLine_append hdetail, restOfLine_append hpat]
    exact ⟨detail, restOfLine rest, List.append_assoc _ _ _⟩

end Parts

/-! ## The last version number -/

section LastNumber

variable {s gap : List Char} {number : String} {c : Char}

theorem numberBehind_nil_iff : NumberBehind [] number s ↔ versionAt? s = some number := by
  rw [versionAt?_eq_some_iff]
  exact exists_congr fun rest => ⟨fun ⟨_, hs, hrun⟩ => ⟨hs, hrun⟩, fun ⟨hs, hrun⟩ =>
    ⟨by simp [OnLine], hs, hrun⟩⟩

theorem numberBehind_cons_iff {d : Char} :
    NumberBehind (c :: gap) number (d :: s) ↔
      c = d ∧ isNewline d = false ∧ NumberBehind gap number s := by
  simp only [NumberBehind, OnLine, List.forall_mem_cons, List.cons_append, List.cons.injEq]
  constructor
  · rintro ⟨rest, ⟨hc, hgap⟩, ⟨rfl, hs⟩, hrun⟩
    exact ⟨rfl, hc, rest, hgap, hs, hrun⟩
  · rintro ⟨rfl, hc, rest, hgap, hs, hrun⟩
    exact ⟨rest, ⟨hc, hgap⟩, ⟨rfl, hs⟩, hrun⟩

theorem strip?_restOfLine {pat : List Char} (hpat : OnLine pat) (s : List Char) :
    strip? pat (restOfLine s) = (strip? pat s).map restOfLine := by
  induction pat generalizing s with
  | nil => rfl
  | cons p pat ih =>
    obtain ⟨hp, hpat⟩ := List.forall_mem_cons.1 hpat
    cases s with
    | nil => rfl
    | cons c s =>
      cases hc : isNewline c with
      | true =>
        have hpc : p ≠ c := by
          rintro rfl
          simp [hp] at hc
        simp [restOfLine_of_newline hc, strip?, hpc]
      | false =>
        rw [restOfLine_cons hc, strip?, strip?, ih hpat]
        split <;> rfl

theorem takeWhile_restOfLine (s : List Char) :
    (restOfLine s).takeWhile isVersionChar = s.takeWhile isVersionChar := by
  induction s with
  | nil => rfl
  | cons c s ih =>
    cases hc : isNewline c with
    | true =>
      rw [isNewline, beq_iff_eq] at hc
      subst hc
      rfl
    | false => rw [restOfLine_cons hc, List.takeWhile_cons, List.takeWhile_cons, ih]

/-- A version number ends with its line. -/
theorem versionAt?_restOfLine (s : List Char) : versionAt? (restOfLine s) = versionAt? s := by
  unfold versionAt?
  rw [strip?_restOfLine (by decide)]
  cases strip? "Version ".toList s with
  | none => rfl
  | some t =>
    simp only [Option.map_some, Option.bind_eq_bind, Option.bind_some, takeWhile_restOfLine]

theorem lastVersion?_of_newline (hc : isNewline c = true) :
    lastVersion? (restOfLine (c :: s)) = none ∧ versionAt? (c :: s) = none := by
  rw [← versionAt?_restOfLine, restOfLine_of_newline hc]
  exact ⟨rfl, rfl⟩

theorem lastVersion?_restOfLine_cons (hc : isNewline c = false) :
    lastVersion? (restOfLine (c :: s)) =
      (lastVersion? (restOfLine s)).or (versionAt? (c :: s)) := by
  rw [← versionAt?_restOfLine (c :: s), restOfLine_cons hc, lastVersion?]
  cases lastVersion? (restOfLine s) <;> rfl

theorem not_numberBehind_of_lastVersion? (h : lastVersion? (restOfLine s) = none)
    (gap : List Char) (number : String) : ¬ NumberBehind gap number s := by
  induction s generalizing gap with
  | nil =>
    rintro ⟨rest, -, hs, -⟩
    cases gap <;> cases hs
  | cons c s ih =>
    have hhere : versionAt? (c :: s) = none := by
      cases hc : isNewline c with
      | true => exact (lastVersion?_of_newline hc).2
      | false =>
        rw [lastVersion?_restOfLine_cons hc, Option.or_eq_none_iff] at h
        exact h.2
    cases gap with
    | nil => simp [numberBehind_nil_iff, hhere]
    | cons d gap =>
      rw [numberBehind_cons_iff]
      rintro ⟨rfl, hd, hbehind⟩
      rw [lastVersion?_restOfLine_cons hd, Option.or_eq_none_iff] at h
      exact ih h.1 gap hbehind

theorem lastNumber_of_lastVersion? (h : lastVersion? (restOfLine s) = some number) :
    LastNumber number s := by
  induction s with
  | nil => cases h
  | cons c s ih =>
    cases hc : isNewline c with
    | true =>
      rw [(lastVersion?_of_newline hc).1] at h
      cases h
    | false =>
      rw [lastVersion?_restOfLine_cons hc, Option.or_eq_some_iff] at h
      -- a number further behind wins, and where there is none the line begins with the last one
      obtain hlater | ⟨hnone, hhere⟩ := h
      · obtain ⟨gap, hgap, hlast⟩ := ih hlater
        refine ⟨c :: gap, numberBehind_cons_iff.2 ⟨rfl, hc, hgap⟩, fun gap' number' h' => ?_⟩
        cases gap' with
        | nil => exact Nat.zero_le _
        | cons d gap' =>
          obtain ⟨-, -, h'⟩ := numberBehind_cons_iff.1 h'
          exact Nat.succ_le_succ (hlast gap' number' h')
      · refine ⟨[], numberBehind_nil_iff.2 hhere, fun gap' number' h' => ?_⟩
        cases gap' with
        | nil => exact Nat.le_refl _
        | cons d gap' =>
          obtain ⟨-, -, h'⟩ := numberBehind_cons_iff.1 h'
          exact absurd h' (not_numberBehind_of_lastVersion? hnone gap' number')

theorem LastNumber.unique {number' : String} (h : LastNumber number s)
    (h' : LastNumber number' s) : number = number' := by
  obtain ⟨gap, hbehind, hlast⟩ := h
  obtain ⟨gap', hbehind', hlast'⟩ := h'
  have hlength : gap.length = gap'.length :=
    Nat.le_antisymm (hlast' gap number hbehind) (hlast gap' number' hbehind')
  obtain ⟨rest, -, rfl, hrun⟩ := hbehind
  obtain ⟨rest', -, hs, hrun'⟩ := hbehind'
  obtain ⟨-, htail⟩ := List.append_inj hs hlength
  exact String.toList_inj.1 (hrun.unique hrun' (List.append_cancel_left htail)).1

theorem lastVersion?_eq_some_iff :
    lastVersion? (restOfLine s) = some number ↔ LastNumber number s := by
  refine ⟨lastNumber_of_lastVersion?, fun h => ?_⟩
  cases hlast : lastVersion? (restOfLine s) with
  | none =>
    obtain ⟨gap, hgap, -⟩ := h
    exact absurd hgap (not_numberBehind_of_lastVersion? hlast gap number)
  | some found => rw [(lastNumber_of_lastVersion? hlast).unique h]

end LastNumber

/-! ## Kinds of lines -/

section Kinds

variable {line s rest pat : List Char} {l : Line} {name id : String}

/-- A letter may be the large or the small one. -/
theorem strip?_either_iff {c d : Char} (h : c ≠ d) :
    (strip? (c :: pat) s <|> strip? (d :: pat) s) = some rest ↔
      ∃ b, (b = c ∨ b = d) ∧ s = b :: (pat ++ rest) := by
  rw [Option.orElse_eq_orElse, Option.orElse_eq_or, Option.or_eq_some_iff]
  simp only [strip?_eq_some_iff, List.cons_append]
  constructor
  · rintro (hs | ⟨-, hs⟩)
    · exact ⟨c, .inl rfl, hs⟩
    · exact ⟨d, .inr rfl, hs⟩
  · rintro ⟨b, rfl | rfl, rfl⟩
    · exact .inl rfl
    · exact .inr ⟨by simp [strip?, h], rfl⟩

theorem tells_of_software? (h : software? line = some l) : Tells line l := by
  simp only [software?, Option.bind_eq_bind, Option.bind_eq_some_iff, strip?_eq_some_iff,
    Prod.exists, word?_eq_some_iff, lastVersion?_eq_some_iff] at h
  obtain ⟨t, rfl, platform, u, ⟨rfl, hplatform⟩, rest, rfl, version, hversion, hl⟩ := h
  cases hl
  exact .software hplatform hversion

theorem tells_of_modelNumber? (h : modelNumber? line = some l) : Tells line l := by
  simp only [modelNumber?, Option.bind_eq_bind, Option.bind_eq_some_iff, strip?_eq_some_iff,
    Prod.exists] at h
  obtain ⟨t, rfl, u, hu, v, hv, name, rest, hname, hl⟩ := h
  cases hl
  obtain ⟨n, hn, rfl⟩ := (strip?_either_iff (by decide)).1 hu
  obtain ⟨colon, hcolon, rfl, hname⟩ := word_pastColon_iff.1 ⟨v, hv, hname⟩
  exact .modelNumber hn hcolon hname

theorem tells_of_processor? (h : processor? line = some l) : Tells line l := by
  simp only [processor?, Option.bind_eq_bind, Option.bind_eq_some_iff, strip?_eq_some_iff,
    Prod.exists, word?_eq_some_iff] at h
  obtain ⟨t, ht, name, u, ⟨rfl, hname⟩, v, rfl, hl⟩ := h
  obtain ⟨c, hc, rfl⟩ := (strip?_either_iff (by decide)).1 ht
  split at hl
  · rename_i hstands
    cases hl
    obtain ⟨detail, rest, hdetail, rfl⟩ := (contains_restOfLine_iff (by decide)).1 hstands
    exact .processor hc hname hdetail
  · cases hl

theorem tells_of_serialNumber? (h : serialNumber? line = some s)
    (hid : word? s = some (id, rest)) : Tells line (.serial id) := by
  simp only [serialNumber?, Option.bind_eq_bind, Option.bind_eq_some_iff, strip?_eq_some_iff] at h
  obtain ⟨t, rfl, u, hu, v, hv, hs⟩ := h
  obtain ⟨b, hb, rfl⟩ := (strip?_either_iff (by decide)).1 hu
  obtain ⟨n, hn, rfl⟩ := (strip?_either_iff (by decide)).1 hv
  obtain ⟨colon, hcolon, rfl, hid⟩ := word_pastColon_iff.1 ⟨s, hs, hid⟩
  exact .systemSerial hb hn hcolon hid

theorem tells_of_boardId? (h : boardId? line = some s) (hid : word? s = some (id, rest)) :
    Tells line (.serial id) := by
  obtain ⟨t, ht, rfl⟩ := Option.map_eq_some_iff.1 h
  obtain rfl := strip?_eq_some_iff.1 ht
  obtain ⟨htrim, hid⟩ := word?_eq_some_iff.1 hid
  obtain ⟨gap, hgap, hgapped⟩ := exists_append_trimStart t
  rw [hgapped, htrim]
  exact .boardId hgap hid

theorem tells_of_serial? (h : serial? line = some l) : Tells line l := by
  simp only [serial?, Option.bind_eq_bind, Option.bind_eq_some_iff, Prod.exists] at h
  obtain ⟨t, ht, id, rest, hid, hl⟩ := h
  cases hl
  rw [Option.orElse_eq_orElse, Option.orElse_eq_or, Option.or_eq_some_iff] at ht
  obtain hnumber | ⟨-, hboard⟩ := ht
  · exact tells_of_serialNumber? hnumber hid
  · exact tells_of_boardId? hboard hid

theorem tells_of_image? (h : image? line = some l) : Tells line l := by
  simp only [image?, Option.bind_eq_bind, Option.bind_eq_some_iff, strip?_eq_some_iff] at h
  obtain ⟨t, rfl, hl⟩ := h
  split at hl
  · cases hl
  · rename_i hfile
    obtain rfl := Option.some.inj hl
    simp only [Bool.or_eq_true, List.isEmpty_iff, decide_eq_true_eq, not_or] at hfile
    obtain ⟨ht, hrun⟩ := isRun_iff.2 ⟨String.toList_ofList.symm, rfl,
      by rw [String.toList_ofList]; exact hfile.1⟩
    cases hrest : t.dropWhile (· != '"') with
    | nil =>
      rw [hrest, List.append_nil] at ht
      exact absurd (congrArg List.length ht.symm) (by simpa using hfile.2)
    | cons c rest =>
      rw [hrest] at ht hrun
      obtain rfl : c = '"' := by simpa using hrun.ends c rfl
      have himage := Tells.image hrun
      rwa [← ht] at himage

theorem tells_of_parse? (h : Line.parse? line = some l) : Tells line l := by
  simp only [Line.parse?, Option.orElse_eq_orElse, Option.orElse_eq_or, Option.or_eq_some_iff] at h
  obtain h | ⟨-, h | ⟨-, h | ⟨-, h | ⟨-, h⟩⟩⟩⟩ := h
  · exact tells_of_software? h
  · exact tells_of_modelNumber? h
  · exact tells_of_processor? h
  · exact tells_of_serial? h
  · exact tells_of_image? h

variable {colon detail gap : List Char}

theorem software?_append {platform version : String}
    (hplatform : IsWord platform.toList (" Software".toList ++ rest))
    (hversion : LastNumber version rest) :
    software? ("Cisco IOS Software, ".toList ++ (platform.toList ++ (" Software".toList ++ rest))) =
      some (.software platform version) := by
  simp only [software?, strip?_append, word?_append hplatform,
    lastVersion?_eq_some_iff.2 hversion, Option.bind_eq_bind, Option.bind_some, Option.pure_def]

theorem modelNumber?_append {n : Char} (hn : n = 'N' ∨ n = 'n') (hcolon : IsColon colon)
    (hname : IsWord name.toList rest) :
    modelNumber? ("Model ".toList ++ n :: ("umber".toList ++ (colon ++ (name.toList ++ rest)))) =
      some (.model name) := by
  have hcomes : modelNumber? ("Model ".toList ++ n :: ("umber".toList ++
      (colon ++ (name.toList ++ rest)))) =
      (pastColon? (colon ++ (name.toList ++ rest))).bind fun t =>
        (word? t).bind fun found => some (.model found.1) := by
    rcases hn with rfl | rfl <;> rfl
  rw [hcomes, pastColon?_append hcolon hname, Option.bind_some, word?_append hname]
  rfl

theorem processor?_append {c : Char} (hc : c = 'C' ∨ c = 'c')
    (hname : IsWord name.toList (" (".toList ++ (detail ++ (") processor".toList ++ rest))))
    (hdetail : OnLine detail) :
    processor? (c :: ("isco ".toList ++ (name.toList ++
      (" (".toList ++ (detail ++ (") processor".toList ++ rest)))))) = some (.model name) := by
  have hstands : contains ") processor".toList
      (restOfLine (detail ++ (") processor".toList ++ rest))) = true :=
    (contains_restOfLine_iff (by decide)).2 ⟨detail, rest, hdetail, rfl⟩
  have hcomes : processor? (c :: ("isco ".toList ++ (name.toList ++
      (" (".toList ++ (detail ++ (") processor".toList ++ rest)))))) =
      (word? (name.toList ++ (" (".toList ++ (detail ++ (") processor".toList ++ rest))))).bind
        fun found => (strip? " (".toList found.2).bind fun t =>
          if contains ") processor".toList (restOfLine t) then some (.model found.1) else none := by
    rcases hc with rfl | rfl <;> rfl
  rw [hcomes, word?_append hname, Option.bind_some, strip?_append, Option.bind_some,
    if_pos hstands]

theorem serial?_system {s n : Char} (hs : s = 'S' ∨ s = 's') (hn : n = 'N' ∨ n = 'n')
    (hcolon : IsColon colon) (hid : IsWord id.toList rest) :
    serial? ("System ".toList ++ s :: ("erial ".toList ++ n :: ("umber".toList ++
      (colon ++ (id.toList ++ rest))))) = some (.serial id) := by
  have hcomes : serialNumber? ("System ".toList ++ s :: ("erial ".toList ++ n ::
      ("umber".toList ++ (colon ++ (id.toList ++ rest))))) =
      pastColon? (colon ++ (id.toList ++ rest)) := by
    rcases hs with rfl | rfl <;> rcases hn with rfl | rfl <;> rfl
  have hword := word?_append hid
  rw [pastColon?_append hcolon hid] at hcomes
  simp only [serial?, hcomes, Option.orElse_eq_orElse, Option.orElse_some, Option.bind_eq_bind,
    Option.bind_some, hword, Option.pure_def]

theorem serial?_board (hgap : ∀ c ∈ gap, isBlank c = true) (hid : IsWord id.toList rest) :
    serial? ("Processor board ID".toList ++ (gap ++ (id.toList ++ rest))) = some (.serial id) := by
  have hcomes : serial? ("Processor board ID".toList ++ (gap ++ (id.toList ++ rest))) =
      (word? (trimStart (gap ++ (id.toList ++ rest)))).bind fun found => some (.serial found.1) :=
    rfl
  rw [hcomes, trimStart_append_of_blank hgap, trimStart_eq_self hid.filled, word?_append hid]
  rfl

theorem image?_append {file : String} (hfile : IsRun (· != '"') file.toList ('"' :: rest)) :
    image? ("System image file is \"".toList ++ (file.toList ++ '"' :: rest)) =
      some (.image file) := by
  obtain ⟨htake, -, hne⟩ := isRun_iff.1 ⟨rfl, hfile⟩
  simp only [image?, strip?_append, htake, Option.bind_eq_bind, Option.bind_some]
  rw [if_neg (by simpa using hne), String.ofList_toList]
  rfl

/-- A word that an opening parenthesis follows is not the name of the software. -/
theorem software?_of_parenthesis {c : Char} {name : List Char}
    (hname : IsWord name (" (".toList ++ detail)) :
    software? (c :: ("isco ".toList ++ (name ++ (" (".toList ++ detail)))) = none := by
  rw [Option.eq_none_iff_forall_ne_some]
  intro l h
  simp only [software?, Option.bind_eq_bind, Option.bind_eq_some_iff, strip?_eq_some_iff] at h
  obtain ⟨t, ht, -⟩ := h
  have htail : name ++ (" (".toList ++ detail) = "IOS".toList ++ (" Software, ".toList ++ t) :=
    List.append_cancel_left (List.cons.inj ht).2
  have hios : IsWord "IOS".toList (" Software, ".toList ++ t) :=
    ⟨by decide, List.all_eq_true.1 rfl, by rintro c ⟨⟩; rfl⟩
  cases (hname.unique hios htail).2

/-- A line is of one kind only, since each kind begins in its own way. -/
theorem parse?_of_tells (h : Tells line l) : Line.parse? line = some l := by
  cases h with
  | software hplatform hversion =>
    rw [Line.parse?, software?_append hplatform hversion]
    rfl
  | modelNumber hn hcolon hname =>
    rw [Line.parse?, modelNumber?_append hn hcolon hname]
    rfl
  | processor hc hname hdetail =>
    -- of the other kinds only the software could begin as this one does
    rw [Line.parse?, software?_of_parenthesis hname, processor?_append hc hname hdetail]
    rcases hc with rfl | rfl <;> rfl
  | systemSerial hs hn hcolon hid =>
    rw [Line.parse?, serial?_system hs hn hcolon hid]
    rfl
  | boardId hgap hid =>
    rw [Line.parse?, serial?_board hgap hid]
    rfl
  | image hfile =>
    rw [Line.parse?, image?_append hfile]
    rfl

theorem parse?_eq_some_iff : Line.parse? line = some l ↔ Tells line l :=
  ⟨tells_of_parse?, parse?_of_tells⟩

instance (line : List Char) (l : Line) : Decidable (Tells line l) :=
  decidable_of_iff _ parse?_eq_some_iff

example :
    Tells "Cisco IOS Software, C2960 Software, Version 9, Version 12.2(5), Version ,".toList
      (.software "C2960" "12.2(5)") := by
  decide +kernel

end Kinds

end Version

end HostSurvey
