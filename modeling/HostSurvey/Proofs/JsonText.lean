import HostSurvey.Proofs.JsonTokens

/-!
# JSON read back from its text

A value with whole numbers and sound strings is read back from what is written of
it, on one line or on indented ones. Both are layouts of one text, which differ in
the space between its tokens.
-/

namespace HostSurvey.Json

open Text

/-! ## Layouts -/

/-- The members of an object whose labels all spell texts. -/
def labelledTexts (members : List (String × Json)) : List (Option String × Json) :=
  members.map fun m => (some m.1, m.2)

/-- A value whose numbers are whole and below 2^64, whose strings spell texts, and which is nested
at most so many levels deep. -/
inductive Plain : Nat → Json → Prop
  | null {levels : Nat} : Plain levels .null
  | bool {levels : Nat} (b : Bool) : Plain levels (.bool b)
  | int {levels : Nat} {n : Int} (h : n.natAbs < 18446744073709551616) : Plain levels (int n)
  | text {levels : Nat} (s : String) : Plain levels (text s)
  | array {levels : Nat} {items : List Json} (h : ∀ v ∈ items, Plain levels v) :
      Plain (levels + 1) (.array items)
  | record {levels : Nat} {members : List (String × Json)} (h : ∀ m ∈ members, Plain levels m.2) :
      Plain (levels + 1) (record members)

attribute [simp] Plain.null Plain.bool Plain.text

/-- The space of a written value: before each item and member and before what closes the level
above, by the level, and behind a colon. -/
structure Layout where
  gap : Nat → List Char
  colon : List Char
  isSpace_gap : ∀ level, ∀ c ∈ gap level, isSpace c = true
  isSpace_colon : ∀ c ∈ colon, isSpace c = true

namespace Layout

/-- Everything on one line. -/
def oneLine : Layout where
  gap _ := []
  colon := []
  isSpace_gap := by simp
  isSpace_colon := by simp

/-- Every item and member on a line of its own. -/
def indented : Layout where
  gap level := '\n' :: List.replicate (2 * level) ' '
  colon := [' ']
  isSpace_gap level c hc := by
    rcases List.mem_cons.1 hc with rfl | hc
    · rfl
    · rw [List.eq_of_mem_replicate hc]
      rfl
  isSpace_colon := by simp [isSpace]

/-- A label or text in quotes. -/
def quoted (s : Option String) : List Char := '"' :: (s.getD "").toList.flatMap escape ++ ['"']

/-- What is empty has no gap before its closing bracket. -/
def enclose (l : Layout) (level : Nat) (opening closing : Char) : List (List Char) → List Char
  | [] => [opening, closing]
  | s :: ss => opening :: [','].intercalate (s :: ss) ++ l.gap level ++ [closing]

mutual

def spell (l : Layout) (level : Nat) : Json → List Char
  | .null => ['n', 'u', 'l', 'l']
  | .bool true => ['t', 'r', 'u', 'e']
  | .bool false => ['f', 'a', 'l', 's', 'e']
  | .number literal => literal.toList
  | .string s => quoted s
  | .array items => l.enclose level '[' ']' (l.spellItems (level + 1) items)
  | .object members => l.enclose level '\x7b' '\x7d' (l.spellMembers (level + 1) members)

def spellItems (l : Layout) (level : Nat) : List Json → List (List Char)
  | [] => []
  | v :: vs => (l.gap level ++ l.spell level v) :: l.spellItems level vs

def spellMembers (l : Layout) (level : Nat) : List (Option String × Json) → List (List Char)
  | [] => []
  | (label, v) :: ms =>
    (l.gap level ++ quoted label ++ ':' :: l.colon ++ l.spell level v) :: l.spellMembers level ms

end

end Layout

@[simp] theorem Layout.gap_oneLine (level : Nat) : Layout.oneLine.gap level = [] := rfl

@[simp] theorem Layout.colon_oneLine : Layout.oneLine.colon = [] := rfl

@[simp] theorem Layout.gap_indented (level : Nat) :
    Layout.indented.gap level = '\n' :: (indent level).toList := by
  simp [Layout.indented, indent]

@[simp] theorem Layout.colon_indented : Layout.indented.colon = [' '] := rfl

@[simp] theorem toList_quoteText (s : Option String) : (quoteText s).toList = Layout.quoted s := by
  simp [quoteText, quote, Layout.quoted]

mutual

theorem toList_compact (level : Nat) : (v : Json) →
    (compact v).toList = Layout.oneLine.spell level v
  | .null => rfl
  | .bool true => rfl
  | .bool false => rfl
  | .number _ => rfl
  | .string s => toList_quoteText s
  | .array items => by
    rw [compact, Layout.spell, spellItems_oneLine (level + 1) items]
    cases compactItems items <;> simp [Layout.enclose]
  | .object members => by
    rw [compact, Layout.spell, spellMembers_oneLine (level + 1) members]
    cases compactMembers members <;> simp [Layout.enclose]

theorem spellItems_oneLine (level : Nat) : (items : List Json) →
    Layout.oneLine.spellItems level items = (compactItems items).map String.toList
  | [] => rfl
  | v :: vs => by
    simp [compactItems, Layout.spellItems, toList_compact level v, spellItems_oneLine level vs]

theorem spellMembers_oneLine (level : Nat) : (members : List (Option String × Json)) →
    Layout.oneLine.spellMembers level members = (compactMembers members).map String.toList
  | [] => rfl
  | (label, v) :: ms => by
    simp [compactMembers, Layout.spellMembers, toList_compact level v,
      spellMembers_oneLine level ms]

end

/-- The space behind each comma may as well stand before each item. -/
theorem append_intercalate (gap s : List Char) (ss : List (List Char)) :
    gap ++ (',' :: gap).intercalate (s :: ss) =
      [','].intercalate ((s :: ss).map (gap ++ ·)) := by
  induction ss generalizing s with
  | nil => simp
  | cons t ss ih =>
    have h := ih t
    simp only [List.map_cons] at h ⊢
    simp [h]

theorem toList_block (opening closing : Char) (level : Nat) (s : String) (lines : List String) :
    (block (String.singleton opening) (String.singleton closing) level (s :: lines)).toList =
      Layout.indented.enclose level opening closing
        ((s :: lines).map fun s => Layout.indented.gap (level + 1) ++ s.toList) := by
  have h := append_intercalate (Layout.indented.gap (level + 1)) s.toList
    (lines.map String.toList)
  rw [List.map_cons, List.map_map] at h
  calc (block (String.singleton opening) (String.singleton closing) level (s :: lines)).toList
      = opening :: (Layout.indented.gap (level + 1) ++
          (',' :: Layout.indented.gap (level + 1)).intercalate
            (s.toList :: lines.map String.toList)) ++
          Layout.indented.gap level ++ [closing] := by simp [block]
    _ = _ := by rw [h]; rfl

mutual

theorem toList_prettyAt (level : Nat) : (v : Json) →
    (prettyAt level v).toList = Layout.indented.spell level v
  | .null => by simp [prettyAt, Layout.spell]
  | .bool true => by simp [prettyAt, Layout.spell]
  | .bool false => by simp [prettyAt, Layout.spell]
  | .number _ => by simp [prettyAt, Layout.spell]
  | .string s => by simp [prettyAt, Layout.spell]
  | .array [] => by simp [prettyAt, Layout.spell, Layout.spellItems, Layout.enclose]
  | .object [] => by simp [prettyAt, Layout.spell, Layout.spellMembers, Layout.enclose]
  | .array (v :: vs) => by
    rw [prettyAt, Layout.spell, spellItems_indented (level + 1) (v :: vs)]
    exact toList_block '[' ']' level _ _
  | .object (m :: ms) => by
    rw [prettyAt, Layout.spell, spellMembers_indented (level + 1) (m :: ms)]
    exact toList_block '\x7b' '\x7d' level _ _

theorem spellItems_indented (level : Nat) : (items : List Json) →
    Layout.indented.spellItems level items =
      (prettyItems level items).map fun s => Layout.indented.gap level ++ s.toList
  | [] => rfl
  | v :: vs => by
    simp [prettyItems, Layout.spellItems, toList_prettyAt level v, spellItems_indented level vs]

theorem spellMembers_indented (level : Nat) : (members : List (Option String × Json)) →
    Layout.indented.spellMembers level members =
      (prettyMembers level members).map fun s => Layout.indented.gap level ++ s.toList
  | [] => rfl
  | (label, v) :: ms => by
    simp [prettyMembers, Layout.spellMembers, toList_prettyAt level v,
      spellMembers_indented level ms]

end

/-! ## Reading a spelled value -/

theorem skipSpace_append {gap : List Char} (h : ∀ c ∈ gap, isSpace c = true) (s : List Char) :
    skipSpace (gap ++ s) = skipSpace s :=
  List.dropWhile_append_of_pos h

theorem skipSpace_cons {c : Char} (h : isSpace c = false) (s : List Char) :
    skipSpace (c :: s) = c :: s := by
  simp [skipSpace, h]

theorem skipSpace_skipSpace (s : List Char) : skipSpace (skipSpace s) = skipSpace s :=
  List.dropWhile_idempotent _ s

theorem readValue_skipSpace (fuel : Nat) (s : List Char) :
    readValue fuel (skipSpace s) = readValue fuel s := by
  cases fuel with
  | zero => rfl
  | succ fuel => rw [readValue, skipSpace_skipSpace, readValue]

theorem readValue_append {gap : List Char} (h : ∀ c ∈ gap, isSpace c = true) (fuel : Nat)
    (s : List Char) : readValue fuel (gap ++ s) = readValue fuel s := by
  rw [← readValue_skipSpace, skipSpace_append h, readValue_skipSpace]

theorem readItems_skipSpace (fuel : Nat) (s : List Char) :
    readItems fuel (skipSpace s) = readItems fuel s := by
  cases fuel with
  | zero => rfl
  | succ fuel => rw [readItems, readValue_skipSpace, readItems]

theorem readMembers_skipSpace (fuel : Nat) (s : List Char) :
    readMembers fuel (skipSpace s) = readMembers fuel s := by
  cases fuel with
  | zero => rfl
  | succ fuel => rw [readMembers, skipSpace_skipSpace, readMembers]

theorem readValue_number {c : Char} (h : StartsNumber c) (fuel : Nat) (s : List Char) :
    readValue (fuel + 1) (c :: s) = readNumber (c :: s) := by
  rw [readValue, skipSpace_cons h.isSpace]
  split <;> first | rfl | exact absurd (List.cons.inj ‹_›).1 (h.ne (by simp))

/-! ### What a spelled value starts with and what may follow it -/

theorem spell_int (l : Layout) (level : Nat) (n : Int) :
    l.spell level (int n) = integerText n := by
  rw [int_eq, Layout.spell, String.toList_ofList]

theorem exists_tail_enclose (l : Layout) (level : Nat) (opening closing : Char)
    (ss : List (List Char)) : ∃ s, l.enclose level opening closing ss = opening :: s := by
  cases ss with
  | nil => exact ⟨_, rfl⟩
  | cons s ss => exact ⟨_, rfl⟩

theorem exists_head_spell (l : Layout) {levels : Nat} {v : Json} (h : Plain levels v)
    (level : Nat) : ∃ c s, l.spell level v = c :: s ∧ isSpace c = false ∧ c ≠ ']' := by
  cases h with
  | null => exact ⟨'n', _, rfl, by decide⟩
  | bool b => cases b <;> exact ⟨_, _, rfl, by decide⟩
  | @int _ n _ =>
    obtain ⟨c, s, hs, hc⟩ := exists_head_integerText n
    exact ⟨c, s, by rw [spell_int, hs], hc.isSpace, hc.ne (by simp)⟩
  | text s => exact ⟨'"', _, rfl, by decide⟩
  | @array _ items _ =>
    obtain ⟨s, hs⟩ := exists_tail_enclose l level '[' ']' (l.spellItems (level + 1) items)
    exact ⟨'[', s, hs, by decide⟩
  | @record _ members _ =>
    obtain ⟨s, hs⟩ := exists_tail_enclose l level '\x7b' '\x7d'
      (l.spellMembers (level + 1) (labelledTexts members))
    exact ⟨'\x7b', s, hs, by decide⟩

theorem endsNumber_comma (s : List Char) : EndsNumber (',' :: s) := by
  rintro c ⟨⟩
  decide

/-- The gap before a closing bracket, and the bracket alone, end a number. -/
theorem endsNumber_gap (l : Layout) (level : Nat) {closing : Char}
    (h : closing = ']' ∨ closing = '\x7d') (s : List Char) :
    EndsNumber (l.gap level ++ closing :: s) := by
  have hspace := l.isSpace_gap level
  generalize l.gap level = gap at hspace
  cases gap with
  | nil =>
    rintro c ⟨⟩
    obtain rfl | rfl := h <;> decide
  | cons c gap =>
    rintro d ⟨⟩
    have hc := hspace c List.mem_cons_self
    simp only [isSpace, Bool.or_eq_true, beq_iff_eq] at hc
    obtain ((rfl | rfl) | rfl) | rfl := hc <;> decide

/-! ### Values by their levels -/

/-- The value that a text starts with is read, with fuel for each of its characters, and what
follows it is left. -/
def ReadBack (l : Layout) (level : Nat) (v : Json) : Prop :=
  ∀ fuel rest, (l.spell level v).length < fuel → EndsNumber rest →
    readValue fuel (l.spell level v ++ rest) = some (v, rest)

theorem readBack_of_succ {l : Layout} {level : Nat} {v : Json}
    (h : ∀ fuel rest, (l.spell level v).length ≤ fuel → EndsNumber rest →
      readValue (fuel + 1) (l.spell level v ++ rest) = some (v, rest)) : ReadBack l level v := by
  intro fuel rest hfuel hrest
  cases fuel with
  | zero => exact absurd hfuel (Nat.not_lt_zero _)
  | succ fuel => exact h fuel rest (Nat.le_of_lt_succ hfuel) hrest

theorem skipSpace_gap (l : Layout) (level : Nat) {c : Char} (h : isSpace c = false)
    (s : List Char) : skipSpace (l.gap level ++ c :: s) = c :: s := by
  rw [skipSpace_append (l.isSpace_gap level), skipSpace_cons h]

theorem readItems_last {fuel : Nat} {s t rest : List Char} {v : Json}
    (hv : readValue fuel s = some (v, t)) (ht : skipSpace t = ']' :: rest) :
    readItems (fuel + 1) s = some ([v], rest) := by
  simp [readItems, hv, ht]

theorem readItems_comma {fuel : Nat} {s t rest : List Char} {v : Json} {vs : List Json}
    (hv : readValue fuel s = some (v, ',' :: t)) (hvs : readItems fuel t = some (vs, rest)) :
    readItems (fuel + 1) s = some (v :: vs, rest) := by
  simp [readItems, hv, skipSpace_cons, isSpace, hvs]

/-- Each value takes a step and leaves the text behind its comma, for which the fuel still
suffices. -/
theorem readItems_spell {l : Layout} {level : Nat} {v : Json} {vs : List Json}
    (h : ∀ w ∈ v :: vs, ReadBack l level w) (outer : Nat) {fuel : Nat}
    (hfuel : ([','].intercalate (l.spellItems level (v :: vs))).length + 1 < fuel)
    (rest : List Char) :
    readItems fuel ([','].intercalate (l.spellItems level (v :: vs)) ++
      (l.gap outer ++ ']' :: rest)) = some (v :: vs, rest) := by
  obtain ⟨hv, hvs⟩ := List.forall_mem_cons.1 h
  obtain ⟨fuel, rfl⟩ := Nat.exists_eq_add_one_of_ne_zero (by omega : fuel ≠ 0)
  induction vs generalizing v fuel with
  | nil =>
    rw [Layout.spellItems, Layout.spellItems, List.intercalate_singleton] at hfuel ⊢
    rw [List.length_append] at hfuel
    refine readItems_last ?_ (skipSpace_gap l outer rfl rest)
    rw [List.append_assoc, readValue_append (l.isSpace_gap level)]
    exact hv fuel _ (by omega) (endsNumber_gap l outer (.inl rfl) rest)
  | cons w vs ih =>
    obtain ⟨hw, -⟩ := List.forall_mem_cons.1 hvs
    have hitems : [','].intercalate (l.spellItems level (v :: w :: vs)) =
        l.gap level ++ (l.spell level v ++
          ',' :: [','].intercalate (l.spellItems level (w :: vs))) := by
      simp [Layout.spellItems]
    rw [hitems] at hfuel ⊢
    simp only [List.length_append, List.length_cons] at hfuel
    obtain ⟨fuel, rfl⟩ := Nat.exists_eq_add_one_of_ne_zero (by omega : fuel ≠ 0)
    refine readItems_comma ?_ (ih hvs hw (List.forall_mem_cons.1 hvs).2 fuel (by omega))
    simp only [List.append_assoc, List.cons_append]
    rw [readValue_append (l.isSpace_gap level)]
    exact hv (fuel + 1) _ (by omega) (endsNumber_comma _)

theorem readMembers_last {fuel : Nat} {s t rest : List Char} (label : String) {v : Json}
    (hv : readValue fuel s = some (v, t)) (ht : skipSpace t = '\x7d' :: rest) :
    readMembers (fuel + 1) (Layout.quoted (some label) ++ ':' :: s) =
      some ([(some label, v)], rest) := by
  simp [readMembers, Layout.quoted, skipSpace_cons, isSpace, readString_quoted, hv, ht]

theorem readMembers_comma {fuel : Nat} {s t rest : List Char} (label : String) {v : Json}
    {ms : List (Option String × Json)} (hv : readValue fuel s = some (v, ',' :: t))
    (hms : readMembers fuel t = some (ms, rest)) :
    readMembers (fuel + 1) (Layout.quoted (some label) ++ ':' :: s) =
      some ((some label, v) :: ms, rest) := by
  simp [readMembers, Layout.quoted, skipSpace_cons, isSpace, readString_quoted, hv, hms]

theorem readMembers_append {gap : List Char} (h : ∀ c ∈ gap, isSpace c = true) (fuel : Nat)
    (s : List Char) : readMembers fuel (gap ++ s) = readMembers fuel s := by
  rw [← readMembers_skipSpace, skipSpace_append h, readMembers_skipSpace]

theorem readMembers_spell {l : Layout} {level : Nat} {m : String × Json}
    {ms : List (String × Json)} (h : ∀ w ∈ m :: ms, ReadBack l level w.2) (outer : Nat) {fuel : Nat}
    (hfuel : ([','].intercalate (l.spellMembers level (labelledTexts (m :: ms)))).length + 1 < fuel)
    (rest : List Char) :
    readMembers fuel ([','].intercalate (l.spellMembers level (labelledTexts (m :: ms))) ++
      (l.gap outer ++ '\x7d' :: rest)) = some (labelledTexts (m :: ms), rest) := by
  obtain ⟨hm, hms⟩ := List.forall_mem_cons.1 h
  obtain ⟨fuel, rfl⟩ := Nat.exists_eq_add_one_of_ne_zero (by omega : fuel ≠ 0)
  induction ms generalizing m fuel with
  | nil =>
    have hitems : [','].intercalate (l.spellMembers level (labelledTexts [m])) =
        l.gap level ++ (Layout.quoted (some m.1) ++ ':' :: (l.colon ++ l.spell level m.2)) := by
      simp [labelledTexts, Layout.spellMembers]
    rw [hitems] at hfuel ⊢
    simp only [List.length_append, List.length_cons] at hfuel
    simp only [List.append_assoc, List.cons_append]
    rw [readMembers_append (l.isSpace_gap level)]
    refine readMembers_last m.1 ?_ (skipSpace_gap l outer rfl rest)
    rw [readValue_append l.isSpace_colon]
    exact hm fuel _ (by omega) (endsNumber_gap l outer (.inr rfl) rest)
  | cons n ms ih =>
    obtain ⟨hn, -⟩ := List.forall_mem_cons.1 hms
    have hitems : [','].intercalate (l.spellMembers level (labelledTexts (m :: n :: ms))) =
        l.gap level ++ (Layout.quoted (some m.1) ++ ':' :: (l.colon ++ (l.spell level m.2 ++
          ',' :: [','].intercalate (l.spellMembers level (labelledTexts (n :: ms)))))) := by
      simp [labelledTexts, Layout.spellMembers]
    rw [hitems] at hfuel ⊢
    simp only [List.length_append, List.length_cons] at hfuel
    obtain ⟨fuel, rfl⟩ := Nat.exists_eq_add_one_of_ne_zero (by omega : fuel ≠ 0)
    simp only [List.append_assoc, List.cons_append]
    rw [readMembers_append (l.isSpace_gap level)]
    refine readMembers_comma m.1 ?_ (ih hms hn (List.forall_mem_cons.1 hms).2 fuel (by omega))
    rw [readValue_append l.isSpace_colon]
    exact hm (fuel + 1) _ (by omega) (endsNumber_comma _)

theorem readValue_bracket (fuel : Nat) {c : Char} {s t : List Char} (hs : skipSpace s = c :: t)
    (hc : c ≠ ']') : readValue (fuel + 1) ('[' :: s) =
      (readItems fuel s).map fun r => (.array r.1, r.2) := by
  rw [← readItems_skipSpace, readValue, skipSpace_cons rfl]
  simp [hs, hc]

theorem readValue_brace (fuel : Nat) {c : Char} {s t : List Char} (hs : skipSpace s = c :: t)
    (hc : c ≠ '\x7d') : readValue (fuel + 1) ('\x7b' :: s) =
      (readMembers fuel s).map fun r => (.object r.1, r.2) := by
  rw [← readMembers_skipSpace, readValue, skipSpace_cons rfl]
  simp [hs, hc]

theorem exists_tail_intercalate (s : List Char) (ss : List (List Char)) :
    ∃ t, [','].intercalate (s :: ss) = s ++ t := by
  cases ss with
  | nil => exact ⟨[], by simp⟩
  | cons t ss => exact ⟨_, by rw [List.intercalate_cons_cons, List.append_assoc]⟩

theorem readBack_array (l : Layout) {levels : Nat} {items : List Json}
    (hplain : ∀ v ∈ items, Plain levels v) {level : Nat}
    (h : ∀ v ∈ items, ReadBack l (level + 1) v) : ReadBack l level (.array items) := by
  refine readBack_of_succ fun fuel rest hfuel _ => ?_
  rw [Layout.spell] at hfuel ⊢
  cases items with
  | nil => simp [Layout.spellItems, Layout.enclose, readValue, skipSpace, isSpace]
  | cons v vs =>
    have hlength : ([','].intercalate (l.spellItems (level + 1) (v :: vs))).length + 1 < fuel := by
      simp only [Layout.spellItems, Layout.enclose, List.length_append, List.length_cons] at hfuel ⊢
      omega
    have hitems := readItems_spell h level hlength rest
    obtain ⟨c, s, hs, hspace, hc⟩ := exists_head_spell l (hplain v List.mem_cons_self) (level + 1)
    obtain ⟨t, ht⟩ := exists_tail_intercalate (l.gap (level + 1) ++ l.spell (level + 1) v)
      (l.spellItems (level + 1) vs)
    have hhead : skipSpace ([','].intercalate (l.spellItems (level + 1) (v :: vs)) ++
        (l.gap level ++ ']' :: rest)) = c :: (s ++ (t ++ (l.gap level ++ ']' :: rest))) := by
      rw [Layout.spellItems, ht, hs]
      simpa using skipSpace_gap l (level + 1) hspace _
    have hvalue := readValue_bracket fuel hhead hc
    rw [hitems] at hvalue
    simpa [Layout.spellItems, Layout.enclose] using hvalue

theorem readBack_record (l : Layout) {members : List (String × Json)} {level : Nat}
    (h : ∀ m ∈ members, ReadBack l (level + 1) m.2) : ReadBack l level (record members) := by
  refine readBack_of_succ fun fuel rest hfuel _ => ?_
  rw [record, ← labelledTexts, Layout.spell] at hfuel ⊢
  cases members with
  | nil => simp [labelledTexts, Layout.spellMembers, Layout.enclose, readValue, skipSpace, isSpace]
  | cons m ms =>
    have hlength : ([','].intercalate
        (l.spellMembers (level + 1) (labelledTexts (m :: ms)))).length + 1 < fuel := by
      simp only [labelledTexts, List.map_cons, Layout.spellMembers, Layout.enclose,
        List.length_append, List.length_cons] at hfuel ⊢
      omega
    have hmembers := readMembers_spell h level hlength rest
    obtain ⟨t, ht⟩ := exists_tail_intercalate (l.gap (level + 1) ++ Layout.quoted (some m.1) ++
      ':' :: l.colon ++ l.spell (level + 1) m.2) (l.spellMembers (level + 1) (labelledTexts ms))
    have hhead : ∃ s, skipSpace ([','].intercalate
        (l.spellMembers (level + 1) (labelledTexts (m :: ms))) ++
          (l.gap level ++ '\x7d' :: rest)) = '"' :: s := by
      rw [labelledTexts, List.map_cons, ← labelledTexts, Layout.spellMembers, ht, Layout.quoted]
      exact ⟨_, by simpa using skipSpace_gap l (level + 1) rfl _⟩
    obtain ⟨s, hs⟩ := hhead
    have hvalue := readValue_brace fuel hs (by decide)
    rw [hmembers] at hvalue
    simpa [labelledTexts, Layout.spellMembers, Layout.enclose] using hvalue

/-- A plain value is read back at every level, by induction on its own levels: what it holds is
read with less fuel, since its text is shorter. -/
theorem readValue_spell (l : Layout) {levels : Nat} {v : Json} (h : Plain levels v)
    (level : Nat) : ReadBack l level v := by
  induction h generalizing level with
  | null =>
    refine readBack_of_succ fun fuel rest _ _ => ?_
    simp [Layout.spell, readValue, skipSpace_cons, isSpace]
  | bool b =>
    refine readBack_of_succ fun fuel rest _ _ => ?_
    cases b <;> simp [Layout.spell, readValue, skipSpace_cons, isSpace]
  | @int levels n hn =>
    refine readBack_of_succ fun fuel rest _ hrest => ?_
    obtain ⟨c, s, hs, hc⟩ := exists_head_integerText n
    rw [spell_int, hs, List.cons_append, readValue_number hc, ← List.cons_append, ← hs,
      readNumber_integerText n hrest]
  | text s =>
    refine readBack_of_succ fun fuel rest _ _ => ?_
    simp [text, Layout.spell, Layout.quoted, readValue, skipSpace_cons, isSpace, readString_quoted]
  | array hplain ih => exact readBack_array l hplain fun v hv => ih v hv (level + 1)
  | record _ ih => exact readBack_record l fun m hm => ih m hm (level + 1)

theorem read?_spell (l : Layout) {levels : Nat} {v : Json} (h : Plain levels v) :
    read? (l.spell 0 v) = some v := by
  have hends : EndsNumber [] := by rintro c ⟨⟩
  have hread := readValue_spell l h 0 ((l.spell 0 v).length + 1) [] (Nat.lt_succ_self _) hends
  rw [List.append_nil] at hread
  rw [read?, hread]
  rfl

/-- What is written of a plain value is read as that value. -/
theorem read?_compact {levels : Nat} {v : Json} (h : Plain levels v) :
    read? (compact v).toList = some v := by
  rw [toList_compact 0, read?_spell _ h]

theorem read?_pretty {levels : Nat} {v : Json} (h : Plain levels v) :
    read? (pretty v).toList = some v := by
  rw [pretty, toList_prettyAt, read?_spell _ h]

/-! ## Sound and shallow -/

theorem depthItems_le {n : Nat} {items : List Json} (h : ∀ v ∈ items, v.depth ≤ n) :
    depthItems items ≤ n := by
  induction items with
  | nil => exact Nat.zero_le n
  | cons v vs ih =>
    obtain ⟨hv, hvs⟩ := List.forall_mem_cons.1 h
    exact Nat.max_le.2 ⟨hv, ih hvs⟩

theorem depthMembers_le {n : Nat} {members : List (String × Json)}
    (h : ∀ m ∈ members, m.2.depth ≤ n) : depthMembers (labelledTexts members) ≤ n := by
  induction members with
  | nil => exact Nat.zero_le n
  | cons m ms ih =>
    obtain ⟨hm, hms⟩ := List.forall_mem_cons.1 h
    exact Nat.max_le.2 ⟨hm, ih hms⟩

theorem Plain.depth_le {levels : Nat} {v : Json} (h : Plain levels v) : v.depth ≤ levels := by
  induction h with
  | array _ ih => exact Nat.succ_le_succ (depthItems_le ih)
  | record _ ih => exact Nat.succ_le_succ (depthMembers_le ih)
  | _ => exact Nat.zero_le _

theorem allSound_of_forall {items : List Json} (h : ∀ v ∈ items, v.isSound = true) :
    allSound items = true := by
  induction items with
  | nil => rfl
  | cons v vs ih =>
    obtain ⟨hv, hvs⟩ := List.forall_mem_cons.1 h
    simp [allSound, hv, ih hvs]

theorem membersSound_of_forall {members : List (String × Json)}
    (h : ∀ m ∈ members, m.2.isSound = true) : membersSound (labelledTexts members) = true := by
  induction members with
  | nil => rfl
  | cons m ms ih =>
    obtain ⟨hm, hms⟩ := List.forall_mem_cons.1 h
    rw [labelledTexts] at ih ⊢
    simp [membersSound, hm, ih hms]

theorem Plain.isSound {levels : Nat} {v : Json} (h : Plain levels v) : v.isSound = true := by
  induction h with
  | null => rfl
  | bool b => rfl
  | int hn =>
    rw [int_eq]
    exact isFinite_integerText hn
  | text s => rfl
  | array _ ih => exact allSound_of_forall ih
  | record _ ih => exact membersSound_of_forall ih

end HostSurvey.Json
