import HostSurvey.Proofs.AddressLayouts
import HostSurvey.Proofs.ImportedSections

/-!
# Editing on the terminal

A session may hold what was typed and taken back. Only the output of a section is
cleaned of it, when it is read; command lines and refusals are looked for in the
lines as they were captured. So cleaning all lines before the session is split
changes nothing as long as no edited line is, or becomes, a command line or a
refusal.
-/

namespace HostSurvey

/-! ## Blanks at the end -/

namespace Text

section Gap

variable {gap : List Char} (hgap : ∀ c ∈ gap, isBlank c = true)

include hgap

theorem trim_append_gap (s : List Char) : trim (s ++ gap) = trim s := by
  unfold trim trimStart
  rw [List.dropWhile_append]
  split
  · rename_i hblank
    rw [List.isEmpty_iff.1 hblank, List.dropWhile_eq_nil_iff.2 hgap]
  · exact trimEnd_append_of_blank hgap _

theorem Spaced.append_gap {ws : List (List Char)} {s : List Char} (h : Spaced ws s) :
    Spaced ws (s ++ gap) := by
  induction h with
  | blank hblank => exact .blank fun c hc => (List.mem_append.1 hc).elim (hblank c) (hgap c)
  | @word _ w rest _ hlead hne hw _ hapart ih =>
    rw [List.append_assoc, List.append_assoc]
    refine .word hlead hne hw ih fun c hc => ?_
    cases rest with
    | nil => exact hgap c (List.mem_of_mem_head? hc)
    | cons b rest => exact hapart c hc

theorem words_append_gap (s : List Char) : words (s ++ gap) = words s :=
  ((spaced_iff.2 rfl : Spaced (words s) s).append_gap hgap).words_eq

theorem firstWord_append_gap (s : List Char) : firstWord (s ++ gap) = firstWord s := by
  rw [firstWord, words_append_gap hgap, firstWord]

theorem isPrefixOf_append_gap {pat : List Char} (hpat : Unbroken pat) (s : List Char) :
    pat.isPrefixOf (s ++ gap) = pat.isPrefixOf s := by
  induction pat generalizing s with
  | nil => simp
  | cons p pat ih =>
    obtain ⟨hp, hpat⟩ := List.forall_mem_cons.1 hpat
    cases s with
    | cons c s => simp [List.isPrefixOf, ih hpat]
    | nil =>
      cases gap with
      | nil => rfl
      | cons b gap =>
        have hne : p ≠ b := by
          rintro rfl
          exact absurd (hgap p List.mem_cons_self) (by simp [hp])
        simp [List.isPrefixOf, hne]

/-- Blanks at the end stay behind the place of a text that has none. -/
theorem cut_append_gap {pat : List Char} (hpat : Unbroken pat) (s : List Char) :
    cut pat (s ++ gap) = (cut pat s).map fun parts => (parts.1, parts.2 ++ gap) := by
  induction s with
  | nil =>
    cases pat with
    | nil => cases gap <;> simp [cut]
    | cons p pat =>
      have hp := hpat p List.mem_cons_self
      cases hcut : cut (p :: pat) gap with
      | none => simp [cut, hcut]
      | some parts =>
        obtain ⟨before, rest⟩ := parts
        have hmem : p ∈ gap := by
          rw [append_of_cut hcut]
          simp
        exact absurd (hgap p hmem) (by simp [hp])
  | cons c s ih =>
    have hprefix := isPrefixOf_append_gap hgap hpat (c :: s)
    rw [List.cons_append] at hprefix
    rw [List.cons_append]
    simp only [cut, hprefix]
    split
    · rename_i hbegins
      have hlength := (List.isPrefixOf_iff_prefix.1 hbegins).length_le
      rw [Option.map_some, ← List.cons_append, List.drop_append_of_le_length hlength]
    · rw [ih, Option.map_map, Option.map_map]
      rfl

theorem after_append_gap {pat : List Char} (hpat : Unbroken pat) (s : List Char) :
    after (s ++ gap) pat = after s pat := by
  unfold after
  rw [cut_append_gap hgap hpat]
  cases cut pat s <;> simp [trim_append_gap hgap]

end Gap

theorem unbroken_firstWord (s : List Char) : Unbroken (firstWord s) := by
  intro c hc
  unfold firstWord at hc
  cases hwords : words s with
  | nil => simp [hwords] at hc
  | cons w ws =>
    have hmem : w ∈ words s := by simp [hwords]
    have hc : c ∈ w := by simpa [hwords] using hc
    exact sep_eq_false_of_mem_fields (List.mem_filter.1 hmem).1 hc

end Text

namespace Session

open Text

/-! ## Command lines and refusals -/

/-- The two lines are the same command line, or the same refusal, or both are neither. -/
def ReadsAlike (l m : List Char) : Prop :=
  Prompt.parse? m = Prompt.parse? l ∧ isRefusal m = isRefusal l

instance (l m : List Char) : Decidable (ReadsAlike l m) := inferInstanceAs (Decidable (_ ∧ _))

section Gap

variable {gap : List Char} (hgap : ∀ c ∈ gap, isBlank c = true)

include hgap

theorem isRefusal_append_gap (l : List Char) : isRefusal (l ++ gap) = isRefusal l := by
  rw [isRefusal, trim_append_gap hgap, isRefusal]

/-- Past a `do` nothing is left of the blanks; without one they are still there. -/
theorem pastDo_append_gap (s : List Char) :
    pastDo (s ++ gap) = pastDo s ∨ pastDo (s ++ gap) = pastDo s ++ gap := by
  unfold pastDo
  rw [firstWord_append_gap hgap, after_append_gap hgap (unbroken_firstWord s)]
  split
  · exact .inl rfl
  · exact .inr rfl

theorem Prompt.parse?_append_gap (l : List Char) : parse? (l ++ gap) = parse? l := by
  have hsharp : Unbroken ['#'] := by decide
  unfold parse?
  rw [cut_append_gap hgap hsharp]
  cases hcut : cut ['#'] l with
  | none => rfl
  | some parts =>
    have hword : firstWord (pastDo (parts.2 ++ gap)) = firstWord (pastDo parts.2) := by
      rcases pastDo_append_gap hgap parts.2 with h | h
      · rw [h]
      · rw [h, firstWord_append_gap hgap]
    have hcommand : after (pastDo (parts.2 ++ gap)) (firstWord (pastDo parts.2)) =
        after (pastDo parts.2) (firstWord (pastDo parts.2)) := by
      rcases pastDo_append_gap hgap parts.2 with h | h
      · rw [h]
      · rw [h, after_append_gap hgap (unbroken_firstWord _)]
    simp [hword, hcommand]

theorem readsAlike_append_gap (l : List Char) : ReadsAlike (l ++ gap) l :=
  ⟨(Prompt.parse?_append_gap hgap l).symm, (isRefusal_append_gap hgap l).symm⟩

end Gap

theorem Prompt.parse?_of_not_mem {l : List Char} (h : '#' ∉ l) : parse? l = none := by
  unfold parse?
  cases hcut : cut ['#'] l with
  | none => rfl
  | some parts =>
    obtain ⟨before, rest⟩ := parts
    refine absurd ?_ h
    rw [append_of_cut hcut]
    simp

theorem isRefusal_of_not_mem {l : List Char} (h : '^' ∉ l) : isRefusal l = false := by
  by_contra hrefusal
  have htrim : trim l = ['^'] := by simpa [isRefusal] using hrefusal
  exact h (mem_of_mem_trim (by simp [htrim]))

/-! ## Cleaning a line -/

/-- Something was typed over in the line. -/
def IsEdited (l : List Char) : Prop := '\x08' ∈ l ∨ '\r' ∈ l

instance (l : List Char) : Decidable (IsEdited l) := inferInstanceAs (Decidable (_ ∨ _))

theorem mem_typed {shown : List Char} {c d : Char} (h : d ∈ typed shown c) :
    d ∈ shown ∨ d = c ∧ ¬ IsEdited [c] := by
  unfold typed at h
  split at h
  · exact .inl (List.mem_of_mem_tail h)
  · rename_i hback
    split at h
    · exact .inl h
    · rename_i hreturn
      rcases List.mem_cons.1 h with rfl | h
      · exact .inr ⟨rfl, by simp [IsEdited, Ne.symm hback, Ne.symm hreturn]⟩
      · exact .inl h

theorem mem_foldl_typed {l shown : List Char} {d : Char} (h : d ∈ l.foldl typed shown) :
    d ∈ shown ∨ d ∈ l ∧ ¬ IsEdited [d] := by
  induction l generalizing shown with
  | nil => exact .inl h
  | cons c l ih =>
    rcases ih h with h | ⟨hd, hplain⟩
    · rcases mem_typed h with h | ⟨rfl, hplain⟩
      · exact .inl h
      · exact .inr ⟨List.mem_cons_self, hplain⟩
    · exact .inr ⟨List.mem_cons_of_mem c hd, hplain⟩

/-- Cleaning only takes characters away, those that edit among them. -/
theorem mem_cleanLine {l : List Char} {d : Char} (h : d ∈ cleanLine l) :
    d ∈ l ∧ ¬ IsEdited [d] := by
  have hshown := List.mem_reverse.1 (mem_of_mem_trimEnd h)
  exact (mem_foldl_typed hshown).resolve_left List.not_mem_nil

theorem not_isEdited_cleanLine (l : List Char) : ¬ IsEdited (cleanLine l) := by
  rintro (h | h) <;> exact (mem_cleanLine h).2 (by simp [IsEdited])

theorem foldl_typed {l : List Char} (h : ¬ IsEdited l) (shown : List Char) :
    l.foldl typed shown = l.reverse ++ shown := by
  induction l generalizing shown with
  | nil => rfl
  | cons c l ih =>
    simp only [IsEdited, List.mem_cons, not_or] at h
    have hstep : typed shown c = c :: shown := by
      simp [typed, Ne.symm h.1.1, Ne.symm h.2.1]
    rw [List.foldl_cons, hstep, ih (by simp [IsEdited, h.1.2, h.2.2])]
    simp

theorem cleanLine_of_not_isEdited {l : List Char} (h : ¬ IsEdited l) : cleanLine l = trimEnd l := by
  rw [cleanLine, foldl_typed h, List.append_nil, List.reverse_reverse]

theorem foldl_typed_returns {gap : List Char} (h : ∀ c ∈ gap, c = '\r') (shown : List Char) :
    gap.foldl typed shown = shown := by
  induction gap with
  | nil => rfl
  | cons c gap ih =>
    obtain ⟨rfl, hgap⟩ := List.forall_mem_cons.1 h
    exact ih hgap

/-- Carriage returns at the end are cleaned away as others are. -/
theorem cleanLine_dropTrailing (l : List Char) : cleanLine (dropTrailing '\r' l) = cleanLine l := by
  have hl : dropTrailing '\r' l ++ l.rtakeWhile (· == '\r') = l :=
    List.rdropWhile_append_rtakeWhile
  have hreturns : ∀ c ∈ l.rtakeWhile (· == '\r'), c = '\r' := fun c hc => by
    simpa using List.mem_rtakeWhile_imp hc
  have hfold : l.foldl typed [] = (dropTrailing '\r' l).foldl typed [] := by
    conv_lhs => rw [← hl]
    rw [List.foldl_append, foldl_typed_returns hreturns]
  rw [cleanLine, cleanLine, hfold]

theorem cleanLine_cleanLine (l : List Char) : cleanLine (cleanLine l) = cleanLine l := by
  rw [cleanLine_of_not_isEdited (not_isEdited_cleanLine l), cleanLine, trimEnd_trimEnd]

/-- A line reads alike when it is cleaned, unless it is edited and might be a command line or a
refusal. -/
theorem readsAlike_cleanLine {l : List Char}
    (h : IsEdited l → '#' ∈ l ∨ '^' ∈ l → ReadsAlike l (cleanLine l)) :
    ReadsAlike l (cleanLine l) := by
  by_cases hedited : IsEdited l
  · by_cases hmarked : '#' ∈ l ∨ '^' ∈ l
    · exact h hedited hmarked
    · rw [not_or] at hmarked
      have hclean : '#' ∉ cleanLine l ∧ '^' ∉ cleanLine l :=
        ⟨mt (fun h => (mem_cleanLine h).1) hmarked.1, mt (fun h => (mem_cleanLine h).1) hmarked.2⟩
      constructor
      · rw [Prompt.parse?_of_not_mem hmarked.1, Prompt.parse?_of_not_mem hclean.1]
      · rw [isRefusal_of_not_mem hmarked.2, isRefusal_of_not_mem hclean.2]
  · -- Only blanks at the end are cleaned away.
    have hl : trimEnd l ++ l.rtakeWhile isBlank = l := List.rdropWhile_append_rtakeWhile
    have hblank : ∀ c ∈ l.rtakeWhile isBlank, isBlank c = true := fun c hc =>
      List.mem_rtakeWhile_imp hc
    have halike := readsAlike_append_gap hblank (trimEnd l)
    rwa [hl, ← cleanLine_of_not_isEdited hedited] at halike

/-! ## One line for another -/

section MapLines

variable {f : List Char → List Char} {lines : List (List Char)}

/-- The section with every line put through `f`. -/
def Section.mapLines (f : List Char → List Char) (s : Section) : Section :=
  { s with line := f s.line, body := s.body.map f }

theorem afterRefusal_map (h : ∀ l ∈ lines, isRefusal (f l) = isRefusal l) :
    afterRefusal (lines.map f) = (afterRefusal lines).map f := by
  have hcounts : Counts lines (afterRefusal lines) := counts_iff.2 rfl
  have hsubset := hcounts.subset
  obtain ⟨haccepted, houtput⟩ := hcounts
  refine (counts_iff.1 ⟨?_, ?_⟩).symm
  · intro m hm
    obtain ⟨l, hl, rfl⟩ := List.mem_map.1 hm
    rw [h l (hsubset hl), haccepted l hl]
  · rcases houtput with heq | ⟨refused, mark, hmark, heq⟩
    · exact .inl (congrArg (List.map f) heq)
    · have hmem : mark ∈ lines := by
        rw [heq]
        simp
      refine .inr ⟨refused.map f, f mark, (h mark hmem).trans hmark, ?_⟩
      exact (congrArg (List.map f) heq).trans List.map_append

/-- Lines that read alike are cut in the same places. -/
theorem cutSections_map (h : ∀ l ∈ lines, ReadsAlike l (f l)) (n : Nat) :
    cutSections n (lines.map f) =
      ((cutSections n lines).1.map f, (cutSections n lines).2.map (Section.mapLines f)) := by
  induction lines generalizing n with
  | nil => rfl
  | cons l lines ih =>
    obtain ⟨⟨hprompt, -⟩, hlines⟩ := List.forall_mem_cons.1 h
    have hlead : ∀ m ∈ (cutSections (n + 1) lines).1, isRefusal (f m) = isRefusal m := by
      intro m hm
      rw [fst_cutSections] at hm
      exact (hlines m ((List.takeWhile_prefix _).subset hm)).2
    cases hl : Prompt.parse? l with
    | none => simp [cutSections, hprompt, hl, ih hlines]
    | some prompt =>
      simp [cutSections, hprompt, hl, ih hlines, afterRefusal_map hlead, Section.mapLines]

theorem keptSections_map (options : SplitOptions) (h : ∀ l ∈ lines, ReadsAlike l (f l)) :
    keptSections options (lines.map f) =
      (keptSections options lines).map (Section.mapLines f) := by
  unfold keptSections
  rw [cutSections_map h, List.filter_map]
  congr 1
  refine List.filter_congr fun s _ => ?_
  simp [Section.isKept, Section.mapLines]

theorem store_map (options : SplitOptions) (f : List Char → List Char)
    (kept : SortedMap String Section) (s : Section) :
    store options (kept.mapValues (Section.mapLines f)) (s.mapLines f) =
      (store options kept s).map fun kept => kept.mapValues (Section.mapLines f) := by
  have hcontains : (kept.mapValues (Section.mapLines f)).contains s.command =
      kept.contains s.command := by
    rw [SortedMap.contains, SortedMap.find?_mapValues, Option.isSome_map, SortedMap.contains]
  have hcommand : (s.mapLines f).command = s.command := rfl
  have hwritable : isWritable options (s.mapLines f) = isWritable options s := rfl
  unfold store
  rw [hcommand, hcontains, hwritable]
  split
  · rfl
  · split
    · rw [← SortedMap.mapValues_insert]
      rfl
    · rfl

theorem storeAll_map (options : SplitOptions) (f : List Char → List Char)
    (sections : List Section) (kept : SortedMap String Section) :
    storeAll options (kept.mapValues (Section.mapLines f)) (sections.map (Section.mapLines f)) =
      ((storeAll options kept sections).1.mapValues (Section.mapLines f),
        (storeAll options kept sections).2) := by
  induction sections generalizing kept with
  | nil => rfl
  | cons s sections ih =>
    rw [List.map_cons, storeAll, store_map, storeAll]
    cases store options kept s with
    | ok kept => exact ih kept
    | error fault => rfl

def mapLines (f : List Char → List Char) (session : Session) : Session :=
  { session with sections := session.sections.mapValues (Section.mapLines f) }

/-- Splitting goes by how the lines read: lines that read alike give the same sections. -/
theorem split_map (options : SplitOptions) {content content' : Bytes}
    (hlines : linesOf content' = (linesOf content).map f)
    (h : ∀ l ∈ linesOf content, ReadsAlike l (f l)) :
    split options content' = (split options content).map (mapLines f) := by
  have hstored := storeAll_map options f (keptSections options (linesOf content)) .empty
  rw [← keptSections_map options h, ← hlines] at hstored
  have hdevice : deviceName (cutSections 1 (linesOf content')).2 =
      deviceName (cutSections 1 (linesOf content)).2 := by
    rw [hlines, cutSections_map h, deviceName, deviceName, List.map_map]
    rfl
  have hcount : (linesOf content').length = (linesOf content).length := by
    rw [hlines, List.length_map]
  rw [split_of_storeAll hstored, split_of_storeAll rfl, hdevice, hcount]
  cases (storeAll options .empty (keptSections options (linesOf content))).2 <;> rfl

end MapLines

/-! ## Cleaned sessions -/

/-- The session in which every line is as the terminal showed it in the end. -/
def cleaned (content : Bytes) : Bytes :=
  Utf8.encode ((linesAt 10 content).flatMap fun l => cleanLine (Utf8.lossy l) ++ ['\n'])

theorem linesOf_cleaned (content : Bytes) :
    linesOf (cleaned content) = (linesOf content).map cleanLine := by
  have hclean : (linesAt 10 content).map (fun l => cleanLine (Utf8.lossy l)) =
      (linesOf content).map cleanLine := by
    rw [linesOf, List.map_map]
    exact List.map_congr_left fun l _ => (cleanLine_dropTrailing _).symm
  have hwritten : cleaned content =
      Utf8.encode (((linesOf content).map cleanLine).flatMap fun l => l ++ ['\n']) := by
    rw [← hclean, List.flatMap_map, cleaned]
  have hnewline : ∀ l ∈ (linesOf content).map cleanLine, '\n' ∉ l := by
    intro m hm hmem
    obtain ⟨l, hl, rfl⟩ := List.mem_map.1 hm
    exact newline_not_mem_of_mem_linesOf hl (mem_cleanLine hmem).1
  rw [hwritten, linesOf, linesAt_encode hnewline, List.map_map, List.map_map]
  refine List.map_congr_left fun l _ => ?_
  -- A cleaned line has no carriage return that could be dropped at its end.
  have hreturn : '\r' ∉ cleanLine l := fun h => not_isEdited_cleanLine l (.inr h)
  rw [Function.comp_apply, Function.comp_apply, Utf8.lossy_encode]
  refine List.rdropWhile_eq_self_iff.2 fun hne hlast => hreturn ?_
  rw [← beq_iff_eq.1 hlast]
  exact List.getLast_mem hne

/-- What a session says: the device, and the output that is read back for each command. -/
def account (session : Session) : String × SortedMap String (List (List Char)) :=
  (session.device, session.sections.mapValues fun s => Section.readLines s.fileBytes)

theorem account_of_split {options : SplitOptions} {content : Bytes} {session : Session}
    (h : split options content = .ok session) :
    account session = (session.device, session.sections.mapValues Section.output) := by
  rw [account, SortedMap.mapValues_congr fun s hs => ?_]
  exact readLines_of_isSection ((mem_values_of_split h).1 hs).isSection

theorem output_mapLines (s : Section) : (s.mapLines cleanLine).output = s.output := by
  rw [Section.output, Section.mapLines, List.map_map, Section.output]
  exact List.map_congr_left fun l _ => cleanLine_cleanLine l

/-- Cleaning the lines of a session before it is split changes nothing in what it says, when no
edited line reads otherwise before it is cleaned than after. -/
theorem account_split_cleaned (options : SplitOptions) (content : Bytes)
    (h : ∀ l ∈ linesOf content, IsEdited l → '#' ∈ l ∨ '^' ∈ l → ReadsAlike l (cleanLine l)) :
    (split options (cleaned content)).map account = (split options content).map account := by
  have hmap : split options (cleaned content) =
      (split options content).map (mapLines cleanLine) :=
    split_map options (linesOf_cleaned content) fun l hl => readsAlike_cleanLine (h l hl)
  cases hsplit : split options content with
  | error fault => rw [hmap, hsplit]; rfl
  | ok session =>
    rw [hsplit] at hmap
    have haccount : account (mapLines cleanLine session) = account session := by
      rw [account_of_split hsplit, account_of_split hmap, mapLines, SortedMap.mapValues_mapValues]
      simp only [output_mapLines]
    rw [hmap]
    exact congrArg Except.ok haccount

/-- Output that a pager and the user have edited, with a command that shows nothing and a mark that
refuses nothing. -/
def pagedArp : Bytes := Utf8.encode <|
  "sw1#show arp  \nsw1#dirr\x08 flash:\n".toList ++
    " --More-- \x08\x08\x08\x08\x08\x08\x08\x08\x08\x08a\n% at '^\x08^'\nb\rc \nd\n".toList

theorem account_split_cleaned_pagedArp :
    (∀ l ∈ linesOf pagedArp, IsEdited l → '#' ∈ l ∨ '^' ∈ l → ReadsAlike l (cleanLine l)) ∧
      (split {} (cleaned pagedArp)).map account = (split {} pagedArp).map account ∧
      ((split {} pagedArp).toOption.map fun session =>
        (session.device,
          session.sections.values.map fun s => (s.command, s.output.map String.ofList))) =
        some ("sw1", [("arp", ["sw1#dir flash:", "a", "% at '^'", "bc", "d"])]) := by
  have h : ∀ l ∈ linesOf pagedArp, IsEdited l → '#' ∈ l ∨ '^' ∈ l →
      ReadsAlike l (cleanLine l) := by decide +kernel
  exact ⟨h, account_split_cleaned {} pagedArp h, by decide +kernel⟩

/-- Two commands, of which the second was typed with a correction. -/
def correctedArp : Bytes := Utf8.encode
  "sw1#show version\n1\n2\n3\n4\n5\nsw1#shw\x08ow arp\n1\n2\n3\n4\n5\n".toList

/-- Editing may change what a session says: the corrected command opens no section of its own. -/
theorem not_every_account_cleaned : ¬ ∀ (options : SplitOptions) (content : Bytes),
    (split options (cleaned content)).map account = (split options content).map account := by
  intro h
  have hkeys := congrArg (fun result => result.toOption.map fun a => a.2.keys) (h {} correctedArp)
  have hclean : (((split {} (cleaned correctedArp)).map account).toOption.map fun a => a.2.keys) =
      some ["arp", "version"] := by decide +kernel
  have hraw : (((split {} correctedArp).map account).toOption.map fun a => a.2.keys) =
      some ["version"] := by decide +kernel
  exact absurd (hclean.symm.trans (hkeys.trans hraw)) (by decide)

end Session

end HostSurvey
