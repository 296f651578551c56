import HostSurvey.Packet.Flags

/-!
# Names of flags

Words that are written with a separator between them are the words of the text,
so the words of a flag text are the names of the bits that are set.
-/

namespace HostSurvey

namespace Text

variable {sep : Char → Bool}

/-- A text without separators is one field. -/
theorem fields_eq_singleton {w : List Char} (h : ∀ c ∈ w, sep c = false) : fields sep w = [w] := by
  induction w with
  | nil => rfl
  | cons c w ih =>
    obtain ⟨hc, hw⟩ := List.forall_mem_cons.1 h
    simp [fields, hc, ih hw]

theorem fields_append {w : List Char} {d : Char} (h : ∀ c ∈ w, sep c = false) (hd : sep d = true)
    (s : List Char) : fields sep (w ++ d :: s) = w :: fields sep s := by
  induction w with
  | nil => simp [fields, hd]
  | cons c w ih =>
    obtain ⟨hc, hw⟩ := List.forall_mem_cons.1 h
    simp [fields, hc, ih hw]

theorem fields_intercalate {d : Char} (hd : sep d = true) {w : List Char} {ws : List (List Char)}
    (h : ∀ v ∈ w :: ws, ∀ c ∈ v, sep c = false) :
    fields sep ([d].intercalate (w :: ws)) = w :: ws := by
  induction ws generalizing w with
  | nil => simpa using fields_eq_singleton (h w (by simp))
  | cons v ws ih =>
    obtain ⟨hw, hws⟩ := List.forall_mem_cons.1 h
    rw [List.intercalate_cons_cons, List.append_assoc, List.singleton_append,
      fields_append hw hd, ih hws]

/-- Words with a separator between them are read back. -/
theorem tokens_intercalate {d : Char} (hd : sep d = true) {ws : List (List Char)}
    (h : ∀ w ∈ ws, w ≠ [] ∧ ∀ c ∈ w, sep c = false) : tokens sep ([d].intercalate ws) = ws := by
  cases ws with
  | nil => rfl
  | cons w ws =>
    unfold tokens
    rw [fields_intercalate hd fun v hv => (h v hv).2, List.filter_eq_self]
    intro v hv
    simpa using (h v hv).1

end Text

namespace Flags

/-- Where blanks separate and no character of a name does, the tokens of a flag text are the names of
the set bits, from the highest to the lowest. -/
theorem tokens_names {sep : Char → Bool} (hblank : sep ' ' = true)
    (hnames : (table.all fun flag => flag.1.toList.all fun c => !sep c) = true) (bits : UInt16) :
    Text.tokens sep (names bits).toList =
      (table.filter fun flag => bits &&& flag.2 != 0).map fun flag => flag.1.toList := by
  have hfilled : ∀ flag ∈ table, flag.1.toList ≠ [] := by decide
  have hseparator : " ".toList = [' '] := rfl
  unfold names
  rw [String.toList_intercalate, List.map_map, hseparator]
  refine Text.tokens_intercalate hblank fun w hw => ?_
  obtain ⟨flag, hflag, rfl⟩ := List.mem_map.1 hw
  have hmem := (List.mem_filter.1 hflag).1
  have hname := List.all_eq_true.1 hnames flag hmem
  exact ⟨hfilled flag hmem, by simpa using hname⟩

/-- The words of a flag text are the names of the set bits. -/
theorem words_names (bits : UInt16) :
    Text.words (names bits).toList =
      (table.filter fun flag => bits &&& flag.2 != 0).map fun flag => flag.1.toList :=
  tokens_names (by decide) (by decide) bits

end Flags

end HostSurvey
