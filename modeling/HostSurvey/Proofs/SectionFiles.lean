import HostSurvey.Session.Section

/-!
# Files of sections

The body of a section goes through a file: it is written as UTF-8 behind the
command line, and the lines behind the first one are read back. Characters
survive that way, and no line of a session has a newline in it, so the lines
that are read are the lines that were written.
-/

namespace HostSurvey

namespace Text.Utf8

/-! ## Reading what was written -/

theorem toNat_toUInt8 {n : Nat} (h : n < 256) : n.toUInt8.toNat = n := Nat.mod_eq_of_lt h

/-- A continuation byte with the six bits `k` that lies between the bounds. -/
theorem follow_cons {lo hi : UInt8} {k : Nat} (hk : k < 64) (hlo : lo.toNat ≤ 0x80 + k)
    (hhi : 0x80 + k ≤ hi.toNat) (n acc : Nat) (s : Bytes) :
    follow (n + 1) lo hi acc ((0x80 + k).toUInt8 :: s) = follow n 0x80 0xBF (acc * 64 + k) s := by
  have hb : (0x80 + k).toUInt8.toNat = 0x80 + k := toNat_toUInt8 (by omega)
  have hbounds : lo ≤ (0x80 + k).toUInt8 ∧ (0x80 + k).toUInt8 ≤ hi := by
    rw [UInt8.le_iff_toNat_le, UInt8.le_iff_toNat_le, hb]
    exact ⟨hlo, hhi⟩
  have hbits : (0x80 + k) % 64 = k := by omega
  rw [follow, if_pos hbounds, hb, hbits]

theorem follow_next {k : Nat} (hk : k < 64) (n acc : Nat) (s : Bytes) :
    follow (n + 1) 0x80 0xBF acc ((0x80 + k).toUInt8 :: s) =
      follow n 0x80 0xBF (acc * 64 + k) s := by
  refine follow_cons hk ?_ ?_ n acc s
  · show 0x80 ≤ 0x80 + k
    omega
  · show 0x80 + k ≤ 0xBF
    omega

/-- The first byte of a character as a number. -/
theorem next_eq (b : UInt8) (s : Bytes) :
    next b s =
      if b.toNat < 0x80 then (some (Char.ofNat b.toNat), s)
      else if 0xC2 ≤ b.toNat ∧ b.toNat ≤ 0xDF then follow 1 0x80 0xBF (b.toNat % 32) s
      else if b.toNat = 0xE0 then follow 2 0xA0 0xBF 0 s
      else if b.toNat = 0xED then follow 2 0x80 0x9F 13 s
      else if 0xE1 ≤ b.toNat ∧ b.toNat ≤ 0xEF then follow 2 0x80 0xBF (b.toNat % 16) s
      else if b.toNat = 0xF0 then follow 3 0x90 0xBF 0 s
      else if 0xF1 ≤ b.toNat ∧ b.toNat ≤ 0xF3 then follow 3 0x80 0xBF (b.toNat % 8) s
      else if b.toNat = 0xF4 then follow 3 0x80 0x8F 4 s
      else (none, s) := by
  simp only [next, UInt8.lt_iff_toNat_lt, UInt8.le_iff_toNat_le, ← UInt8.toNat_inj,
    UInt8.reduceToNat]

/-- Three bytes; the second one excludes longer forms than needed and surrogates. -/
theorem next_three {b : UInt8} (h : 0xE0 ≤ b.toNat ∧ b.toNat ≤ 0xEF) (s : Bytes) :
    next b s = follow 2 (if b.toNat = 0xE0 then 0xA0 else 0x80)
      (if b.toNat = 0xED then 0x9F else 0xBF) (b.toNat % 16) s := by
  rw [next_eq, if_neg (by omega), if_neg (by omega)]
  by_cases hE0 : b.toNat = 0xE0
  · simp [hE0]
  · by_cases hED : b.toNat = 0xED
    · simp [hED]
    · rw [if_neg hE0, if_neg hED, if_pos (by omega), if_neg hE0, if_neg hED]

/-- Four bytes; the second one keeps the character inside the range of Unicode. -/
theorem next_four {b : UInt8} (h : 0xF0 ≤ b.toNat ∧ b.toNat ≤ 0xF4) (s : Bytes) :
    next b s = follow 3 (if b.toNat = 0xF0 then 0x90 else 0x80)
      (if b.toNat = 0xF4 then 0x8F else 0xBF) (b.toNat % 8) s := by
  rw [next_eq, if_neg (by omega), if_neg (by omega), if_neg (by omega), if_neg (by omega),
    if_neg (by omega)]
  by_cases hF0 : b.toNat = 0xF0
  · simp [hF0]
  · by_cases hF4 : b.toNat = 0xF4
    · simp [hF4]
    · rw [if_neg hF0, if_pos (by omega), if_neg hF0, if_neg hF4]

/-- A code point is not in the gap of the surrogates, and not behind the last one. -/
theorem toNat_cases (c : Char) : c.toNat < 0xD800 ∨ 0xDFFF < c.toNat ∧ c.toNat < 0x110000 :=
  c.valid

/-- Behind the bytes of a character, reading goes on. -/
theorem next_encodeChar (c : Char) :
    ∃ b t, encodeChar c = b :: t ∧ ∀ rest, next b (t ++ rest) = (some c, rest) := by
  have hscalar := toNat_cases c
  have hdone {acc : Nat} (h : acc = c.toNat) (rest : Bytes) :
      follow 0 0x80 0xBF acc rest = (some c, rest) := by
    rw [follow, h, Char.ofNat_toNat]
  unfold encodeChar
  simp only
  split
  · rename_i hone
    refine ⟨_, [], rfl, fun rest => ?_⟩
    rw [next_eq, toNat_toUInt8 (by omega), if_pos hone, Char.ofNat_toNat, List.nil_append]
  · split
    · refine ⟨_, [_], rfl, fun rest => ?_⟩
      rw [next_eq, toNat_toUInt8 (by omega), if_neg (by omega), if_pos (by omega),
        List.singleton_append, follow_next (Nat.mod_lt _ (by decide))]
      exact hdone (by omega) rest
    · split
      · refine ⟨_, [_, _], rfl, fun rest => ?_⟩
        have hlow : c.toNat % 64 < 64 := Nat.mod_lt _ (by decide)
        have hmiddle : c.toNat / 64 % 64 < 64 := Nat.mod_lt _ (by decide)
        rw [next_three (by rw [toNat_toUInt8 (by omega)]; omega), toNat_toUInt8 (by omega),
          List.cons_append, List.singleton_append, follow_cons hmiddle, follow_next hlow]
        · exact hdone (by omega) rest
        · split
          · show 0xA0 ≤ _
            omega
          · exact Nat.le_add_right 0x80 _
        · split
          · show _ ≤ 0x9F
            omega
          · show _ ≤ 0xBF
            omega
      · refine ⟨_, [_, _, _], rfl, fun rest => ?_⟩
        have hlow : c.toNat % 64 < 64 := Nat.mod_lt _ (by decide)
        have hmiddle : c.toNat / 64 % 64 < 64 := Nat.mod_lt _ (by decide)
        have hhigh : c.toNat / 4096 % 64 < 64 := Nat.mod_lt _ (by decide)
        rw [next_four (by rw [toNat_toUInt8 (by omega)]; omega), toNat_toUInt8 (by omega),
          List.cons_append, List.cons_append, List.singleton_append, follow_cons hhigh,
          follow_next hmiddle, follow_next hlow]
        · exact hdone (by omega) rest
        · split
          · show 0x90 ≤ _
            omega
          · exact Nat.le_add_right 0x80 _
        · split
          · show _ ≤ 0x8F
            omega
          · show _ ≤ 0xBF
            omega

/-- What is written is read back. -/
theorem lossy_encode (s : List Char) : lossy (encode s) = s := by
  induction s with
  | nil => simp [encode, lossy]
  | cons c s ih =>
    obtain ⟨b, t, hchar, hnext⟩ := next_encodeChar c
    have hencode : encode (c :: s) = b :: (t ++ encode s) := by
      rw [encode, List.flatMap_cons, hchar]
      rfl
    rw [hencode, lossy, hnext, ih]
    rfl

/-! ## Newlines -/

theorem ofNat_ne_newline {n : Nat} (h : n ≠ 10) : Char.ofNat n ≠ '\n' := by
  unfold Char.ofNat
  by_cases hvalid : n.isValidChar
  · rw [dif_pos hvalid]
    intro heq
    exact h (congrArg Char.toNat heq)
  · rw [dif_neg hvalid]
    decide

theorem fst_follow_ne_newline {acc : Nat} (h : 10 < acc) (n : Nat) (lo hi : UInt8) (s : Bytes) :
    (follow n lo hi acc s).1 ≠ some '\n' := by
  induction n generalizing lo hi acc s with
  | zero => simpa [follow] using ofNat_ne_newline (Nat.ne_of_gt h)
  | succ n ih =>
    cases s with
    | nil => simp [follow]
    | cons b s =>
      rw [follow]
      split
      · exact ih (by omega) _ _ _
      · simp

/-- The first continuation byte already makes the character greater than a newline. -/
theorem fst_follow_succ_ne_newline {lo hi : UInt8} {acc : Nat}
    (h : ∀ b : UInt8, lo.toNat ≤ b.toNat → b.toNat ≤ hi.toNat → 10 < acc * 64 + b.toNat % 64)
    (n : Nat) (s : Bytes) : (follow (n + 1) lo hi acc s).1 ≠ some '\n' := by
  cases s with
  | nil => simp [follow]
  | cons b s =>
    rw [follow]
    split
    · rename_i hb
      rw [UInt8.le_iff_toNat_le, UInt8.le_iff_toNat_le] at hb
      exact fst_follow_ne_newline (h b hb.1 hb.2) n _ _ _
    · simp

theorem snd_follow_suffix (n : Nat) (lo hi : UInt8) (acc : Nat) (s : Bytes) :
    (follow n lo hi acc s).2 <:+ s := by
  induction n generalizing lo hi acc s with
  | zero => exact List.suffix_refl s
  | succ n ih =>
    cases s with
    | nil => exact List.suffix_refl []
    | cons b s =>
      rw [follow]
      split
      · exact (ih ..).trans (List.suffix_cons b s)
      · exact List.suffix_refl _

theorem snd_next_suffix (b : UInt8) (s : Bytes) : (next b s).2 <:+ s := by
  unfold next
  repeat' split
  all_goals first
    | exact List.suffix_refl s
    | exact snd_follow_suffix ..

/-- Only the byte of a newline is read as one. -/
theorem fst_next_ne_newline {b : UInt8} (h : b ≠ 10) (s : Bytes) : (next b s).1 ≠ some '\n' := by
  have hb : b.toNat ≠ 10 := fun hb => h (UInt8.toNat_inj.1 hb)
  by_cases hone : b.toNat < 0x80
  · rw [next_eq, if_pos hone]
    simpa using ofNat_ne_newline hb
  by_cases htwo : 0xC2 ≤ b.toNat ∧ b.toNat ≤ 0xDF
  · rw [next_eq, if_neg hone, if_pos htwo]
    exact fst_follow_succ_ne_newline (fun c _ _ => by omega) 0 s
  by_cases hthree : 0xE0 ≤ b.toNat ∧ b.toNat ≤ 0xEF
  · rw [next_three hthree]
    refine fst_follow_succ_ne_newline (fun c hlo hhi => ?_) 1 s
    by_cases hE0 : b.toNat = 0xE0
    · have hlo : 0xA0 ≤ c.toNat := by simpa [hE0] using hlo
      have hhi : c.toNat ≤ 0xBF := by simpa [hE0] using hhi
      omega
    · omega
  by_cases hfour : 0xF0 ≤ b.toNat ∧ b.toNat ≤ 0xF4
  · rw [next_four hfour]
    refine fst_follow_succ_ne_newline (fun c hlo hhi => ?_) 2 s
    by_cases hF0 : b.toNat = 0xF0
    · have hlo : 0x90 ≤ c.toNat := by simpa [hF0] using hlo
      have hhi : c.toNat ≤ 0xBF := by simpa [hF0] using hhi
      omega
    · omega
  · rw [next_eq]
    repeat rw [if_neg (by omega)]
    simp

/-- A text has no newline when its bytes have none. -/
theorem newline_not_mem_lossy {s : Bytes} (h : 10 ∉ s) : '\n' ∉ lossy s := by
  induction s using lossy.induct with
  | case1 => simp [lossy]
  | case2 b s ih =>
    obtain ⟨hb, hs⟩ := not_or.1 (mt List.mem_cons.2 h)
    have hrest : 10 ∉ (next b s).2 := fun hmem => hs ((snd_next_suffix b s).subset hmem)
    rw [lossy, List.mem_cons, not_or]
    refine ⟨fun heq => ?_, ih hrest⟩
    cases hnext : (next b s).1 with
    | none =>
      rw [hnext] at heq
      exact absurd heq (by decide)
    | some c =>
      rw [hnext] at heq
      exact fst_next_ne_newline (Ne.symm hb) s (hnext.trans (congrArg some heq.symm))

theorem newline_not_mem_encode {s : List Char} (h : '\n' ∉ s) : 10 ∉ encode s := by
  intro hmem
  obtain ⟨c, hc, hbyte⟩ := List.mem_flatMap.1 hmem
  have hne : c.toNat ≠ 10 := fun heq => by
    have hchar : c = '\n' := by rw [← Char.ofNat_toNat c, heq]
    exact h (hchar ▸ hc)
  have hscalar := toNat_cases c
  have hbyteNe {n : Nat} (hn : n < 256) (hten : n ≠ 10) : 10 ≠ n.toUInt8 := fun heq => by
    have := congrArg UInt8.toNat heq
    rw [toNat_toUInt8 hn] at this
    exact hten this.symm
  unfold encodeChar at hbyte
  simp only at hbyte
  split at hbyte
  · exact hbyteNe (by omega) hne (List.mem_singleton.1 hbyte)
  · split at hbyte
    · simp only [List.mem_cons, List.not_mem_nil, or_false] at hbyte
      rcases hbyte with h | h <;> exact hbyteNe (by omega) (by omega) h
    · split at hbyte
      · simp only [List.mem_cons, List.not_mem_nil, or_false] at hbyte
        rcases hbyte with h | h | h <;> exact hbyteNe (by omega) (by omega) h
      · simp only [List.mem_cons, List.not_mem_nil, or_false] at hbyte
        rcases hbyte with h | h | h | h <;> exact hbyteNe (by omega) (by omega) h

end Text.Utf8

/-! ## Files -/

namespace Session

open Text

theorem newline_not_mem_of_mem_linesOf {content : Bytes} {l : List Char} (h : l ∈ linesOf content) :
    '\n' ∉ l := by
  obtain ⟨raw, hraw, rfl⟩ := List.mem_map.1 h
  have hlossy := Utf8.newline_not_mem_lossy (stop_not_mem_of_mem_linesAt hraw)
  intro hmem
  have hreverse := (List.dropWhile_suffix _).subset (List.mem_reverse.1 hmem)
  exact hlossy (List.mem_reverse.1 hreverse)

/-- The lines of a written text are the bytes of the lines that it was written from. -/
theorem linesAt_encode {lines : List (List Char)} (h : ∀ l ∈ lines, '\n' ∉ l) :
    linesAt 10 (Utf8.encode (lines.flatMap fun l => l ++ ['\n'])) = lines.map Utf8.encode := by
  have hencode : Utf8.encode (lines.flatMap fun l => l ++ ['\n']) =
      (lines.map Utf8.encode).flatMap fun l => l ++ [10] := by
    unfold Utf8.encode
    rw [List.flatMap_assoc, List.flatMap_map]
    congr 1
    funext l
    rw [List.flatMap_append]
    rfl
  have hlines : ∀ l ∈ lines.map Utf8.encode, (10 : UInt8) ∉ l := by
    intro l hl
    obtain ⟨chars, hchars, rfl⟩ := List.mem_map.1 hl
    exact Utf8.newline_not_mem_encode (h chars hchars)
  rw [hencode, linesAt_flatMap hlines]

/-- What is read back from the file of a section is what the terminal showed of its body. -/
theorem Section.readLines_fileBytes {s : Section} (h : ∀ l ∈ s.line :: s.body, '\n' ∉ l) :
    readLines s.fileBytes = s.output := by
  unfold readLines output fileBytes fileText
  rw [String.toList_ofList, linesAt_encode h, List.map_cons, List.drop_succ_cons, List.drop_zero,
    List.map_map]
  refine List.map_congr_left fun l _ => ?_
  rw [Function.comp_apply, Utf8.lossy_encode]

end Session

end HostSurvey
