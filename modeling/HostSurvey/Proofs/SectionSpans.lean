import HostSurvey.Proofs.ImportedSections
import Mathlib.Data.List.Pairwise

/-!
# Where sections end

The lines of a section run from its command line up to the next one or to the end
of the session. The number of its last line is reckoned from the lines that count,
not from those that were read: behind a refusal it is too low by the lines up to
the refusal. So it never lies behind the section, and no two sections overlap.
-/

namespace HostSurvey

namespace Session

open Text

/-! ## Numbered lines -/

/-- `l` is the line with the number `n`, the first line having the number 1. -/
def IsLine (lines : List (List Char)) (n : Nat) (l : List Char) : Prop := (l, n) ∈ lines.zipIdx 1

/-- `stop` is the last line that belongs to the command line `first`: behind it stands the next
command line or nothing. -/
structure EndsAt (lines : List (List Char)) (first stop : Nat) : Prop where
  first_le : first ≤ stop
  stop_le : stop ≤ lines.length
  output : ∀ n l, first < n → n ≤ stop → IsLine lines n l → Prompt.parse? l = none
  next : ∀ l, IsLine lines (stop + 1) l → Prompt.parse? l ≠ none

/-- What counts between two lines stands behind `mark`: that is the first line, or the last
refusal when there is one. -/
structure CountsBehind (lines : List (List Char)) (first mark stop : Nat) : Prop where
  mark_le : mark ≤ stop
  refused : mark = first ∨ first < mark ∧ ∃ l, IsLine lines mark l ∧ isRefusal l = true
  accepted : ∀ n l, mark < n → n ≤ stop → IsLine lines n l → isRefusal l = false

/-- The section of the lines up to `stop`, of which those behind `mark` count. -/
structure Spans (lines : List (List Char)) (s : Section) (mark stop : Nat) : Prop where
  opens : ∃ l, IsLine lines s.first l ∧ Prompt.parse? l = some s.prompt
  ends : EndsAt lines s.first stop
  counts : CountsBehind lines s.first mark stop
  body : s.body = (lines.take stop).drop mark

section IsLine

variable {lines rest : List (List Char)} {n : Nat} {l : List Char}

theorem isLine_iff : IsLine lines n l ↔ 1 ≤ n ∧ lines[n - 1]? = some l :=
  List.mk_mem_zipIdx_iff_le_and_getElem?_sub

theorem IsLine.le_length (h : IsLine lines n l) : n ≤ lines.length := by
  obtain ⟨hn, hl⟩ := isLine_iff.1 h
  have := (List.getElem?_eq_some_iff.1 hl).1
  omega

theorem IsLine.mem (h : IsLine lines n l) : l ∈ lines := List.mem_of_getElem? (isLine_iff.1 h).2

theorem isLine_cons_one {m : List Char} : IsLine (m :: rest) 1 l ↔ l = m := by
  simp [isLine_iff, eq_comm]

theorem isLine_append_left (hn : n ≤ lines.length) :
    IsLine (lines ++ rest) n l ↔ IsLine lines n l := by
  rw [isLine_iff, isLine_iff]
  refine and_congr_right fun hpos => ?_
  rw [List.getElem?_append_left (by omega)]

theorem isLine_append_right (hn : lines.length < n) :
    IsLine (lines ++ rest) n l ↔ IsLine rest (n - lines.length) l := by
  rw [isLine_iff, isLine_iff, List.getElem?_append_right (by omega), Nat.sub_right_comm]
  exact and_congr_left' (by omega)

/-- A line of the part in the middle. -/
theorem IsLine.mem_middle {middle : List (List Char)}
    (h : IsLine (lines ++ (middle ++ rest)) n l) (hlow : lines.length < n)
    (hhigh : n ≤ lines.length + middle.length) : l ∈ middle := by
  rw [isLine_append_right hlow, isLine_append_left (by omega)] at h
  exact h.mem

/-- The first line behind the others. -/
theorem isLine_next {m : List Char} : IsLine (lines ++ m :: rest) (lines.length + 1) l ↔ l = m := by
  rw [isLine_append_right (by omega), Nat.add_sub_cancel_left, isLine_cons_one]

end IsLine

/-! ## Spans -/

section Spans

variable {lead output body rest : List (List Char)}

theorem endsAt_append (houtput : ∀ l ∈ output, Prompt.parse? l = none)
    (hrest : ∀ l ∈ rest.head?, Prompt.parse? l ≠ none) :
    EndsAt (lead ++ (output ++ rest)) lead.length (lead.length + output.length) where
  first_le := by omega
  stop_le := by
    simp only [List.length_append]
    omega
  output n l hlow hhigh hl := houtput l (hl.mem_middle hlow hhigh)
  next l hl := by
    rw [← List.append_assoc, ← List.length_append] at hl
    cases rest with
    | nil => exact absurd hl.le_length (by simp)
    | cons m rest => exact hrest l (by simp [isLine_next.1 hl])

/-- What counts of the output stands behind its command line or behind its last refusal. -/
theorem Counts.exists_mark (h : Counts output body) (lead rest : List (List Char)) :
    ∃ mark, CountsBehind (lead ++ (output ++ rest)) lead.length mark
        (lead.length + output.length) ∧
      mark + body.length = lead.length + output.length ∧
      ((lead ++ (output ++ rest)).take (lead.length + output.length)).drop mark = body := by
  obtain ⟨haccepted, rfl | ⟨refused, mark, hmark, rfl⟩⟩ := h
  · refine ⟨lead.length, ⟨by omega, .inl rfl, fun n l hlow hhigh hl => ?_⟩, rfl, ?_⟩
    · exact haccepted l (hl.mem_middle hlow hhigh)
    · rw [← List.append_assoc, ← List.length_append, List.take_left, List.drop_left]
  · -- The lines up to the refusal, the refusal among them.
    have hsplit : lead ++ ((refused ++ mark :: body) ++ rest) =
        (lead ++ refused ++ [mark]) ++ (body ++ rest) := by simp
    have hstop : lead.length + (refused ++ mark :: body).length =
        (lead ++ refused ++ [mark]).length + body.length := by
      simp only [List.length_append, List.length_cons, List.length_nil]
      omega
    refine ⟨(lead ++ refused ++ [mark]).length, ⟨by omega, .inr ⟨?_, mark, ?_, hmark⟩, ?_⟩,
      hstop.symm, ?_⟩
    · simp only [List.length_append, List.length_cons]
      omega
    · rw [hsplit, List.append_assoc _ [mark], List.length_append]
      exact isLine_next.2 rfl
    · intro n l hlow hhigh hl
      rw [hsplit] at hl
      exact haccepted l (hl.mem_middle hlow (hstop ▸ hhigh))
    · rw [hsplit, hstop, ← List.append_assoc, ← List.length_append, List.take_left,
        List.drop_left]

end Spans

section Ends

variable {lines : List (List Char)} {s t : Section} {mark stop : Nat}

theorem EndsAt.stop_unique {first stop' : Nat} (h : EndsAt lines first stop)
    (h' : EndsAt lines first stop') : stop = stop' := by
  have hle {m n : Nat} (hm : EndsAt lines first m) (hn : EndsAt lines first n) : n ≤ m := by
    by_contra hlt
    -- Behind `m` there is a line, which is a command line to `m` and output to `n`.
    have hm_lt : m < lines.length := by
      have := hn.stop_le
      omega
    have hline : IsLine lines (m + 1) lines[m] :=
      isLine_iff.2 ⟨by omega, List.getElem?_eq_getElem hm_lt⟩
    have hfirst := hm.first_le
    exact hm.next _ hline (hn.output (m + 1) _ (by omega) (by omega) hline)
  exact le_antisymm (hle h' h) (hle h h')

theorem IsSection.spans (h : IsSection lines s) :
    ∃ mark stop, Spans lines s mark stop ∧ mark + s.body.length = stop := by
  obtain ⟨hopens, before, output, rest, rfl, hfirst, houtput, hrest, hbody⟩ := h
  have hsplit : before ++ s.line :: (output ++ rest) =
      (before ++ [s.line]) ++ (output ++ rest) := by simp
  have hlead : s.first = (before ++ [s.line]).length := by simpa using hfirst
  obtain ⟨mark, hcounts, hlength, hdrop⟩ := hbody.exists_mark (before ++ [s.line]) rest
  refine ⟨mark, (before ++ [s.line]).length + output.length,
    ⟨⟨s.line, ?_, hopens⟩, ?_, ?_, ?_⟩, hlength⟩
  · rw [hfirst]
    exact isLine_next.2 rfl
  · rw [hsplit, hlead]
    exact endsAt_append houtput hrest
  · rwa [hsplit, hlead]
  · rw [hsplit, hdrop]

/-- The lines up to the last refusal can only make the number of the last line too low. -/
theorem Spans.bounds (h : Spans lines s mark stop) (hlast : s.last + mark = s.first + stop) :
    s.first ≤ s.last ∧ s.last ≤ stop := by
  have hmark := h.counts.mark_le
  rcases h.counts.refused with hfirst | ⟨hfirst, -⟩
  · omega
  · omega

/-- The number of the last line is right exactly when nothing was refused. -/
theorem Spans.endsAt_last_iff (h : Spans lines s mark stop)
    (hlast : s.last + mark = s.first + stop) : EndsAt lines s.first s.last ↔ mark = s.first := by
  constructor
  · intro hends
    have := hends.stop_unique h.ends
    omega
  · intro hmark
    obtain rfl : s.last = stop := by omega
    exact h.ends

/-- A section ends before the next one. -/
theorem Spans.stop_lt (h : Spans lines s mark stop) {mark' stop' : Nat}
    (h' : Spans lines t mark' stop') (hlt : s.first < t.first) : stop < t.first := by
  by_contra hle
  obtain ⟨l, hl, hopens⟩ := h'.opens
  exact absurd (h.ends.output t.first l hlt (by omega) hl) (by simp [hopens])

end Ends

/-! ## The sections of a session -/

section Split

variable {options : SplitOptions} {content : Bytes} {session : Session}

theorem spans_of_mem (h : split options content = .ok session) {s : Section}
    (hs : s ∈ session.sections.values) :
    ∃ mark stop, Spans (linesOf content) s mark stop ∧ s.last + mark = s.first + stop := by
  obtain ⟨mark, stop, hspans, hlength⟩ := ((mem_values_of_split h).1 hs).isSection.spans
  exact ⟨mark, stop, hspans, by rw [Section.last]; omega⟩

/-- Of two sections one stands first. -/
theorem first_ne_of_mem (h : split options content = .ok session) {s t : Section}
    (hs : s ∈ session.sections.values) (ht : t ∈ session.sections.values) (hne : s ≠ t) :
    s.first < t.first ∨ t.first < s.first := by
  have hstores := stores_of_split h
  have hordered : (keptSections options (linesOf content)).Pairwise fun s t =>
      s.first < t.first ∨ t.first < s.first :=
    (keptInOrder_keptSections options (linesOf content)).1.imp .inl
  have : Std.Symm fun s t : Section => s.first < t.first ∨ t.first < s.first :=
    ⟨fun _ _ => Or.symm⟩
  exact hordered.forall (hstores.mem_values.1 hs) (hstores.mem_values.1 ht) hne

/-- The last line of a section is reckoned from its command line by the lines that count: those
behind the last refusal up to the next command line. It is the end of the section when nothing was
refused, and never lies behind it, so no section reaches into another one. -/
theorem sections_end_apart (h : split options content = .ok session) :
    (∀ s ∈ session.sections.values, ∃ mark stop, Spans (linesOf content) s mark stop ∧
      s.last + mark = s.first + stop ∧ s.first ≤ s.last ∧ s.last ≤ stop ∧
      (EndsAt (linesOf content) s.first s.last ↔ mark = s.first)) ∧
    ∀ s ∈ session.sections.values, ∀ t ∈ session.sections.values, s ≠ t →
      s.last < t.first ∨ t.last < s.first := by
  constructor
  · intro s hs
    obtain ⟨mark, stop, hspans, hlast⟩ := spans_of_mem h hs
    obtain ⟨hfirst, hstop⟩ := hspans.bounds hlast
    exact ⟨mark, stop, hspans, hlast, hfirst, hstop, hspans.endsAt_last_iff hlast⟩
  · intro s hs t ht hne
    obtain ⟨mark, stop, hspans, hlast⟩ := spans_of_mem h hs
    obtain ⟨mark', stop', hspans', hlast'⟩ := spans_of_mem h ht
    have hle := (hspans.bounds hlast).2
    have hle' := (hspans'.bounds hlast').2
    rcases first_ne_of_mem h hs ht hne with hlt | hlt
    · exact .inl (hle.trans_lt (hspans.stop_lt hspans' hlt))
    · exact .inr (hle'.trans_lt (hspans'.stop_lt hspans hlt))

end Split

/-- Two commands, of which the first has a refusal in its output. -/
def refusedArp : Bytes := Utf8.encode
  "sw1#show arp\na\n^\nb\nc\nd\ne\nf\nsw1#show ver\n1\n2\n3\n4\n5\n".toList

theorem exists_split_refusedArp : ∃ session, split {} refusedArp = .ok session ∧
    session.sections.values.map (fun s => (s.command, s.first, s.last)) =
      [("arp", 1, 6), ("ver", 9, 14)] := by
  have heval : ((split {} refusedArp).toOption.map fun session =>
      session.sections.values.map fun s => (s.command, s.first, s.last)) =
        some [("arp", 1, 6), ("ver", 9, 14)] := by decide +kernel
  cases hsplit : split {} refusedArp with
  | error fault => simp [hsplit, Except.toOption] at heval
  | ok session => exact ⟨session, rfl, by simpa [hsplit, Except.toOption] using heval⟩

theorem sections_end_apart_refusedArp : ∃ session, split {} refusedArp = .ok session ∧
    (∀ s ∈ session.sections.values, ∃ mark stop, Spans (linesOf refusedArp) s mark stop ∧
      s.last + mark = s.first + stop ∧ s.first ≤ s.last ∧ s.last ≤ stop ∧
      (EndsAt (linesOf refusedArp) s.first s.last ↔ mark = s.first)) ∧
    (∀ s ∈ session.sections.values, ∀ t ∈ session.sections.values, s ≠ t →
      s.last < t.first ∨ t.last < s.first) ∧
    session.sections.values.map (fun s => (s.command, s.first, s.last)) =
      [("arp", 1, 6), ("ver", 9, 14)] := by
  obtain ⟨session, hsplit, hvalues⟩ := exists_split_refusedArp
  obtain ⟨hends, hapart⟩ := sections_end_apart hsplit
  exact ⟨session, hsplit, hends, hapart, hvalues⟩

/-- Not every section has the number of its last line: here line 7 is output of the first command,
which is said to end with line 6. -/
theorem not_every_last_ends : ¬ ∀ (options : SplitOptions) (content : Bytes) (session : Session),
    split options content = .ok session →
      ∀ s ∈ session.sections.values, EndsAt (linesOf content) s.first s.last := by
  intro h
  obtain ⟨session, hsplit, hvalues⟩ := exists_split_refusedArp
  have hmem : ("arp", 1, 6) ∈
      session.sections.values.map fun s => (s.command, s.first, s.last) := by simp [hvalues]
  obtain ⟨s, hs, heq⟩ := List.mem_map.1 hmem
  simp only [Prod.mk.injEq] at heq
  have hends := h {} refusedArp session hsplit s hs
  rw [heq.2.1, heq.2.2] at hends
  have hline : IsLine (linesOf refusedArp) 7 ['e'] :=
    isLine_iff.2 ⟨by decide, by decide +kernel⟩
  exact hends.next ['e'] hline (by decide +kernel)

end Session

end HostSurvey
