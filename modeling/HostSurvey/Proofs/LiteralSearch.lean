import HostSurvey.Pattern.Search
import HostSurvey.Payload.Program
import HostSurvey.Proofs.FirstFault
import Mathlib.Order.Bounds.Basic
import Mathlib.Data.List.TakeWhile
import Mathlib.Data.Nat.Find

/-!
# Literal search

A literal search gives the leftmost place where all of the bytes that it looks
for stand inside its window, and finds nothing only where there is no such place
(`Bytes.find?_eq_some_iff`, `Bytes.find?_eq_none_iff`). A window that would start
before the first byte is empty, though, so nothing is found from there, even
where the bytes stand between its bounds.
-/

namespace HostSurvey

namespace Bytes

/-- The bytes `pat` stand at the address `i`, from `start` on and before `stop`. -/
structure OccursAt (data pat : Bytes) (start stop : Int) (i : Nat) : Prop where
  start_le : start ≤ i
  le_stop : i + pat.length ≤ stop
  isPrefix : pat <+: data.drop i

variable {data pat : Bytes} {start stop offset : Int} {length i : Nat}

/-- Nothing stands behind the last byte. -/
theorem OccursAt.le_length (h : data.OccursAt pat start stop i) (hpat : pat ≠ []) :
    i + pat.length ≤ data.length := by
  have hlength := h.isPrefix.length_le
  have hpos := List.length_pos_iff.2 hpat
  rw [List.length_drop] at hlength
  omega

/-! ## The first occurrence -/

theorem indexOf?_eq_none_iff {s : Bytes} : indexOf? pat s = none ↔ ∀ i, ¬ pat <+: s.drop i := by
  induction s with
  | nil => cases pat <;> simp [indexOf?]
  | cons b s ih =>
    simp only [indexOf?]
    split
    · rename_i hat
      refine ⟨nofun, fun h => absurd ?_ (h 0)⟩
      exact List.isPrefixOf_iff_prefix.1 hat
    · rename_i hat
      rw [Option.map_eq_none_iff, ih]
      constructor
      · rintro h (_ | i)
        · exact fun hpre => hat (List.isPrefixOf_iff_prefix.2 hpre)
        · exact h i
      · exact fun h i => h (i + 1)

/-- The index given is the first one where the bytes stand. -/
theorem indexOf?_eq_some_iff {s : Bytes} :
    indexOf? pat s = some i ↔ pat <+: s.drop i ∧ ∀ j < i, ¬ pat <+: s.drop j := by
  induction s generalizing i with
  | nil =>
    cases pat with
    | nil =>
      rw [show indexOf? [] [] = some 0 from rfl, Option.some_inj]
      constructor
      · rintro rfl
        exact ⟨List.nil_prefix, nofun⟩
      · intro h
        by_contra hne
        exact h.2 0 (by omega) List.nil_prefix
    | cons b pat => simp [indexOf?]
  | cons b s ih =>
    simp only [indexOf?]
    split
    · rename_i hat
      rw [Option.some_inj]
      have hpre : pat <+: (b :: s).drop 0 := List.isPrefixOf_iff_prefix.1 hat
      constructor
      · rintro rfl
        exact ⟨hpre, nofun⟩
      · intro h
        by_contra hne
        exact h.2 0 (by omega) hpre
    · rename_i hat
      have hnot : ¬ pat <+: (b :: s).drop 0 := fun hpre => hat (List.isPrefixOf_iff_prefix.2 hpre)
      cases i with
      | zero =>
        simp only [Option.map_eq_some_iff, Nat.add_eq_zero_iff, Nat.succ_ne_self, and_false,
          exists_false, false_iff]
        exact fun h => hnot h.1
      | succ i =>
        simp only [Option.map_eq_some_iff, Nat.add_right_cancel_iff, exists_eq_right, ih]
        constructor
        · rintro ⟨hi, hbefore⟩
          refine ⟨hi, ?_⟩
          rintro (_ | j) hj
          · exact hnot
          · exact hbefore j (by omega)
        · rintro ⟨hi, hbefore⟩
          exact ⟨hi, fun j hj => hbefore (j + 1) (by omega)⟩

/-! ## Inside a window -/

/-- What stands inside a window, stands in the data between its bounds. -/
theorem prefix_drop_window (hpat : pat ≠ []) (hoffset : 0 ≤ offset) (j : Nat) :
    pat <+: (data.window offset length).drop j ↔
      data.OccursAt pat offset (offset + length) (j + offset.toNat) := by
  have hpos := List.length_pos_iff.2 hpat
  rw [window, if_neg (by omega), List.drop_take, List.prefix_take_iff, List.drop_drop,
    Nat.add_comm offset.toNat j]
  constructor
  · rintro ⟨hpre, hlen⟩
    exact ⟨by omega, by omega, hpre⟩
  · rintro ⟨-, hstop, hpre⟩
    exact ⟨hpre, by omega⟩

theorem find?_of_neg (hpat : pat ≠ []) (hoffset : offset < 0) (length : Nat) :
    data.find? pat offset length = none := by
  have hempty : data.window offset length = [] := if_pos hoffset
  cases pat with
  | nil => exact absurd rfl hpat
  | cons b pat =>
    rw [find?, hempty]
    rfl

/-- From the first byte on, exactly the least address of an occurrence is given. -/
theorem find?_eq_some_iff (hpat : pat ≠ []) (hoffset : 0 ≤ offset) (length : Nat) :
    data.find? pat offset length = some i ↔
      IsLeast { j | data.OccursAt pat offset (offset + length) j } i := by
  rw [find?, if_neg (by simpa using hpat), Option.map_eq_some_iff]
  simp only [indexOf?_eq_some_iff, prefix_drop_window hpat hoffset]
  constructor
  · rintro ⟨j, ⟨hj, hbefore⟩, rfl⟩
    refine ⟨hj, fun k hk => ?_⟩
    by_contra hlt
    have hstart := OccursAt.start_le hk
    refine hbefore (k - offset.toNat) (by omega) ?_
    rwa [Nat.sub_add_cancel (by omega)]
  · rintro ⟨hi, hleast⟩
    have hstart := OccursAt.start_le hi
    have hsplit : i - offset.toNat + offset.toNat = i := Nat.sub_add_cancel (by omega)
    refine ⟨i - offset.toNat, ⟨by rwa [hsplit], fun j hj hocc => ?_⟩, hsplit⟩
    have := hleast hocc
    omega

/-- Where there is an occurrence, there is a leftmost one. -/
theorem exists_isLeast_occursAt_iff :
    (∃ i, IsLeast { j | data.OccursAt pat start stop j } i) ↔
      ∃ i, data.OccursAt pat start stop i := by
  classical
  constructor
  · exact fun ⟨i, hi, _⟩ => ⟨i, hi⟩
  · exact fun h => ⟨Nat.find h, Nat.find_spec h, fun j hj => Nat.find_min' h hj⟩

theorem find?_eq_none_iff (hpat : pat ≠ []) (hoffset : 0 ≤ offset) (length : Nat) :
    data.find? pat offset length = none ↔
      ∀ j, ¬ data.OccursAt pat offset (offset + length) j := by
  rw [find?, if_neg (by simpa using hpat), Option.map_eq_none_iff, indexOf?_eq_none_iff]
  simp only [prefix_drop_window hpat hoffset]
  constructor
  · intro h j hocc
    have hstart := hocc.start_le
    refine h (j - offset.toNat) ?_
    rwa [Nat.sub_add_cancel (by omega)]
  · exact fun h j => h (j + offset.toNat)

end Bytes

/-! ## Compiled searches -/

namespace Text

theorem exists_of_trim_ne_nil {s : List Char} (h : trim s ≠ []) : ∃ c ∈ s, isBlank c = false := by
  by_contra hall
  have hblank : ∀ c ∈ s, isBlank c = true := by simpa using hall
  refine h ?_
  rw [trim, trimStart, List.dropWhile_eq_nil_iff.2 hblank]
  rfl

theorem Hex.decode_ne_nil {s bytes : Bytes} (h : Hex.decode s = .ok bytes) (hs : s ≠ []) :
    bytes ≠ [] := by
  rw [Hex.decode] at h
  split at h
  · cases s with
    | nil => exact absurd rfl hs
    | cons high s =>
      cases s with
      | nil => simp at *
      | cons low rest =>
        obtain ⟨_, -, h⟩ := FirstFault.bind_eq_ok_iff.1 h
        obtain ⟨_, -, h⟩ := FirstFault.bind_eq_ok_iff.1 h
        obtain ⟨_, -, h⟩ := FirstFault.bind_eq_ok_iff.1 h
        cases h
        simp
  · cases h

end Text

namespace Payload

variable {bytes : Bytes} {op : Match}

/-- A literal that can be read has a byte, since it has a character that is no space. -/
theorem ne_nil_of_literal {content : String} (h : literal content = .ok bytes)
    (htrim : Text.trim content.toList ≠ []) : bytes ≠ [] := by
  obtain ⟨ch, hch, hblank⟩ := Text.exists_of_trim_ne_nil htrim
  have hspace : ch ≠ ' ' := by
    rintro rfl
    exact absurd hblank (by decide)
  have hsolid : ch ∈ content.toList.filter (· ≠ ' ') :=
    List.mem_filter.2 ⟨hch, by simpa using hspace⟩
  have hencoded : Text.Utf8.encode (content.toList.filter (· ≠ ' ')) ≠ [] := by
    intro hnil
    refine absurd (List.flatMap_eq_nil_iff.1 hnil ch hsolid) ?_
    simp only [Text.Utf8.encodeChar]
    repeat' split
    all_goals simp
  rw [literal] at h
  cases hdecoded : Text.Hex.decode (Text.Utf8.encode (content.toList.filter (· ≠ ' '))) with
  | error fault =>
    rw [hdecoded] at h
    cases h
  | ok decoded =>
    rw [hdecoded] at h
    cases h
    exact Text.Hex.decode_ne_nil hdecoded hencoded

/-- A search that compiles looks for at least one byte. -/
theorem content_ne_nil_of_needle [Pattern.Engine] {fingerprint name : String}
    (h : needle fingerprint name op = .ok (.content bytes)) : bytes ≠ [] := by
  rw [needle] at h
  split at h
  · split at h <;> cases h
  · rename_i content hpattern hcontent
    split at h
    · cases h
    · rename_i hfilled
      obtain ⟨read, hread, hn⟩ := FirstFault.map_eq_ok_iff.1 h
      cases hn
      refine ne_nil_of_literal hread ?_
      simpa [Match.isEmpty, hpattern, hcontent] using hfilled
  · cases h

end Payload

/-! ## The window of a search -/

namespace Match

/-- How many bytes a search that starts inside the data looks at. -/
def span (op : Match) (data : Bytes) (start : Int) : Nat :=
  if op.depth = 0 then data.length - start.toNat else min op.depth (data.length - start.toNat)

/-- The address behind the window of a search, which may lie behind the data: the depth counted from
the start, or the end of the data. -/
def stop (op : Match) (data : Bytes) (start : Int) : Int :=
  if op.depth = 0 then data.length else start + op.depth

/-- The marks after a hit. -/
def moved (op : Match) (c : Cursor) (hit : Payload.Found) : Cursor :=
  if op.moveCursor then { start := hit.start, main := hit.main, stop := hit.stop }
  else { c with main := hit.main }

@[simp] theorem main_moved (op : Match) (c : Cursor) (hit : Payload.Found) :
    (op.moved c hit).main = hit.main := by
  rw [moved]
  split <;> rfl

variable {data bytes : Bytes} {start : Int}

theorem add_span (op : Match) (h : 0 ≤ start ∧ start < data.length) :
    start + op.span data start = min (op.stop data start) data.length := by
  rw [span, stop]
  split <;> omega

theorem span_eq (op : Match) (h : 0 ≤ start ∧ start < data.length) :
    op.span data start = (min (op.stop data start) data.length - start).toNat := by
  have := add_span op h
  omega

/-- A search looks at all the bytes that its window has in the data. -/
theorem occursAt_span_iff (op : Match) (hstart : 0 ≤ start ∧ start < data.length)
    (hbytes : bytes ≠ []) {i : Nat} :
    data.OccursAt bytes start (start + op.span data start) i ↔
      data.OccursAt bytes start (op.stop data start) i := by
  rw [add_span op hstart]
  constructor
  · rintro ⟨hi, hle, hpre⟩
    exact ⟨hi, by omega, hpre⟩
  · intro h
    have hlength := h.le_length hbytes
    exact ⟨h.start_le, by have := h.le_stop; omega, h.isPrefix⟩

end Match

namespace Payload

/-- A search works in its span, and a hit moves the marks. -/
theorem search_eq (op : Match) (n : Needle) (data : Bytes) (c : Cursor) {start : Int}
    (hplace : c.place op.offset op.relative = start) :
    search op n data c =
      if 0 ≤ start ∧ start < data.length then
        (n.find? data start (op.span data start)).map (op.moved c)
      else none := by
  subst hplace
  rw [search]
  simp only [Match.span]
  split
  · cases n.find? data (c.place op.offset op.relative) _ with
    | none => rfl
    | some hit =>
      simp only [Option.map_some, Match.moved]
      split <;> rfl
  · rfl

variable {data bytes : Bytes} {c c' : Cursor} {op : Match} {out : Option Staged} {start : Int}

theorem Needle.find?_content (bytes data : Bytes) (offset : Int) (length : Nat) :
    (Needle.content bytes).find? data offset length =
      (data.find? bytes offset length).map fun i => ⟨i, i + bytes.length, i⟩ := by
  rw [Needle.find?]
  cases data.find? bytes offset length <;> rfl

/-- A literal search succeeds at the leftmost occurrence inside its window. -/
theorem search_content_eq_some_iff (hplace : c.place op.offset op.relative = start)
    (hbytes : bytes ≠ []) :
    search op (.content bytes) data c = some c' ↔
      0 ≤ start ∧ ∃ i : Nat, IsLeast { j | data.OccursAt bytes start (op.stop data start) j } i ∧
        op.moved c ⟨i, i + bytes.length, i⟩ = c' := by
  rw [search_eq op _ data c hplace]
  split
  · rename_i hstart
    have hleast (i : Nat) := data.find?_eq_some_iff hbytes hstart.1 (op.span data start) (i := i)
    simp only [Match.occursAt_span_iff op hstart hbytes] at hleast
    simp only [Needle.find?_content, Option.map_map, Option.map_eq_some_iff, Function.comp_apply,
      hleast, hstart.1, true_and]
  · rename_i hstart
    refine ⟨nofun, ?_⟩
    rintro ⟨h0, i, ⟨hocc, -⟩, -⟩
    have hlength := Bytes.OccursAt.le_length hocc hbytes
    have hle := Bytes.OccursAt.start_le hocc
    have hpos := List.length_pos_iff.2 hbytes
    omega

/-- What a jump or a search comes to: without a place to move to, it fails and keeps the marks. -/
def settle (c : Cursor) (moved : Option Cursor) : Bool × Cursor × Option Staged :=
  (moved.isSome, moved.getD c, none)

theorem settle_eq_pass {moved : Option Cursor} (h : settle c moved = (true, c', out)) :
    moved = some c' := by
  cases moved <;> cases h
  rfl

theorem settle_eq_fail {moved : Option Cursor} (h : settle c moved = (false, c', out)) :
    c' = c := by
  cases moved <;> cases h
  rfl

theorem run_byteJump (op : ByteJump) (data : Bytes) (c : Cursor) :
    (Step.byteJump op).run data c = settle c (byteJump op data c) := by
  rw [Step.run]
  cases byteJump op data c <;> rfl

theorem run_search (op : Match) (n : Needle) (data : Bytes) (c : Cursor) :
    (Step.search op n).run data c = settle c (search op n data c) := by
  rw [Step.run]
  cases search op n data c <;> rfl

/-- A literal is found at its leftmost occurrence inside the window, and only there, for a window
that does not start before the first byte. A search of a payload succeeds just where its content
stands inside its own window, and moves the main mark to the leftmost place. -/
theorem literal_found_leftmost [Pattern.Engine] :
    (∀ (data bytes : Bytes) (offset : Int) (length : Nat), bytes ≠ [] →
      (offset < 0 → data.find? bytes offset length = none) ∧
      (0 ≤ offset →
        (∀ i, data.find? bytes offset length = some i ↔
          IsLeast { j | data.OccursAt bytes offset (offset + length) j } i) ∧
        (data.find? bytes offset length = none ↔
          ∀ i, ¬ data.OccursAt bytes offset (offset + length) i))) ∧
    ∀ (fingerprint name : String) (op : Match) (bytes : Bytes),
      needle fingerprint name op = .ok (.content bytes) →
      ∀ (data : Bytes) (c : Cursor),
        let start := c.place op.offset op.relative
        let stop := if op.depth = 0 then (data.length : Int) else start + op.depth
        (((Step.search op (.content bytes)).run data c).1 = true ↔
          0 ≤ start ∧ ∃ i, data.OccursAt bytes start stop i) ∧
        ∀ c' out, (Step.search op (.content bytes)).run data c = (true, c', out) →
          ∃ i : Nat, IsLeast { j | data.OccursAt bytes start stop j } i ∧ c'.main = i := by
  refine ⟨fun data bytes offset length hbytes => ⟨fun h => Bytes.find?_of_neg hbytes h length,
    fun h => ⟨fun i => Bytes.find?_eq_some_iff hbytes h length,
      Bytes.find?_eq_none_iff hbytes h length⟩⟩, ?_⟩
  intro fingerprint name op bytes hneedle data c start stop
  have hbytes := content_ne_nil_of_needle hneedle
  have hsearch (c' : Cursor) : search op (.content bytes) data c = some c' ↔
      0 ≤ start ∧ ∃ i : Nat, IsLeast { j | data.OccursAt bytes start stop j } i ∧
        op.moved c ⟨i, i + bytes.length, i⟩ = c' := search_content_eq_some_iff rfl hbytes
  refine ⟨?_, fun c' out hrun => ?_⟩
  · rw [run_search, settle, Option.isSome_iff_exists, ← Bytes.exists_isLeast_occursAt_iff]
    simp only [hsearch]
    constructor
    · exact fun ⟨_, h0, i, hi, _⟩ => ⟨h0, i, hi⟩
    · exact fun ⟨h0, i, hi⟩ => ⟨_, h0, i, hi, rfl⟩
  · obtain ⟨-, i, hi, rfl⟩ := (hsearch c').1 (settle_eq_pass ((run_search ..).symm.trans hrun))
    exact ⟨i, hi, Match.main_moved ..⟩

/-- Looks for two bytes in the five that start one byte behind the main mark. -/
def nextPair : Match :=
  { content := some "62 63", offset := 1, depth := 5, relative := true }

def threePairs : Bytes := [0x62, 0x63, 0x61, 0x62, 0x63, 0x62, 0x63]

/-- Of three places, the second is the leftmost one behind the main mark. -/
theorem literal_found_leftmost_nextPair :
    needle "reply" "body" nextPair = .ok (.content [0x62, 0x63]) ∧
      threePairs.find? [0x62, 0x63] (-1) 9 = none ∧
      IsLeast { j | threePairs.OccursAt [0x62, 0x63] 1 6 j } 3 ∧
      (Step.search nextPair (.content [0x62, 0x63])).run threePairs {} =
        (true, { main := 3 }, none) ∧
      ∃ i : Nat, IsLeast { j | threePairs.OccursAt [0x62, 0x63] 1 6 j } i ∧ (3 : Int) = i := by
  have hneedle : needle "reply" "body" nextPair = .ok (.content [0x62, 0x63]) := rfl
  have hrun : (Step.search nextPair (.content [0x62, 0x63])).run threePairs {} =
      (true, { main := 3 }, none) := rfl
  obtain ⟨hfound, hmatch⟩ := literal_found_leftmost
  have hfirst := (hfound threePairs [0x62, 0x63] (-1) 9 (by decide)).1 (by decide)
  have hleast := ((hfound threePairs [0x62, 0x63] 1 5 (by decide)).2 (by decide)).1 3
  exact ⟨hneedle, hfirst, hleast.1 (by decide), hrun,
    (hmatch _ _ _ _ hneedle threePairs {}).2 _ _ hrun⟩

/-- Before the first byte nothing is found, even where the bytes stand between the bounds. -/
theorem not_literal_found_from_before_start :
    ¬ ∀ (data bytes : Bytes) (offset : Int) (length : Nat),
      -9223372036854775808 ≤ offset ∧ offset ≤ 9223372036854775807 → bytes ≠ [] →
      (∀ i, data.find? bytes offset length = some i ↔
        IsLeast { j | data.OccursAt bytes offset (offset + length) j } i) ∧
      (data.find? bytes offset length = none ↔
        ∀ i, ¬ data.OccursAt bytes offset (offset + length) i) := by
  intro h
  obtain ⟨-, hnone⟩ := h [0x61, 0x62, 0x63] [0x61] (-1) 3 (by decide) (by decide)
  exact hnone.1 (by decide) 0 ⟨by decide, by decide, by decide⟩

end Payload

end HostSurvey
