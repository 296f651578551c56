import HostSurvey.Proofs.Execution
import HostSurvey.Proofs.MachineWords

/-!
# Operations stay inside the payload

The operations of a payload take marks and offsets anywhere in 64 bits. Done
with the words and slices of `MachineWords`, none of them faults, and they give
what `Step.run` gives (`Machine.run_eq`, `Machine.execute_eq`). What succeeds
has read bytes that are there: a jump lands inside the payload, and a hit of a
search lies inside its window.
-/

namespace HostSurvey

open Rule

/-! ## Marks of 64 bits -/

structure Cursor.InRange (c : Cursor) : Prop where
  start : IsOffset c.start
  main : IsOffset c.main
  stop : IsOffset c.stop

namespace Cursor

theorem isOffset_place {offset : Int} (h : IsOffset offset) (c : Cursor) (relative : Bool) :
    IsOffset (c.place offset relative) := by
  rw [place]
  split
  · exact isOffset_saturate _
  · exact h

namespace InRange

variable {c : Cursor}

theorem set (hc : c.InRange) {n : Int} (hn : IsOffset n) (m : Mark) : (c.set m n).InRange := by
  cases m with
  | start => exact ⟨hn, hc.main, hc.stop⟩
  | main => exact ⟨hc.start, hn, hc.stop⟩
  | stop => exact ⟨hc.start, hc.main, hn⟩

theorem forward (hc : c.InRange) (n : Int) : (c.forward n).InRange :=
  ⟨hc.start, isOffset_saturate _, hc.stop⟩

end InRange

end Cursor

/-! ## Bytes that are there -/

namespace Bytes

variable {data : Bytes} {offset : Int}

/-- The `n` bytes from `offset` on are all there. -/
def Reaches (data : Bytes) (offset : Int) (n : Nat) : Prop := 0 ≤ offset ∧ offset + n ≤ data.length

/-- A window that is as long as was asked for has all its bytes. -/
theorem reaches_of_le_length_window {n : Nat} (hpos : 0 < n)
    (h : n ≤ (data.window offset n).length) : data.Reaches offset n := by
  have hremaining := data.length_window_le_remaining offset n
  have hoffset : 0 ≤ offset := by
    by_contra hneg
    rw [window, if_pos (by omega), List.length_nil] at h
    omega
  exact ⟨hoffset, by omega⟩

end Bytes

namespace Payload

variable {data : Bytes} {c c' : Cursor} {out : Option Staged}

/-- The bytes that a number is read from: none or too many stand for four. -/
def wanted (bytes : Nat) : Nat := if bytes = 0 ∨ 4 < bytes then 4 else bytes

theorem reaches_of_readNumber {offset : Int} {bytes number : Nat} {e : Endian}
    (h : readNumber data offset bytes e = some number) : data.Reaches offset (wanted bytes) := by
  have hwanted : (if bytes = 0 then 4 else min bytes 4) = wanted bytes := by
    rw [wanted]
    split <;> split <;> omega
  have hpos : 0 < wanted bytes := by
    rw [wanted]
    split <;> omega
  simp only [readNumber, hwanted] at h
  split at h
  · cases h
  · exact Bytes.reaches_of_le_length_window hpos (by omega)

/-! ## Hits inside their windows -/

/-- The main mark moves behind the hit of a pattern and to the start of a literal. -/
def Needle.mark (n : Needle) (hit : Found) : Int :=
  match n with
  | .pattern _ => hit.stop
  | .content _ => hit.start

/-- A hit lies in order inside the window from `start` up to `stop`. -/
structure Found.Within (hit : Found) (start stop : Int) : Prop where
  start_le : start ≤ hit.start
  ordered : hit.start ≤ hit.stop
  le_stop : hit.stop ≤ stop

theorem Needle.within_of_find? {n : Needle} {start : Int} {length : Nat} {hit : Found}
    (h : n.find? data start length = some hit) :
    hit.Within start (start + length) ∧ hit.main = n.mark hit := by
  cases n with
  | pattern p =>
    obtain ⟨inner, -, rfl⟩ := Option.map_eq_some_iff.1 h
    have horder := inner.start_le_stop
    have hinside := inner.stop_le_size
    have hwindow := data.length_window_le start length
    exact ⟨⟨by simp only; omega, by simp only; omega, by simp only; omega⟩, rfl⟩
  | content bytes =>
    rw [Needle.find?_content] at h
    obtain ⟨i, hi, rfl⟩ := Option.map_eq_some_iff.1 h
    have hbytes : bytes ≠ [] := by
      rintro rfl
      cases hi
    have hstart : 0 ≤ start := by
      by_contra hneg
      rw [Bytes.find?_of_neg hbytes (by omega)] at hi
      cases hi
    obtain ⟨hocc, -⟩ := (Bytes.find?_eq_some_iff hbytes hstart length).1 hi
    exact ⟨⟨hocc.start_le, by simp only; omega, hocc.le_stop⟩, rfl⟩

/-! ## What the operations do to the marks -/

/-- A jump that succeeds has read its number and lands inside the payload. -/
theorem byteJump_eq_some {op : ByteJump} (h : byteJump op data c = some c') :
    (0 ≤ c'.main ∧ c'.main < data.length) ∧ (c'.start = c.start ∧ c'.stop = c.stop) ∧
      data.Reaches (c.place op.offset op.relative) (wanted op.bytes) := by
  obtain ⟨length, hread, h⟩ := Option.bind_eq_some_iff.1 h
  obtain ⟨hinside, h⟩ := Option.ite_none_right_eq_some.1 h
  cases h
  exact ⟨hinside, ⟨rfl, rfl⟩, reaches_of_readNumber hread⟩

theorem reaches_of_byteTest {op : ByteTest} (h : (byteTest op data c).1 = true) :
    data.Reaches (c.place op.offset op.relative) (wanted op.bytes) := by
  rw [byteTest] at h
  split at h
  · cases h
  · rename_i hread
    exact reaches_of_readNumber hread

/-- A search that succeeds has a hit inside its window, and moves the marks to it. -/
theorem search_eq_some {op : Match} {n : Needle} {start : Int}
    (hplace : c.place op.offset op.relative = start) (h : search op n data c = some c') :
    (0 ≤ start ∧ start < data.length) ∧
      ∃ hit, n.find? data start (op.span data start) = some hit ∧
        hit.Within start (min (op.stop data start) data.length) ∧ hit.main = n.mark hit ∧
        op.moved c hit = c' := by
  rw [search_eq op n data c hplace] at h
  split at h
  · rename_i hstart
    obtain ⟨hit, hhit, hc'⟩ := Option.map_eq_some_iff.1 h
    obtain ⟨hwithin, hmark⟩ := Needle.within_of_find? hhit
    rw [Match.add_span op hstart] at hwithin
    exact ⟨hstart, hit, hhit, hwithin, hmark, hc'⟩
  · cases h

theorem Needle.isOffset_mark {n : Needle} {hit : Found} (hstart : IsOffset hit.start)
    (hstop : IsOffset hit.stop) : IsOffset (n.mark hit) := by
  cases n with
  | pattern => exact hstop
  | content => exact hstart

theorem Found.Within.isOffset {hit : Found} {start : Int} (hdata : data.IsHeld) (hstart : 0 ≤ start)
    {stop : Int} (h : hit.Within start (min stop data.length)) :
    IsOffset hit.start ∧ IsOffset hit.stop := by
  obtain ⟨hle, hordered, hend⟩ := h
  simp only [Bytes.IsHeld] at hdata
  simp only [IsOffset]
  omega

/-! ## Ranges -/

/-- The operation that a step was compiled from. -/
def Step.operation : Step → Operation
  | .anchor op => .anchor op
  | .byteJump op => .byteJump op
  | .byteTest op => .byteTest op
  | .isDataAt op => .isDataAt op
  | .search op _ => .search op
  | .extract op => .extract op

theorem Step.operation_of_compileStep [Pattern.Engine] {fingerprint name : String}
    {op : Operation} {s : Step} (h : compileStep fingerprint name op = .ok s) :
    s.operation = op := by
  cases op with
  | search op =>
    obtain ⟨n, -, rfl⟩ := FirstFault.map_eq_ok_iff.1 h
    rfl
  | _ =>
    cases h
    rfl

/-- Every step keeps the marks in their range. -/
theorem Step.inRange_run {s : Step} {data : Bytes} {c : Cursor} (hdata : data.IsHeld) (hc : c.InRange)
    (hs : IsWritable s.operation) : (s.run data c).2.1.InRange := by
  cases s with
  | anchor op =>
    refine hc.set ?_ op.cursor
    split
    · exact isOffset_saturate _
    · split
      · exact isOffset_saturate _
      · exact hs
  | byteJump op =>
    rw [run_byteJump]
    cases hjump : Payload.byteJump op data c with
    | none => exact hc
    | some c' =>
      obtain ⟨hmain, hkept, -⟩ := byteJump_eq_some hjump
      simp only [Bytes.IsHeld] at hdata
      have htarget : IsOffset c'.main := ⟨by omega, by omega⟩
      exact ⟨hkept.1 ▸ hc.start, htarget, hkept.2 ▸ hc.stop⟩
  | byteTest op =>
    simp only [Step.run, Payload.byteTest]
    split
    · exact hc
    · simp only
      split
      · exact hc
      · exact hc.forward _
  | isDataAt op => exact hc
  | search op n =>
    rw [run_search]
    cases hsearch : Payload.search op n data c with
    | none => exact hc
    | some c' =>
      -- a hit lies inside the payload, whose addresses all fit
      obtain ⟨hstart, hit, -, hwithin, hmark, rfl⟩ := search_eq_some rfl hsearch
      obtain ⟨hfirst, hlast⟩ := hwithin.isOffset hdata hstart.1
      have hmain : IsOffset hit.main := hmark ▸ Needle.isOffset_mark hfirst hlast
      simp only [Match.moved]
      split
      · exact ⟨hfirst, hmain, hlast⟩
      · exact ⟨hc.start, hmain, hc.stop⟩
  | extract op => exact hc

end Payload

/-! ## Operations with machine words -/

namespace Machine

open Payload (Needle Found Staged Step settle)

def resolve (p : Position) (data : Bytes) (c : Cursor) : Checked Int :=
  match p with
  | .startOfPayload => .ok 0
  | .endOfPayload => signed data.length
  | .cursorStart => .ok c.start
  | .cursorMain => .ok c.main
  | .cursorEnd => .ok c.stop

def resolveBound (b : Bound) (data : Bytes) (c : Cursor) : Checked Int :=
  match b with
  | .position p => resolve p data c
  | .offset n => .ok n

def anchor (op : Anchor) (data : Bytes) (c : Cursor) : Checked Cursor :=
  if op.relative then .ok (c.set op.cursor (saturate (c.main + op.offset)))
  else
    match op.position with
    | some p => do return c.set op.cursor (saturate ((← resolve p data c) + op.offset))
    | none => .ok (c.set op.cursor op.offset)

def readNumber (data : Bytes) (offset : Int) (bytes : Nat) (e : Endian) : Checked (Option Nat) := do
  let length := if bytes = 0 then 4 else min bytes 4
  let read ← window data offset length
  if read.length < length then return none
  return some (← number data offset length e)

def byteJump (op : ByteJump) (data : Bytes) (c : Cursor) : Checked (Option Cursor) := do
  match ← readNumber data (c.place op.offset op.relative) op.bytes op.endian with
  | none => return none
  | some length =>
    let distance := saturate (length + op.postOffset)
    let target := if op.relative then saturate (c.main + distance) else distance
    let last ← signed data.length
    return if 0 ≤ target ∧ target < last then some { c with main := target } else none

def byteTest (op : ByteTest) (data : Bytes) (c : Cursor) : Checked (Bool × Cursor) := do
  match ← readNumber data (c.place op.offset op.relative) op.bytes op.endian with
  | none => return (false, c)
  | some input =>
    return (op.test.holds input op.value, if op.postOffset = 0 then c else c.forward op.postOffset)

def isDataAt (op : IsDataAt) (data : Bytes) (c : Cursor) : Checked Bool := do
  let offset := c.place op.offset op.relative
  let last ← signed data.length
  return 0 ≤ offset && offset < last

/-- The places of a pattern's hit are counted from the window, those of a literal's from the first
byte of the data. -/
def hit (n : Needle) (data : Bytes) (offset : Int) (length : Nat) : Checked (Option Found) :=
  match n with
  | .pattern p => do
    match p.find? (← window data offset length) with
    | none => return none
    | some hit =>
      let start ← signed (offset + (← signed hit.start))
      let stop ← signed (offset + (← signed hit.stop))
      return some ⟨start, stop, stop⟩
  | .content bytes => do
    match ← find? data bytes offset length with
    | none => return none
    | some i =>
      let start ← signed i
      let stop ← signed (start + (← signed bytes.length))
      return some ⟨start, stop, start⟩

def search (op : Match) (n : Needle) (data : Bytes) (c : Cursor) : Checked (Option Cursor) := do
  let offset := c.place op.offset op.relative
  let last ← signed data.length
  if 0 ≤ offset ∧ offset < last then
    let start ← unsigned offset
    let remaining ← unsigned (data.length - start)
    let length := if op.depth = 0 then remaining else min op.depth remaining
    return (← hit n data offset length).map (op.moved c)
  else return none

def extracted (op : Extract) (data : Bytes) (c : Cursor) : Checked (Option Staged) := do
  let start ← resolveBound op.start data c
  let stop ← resolveBound op.stop data c
  let bytes := op.endian.arrange (← extract data start stop op.maxLength)
  return if bytes.isEmpty then none
    else some { name := op.name, bytes, convert := op.convert, endian := op.endian }

def run (s : Step) (data : Bytes) (c : Cursor) : Checked (Bool × Cursor × Option Staged) :=
  match s with
  | .anchor op => do return (true, ← anchor op data c, none)
  | .byteJump op => do return settle c (← byteJump op data c)
  | .byteTest op => do
    let (ok, c) ← byteTest op data c
    return (ok, c, none)
  | .isDataAt op => do return (← isDataAt op data c, c, none)
  | .search op n => do return settle c (← search op n data c)
  | .extract op => do return (true, c, ← extracted op data c)

def execute (data : Bytes) :
    List Step → Cursor → List Staged → Checked (Bool × Cursor × List Staged)
  | [], c, staged => .ok (true, c, staged)
  | s :: steps, c, staged => do
    match ← run s data c with
    | (false, c, _) => return (false, c, staged)
    | (true, c, out) => execute data steps c (staged ++ out.toList)

variable {data : Bytes} {c : Cursor}

theorem resolve_eq (hdata : data.IsHeld) (p : Position) (c : Cursor) :
    resolve p data c = .ok (p.resolve data c) := by
  cases p with
  | endOfPayload => exact signed_eq_ok (isOffset_length hdata)
  | _ => rfl

theorem resolveBound_eq (hdata : data.IsHeld) (b : Bound) (c : Cursor) :
    resolveBound b data c = .ok (b.resolve data c) := by
  cases b with
  | position p => exact resolve_eq hdata p c
  | offset n => rfl

theorem anchor_eq (hdata : data.IsHeld) (op : Anchor) (c : Cursor) :
    anchor op data c = .ok (Payload.anchor op data c) := by
  rw [anchor, Payload.anchor]
  split
  · rfl
  · cases op.position with
    | none => rfl
    | some p =>
      simp only
      rw [resolve_eq hdata]
      rfl

theorem readNumber_eq (hdata : data.IsHeld) {offset : Int} (hoffset : IsOffset offset)
    (bytes : Nat) (e : Endian) :
    readNumber data offset bytes e = .ok (Payload.readNumber data offset bytes e) := by
  rw [readNumber, Payload.readNumber, window_eq hdata hoffset, ok_bind, number_eq hdata hoffset]
  generalize (if bytes = 0 then 4 else min bytes 4) = length
  split <;> rfl

theorem byteJump_eq (hdata : data.IsHeld) {op : ByteJump} (hoffset : IsOffset op.offset)
    (c : Cursor) : byteJump op data c = .ok (Payload.byteJump op data c) := by
  rw [byteJump, Payload.byteJump, readNumber_eq hdata (c.isOffset_place hoffset _), ok_bind]
  cases Payload.readNumber data (c.place op.offset op.relative) op.bytes op.endian with
  | none => rfl
  | some length =>
    simp only
    rw [signed_eq_ok (isOffset_length hdata)]
    rfl

theorem byteTest_eq (hdata : data.IsHeld) {op : ByteTest} (hoffset : IsOffset op.offset)
    (c : Cursor) : byteTest op data c = .ok (Payload.byteTest op data c) := by
  rw [byteTest, Payload.byteTest, readNumber_eq hdata (c.isOffset_place hoffset _), ok_bind]
  cases Payload.readNumber data (c.place op.offset op.relative) op.bytes op.endian <;> rfl

theorem isDataAt_eq (hdata : data.IsHeld) (op : IsDataAt) (c : Cursor) :
    isDataAt op data c = .ok (Payload.isDataAt op data c) := by
  rw [isDataAt, signed_eq_ok (isOffset_length hdata)]
  rfl

/-- The marks of a hit inside the data fit their words. -/
theorem hit_eq (hdata : data.IsHeld) {start : Int} {length : Nat}
    (hwindow : 0 ≤ start ∧ start + length ≤ data.length) (n : Needle) :
    hit n data start length = .ok (n.find? data start length) := by
  have hheld := hdata
  simp only [Bytes.IsHeld] at hheld
  have hstart : IsOffset start := ⟨by omega, by omega⟩
  cases n with
  | pattern p =>
    rw [hit, window_eq hdata hstart, ok_bind, Needle.find?]
    cases p.find? (data.window start length) with
    | none => rfl
    | some inner =>
      have horder := inner.start_le_stop
      have hinside := inner.stop_le_size
      have hlength := data.length_window_le start length
      have hfits {m : Nat} (hm : m ≤ inner.stop) : IsOffset m ∧ IsOffset (start + m) :=
        ⟨⟨by omega, by omega⟩, by omega, by omega⟩
      simp only
      rw [signed_eq_ok (hfits horder).1, ok_bind, signed_eq_ok (hfits horder).2, ok_bind,
        signed_eq_ok (hfits le_rfl).1, ok_bind, signed_eq_ok (hfits le_rfl).2]
      rfl
  | content bytes =>
    have hfound := Needle.find?_content bytes data start length
    rw [hit, find?_eq hdata hstart, ok_bind, hfound]
    cases hi : data.find? bytes start length with
    | none => rfl
    | some i =>
      -- the sums are places of a hit that is known to lie inside the window
      rw [hi] at hfound
      obtain ⟨⟨hle, hordered, hstop⟩, -⟩ := Payload.Needle.within_of_find? hfound
      simp only at hle hordered hstop
      have hfirst : IsOffset i := ⟨by omega, by omega⟩
      have hbytes : IsOffset bytes.length := ⟨by omega, by omega⟩
      have hlast : IsOffset (i + bytes.length) := ⟨by omega, by omega⟩
      simp only
      rw [signed_eq_ok hfirst, ok_bind, signed_eq_ok hbytes, ok_bind, signed_eq_ok hlast]
      rfl

theorem search_eq (hdata : data.IsHeld) {op : Match} (n : Needle) (c : Cursor) :
    search op n data c = .ok (Payload.search op n data c) := by
  rw [search, Payload.search_eq op n data c rfl, signed_eq_ok (isOffset_length hdata), ok_bind]
  simp only
  split
  · rename_i hstart
    have hend := Match.add_span op hstart
    have hremaining : ((data.length : Int) - (c.place op.offset op.relative).toNat).toNat =
        data.length - (c.place op.offset op.relative).toNat := by omega
    simp only [Bytes.IsHeld] at hdata
    rw [unsigned_eq_ok (by omega), ok_bind, unsigned_eq_ok (by omega), ok_bind, hremaining,
      ← Match.span, hit_eq hdata ⟨hstart.1, by omega⟩]
    rfl
  · rfl

theorem extracted_eq (hdata : data.IsHeld) (op : Extract) (c : Cursor) :
    extracted op data c = .ok (Payload.extract op data c) := by
  rw [extracted, Payload.extract, resolveBound_eq hdata, ok_bind, resolveBound_eq hdata, ok_bind,
    extract_eq hdata]
  rfl

/-- A step with machine words does not fault, and does what the step does. -/
theorem run_eq (hdata : data.IsHeld) {s : Step} (hs : IsWritable s.operation) (c : Cursor) :
    run s data c = .ok (s.run data c) := by
  cases s with
  | anchor op =>
    rw [run, anchor_eq hdata]
    rfl
  | byteJump op =>
    rw [run, byteJump_eq hdata hs.1, Payload.run_byteJump]
    rfl
  | byteTest op =>
    rw [run, byteTest_eq hdata hs.2.1]
    rfl
  | isDataAt op =>
    rw [run, isDataAt_eq hdata]
    rfl
  | search op n =>
    rw [run, search_eq hdata, Payload.run_search]
    rfl
  | extract op =>
    rw [run, extracted_eq hdata]
    rfl

/-- No step of a program faults, up to the first that fails. -/
theorem execute_eq (hdata : data.IsHeld) {steps : List Step}
    (hsteps : ∀ s ∈ steps, IsWritable s.operation) (c : Cursor) (staged : List Staged) :
    execute data steps c staged = .ok (Payload.execute data steps c staged) := by
  induction steps generalizing c staged with
  | nil => rfl
  | cons s steps ih =>
    rw [List.forall_mem_cons] at hsteps
    rw [execute, run_eq hdata hsteps.1, ok_bind, Payload.execute]
    rcases s.run data c with ⟨_ | _, c', out⟩
    · rfl
    · exact ih hsteps.2 c' _

end Machine

namespace Payload

variable {data : Bytes} {c c' : Cursor} {out : Option Staged}

theorem writable_of_compile [Pattern.Engine] {fingerprint : String} {a : Payload} {p : Program}
    (h : compile fingerprint a = .ok p) (hops : ∀ op ∈ a.operations, IsWritable op) :
    ∀ s ∈ p.steps, IsWritable s.operation := by
  have hsteps := FirstFault.mapM_eq_ok_iff.1 (of_compile h).1
  generalize a.operations = ops at hops hsteps
  generalize p.steps = steps at hsteps
  induction hsteps with
  | nil => simp
  | cons hs _ ih =>
    rw [List.forall_mem_cons] at hops ⊢
    exact ⟨Step.operation_of_compileStep hs ▸ hops.1, ih hops.2⟩

/-- Marks stay in their range as long as a program runs. -/
theorem inRange_execute (hdata : data.IsHeld) {steps : List Step}
    (hsteps : ∀ s ∈ steps, IsWritable s.operation) (hc : c.InRange) (staged : List Staged) :
    (execute data steps c staged).2.1.InRange := by
  induction steps generalizing c staged with
  | nil => exact hc
  | cons s steps ih =>
    rw [List.forall_mem_cons] at hsteps
    have hnext := Step.inRange_run hdata hc hsteps.1
    rw [execute]
    rcases hs : s.run data c with ⟨_ | _, c', out⟩
    · rw [hs] at hnext
      exact hnext
    · rw [hs] at hnext
      exact ih hsteps.2 hnext _

/-- No operation faults, whatever its numbers and the marks are in 64 bits, and what succeeds has
found its bytes inside the payload, or inside the window of a search. -/
theorem operations_stay_inside [Pattern.Engine] :
    (∀ (data : Bytes) (c : Cursor), data.IsHeld → c.InRange →
      (∀ s : Step, IsWritable s.operation →
        Machine.run s data c = .ok (s.run data c) ∧ (s.run data c).2.1.InRange) ∧
      ∀ (fingerprint : String) (a : Payload) (p : Program), compile fingerprint a = .ok p →
        (∀ op ∈ a.operations, IsWritable op) →
        Machine.execute data p.steps c [] = .ok (execute data p.steps c []) ∧
          (execute data p.steps c []).2.1.InRange) ∧
    ∀ (data : Bytes) (c c' : Cursor) (out : Option Staged),
      (∀ op : ByteJump,
        ((Step.byteJump op).run data c = (true, c', out) →
          (0 ≤ c'.main ∧ c'.main < data.length) ∧
            data.Reaches (c.place op.offset op.relative) (wanted op.bytes)) ∧
        ((Step.byteJump op).run data c = (false, c', out) → c' = c)) ∧
      (∀ op : ByteTest, (Step.byteTest op).run data c = (true, c', out) →
        data.Reaches (c.place op.offset op.relative) (wanted op.bytes)) ∧
      ∀ (op : Match) (n : Needle),
        let start := c.place op.offset op.relative
        let stop := min (if op.depth = 0 then (data.length : Int) else start + op.depth) data.length
        ((Step.search op n).run data c = (true, c', out) →
          (0 ≤ start ∧ start < data.length) ∧
          ∃ hit, n.find? data start (stop - start).toNat = some hit ∧
            (start ≤ hit.start ∧ hit.start ≤ hit.stop ∧ hit.stop ≤ stop) ∧
            c'.main = n.mark hit ∧
            (op.moveCursor = true → c'.start = hit.start ∧ c'.stop = hit.stop) ∧
            (op.moveCursor = false → c'.start = c.start ∧ c'.stop = c.stop)) ∧
        ((Step.search op n).run data c = (false, c', out) → c' = c) := by
  refine ⟨fun data c hdata hc => ⟨?steps, ?programs⟩, fun data c c' out =>
    ⟨fun op => ⟨?jumped, ?stayed⟩, ?tested, fun op n => ⟨?found, ?missed⟩⟩⟩
  case steps => exact fun s hs => ⟨Machine.run_eq hdata hs c, Step.inRange_run hdata hc hs⟩
  case programs =>
    intro fingerprint a p hp hops
    have hsteps := writable_of_compile hp hops
    exact ⟨Machine.execute_eq hdata hsteps c [], inRange_execute hdata hsteps hc []⟩
  case jumped =>
    intro h
    rw [run_byteJump] at h
    obtain ⟨hmain, -, hread⟩ := byteJump_eq_some (settle_eq_pass h)
    exact ⟨hmain, hread⟩
  case stayed =>
    intro h
    rw [run_byteJump] at h
    exact settle_eq_fail h
  case tested => exact fun op h => reaches_of_byteTest (congrArg (·.1) h)
  case found =>
    intro h
    rw [run_search] at h
    obtain ⟨hstart, hit, hhit, hwithin, hmark, rfl⟩ := search_eq_some rfl (settle_eq_pass h)
    rw [Match.span_eq op hstart] at hhit
    refine ⟨hstart, hit, hhit, ⟨hwithin.start_le, hwithin.ordered, hwithin.le_stop⟩, ?_,
      fun hmove => ?_, fun hmove => ?_⟩
    · rw [Match.main_moved, hmark]
    · simp [Match.moved, hmove]
    · simp [Match.moved, hmove]
  case missed =>
    intro h
    rw [run_search] at h
    exact settle_eq_fail h

/-! ## Marks at the ends of their range -/

/-- A number of four bytes, and texts behind it. -/
def record : Bytes := [0, 0, 0, 2, 0x61, 0x62, 0x63, 0x62]

def farMarks : Cursor :=
  { start := -9223372036854775808, main := 9223372036854775807, stop := 9223372036854775807 }

/-- Reads the number at the first byte, counted from the greatest address, and jumps behind it. -/
def farJump : ByteJump :=
  { offset := -9223372036854775807, relative := true, postOffset := -9223372036854775805 }

def widePair : Match :=
  { content := some "62 63", depth := 18446744073709551615, relative := true, moveCursor := true }

def markedByte : ByteTest := { test := .eq, value := 0x62, relative := true, bytes := 1 }

def farPayload : Payload :=
  { operations := [.byteJump farJump, .search widePair, .byteTest markedByte] }

def farProgram : Program :=
  { fingerprint := "far", name := "", always := [], onMatch := none,
    steps := [.byteJump farJump, .search widePair (.content [0x62, 0x63]), .byteTest markedByte] }

/-- The jump lands behind the number, the search finds the pair behind it and moves all marks, and
the test reads the byte there. -/
theorem operations_stay_inside_farMarks :
    let jumped : Cursor := { farMarks with main := 4 }
    let found : Cursor := { start := 5, main := 5, stop := 7 }
    (Machine.run (.byteJump farJump) record farMarks = .ok (true, jumped, none) ∧
      jumped.InRange ∧ (0 ≤ jumped.main ∧ jumped.main < 8) ∧ record.Reaches 0 4) ∧
    (Machine.execute record farProgram.steps farMarks [] = .ok (true, found, []) ∧
      found.InRange) ∧
    (∃ hit, (Needle.content [0x62, 0x63]).find? record 4 4 = some hit ∧
      (4 ≤ hit.start ∧ hit.start ≤ hit.stop ∧ hit.stop ≤ 8) ∧ found.main = hit.start ∧
      found.start = hit.start ∧ found.stop = hit.stop) ∧
    record.Reaches 5 1 := by
  intro jumped found
  obtain ⟨hwords, hinside⟩ := operations_stay_inside
  obtain ⟨hstep, hprogram⟩ :=
    hwords record farMarks (by decide) ⟨by decide, by decide, by decide⟩
  have hcompile : compile "far" farPayload = .ok farProgram := rfl
  have hjump := hstep (.byteJump farJump) (by decide)
  have hrun := hprogram "far" farPayload farProgram hcompile (by decide)
  have hlanded := ((hinside record farMarks jumped none).1 farJump).1 rfl
  obtain ⟨-, hit, hhit, hbounds, hmain, hmoved, -⟩ :=
    ((hinside record jumped found none).2.2 widePair (.content [0x62, 0x63])).1 rfl
  have hread := (hinside record found found none).2.1 markedByte rfl
  exact ⟨⟨hjump.1, hjump.2, hlanded⟩, hrun, ⟨hit, hhit, hbounds, hmain, hmoved rfl⟩, hread⟩

end Payload

end HostSurvey
