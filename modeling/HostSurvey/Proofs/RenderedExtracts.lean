import HostSurvey.Proofs.Execution
import HostSurvey.Proofs.LateBinding
import HostSurvey.Proofs.RenderedBytes

/-!
# What a last extract reads as

An extract turns its slice round for the little order and stores it with a way
of rendering, and only reading renders it. Both together give the number, the
UUID or the digits that the slice has in the payload in its own order. The last
operation of a program is followed by nothing but the finding of a success, so
its extract is what is read if this finding does not write the name.
-/

namespace HostSurvey

/-- Two digits of an alphabet for each byte, high half first. -/
def Text.Hex.spell (alphabet : String) (s : Bytes) : String :=
  String.ofList (s.flatMap fun b =>
    [alphabet.toList.getD (b.toNat / 16) '0', alphabet.toList.getD (b.toNat % 16) '0'])

namespace Content

open Bytes Text.Hex

variable {s : Bytes}

theorem ofList_flatMap_pair {ten : Nat} {alphabet : String}
    (hdigit : ∀ n < 16, digit ten n = alphabet.toList.getD n '0') (s : Bytes) :
    String.ofList (s.flatMap (pair ten)) = spell alphabet s := by
  rw [spell, String.ofList_inj]
  congr 1
  funext b
  have hbyte := b.toNat_lt
  rw [pair, hdigit _ (by omega), hdigit _ (by omega)]

theorem hexText_eq (s : Bytes) : hexText s = spell "0123456789ABCDEF" s :=
  ofList_flatMap_pair (by decide) s

theorem hyphenated_eq (groups : List Bytes) :
    hyphenated groups = String.intercalate "-" (groups.map (spell "0123456789abcdef")) := by
  have hlower (g : Bytes) : String.ofList (lower g) = spell "0123456789abcdef" g :=
    ofList_flatMap_pair (by decide) g
  simp only [hyphenated, hlower]

/-- The reversal of a little-endian slice and its rendering as a number cancel. -/
theorem render_integer_arrange (e : Endian) (h : 0 < s.length ∧ s.length ≤ 16) :
    render .integer e (e.arrange s) =
      toString (twosComplement s.length (e.value s)) := by
  have hlength := e.length_arrange s
  rw [render, signedValue?_of_fits (by rwa [hlength]), hlength, e.value_arrange,
    ← integerText_eq]
  rfl

/-- Turning a UUID round and then its first three groups turns only these groups round. -/
theorem uuidBytes_little_reverse {a b g : Bytes} (ha : a.length = 4) (hb : b.length = 2)
    (hg : g.length = 2) (d : Bytes) :
    uuidBytes .little (a ++ b ++ g ++ d).reverse =
      a.reverse ++ b.reverse ++ g.reverse ++ d := by
  simp (disch := omega) [uuidBytes, List.drop_append, List.drop_eq_nil_of_le, ha, hb]

theorem uuidGroups_append {a b g d e : Bytes}
    (h : [a, b, g, d].map List.length = [4, 2, 2, 2]) :
    uuidGroups (a ++ b ++ g ++ d ++ e) = [a, b, g, d, e] := by
  simp only [List.map_cons, List.map_nil, List.cons.injEq, and_true] at h
  obtain ⟨ha, hb, hg, hd⟩ := h
  simp (disch := omega) [uuidGroups, List.drop_append, List.drop_eq_nil_of_le, ha, hb, hg]

/-- A slice of sixteen bytes is read as a UUID in the order of its bytes, or with its first three
groups in the little order. -/
theorem render_uuid_arrange (e : Endian) {a b g d rest : Bytes}
    (h : [a, b, g, d, rest].map List.length = [4, 2, 2, 2, 6]) :
    render .uuid e (e.arrange (a ++ b ++ g ++ d ++ rest)) =
      match e with
      | .big => hyphenated [a, b, g, d, rest]
      | .little => hyphenated [a.reverse, b.reverse, g.reverse, d, rest] := by
  simp only [List.map_cons, List.map_nil, List.cons.injEq, and_true] at h
  obtain ⟨ha, hb, hg, hd, hrest⟩ := h
  have hlength : (e.arrange (a ++ b ++ g ++ d ++ rest)).length = 16 := by
    simp [ha, hb, hg, hd, hrest]
  rw [render, if_pos hlength, uuidText_eq]
  cases e with
  | big => exact congrArg hyphenated (uuidGroups_append (by simp [ha, hb, hg, hd]))
  | little =>
    have hbytes := uuidBytes_little_reverse ha hb hg (d ++ rest)
    rw [← List.append_assoc, ← List.append_assoc] at hbytes
    rw [Endian.arrange, hbytes]
    exact congrArg hyphenated (uuidGroups_append (by simp [ha, hb, hg, hd]))

end Content

/-! ## The last operation -/

namespace Payload

open Content Bytes

variable {data : Bytes} {c c' : Cursor} {staged : List Staged} {op : Extract}

/-- A run of steps is a run of the first ones and then one of the rest. -/
theorem Succeeds.exists_of_append {steps behind : List Step}
    (h : Succeeds data (steps ++ behind) c staged c') :
    ∃ earlier later c₁, Succeeds data steps c earlier c₁ ∧ Succeeds data behind c₁ later c' ∧
      staged = earlier ++ later := by
  induction steps generalizing c staged with
  | nil => exact ⟨[], staged, c, .nil c, h, rfl⟩
  | cons s steps ih =>
    cases h with
    | pass hkind hs hrest =>
      obtain ⟨earlier, later, c₁, hearlier, hlater, rfl⟩ := ih hrest
      exact ⟨earlier, later, c₁, .pass hkind hs hearlier, hlater, rfl⟩
    | empty hnone hrest =>
      obtain ⟨earlier, later, c₁, hearlier, hlater, rfl⟩ := ih hrest
      exact ⟨earlier, later, c₁, .empty hnone hearlier, hlater, rfl⟩
    | extract hne hrest =>
      obtain ⟨earlier, later, c₁, hearlier, hlater, rfl⟩ := ih hrest
      exact ⟨_ :: earlier, later, c₁, .extract hne hearlier, hlater, rfl⟩

/-- An extract leaves the cursor and stages what it finds. -/
theorem Succeeds.of_extract (h : Succeeds data [.extract op] c staged c') :
    c' = c ∧ staged =
      if found op data c = [] then [] else [⟨op.name, found op data c, op.convert, op.endian⟩] := by
  cases h with
  | pass hkind => exact absurd rfl (hkind op)
  | empty hnone hrest =>
    cases hrest
    exact ⟨rfl, (if_pos hnone).symm⟩
  | extract hne hrest =>
    cases hrest
    exact ⟨rfl, (if_neg hne).symm⟩

theorem found_eq_nil_iff : found op data c = [] ↔
    data.extract (op.start.resolve data c) (op.stop.resolve data c) op.maxLength = [] := by
  rw [found]
  cases op.endian with
  | big => rfl
  | little => exact List.reverse_eq_nil_iff

/-- A program that succeeds with an extract as its last operation has staged it behind all others,
if there are bytes in the slice. -/
theorem exists_of_run_extract {p : Program} {before : List Step} {host host' : HostProfile}
    (hsteps : p.steps = before ++ [.extract op]) (hrun : p.run data c host = (true, c', host')) :
    ∃ earlier, Succeeds data before c earlier c' ∧
      host' = p.succeed (earlier ++ if found op data c' = [] then []
        else [⟨op.name, found op data c', op.convert, op.endian⟩]) (p.begin host) := by
  obtain ⟨staged, c₂, hs⟩ | ⟨c₂, hf⟩ := succeeds_or_failsAt data p.steps c
  · rw [hs.run] at hrun
    cases hrun
    rw [hsteps] at hs
    obtain ⟨earlier, later, c₁, hearlier, hlater, rfl⟩ := hs.exists_of_append
    obtain ⟨rfl, rfl⟩ := hlater.of_extract
    exact ⟨earlier, hearlier, rfl⟩
  · rw [hf.run] at hrun
    cases hrun

theorem read_of_pending {m : Attributes} {key : String} {slot : Slot} {raw : Pending}
    (h : m.find? key = some slot) (hraw : slot.raw = some raw) :
    (m.read key).1 = some raw.text := by
  rw [Attributes.read, h]
  simp [Slot.resolve, hraw]

/-- The value staged last waits to be rendered, unless the finding of the success has its name. -/
theorem find?_succeed_concat {p : Program} {s : Staged}
    (hkept : ∀ f ∈ p.onMatch, f.details.find? s.name = none) (earlier : List Staged)
    (host : HostProfile) :
    (p.succeed (earlier ++ [s]) host).attributes.find? s.name =
      some { value := (host.attributes.find? s.name).bind Slot.value, raw := some s.pending } := by
  have hfinding : (p.onMatch.bind fun f => f.details.find? s.name) = none := by
    rw [Option.bind_eq_none_iff]
    exact hkept
  rw [find?_succeed, hfinding, List.reverse_append]
  simp

/-- Reading the name of a last extract renders what it found. -/
theorem read_of_run_extract {p : Program} {before : List Step} {host host' : HostProfile}
    (hsteps : p.steps = before ++ [.extract op]) (hrun : p.run data c host = (true, c', host'))
    (hkept : ∀ f ∈ p.onMatch, f.details.find? op.name = none) (hne : found op data c' ≠ []) :
    (host'.attributes.read op.name).1 =
      some (op.convert.render op.endian (found op data c')) := by
  obtain ⟨earlier, -, rfl⟩ := exists_of_run_extract hsteps hrun
  let last : Staged := ⟨op.name, found op data c', op.convert, op.endian⟩
  rw [if_neg hne]
  exact read_of_pending (find?_succeed_concat (s := last) hkept earlier (p.begin host)) rfl

/-- A last extract without bytes leaves the program as if it were not there. Otherwise its name
reads as the number, the UUID or the digits of the slice in the payload, in the extract's order; the
marks are those that the program leaves, since an extract moves none. -/
theorem read_last_extract {p : Program} {before : List Step}
    (hsteps : p.steps = before ++ [.extract op])
    (hkept : ∀ f ∈ p.onMatch, f.details.find? op.name = none) {host host' : HostProfile}
    (hrun : p.run data c host = (true, c', host')) :
    let w := data.extract (op.start.resolve data c') (op.stop.resolve data c') op.maxLength
    let text := (host'.attributes.read op.name).1
    (w = [] → Program.run { p with steps := before } data c host = (true, c', host')) ∧
    (w ≠ [] →
      (op.convert = .integer → w.length ≤ 16 →
        text = some (toString (twosComplement w.length (op.endian.value w)))) ∧
      (op.convert = .uuid → ∀ a b g d rest, w = a ++ b ++ g ++ d ++ rest →
        [a, b, g, d, rest].map List.length = [4, 2, 2, 2, 6] →
        text = some (String.intercalate "-" ((match op.endian with
          | .big => [a, b, g, d, rest]
          | .little => [a.reverse, b.reverse, g.reverse, d, rest]).map
            (Text.Hex.spell "0123456789abcdef")))) ∧
      (op.convert = .hex ∨ op.convert = .integer ∧ 16 < w.length ∨
          op.convert = .uuid ∧ w.length ≠ 16 →
        text = some (Text.Hex.spell "0123456789ABCDEF" (op.endian.arrange w)))) := by
  intro w text
  have hfound : found op data c' = op.endian.arrange w := rfl
  refine ⟨fun hempty => ?_, fun hw => ?_⟩
  · obtain ⟨earlier, hearlier, rfl⟩ := exists_of_run_extract hsteps hrun
    rw [if_pos (found_eq_nil_iff.2 hempty), List.append_nil]
    exact Succeeds.run (p := { p with steps := before }) hearlier host
  · have htext : text = some (op.convert.render op.endian (op.endian.arrange w)) :=
      read_of_run_extract hsteps hrun hkept (mt found_eq_nil_iff.1 hw)
    have hlength := op.endian.length_arrange w
    have hpos := List.length_pos_iff.2 hw
    refine ⟨fun hconvert hfits => ?_, fun hconvert a b g d rest hsplit hgroups => ?_,
      fun hhex => ?_⟩
    · rw [htext, hconvert, render_integer_arrange _ ⟨hpos, hfits⟩]
    · rw [htext, hconvert, hsplit, render_uuid_arrange _ hgroups]
      cases op.endian <;> exact congrArg some (hyphenated_eq _)
    · have hdigits : op.convert.render op.endian (op.endian.arrange w) =
          hexText (op.endian.arrange w) := by
        obtain hconvert | ⟨hconvert, hlong⟩ | ⟨hconvert, hother⟩ := hhex
        · rw [hconvert, render]
        · rw [hconvert]
          exact render_of_not_represents (c := .integer) (by simp only [Represents]; omega) _
        · rw [hconvert]
          exact render_of_not_represents (c := .uuid) (by simp only [Represents]; omega) _
      rw [htext, hdigits, hexText_eq]

/-- A program that skips as many bytes as the first one tells and then extracts. -/
def skipping (op : Extract) : Program :=
  { fingerprint := "Controller", name := "label", always := [],
    steps := [.byteJump { bytes := 1, relative := true }, .extract op],
    onMatch := none }

def labelled : Bytes :=
  [1, 0xFE, 0xFF, 0x22, 0x33, 0x44, 0x55, 0x66, 0x77,
   0x88, 0x99, 0xAA, 0xBB, 0xCC, 0xDD, 0xEE, 0x0F]

theorem run_skipping (op : Extract) : (skipping op).run labelled .origin .blank =
    (true, { start := 0, main := 1, stop := 0 },
      ((skipping op).run labelled .origin .blank).2.2) := rfl

/-- The sixteen bytes behind the first one as a UUID, the first two of them as a number, and all
seventeen, which are too many for a number. -/
theorem read_last_extract_labelled :
    let guid : Extract := { name := "id", start := .position .cursorMain, stop := .offset 17,
                            endian := .little, convert := .uuid }
    let unit : Extract := { name := "unit", start := .position .cursorMain, stop := .offset 3,
                            endian := .little, convert := .integer }
    let whole : Extract := { name := "whole", stop := .position .endOfPayload,
                             endian := .little, convert := .integer }
    let text (op : Extract) :=
      (((skipping op).run labelled .origin .blank).2.2.attributes.read op.name).1
    text guid = some "3322fffe-5544-7766-8899-aabbccddee0f" ∧ text unit = some "-2" ∧
      text whole = some "0FEEDDCCBBAA9988776655443322FFFE01" := by
  intro guid unit whole text
  have hread (op : Extract) :=
    read_last_extract (show (skipping op).steps = [_] ++ [.extract op] from rfl)
      (by simp [skipping]) (run_skipping op)
  have hguid := ((hread guid).2 (by decide)).2.1 rfl [0xFE, 0xFF, 0x22, 0x33] [0x44, 0x55]
    [0x66, 0x77] [0x88, 0x99] _ rfl rfl
  have hunit := ((hread unit).2 (by decide)).1 rfl (by decide)
  have hwhole := ((hread whole).2 (by decide)).2.2 (.inr (.inl ⟨rfl, by decide⟩))
  exact ⟨hguid.trans (by decide), hunit.trans (by decide), hwhole.trans (by decide)⟩

/-- Without bytes nothing is stored, though a number of no bytes has digits, none at all. -/
theorem not_read_last_extract_empty : ¬ ∀ (p : Program) (before : List Step) (op : Extract)
    (data : Bytes) (c c' : Cursor) (host host' : HostProfile), p.steps = before ++ [.extract op] →
    (∀ f ∈ p.onMatch, f.details.find? op.name = none) → p.run data c host = (true, c', host') →
    let w := data.extract (op.start.resolve data c') (op.stop.resolve data c') op.maxLength
    op.convert = .integer → w.length = 0 ∨ 16 < w.length →
      (host'.attributes.read op.name).1 =
        some (Text.Hex.spell "0123456789ABCDEF" (op.endian.arrange w)) := by
  intro h
  let tail : Extract := { name := "tail", stop := .offset 0, convert := .integer }
  let p : Program :=
    { fingerprint := "Controller", name := "label", always := [], steps := [.extract tail],
      onMatch := none }
  have hread := h p [] tail [1] .origin .origin .blank _ rfl (by simp [p]) rfl rfl (.inl rfl)
  exact absurd hread (by decide)

end Payload

end HostSurvey
