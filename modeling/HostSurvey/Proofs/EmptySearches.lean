import HostSurvey.Proofs.CompiledGroups
import HostSurvey.Proofs.HexText
import HostSurvey.Proofs.LiteralSearch

/-!
# Searches for nothing

A search is idle when it has no pattern and all its content is blank. Checking a
fingerprint trims the content to tell, and compiling takes the spaces out of it
and decodes what is left; `Seeks` says what a search looks for without either.
The two agree: what passes the check compiles to searches for at least one byte,
and what does not pass it does not compile.
-/

namespace HostSurvey

open FirstFault

namespace Text

theorem trim_eq_nil_iff {s : List Char} : trim s = [] ↔ ∀ c ∈ s, isBlank c = true := by
  refine ⟨fun h => ?_, fun h => ?_⟩
  · by_contra hsolid
    have hstart : trimStart s ≠ [] := by
      intro hnil
      exact hsolid (by simpa using List.dropWhile_eq_nil_iff.1 hnil)
    -- what is left in front starts with no blank, so not all of it is dropped behind
    have hhead : isBlank ((trimStart s).head hstart) = false :=
      List.head_dropWhile_not isBlank hstart
    rw [trim, trimEnd, List.reverse_eq_nil_iff, List.dropWhile_eq_nil_iff] at h
    rw [h _ (List.mem_reverse.2 (List.head_mem hstart))] at hhead
    cases hhead
  · have hstart : trimStart s = [] := List.dropWhile_eq_nil_iff.2 h
    rw [trim, hstart]
    rfl

end Text

/-- There is no pattern, and no character of the content that is not blank. -/
def Match.IsIdle (m : Match) : Prop :=
  m.pattern = none ∧ ∀ text, m.content = some text → ∀ c ∈ text.toList, Text.isBlank c = true

theorem Match.isEmpty_iff {m : Match} : m.isEmpty = true ↔ m.IsIdle := by
  unfold isEmpty IsIdle
  rw [Bool.and_eq_true, Option.isNone_iff_eq_none]
  refine and_congr_right fun _ => ?_
  cases m.content with
  | none => simp
  | some text => simp [Text.trim_eq_nil_iff]

theorem Fingerprint.hasEmptyMatch_iff {p : Payload} :
    hasEmptyMatch p = true ↔ ∃ m, .search m ∈ p.operations ∧ m.IsIdle := by
  unfold hasEmptyMatch
  rw [List.any_eq_true]
  constructor
  · rintro ⟨op, hop, h⟩
    cases op with
    | search m => exact ⟨m, hop, Match.isEmpty_iff.1 h⟩
    | _ => cases h
  · rintro ⟨m, hm, h⟩
    exact ⟨_, hm, Match.isEmpty_iff.2 h⟩

namespace Payload

variable {m : Match} {n : Needle} {fingerprint name : String} {p : Payload} {program : Program}

/-! ## What a search looks for -/

/-- A search with a pattern looks for it. Any other looks for the bytes whose hexadecimal digits its
content is but for spaces, and there is one at least. -/
inductive Seeks [Pattern.Engine] (m : Match) : Needle → Prop
  | pattern {source : String} {pattern : Pattern} (hsource : m.pattern = some source)
      (hpattern : Pattern.compile? m.noCase source = some pattern) : Seeks m (.pattern pattern)
  | content {text : String} {bytes : Bytes} (hnone : m.pattern = none)
      (htext : m.content = some text) (hne : bytes ≠ [])
      (hspells : Text.Hex.Spells (text.toList.filter (· ≠ ' ')) bytes) : Seeks m (.content bytes)

theorem literal_eq_ok_iff {text : String} {bytes : Bytes} :
    literal text = .ok bytes ↔ Text.Hex.Spells (text.toList.filter (· ≠ ' ')) bytes := by
  rw [← Text.Hex.decode_encode_eq_ok_iff]
  unfold literal
  cases Text.Hex.decode (Text.Utf8.encode (text.toList.filter (· ≠ ' '))) <;>
    simp [Except.mapError]

theorem literal_ne_emptyMatch {text a b : String} : literal text ≠ .error (.emptyMatch a b) := by
  unfold literal
  cases Text.Hex.decode (Text.Utf8.encode (text.toList.filter (· ≠ ' '))) <;>
    simp [Except.mapError]

/-- Bytes are spelt by a character that is no space, and so by one that is not blank. -/
theorem not_isIdle_of_spells {text : String} {bytes : Bytes} (htext : m.content = some text)
    (hne : bytes ≠ []) (hspells : Text.Hex.Spells (text.toList.filter (· ≠ ' ')) bytes) :
    ¬ m.IsIdle := by
  rintro ⟨-, hblank⟩
  obtain ⟨b, bytes, rfl⟩ := List.exists_cons_of_ne_nil hne
  have hdigits : ∀ d ∈ Text.Hex.lower (b :: bytes), Text.isBlank d = false := by
    have hall := List.filter_eq_self.1 (Text.Hex.filter_not_isBlank_lower (b :: bytes))
    intro d hd
    simpa using hall d hd
  unfold Text.Hex.Spells at hspells
  rw [← hspells] at hdigits
  cases hsolid : text.toList.filter (· ≠ ' ') with
  | nil =>
    rw [hsolid] at hspells
    cases hspells
  | cons c rest =>
    have hc : c ∈ text.toList.filter (· ≠ ' ') := hsolid ▸ List.mem_cons_self
    have hlower := hdigits (Text.lower c) (List.mem_map_of_mem hc)
    rw [Text.isBlank_lower, hblank text htext c (List.mem_of_mem_filter hc)] at hlower
    cases hlower

/-- A search compiles to what it looks for. -/
theorem needle_eq_ok_iff [Pattern.Engine] : needle fingerprint name m = .ok n ↔ Seeks m n := by
  constructor
  · intro h
    unfold needle at h
    split at h
    · rename_i source hsource
      split at h
      · rename_i hpattern
        cases h
        exact .pattern hsource hpattern
      · cases h
    · rename_i text hnone htext
      split at h
      · cases h
      · rename_i hfilled
        obtain ⟨bytes, hbytes, rfl⟩ := map_eq_ok_iff.1 h
        refine .content hnone htext (ne_nil_of_literal hbytes ?_) (literal_eq_ok_iff.1 hbytes)
        simpa [Match.isEmpty, hnone, htext] using hfilled
    · cases h
  · intro h
    unfold needle
    cases h with
    | pattern hsource hpattern => simp [hsource, hpattern]
    | content hnone htext hne hspells =>
      have hfilled : ¬ m.isEmpty = true := fun hempty =>
        not_isIdle_of_spells htext hne hspells (Match.isEmpty_iff.1 hempty)
      simp only [hnone, htext]
      rw [if_neg hfilled, map_eq_ok_iff]
      exact ⟨_, literal_eq_ok_iff.2 hspells, rfl⟩

/-- An idle search is the one that is refused as empty, under the names that are given. -/
theorem needle_eq_emptyMatch_iff [Pattern.Engine] {a b : String} :
    needle fingerprint name m = .error (.emptyMatch a b) ↔
      m.IsIdle ∧ a = fingerprint ∧ b = name := by
  rw [← Match.isEmpty_iff]
  unfold needle
  cases hpattern : m.pattern with
  | some source =>
    simp only [Match.isEmpty, hpattern, Option.isNone_some, Bool.false_and, Bool.false_eq_true,
      false_and, iff_false]
    intro h
    split at h <;> cases h
  | none =>
    cases hcontent : m.content with
    | none => simp [Match.isEmpty, hpattern, hcontent, eq_comm]
    | some text =>
      simp only
      split
      · rename_i hempty
        simp [hempty, eq_comm]
      · rename_i hfilled
        refine ⟨fun h => absurd (map_eq_error_iff.1 h) literal_ne_emptyMatch, fun h => ?_⟩
        exact absurd h.1 hfilled

theorem not_isIdle_of_seeks [Pattern.Engine] (h : Seeks m n) : ¬ m.IsIdle := by
  intro hidle
  have hempty : needle "" "" m = .error (.emptyMatch "" "") :=
    needle_eq_emptyMatch_iff.2 ⟨hidle, rfl, rfl⟩
  rw [needle_eq_ok_iff.2 h] at hempty
  cases hempty

/-! ## Payloads -/

theorem compileStep_eq_error_iff [Pattern.Engine] {op : Operation} {fault : RuleFault} :
    compileStep fingerprint name op = .error fault ↔
      ∃ m, op = .search m ∧ needle fingerprint name m = .error fault := by
  cases op with
  | search m => simp [compileStep, map_eq_error_iff]
  | _ => simp [compileStep]

/-- Compiling a payload is compiling its operations one by one. -/
theorem compile_eq_map [Pattern.Engine] (fingerprint : String) (p : Payload) :
    compile fingerprint p =
      (p.operations.mapM (compileStep fingerprint p.name)).map fun steps =>
        { fingerprint, name := p.name, always := p.always, steps, onMatch := p.onMatch } := by
  unfold compile
  cases p.operations.mapM (compileStep fingerprint p.name) <;> rfl

theorem compile_eq_error_iff [Pattern.Engine] {fault : RuleFault} :
    compile fingerprint p = .error fault ↔
      p.operations.mapM (compileStep fingerprint p.name) = .error fault := by
  rw [compile_eq_map, map_eq_error_iff]

/-- A payload compiles if every search in it has something to look for. -/
theorem exists_compile_eq_ok_iff [Pattern.Engine] :
    (∃ program, compile fingerprint p = .ok program) ↔
      ∀ m, .search m ∈ p.operations → ∃ n, Seeks m n := by
  have hsteps : (∃ program, compile fingerprint p = .ok program) ↔
      ∃ steps, p.operations.mapM (compileStep fingerprint p.name) = .ok steps := by
    simp [compile_eq_map, map_eq_ok_iff]
  rw [hsteps, exists_mapM_eq_ok_iff]
  constructor
  · intro h m hm
    obtain ⟨s, hs⟩ := h _ hm
    obtain ⟨n, hn, -⟩ := map_eq_ok_iff.1 hs
    exact ⟨n, needle_eq_ok_iff.1 hn⟩
  · intro h op hop
    cases op with
    | search m =>
      obtain ⟨n, hn⟩ := h m hop
      exact ⟨.search m n, map_eq_ok_iff.2 ⟨n, needle_eq_ok_iff.2 hn, rfl⟩⟩
    | _ => exact ⟨_, rfl⟩

/-- The searches of a program are those of its payload, each with what it looks for. -/
theorem seeks_of_mem_steps [Pattern.Engine] (h : compile fingerprint p = .ok program)
    (hm : .search m n ∈ program.steps) : .search m ∈ p.operations ∧ Seeks m n := by
  have hsteps := (mapM_eq_ok_iff.1 (of_compile h).1).flip
  obtain ⟨i, hi⟩ := List.mem_iff_getElem?.1 hm
  obtain ⟨op, hop, hcompile⟩ := exists_getElem?_of_forall₂ hsteps hi
  cases op with
  | search m' =>
    obtain ⟨n', hn', heq⟩ := map_eq_ok_iff.1 hcompile
    cases heq
    exact ⟨List.mem_of_getElem? hop, needle_eq_ok_iff.1 hn'⟩
  | _ => cases hcompile

theorem exists_isIdle_of_compile [Pattern.Engine] {a b : String}
    (h : compile fingerprint p = .error (.emptyMatch a b)) :
    ∃ m, .search m ∈ p.operations ∧ m.IsIdle := by
  obtain ⟨before, op, behind, hops, -, hop⟩ :=
    exists_of_mapM_eq_error (compile_eq_error_iff.1 h)
  obtain ⟨m, rfl, hm⟩ := compileStep_eq_error_iff.1 hop
  exact ⟨m, by simp [hops], (needle_eq_emptyMatch_iff.1 hm).1⟩

theorem exists_compile_eq_error [Pattern.Engine] (hm : .search m ∈ p.operations)
    (hidle : m.IsIdle) : ∃ fault, compile fingerprint p = .error fault := by
  cases hcompile : compile fingerprint p with
  | error fault => exact ⟨fault, rfl⟩
  | ok program =>
    obtain ⟨n, hn⟩ := exists_compile_eq_ok_iff.1 ⟨program, hcompile⟩ m hm
    exact absurd hidle (not_isIdle_of_seeks hn)

/-- Where nothing else is wrong with the searches, an idle one is what the fault tells of. -/
theorem compile_eq_emptyMatch [Pattern.Engine] (hm : .search m ∈ p.operations) (hidle : m.IsIdle)
    (hothers : ∀ m', .search m' ∈ p.operations → ¬ m'.IsIdle → ∃ n, Seeks m' n) :
    compile fingerprint p = .error (.emptyMatch fingerprint p.name) := by
  obtain ⟨fault, hfault⟩ : ∃ fault, compile fingerprint p = .error fault :=
    exists_compile_eq_error hm hidle
  obtain ⟨before, op, behind, hops, -, hop⟩ :=
    exists_of_mapM_eq_error (compile_eq_error_iff.1 hfault)
  obtain ⟨m', rfl, hm'⟩ := compileStep_eq_error_iff.1 hop
  have hidle' : m'.IsIdle := by
    by_contra hbusy
    obtain ⟨n, hn⟩ := hothers m' (by simp [hops]) hbusy
    rw [needle_eq_ok_iff.2 hn] at hm'
    cases hm'
  have hempty : needle fingerprint p.name m' = .error (.emptyMatch fingerprint p.name) :=
    needle_eq_emptyMatch_iff.2 ⟨hidle', rfl, rfl⟩
  rw [hm'] at hempty
  cases hempty
  exact hfault

end Payload

/-! ## Fingerprints -/

namespace Fingerprint

open Payload

variable {f : Fingerprint}

/-- The first payload with an idle search is the one that the check tells of. -/
theorem exists_first_hasEmptyMatch {p : Payload} (hp : p ∈ f.payloads)
    (hempty : hasEmptyMatch p = true) :
    ∃ before q behind, f.payloads = before ++ q :: behind ∧
      (∀ r ∈ before, hasEmptyMatch r = false) ∧ hasEmptyMatch q = true ∧
      f.check = .error (.emptyMatch f.name q.name) := by
  have hcheck (q : Payload) : f.checkPayload q = .ok () ↔ hasEmptyMatch q = false := by
    simp [checkPayload]
  cases hpayloads : f.payloads.forM f.checkPayload with
  | ok u =>
    have hnone := (hcheck p).1 (forM_eq_ok_iff.1 hpayloads p hp)
    rw [hempty] at hnone
    cases hnone
  | error fault =>
    obtain ⟨before, q, behind, hsplit, hbefore, hq⟩ := forM_eq_error_iff.1 hpayloads
    have hq' : hasEmptyMatch q = true ∧ fault = .emptyMatch f.name q.name := by
      unfold checkPayload at hq
      split at hq
      · rename_i h
        cases hq
        exact ⟨h, rfl⟩
      · cases hq
    refine ⟨before, q, behind, hsplit, fun r hr => (hcheck r).1 (hbefore r hr), hq'.1, ?_⟩
    show (f.payloads.forM f.checkPayload >>= fun _ => f.filters.forM f.checkGroup) = _
    rw [hpayloads, hq'.2]
    rfl

/-- A fingerprint that passes its check has programs that look for something: a payload of it is
never refused as empty, it compiles as soon as its patterns and digits are in order, and a literal
search in its program looks for the bytes of its content, of which there are some. A payload with an
idle search fails both the check of its fingerprint and compiling. -/
theorem check_agrees_with_compile [Pattern.Engine] (f : Fingerprint) :
    (f.check = .ok () → ∀ p ∈ f.payloads,
      (∀ a b, compile f.name p ≠ .error (.emptyMatch a b)) ∧
      ((∃ program, compile f.name p = .ok program) ↔
        ∀ m, .search m ∈ p.operations → ∃ n, Seeks m n) ∧
      ∀ program, compile f.name p = .ok program →
        ∀ m bytes, .search m (.content bytes) ∈ program.steps →
          .search m ∈ p.operations ∧ bytes ≠ [] ∧
          (∃ text, m.pattern = none ∧ m.content = some text ∧
            Text.Hex.Spells (text.toList.filter (· ≠ ' ')) bytes) ∧
          ∀ (data : Bytes) offset length, data.find? bytes offset length =
            (Bytes.indexOf? bytes (data.window offset length)).map (· + offset.toNat)) ∧
    ∀ p ∈ f.payloads, ∀ m, .search m ∈ p.operations → m.IsIdle →
      (∃ before q behind, f.payloads = before ++ q :: behind ∧
        (∀ r ∈ before, ∀ m, .search m ∈ r.operations → ¬ m.IsIdle) ∧
        (∃ m, .search m ∈ q.operations ∧ m.IsIdle) ∧
        f.check = .error (.emptyMatch f.name q.name)) ∧
      (∃ fault, compile f.name p = .error fault) ∧
      ((∀ m, .search m ∈ p.operations → ¬ m.IsIdle → ∃ n, Seeks m n) →
        compile f.name p = .error (.emptyMatch f.name p.name)) := by
  refine ⟨fun hcheck p hp => ?_, fun p hp m hm hidle => ?_⟩
  · have hnone := (check_eq_ok_iff.1 hcheck).1 p hp
    refine ⟨fun a b hempty => ?_, exists_compile_eq_ok_iff, fun program hcompile m bytes hm => ?_⟩
    · rw [hasEmptyMatch_iff.2 (exists_isIdle_of_compile hempty)] at hnone
      cases hnone
    · obtain ⟨hop, hseeks⟩ := seeks_of_mem_steps hcompile hm
      cases hseeks with
      | content hpattern htext hne hspells =>
        refine ⟨hop, hne, ⟨_, hpattern, htext, hspells⟩, fun data offset length => ?_⟩
        exact if_neg (by simpa using hne)
  · obtain ⟨before, q, behind, hsplit, hbefore, hq, hcheck⟩ :=
      exists_first_hasEmptyMatch hp (hasEmptyMatch_iff.2 ⟨m, hm, hidle⟩)
    refine ⟨⟨before, q, behind, hsplit, fun r hr m' hm' hidle' => ?_, hasEmptyMatch_iff.1 hq,
      hcheck⟩, exists_compile_eq_error hm hidle, compile_eq_emptyMatch hm hidle⟩
    have hnone := hbefore r hr
    rw [hasEmptyMatch_iff.2 ⟨m', hm', hidle'⟩] at hnone
    cases hnone

/-- A literal search with spaces between its digits. -/
def spacedSearch : Match := { content := some " 6 3 0A " }

/-- The content is a no-break space and a tab. -/
def paddingSearch : Match := { content := some "\u00A0\t" }

def identity : Payload :=
  { name := "identity", operations := [.isDataAt { offset := 4 }, .search spacedSearch] }

def padding : Payload :=
  { name := "padding", operations := [.isDataAt { offset := 4 }, .search paddingSearch] }

def listIdentity : Fingerprint := { name := "EtherNet/IP", payloads := [identity] }

def paddedIdentity : Fingerprint := { name := "EtherNet/IP", payloads := [identity, padding] }

def identityProgram : Program :=
  { fingerprint := "EtherNet/IP"
    name := "identity"
    always := []
    steps := [.isDataAt { offset := 4 }, .search spacedSearch (.content [0x63, 0x0A])]
    onMatch := none }

/-- The one search looks for two bytes, the other one is refused twice. -/
theorem check_agrees_with_compile_padded :
    listIdentity.check = .ok () ∧ compile "EtherNet/IP" identity = .ok identityProgram ∧
      (Operation.search spacedSearch ∈ identity.operations ∧ [0x63, 0x0A] ≠ ([] : Bytes) ∧
        ∃ text, spacedSearch.content = some text ∧
          Text.Hex.Spells (text.toList.filter (· ≠ ' ')) [0x63, 0x0A]) ∧
      paddingSearch.IsIdle ∧
      (∃ fault, compile "EtherNet/IP" padding = .error fault) ∧
      ∃ q, paddedIdentity.check = .error (.emptyMatch "EtherNet/IP" q) := by
  have hcheck : listIdentity.check = .ok () := rfl
  have hcompile : compile "EtherNet/IP" identity = .ok identityProgram := rfl
  have hidle : paddingSearch.IsIdle := Match.isEmpty_iff.1 (by decide)
  obtain ⟨hop, hne, ⟨text, -, htext, hspells⟩, -⟩ :=
    ((check_agrees_with_compile listIdentity).1 hcheck identity List.mem_cons_self).2.2
      identityProgram hcompile spacedSearch [0x63, 0x0A] (by simp [identityProgram])
  obtain ⟨⟨_, q, _, -, -, -, hrefused⟩, hfault, -⟩ :=
    (check_agrees_with_compile paddedIdentity).2 padding (by simp [paddedIdentity]) paddingSearch
      (by simp [padding]) hidle
  exact ⟨hcheck, hcompile, ⟨hop, hne, text, htext, hspells⟩, hidle, hfault, q.name, hrefused⟩

end Fingerprint

end HostSurvey
