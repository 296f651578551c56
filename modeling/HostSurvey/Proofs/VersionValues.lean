import HostSurvey.Proofs.UntoldOutput
import HostSurvey.Proofs.VersionLines

/-!
# What is known of the version of a device

Lines that tell of the version settle what is known. A version, a serial number
and an image that were known stay, and otherwise the first line counts that
tells one. The last line that names the model counts before all else, and a
platform counts only where no model is known. What is settled stays so when the
same lines are read again.
-/

namespace HostSurvey.Version

/-! ## First and last lines -/

namespace Line

def version? : Line → Option String
  | .software _ version => some version
  | _ => none

def platform? : Line → Option String
  | .software platform _ => some platform
  | _ => none

def model? : Line → Option String
  | .model name => some name
  | _ => none

def serial? : Line → Option String
  | .serial number => some number
  | _ => none

def image? : Line → Option String
  | .image file => some file
  | _ => none

end Line

section Values

variable (value? : Line → Option String) (lines : List (List Char)) (known : Option String)

/-- The line tells a value of this kind. -/
def TellsValue (line : List Char) (v : String) : Prop := ∃ l, Tells line l ∧ value? l = some v

/-- The first line that tells a value of this kind tells `v`. -/
def IsFirst (v : String) : Prop :=
  ∃ before line behind, lines = before ++ line :: behind ∧ TellsValue value? line v ∧
    ∀ l ∈ before, ∀ w, ¬ TellsValue value? l w

/-- The last line that tells a value of this kind tells `v`. -/
def IsLast (v : String) : Prop :=
  ∃ before line behind, lines = before ++ line :: behind ∧ TellsValue value? line v ∧
    ∀ l ∈ behind, ∀ w, ¬ TellsValue value? l w

/-- The value is the one that was known, or the first one that is told. -/
def IsKept (v : String) : Prop := known = some v ∨ known = none ∧ IsFirst value? lines v

end Values

section Values

variable {value? : Line → Option String} {lines : List (List Char)} {known : Option String}
  {line : List Char} {v : String}

theorem tellsValue_iff : (Line.parse? line).bind value? = some v ↔ TellsValue value? line v := by
  simp only [Option.bind_eq_some_iff, parse?_eq_some_iff, TellsValue]

theorem not_tellsValue_iff :
    (Line.parse? line).bind value? = none ↔ ∀ w, ¬ TellsValue value? line w := by
  simp only [Option.eq_none_iff_forall_ne_some, Ne, tellsValue_iff]

theorem isFirst_iff :
    lines.findSome? (fun line => (Line.parse? line).bind value?) = some v ↔
      IsFirst value? lines v := by
  simp only [List.findSome?_eq_some_iff, tellsValue_iff, not_tellsValue_iff, IsFirst]

/-- The last line comes first when the lines are read from the end. -/
theorem isFirst_reverse_iff : IsFirst value? lines.reverse v ↔ IsLast value? lines v := by
  constructor
  · rintro ⟨before, line, behind, hlines, hline, hnone⟩
    refine ⟨behind.reverse, line, before.reverse, ?_, hline, by simpa using hnone⟩
    rw [List.reverse_eq_iff] at hlines
    simp [hlines]
  · rintro ⟨before, line, behind, rfl, hline, hnone⟩
    exact ⟨behind.reverse, line, before.reverse, by simp, hline, by simpa using hnone⟩

theorem forall_not_tellsValue_iff :
    lines.findSome? (fun line => (Line.parse? line).bind value?) = none ↔
      ∀ line ∈ lines, ∀ w, ¬ TellsValue value? line w := by
  simp only [List.findSome?_eq_none_iff, not_tellsValue_iff]

end Values

/-! ## What is settled -/

/-- What is known after `told`, one after another. -/
def settle (told : List Line) (v : VersionInfo) : VersionInfo where
  version := v.version.or (told.findSome? Line.version?)
  model := (told.reverse.findSome? Line.model?).or (v.model.or (told.findSome? Line.platform?))
  serial := v.serial.or (told.findSome? Line.serial?)
  image := v.image.or (told.findSome? Line.image?)

section Settle

variable (l : Line) (told : List Line) (v : VersionInfo)

theorem keep_eq_or (known : Option String) (value : String) :
    keep known value = known.or (some value) := by
  cases known <;> rfl

theorem apply_eq_settle : l.apply v = settle [l] v := by
  cases l <;> simp [Line.apply, settle, keep_eq_or, Line.version?, Line.platform?, Line.model?,
    Line.serial?, Line.image?]

theorem settle_append (told' : List Line) :
    settle (told ++ told') v = settle told' (settle told v) := by
  simp [settle, List.findSome?_append, Option.or_assoc]

/-- Lines settle the values one by one. -/
theorem foldl_apply : told.foldl Line.apply v = settle told v := by
  induction told generalizing v with
  | nil => simp [settle]
  | cons l told ih =>
    rw [List.foldl_cons, ih, apply_eq_settle, ← settle_append, List.singleton_append]

/-- What is settled is not changed by telling it again. -/
theorem settle_settle : settle told (settle told v) = settle told v := by
  have hkept (known first : Option String) : (known.or first).or first = known.or first := by
    rw [Option.or_assoc, Option.or_self]
  have hmodel (last known first : Option String) :
      last.or ((last.or (known.or first)).or first) = last.or (known.or first) := by
    cases last with
    | some name => rfl
    | none => exact hkept known first
  simp only [settle, hkept, hmodel]

end Settle

theorem findSome?_filterMap {value? : Line → Option String} (lines : List (List Char)) :
    (lines.filterMap Line.parse?).findSome? value? =
      lines.findSome? fun line => (Line.parse? line).bind value? := by
  induction lines with
  | nil => rfl
  | cons line lines ih =>
    rw [List.filterMap_cons, List.findSome?_cons, ← ih]
    cases Line.parse? line with
    | none => rfl
    | some l => rfl

section Read

variable {value? : Line → Option String} {lines : List (List Char)} {known : Option String}
  {v : String}

theorem kept_iff :
    known.or ((lines.filterMap Line.parse?).findSome? value?) = some v ↔
      IsKept value? lines known v := by
  rw [Option.or_eq_some_iff, findSome?_filterMap, isFirst_iff, IsKept]

theorem last_iff :
    (lines.filterMap Line.parse?).reverse.findSome? value? = some v ↔ IsLast value? lines v := by
  rw [← List.filterMap_reverse, findSome?_filterMap, isFirst_iff, isFirst_reverse_iff]

theorem last_eq_none_iff :
    (lines.filterMap Line.parse?).reverse.findSome? value? = none ↔
      ∀ line ∈ lines, ∀ w, ¬ TellsValue value? line w := by
  rw [← List.filterMap_reverse, findSome?_filterMap, forall_not_tellsValue_iff]
  simp only [List.mem_reverse]

theorem read_eq (lines : List (List Char)) (d : Device) :
    read lines d =
      (!(lines.filterMap Line.parse?).isEmpty,
        { d with version := settle (lines.filterMap Line.parse?) d.version }) := by
  rw [← foldl_apply]
  rfl

end Read

/-- The version, the serial number and the image that were known stay, and otherwise the first line
counts that tells one. The last line that names the model tells it; without one the known model
stays, and without that the first platform counts. Nothing else of the device changes, and nothing
at all when the same lines are read again. -/
theorem read_settles (lines : List (List Char)) (d : Device) :
    let after := (read lines d).2
    (∀ v, after.version.version = some v ↔ IsKept Line.version? lines d.version.version v) ∧
    (∀ v, after.version.serial = some v ↔ IsKept Line.serial? lines d.version.serial v) ∧
    (∀ v, after.version.image = some v ↔ IsKept Line.image? lines d.version.image v) ∧
    (∀ v, after.version.model = some v ↔
      IsLast Line.model? lines v ∨
        (∀ line ∈ lines, ∀ w, ¬ TellsValue Line.model? line w) ∧
          IsKept Line.platform? lines d.version.model v) ∧
    after = { d with version := after.version } ∧
    ((read lines d).1 = true ↔ ∃ line ∈ lines, ∃ l, Tells line l) ∧
    read lines after = read lines d := by
  intro after
  have hafter : after = { d with version := settle (lines.filterMap Line.parse?) d.version } :=
    congrArg Prod.snd (read_eq lines d)
  refine ⟨fun v => ?_, fun v => ?_, fun v => ?_, fun v => ?_, by rw [hafter], ?_, ?_⟩
  · rw [hafter, ← kept_iff]
    rfl
  · rw [hafter, ← kept_iff]
    rfl
  · rw [hafter, ← kept_iff]
    rfl
  · rw [hafter, ← kept_iff, ← last_iff, ← last_eq_none_iff, ← Option.or_eq_some_iff]
    rfl
  · rw [read_tellsOn.told_iff]
    simp only [HasLine, Option.isSome_iff_exists, parse?_eq_some_iff]
  · rw [read_eq lines after, hafter]
    simp only [settle_settle]
    exact (read_eq lines d).symm

example :
    (read (["Cisco IOS Software, C3750E Software (C3750E-UNIVERSALK9-M), Version 15.0(2)SE4",
      "System image file is \"flash:/c3750e.bin\"",
      "cisco WS-C3750X-48P (PowerPC405) processor (revision A0) with 262144K bytes of memory.",
      "Processor board ID FDO1234X0AB", "Model number        : WS-C3750X-48P-S",
      "System serial number            : FDO1234X0AC"].map String.toList)
      (.blank "sw1")).2.version =
      { version := "15.0(2)SE4", model := "WS-C3750X-48P-S", serial := "FDO1234X0AB",
        image := "flash:/c3750e.bin" } := by
  decide +kernel

end HostSurvey.Version
