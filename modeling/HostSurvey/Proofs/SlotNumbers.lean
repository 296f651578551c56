import HostSurvey.Proofs.ExportedTree

/-!
# Ports by slot number

The name of a port is a type and numbers with slashes between them. With two or
three numbers the port is exported under its type, with module, slot and port; with
one number or none it is a management interface under its whole name, and so is
every dotted name, whatever its numbers are.
-/

namespace HostSurvey

open Text TraitTree

namespace Text

/-- Of a text without blanks at its end nothing is trimmed there. -/
theorem trim_append_of_unbroken (s : List Char) {rest : List Char} (hrest : Unbroken rest)
    (hne : rest ≠ []) : trim (s ++ rest) = trimStart s ++ rest := by
  have hstart : trimStart (s ++ rest) = trimStart s ++ rest := by
    rw [trimStart, List.dropWhile_append]
    split
    · rename_i hblank
      rw [trimStart, List.isEmpty_iff.1 hblank]
      exact trimStart_eq_self fun c hc => hrest c (List.mem_of_mem_head? hc)
    · rfl
  rw [trim, hstart]
  refine trimEnd_eq_self fun c hc => hrest c ?_
  rw [List.getLast?_append_of_ne_nil _ hne] at hc
  exact List.mem_of_getLast? hc

end Text

namespace Interface

/-- There is no digit in the text. -/
def Digitless (s : List Char) : Prop := ∀ c ∈ s, isDigit c = false

instance (s : List Char) : Decidable (Digitless s) := List.decidableBAll _ s

/-- Digits that write a number of 31 bits. -/
structure IsNumber (w : List Char) : Prop where
  nonempty : w ≠ []
  fits : Decimal.Fits w

instance (w : List Char) : Decidable (IsNumber w) :=
  decidable_of_iff (w ≠ [] ∧ Decimal.Fits w) ⟨fun h => ⟨h.1, h.2⟩, fun h => ⟨h.nonempty, h.fits⟩⟩

/-- Numbers with slashes between them. -/
def slashed (numbers : List (List Char)) : List Char := ['/'].intercalate numbers

variable {kind rest w : List Char} {numbers : List (List Char)}

theorem IsNumber.digits (h : IsNumber w) : ∀ c ∈ w, isDigit c = true := by
  intro c hc
  have hascii := List.all_eq_true.1 h.fits.1 c hc
  exact isDigit_of_ascii (by simpa [isAsciiDigit] using hascii)

/-! ## Type and numbers -/

/-- A type is split from what begins with a digit. -/
theorem split?_append (hkind : Digitless kind) (hrest : Unbroken rest)
    (hdigit : ∃ d s, rest = d :: s ∧ isDigit d = true) :
    split? (kind ++ rest) =
      if trim kind ≠ [] ∧ isNumbering rest = true then some (trim kind, rest) else none := by
  obtain ⟨d, s, rfl, hd⟩ := hdigit
  have hstart : ∀ c ∈ trimStart kind, (!isDigit c) = true := fun c hc => by
    rw [hkind c (List.dropWhile_subset _ hc)]
    rfl
  have hstop : ∀ c ∈ (d :: s).head?, (!isDigit c) = false := by simp [hd]
  obtain ⟨htake, hdrop⟩ := span_append hstart hstop
  unfold split?
  rw [trim_append_of_unbroken kind hrest (List.cons_ne_nil d s)]
  simp only [htake, hdrop, Bool.and_eq_true, Bool.not_eq_true', List.isEmpty_eq_false_iff]
  rfl

/-- A text without a digit has no number. -/
theorem split?_of_digitless (hkind : Digitless kind) : split? kind = none := by
  have hdrop : (trim kind).dropWhile (fun c => !isDigit c) = [] := by
    refine List.dropWhile_eq_nil_iff.2 fun c hc => ?_
    rw [hkind c (mem_of_mem_trim hc)]
    rfl
  unfold split?
  simp only [hdrop]
  rw [if_neg (by simp [isNumbering])]

theorem isNumbering_slashed (hnumbers : ∀ w ∈ numbers, IsNumber w) (hne : numbers ≠ []) :
    isNumbering (slashed numbers) = true := by
  obtain ⟨w, ws, rfl⟩ := List.exists_cons_of_ne_nil hne
  have hfields : fields (· == '/') (slashed (w :: ws)) = w :: ws := by
    refine fields_intercalate (by decide) fun v hv c hc => ?_
    have hslash : isDigit '/' = false := by decide
    rw [Bool.eq_false_iff]
    intro heq
    rw [beq_iff_eq.1 heq] at hc
    rw [(hnumbers v hv).digits _ hc] at hslash
    cases hslash
  unfold isNumbering
  rw [hfields, List.all_eq_true]
  intro v hv
  have hdigits : v.all isDigit = true := List.all_eq_true.2 (hnumbers v hv).digits
  simp [hdigits, (hnumbers v hv).nonempty]

theorem tokens_slashed (hnumbers : ∀ w ∈ numbers, IsNumber w) :
    tokens (fun c => !isDigit c) (slashed numbers) = numbers := by
  refine tokens_intercalate (by decide) fun w hw => ⟨(hnumbers w hw).nonempty, fun c hc => ?_⟩
  rw [(hnumbers w hw).digits c hc]
  rfl

theorem unbroken_of_isNumbering {s : List Char} (h : isNumbering s = true) : Unbroken s := by
  intro c hc
  have hchar := isDigitOrSlash_of_isNumbering h hc
  rw [isDigitOrSlash, Bool.or_eq_true] at hchar
  obtain hdigit | hslash := hchar
  · exact isBlank_of_isDigit hdigit
  · rw [beq_iff_eq.1 hslash]
    decide

/-- A number begins with a digit. -/
theorem exists_cons_of_isNumbering {s : List Char} (h : isNumbering s = true) :
    ∃ d t, s = d :: t ∧ isDigit d = true := by
  cases s with
  | nil => simp [isNumbering] at h
  | cons d t =>
    refine ⟨d, t, rfl, ?_⟩
    have hchar := isDigitOrSlash_of_isNumbering h List.mem_cons_self
    rw [isDigitOrSlash, Bool.or_eq_true] at hchar
    obtain hdigit | hslash := hchar
    · exact hdigit
    · -- before a slash there would be an empty group
      rw [beq_iff_eq.1 hslash] at h
      simp [isNumbering, fields] at h

end Interface

namespace Port

variable {p : Port} {kind : List Char} {numbers : List (List Char)}

open Interface

theorem slots?_of_slashed (hkind : Digitless kind) (hnumbers : ∀ w ∈ numbers, IsNumber w)
    (hne : numbers ≠ []) (hname : p.name.toList = kind ++ slashed numbers) :
    p.slots? = if trim kind = [] then none
      else (placement? (slashed numbers)).map (trim kind, ·) := by
  have hnumbering := isNumbering_slashed hnumbers hne
  rw [slots?, hname, split?_append hkind (unbroken_of_isNumbering hnumbering)
    (exists_cons_of_isNumbering hnumbering)]
  by_cases hblank : trim kind = []
  · rw [if_pos hblank, if_neg fun h => h.1 hblank]
    rfl
  · rw [if_neg hblank, if_pos ⟨hblank, hnumbering⟩]
    rfl

/-- A dot is in no number, so a dotted name has no slot. -/
theorem slots?_of_dotted {sub : List Char} (hkind : Digitless kind)
    (hnumbers : ∀ w ∈ numbers, IsNumber w) (hne : numbers ≠ []) (hsub : IsNumber sub)
    (hname : p.name.toList = kind ++ (slashed numbers ++ '.' :: sub)) : p.slots? = none := by
  have hnumbering := isNumbering_slashed hnumbers hne
  have hunbroken : Unbroken (slashed numbers ++ '.' :: sub) := by
    refine List.forall_mem_append.2 ⟨unbroken_of_isNumbering hnumbering, ?_⟩
    refine List.forall_mem_cons.2 ⟨by decide, fun c hc => ?_⟩
    exact isBlank_of_isDigit (hsub.digits c hc)
  have hdigit : ∃ d s, slashed numbers ++ '.' :: sub = d :: s ∧ isDigit d = true := by
    obtain ⟨d, s, hs, hd⟩ := exists_cons_of_isNumbering hnumbering
    exact ⟨d, s ++ '.' :: sub, by rw [hs]; rfl, hd⟩
  have hdotted : isNumbering (slashed numbers ++ '.' :: sub) ≠ true := by
    intro h
    have hdot := isDigitOrSlash_of_isNumbering h (List.mem_append_right _ (List.mem_cons_self ..))
    cases (by decide : isDigitOrSlash '.' = false).symm.trans hdot
  rw [slots?, hname, split?_append hkind hunbroken hdigit, if_neg fun h => hdotted h.2]
  rfl

theorem slots?_of_digitless (hkind : Digitless kind) (hname : p.name.toList = kind) :
    p.slots? = none := by
  rw [slots?, hname, split?_of_digitless hkind]
  rfl

end Port

/-! ## Ports in their nodes -/

/-- The traits of the parts of a port's number. -/
def numberKeys : List Trait := [.interfaceModule, .interfaceSlot, .interfaceId, .subInterfaceId]

/-- A node that tells the parts of a number and no further part. -/
structure TraitTree.NumberedBy (t : TraitTree) (parts : List (Trait × List Char)) : Prop where
  numbers : ∀ part ∈ parts, t.number? part.1 = some (Decimal.value part.2 : Int)
  others : ∀ key ∈ numberKeys, key ∉ parts.map Prod.fst → t.contains key = false

namespace Port

variable {p : Port} {kind : List Char} {parts : List (Trait × List Char)}

open Interface

/-- A port that is exported under its type, with the parts of its number. -/
def ToldInSlots (p : Port) (kind : List Char) (parts : List (Trait × List Char)) : Prop :=
  ∃ t, p.toTree = .ok t ∧ t.identity = .interfaceListEntry ∧
    t.text? .interfaceName = some (String.ofList kind) ∧ t.NumberedBy parts

/-- A port that is exported as a management interface under its whole name, without a number. -/
def ToldWhole (p : Port) : Prop :=
  ∃ t, p.toTree = .ok t ∧ t.identity = .managementInterfaceEntry ∧
    t.text? .interfaceName = some (trimmed p.name) ∧ t.NumberedBy []

/-- Besides the parts of its number nothing in a port's node looks like one. -/
theorem not_contains_node {key : Trait} (hkey : key ∈ numberKeys)
    (hparts : key ∉ p.parts.map Prod.fst) : p.node.contains key = false := by
  rw [Bool.eq_false_iff]
  intro hcontains
  have hmem := (p.madeOf_node.holds key).1 hcontains
  rw [known_nodeFields, known, List.mem_append, List.mem_cons] at hmem
  obtain hpart | hname | hfield := hmem
  · obtain ⟨part, hpart, heq⟩ := List.mem_map.1 hpart
    exact hparts (List.mem_map.2 ⟨part, hpart, (Prod.mk.inj heq).1⟩)
  · cases hname
    exact absurd hkey (by decide)
  · have hknown : key ∈ p.knownFields.map Prod.fst := List.mem_map.2 ⟨_, hfield, rfl⟩
    have hapart : ∀ k ∈ numberKeys, k ∉ fieldKeys := by decide
    exact hapart key hkey hknown

theorem toldInSlots_of_slots? (hslots : p.slots? = some (trim kind, parts))
    (hfits : ∀ part ∈ parts, Decimal.Fits part.2) : p.ToldInSlots (trim kind) parts := by
  have hfit : p.Fits := by
    intro k ps hps
    rw [hslots] at hps
    cases hps
    exact hfits
  obtain ⟨hidentity, hname, hnumbers⟩ := node_of_slots hslots
  refine ⟨p.node, p.toTree_of_fits hfit, hidentity, ?_, fun part hpart => ?_, fun key hkey hno => ?_⟩
  · rw [hname, trimmed, String.toList_ofList, trim_trim]
  · rw [number?, hnumbers part hpart]
    exact congrArg some (toInt_ofPart (hfits part hpart))
  · refine not_contains_node hkey ?_
    rwa [Port.parts, hslots]

theorem toldWhole_of_no_slots (hslots : p.slots? = none) : p.ToldWhole := by
  obtain ⟨hidentity, hname⟩ := node_of_no_slots hslots
  refine ⟨p.node, p.toTree_of_fits (fits_of_no_slots hslots), hidentity, hname,
    fun part hpart => (by cases hpart), fun key hkey _ => not_contains_node hkey ?_⟩
  rw [Port.parts, hslots]
  exact List.not_mem_nil

/-- A port whose number has two or three parts is exported under its type, with slot and port, and
with the module where there are three. A port with a number of one part or without a number is a
management interface under its whole name, and so is a port with a dotted name, or one whose type
is blank. -/
theorem told_by_number (hkind : Digitless kind) :
    (trim kind ≠ [] → ∀ slot id, IsNumber slot → IsNumber id →
      p.name.toList = kind ++ slashed [slot, id] →
      p.ToldInSlots (trim kind) [(.interfaceSlot, slot), (.interfaceId, id)]) ∧
    (trim kind ≠ [] → ∀ module slot id, IsNumber module → IsNumber slot → IsNumber id →
      p.name.toList = kind ++ slashed [module, slot, id] →
      p.ToldInSlots (trim kind)
        [(.interfaceModule, module), (.interfaceSlot, slot), (.interfaceId, id)]) ∧
    (∀ number, IsNumber number → p.name.toList = kind ++ number → p.ToldWhole) ∧
    (p.name.toList = kind → p.ToldWhole) ∧
    (∀ numbers sub, numbers ≠ [] → (∀ w ∈ numbers, IsNumber w) → IsNumber sub →
      p.name.toList = kind ++ (slashed numbers ++ '.' :: sub) → p.ToldWhole) ∧
    (trim kind = [] → ∀ numbers, numbers ≠ [] → (∀ w ∈ numbers, IsNumber w) →
      p.name.toList = kind ++ slashed numbers → p.ToldWhole) := by
  refine ⟨fun hfilled slot id hslot hid hname => ?_,
    fun hfilled module slot id hmodule hslot hid hname => ?_, fun number hnumber hname => ?_,
    fun hname => ?_, fun numbers sub hne hnumbers hsub hname => ?_,
    fun hblank numbers hne hnumbers hname => ?_⟩
  · have hnumbers : ∀ w ∈ [slot, id], IsNumber w := by simp [hslot, hid]
    have hslots := slots?_of_slashed hkind hnumbers (List.cons_ne_nil _ _) hname
    rw [if_neg hfilled, placement?, tokens_slashed hnumbers] at hslots
    exact toldInSlots_of_slots? hslots (by simp [hslot.fits, hid.fits])
  · have hnumbers : ∀ w ∈ [module, slot, id], IsNumber w := by simp [hmodule, hslot, hid]
    have hslots := slots?_of_slashed hkind hnumbers (List.cons_ne_nil _ _) hname
    rw [if_neg hfilled, placement?, tokens_slashed hnumbers] at hslots
    exact toldInSlots_of_slots? hslots (by simp [hmodule.fits, hslot.fits, hid.fits])
  · have hnumbers : ∀ w ∈ [number], IsNumber w := by simp [hnumber]
    have hslashed : slashed [number] = number := by simp [slashed]
    rw [← hslashed] at hname
    have hslots := slots?_of_slashed hkind hnumbers (List.cons_ne_nil _ _) hname
    rw [placement?, tokens_slashed hnumbers, Option.map_none, ite_self] at hslots
    exact toldWhole_of_no_slots hslots
  · exact toldWhole_of_no_slots (slots?_of_digitless hkind hname)
  · exact toldWhole_of_no_slots (slots?_of_dotted hkind hnumbers hne hsub hname)
  · have hslots := slots?_of_slashed hkind hnumbers hne hname
    rw [if_pos hblank] at hslots
    exact toldWhole_of_no_slots hslots

/-- A port of a stack is told with its module. -/
theorem told_by_number_stacked :
    (blank "GigabitEthernet 2/0/13").ToldInSlots "GigabitEthernet".toList
      [(.interfaceModule, ['2']), (.interfaceSlot, ['0']), (.interfaceId, ['1', '3'])] := by
  have hkind : Digitless "GigabitEthernet ".toList := by decide
  exact (told_by_number hkind).2.1 (by decide) ['2'] ['0'] ['1', '3'] (by decide) (by decide)
    (by decide) (by decide)

/-- Not every number is told: a sub-interface behind a dot hides module, slot and port as well. -/
theorem not_every_number_told :
    ¬ ∀ (p : Port) (kind module slot id sub : List Char), Digitless kind → trim kind ≠ [] →
      IsNumber module → IsNumber slot → IsNumber id → IsNumber sub →
      p.name.toList = kind ++ (slashed [module, slot, id] ++ '.' :: sub) →
      p.ToldInSlots (trim kind) [(.interfaceModule, module), (.interfaceSlot, slot),
        (.interfaceId, id), (.subInterfaceId, sub)] := by
  intro hclaim
  have hkind : Digitless "GigabitEthernet".toList := by decide
  have hname : (blank "GigabitEthernet2/0/3.40").name.toList =
      "GigabitEthernet".toList ++ (slashed [['2'], ['0'], ['3']] ++ '.' :: ['4', '0']) := by decide
  have hslots := slots?_of_dotted hkind (by decide) (List.cons_ne_nil _ _) (by decide) hname
  obtain ⟨whole, htree, hwhole, -⟩ := toldWhole_of_no_slots hslots
  obtain ⟨t, ht, hentry, -⟩ := hclaim _ _ ['2'] ['0'] ['3'] _ hkind (by decide) (by decide)
    (by decide) (by decide) (by decide) hname
  rw [htree] at ht
  cases ht
  rw [hwhole] at hentry
  cases hentry

end Port

end HostSurvey
