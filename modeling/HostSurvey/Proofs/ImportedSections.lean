import HostSurvey.Proofs.SourceFile
import HostSurvey.Proofs.Splitting
import HostSurvey.Show.Import
import Mathlib.Data.List.Perm.Basic

/-!
# What an import depends on

Of a session, only the commands that are understood and what they showed make
the device. The sections are read in the order of their commands, wherever they
stood; sections that are not understood change nothing.
-/

namespace HostSurvey

/-! ## Sections -/

namespace Session

open Text

/-- The command is read by one of the readers. -/
def IsUnderstood (r : Registry) (command : List Char) : Prop :=
  ∃ key reader, r.lookup command = .reader key reader

/-- Some kept section is of the command, which is understood, and shows the output. -/
def Tells (r : Registry) (required : Nat) (lines : List (List Char)) (command : String)
    (output : List (List Char)) : Prop :=
  ∃ s, IsKept required lines s ∧ IsUnderstood r s.prompt.command ∧ s.command = command ∧
    s.output = output

def isUnderstood (r : Registry) (command : String) : Bool :=
  match r.lookup command.toList with
  | .reader .. => true
  | _ => false

theorem isUnderstood_iff {r : Registry} {s : Section} :
    isUnderstood r s.command = true ↔ IsUnderstood r s.prompt.command := by
  unfold isUnderstood IsUnderstood Section.command
  rw [String.toList_ofList]
  cases r.lookup s.prompt.command <;> simp

/-- Reads the output of a command, if it is understood. -/
def readOutput (r : Registry) (d : Device) (e : String × List (List Char)) : Device :=
  match r.lookup e.1.toList with
  | .reader _ reader =>
    let read := reader.read e.2 d
    if read.1 then read.2.addCommand e.1 else read.2
  | _ => d

theorem readSection_eq (r : Registry) (d : Device) (s : Section) :
    readSection r d s = readOutput r d (s.command, s.output) := by
  unfold readSection readOutput Section.command
  simp only [String.toList_ofList]
  cases r.lookup s.prompt.command with
  | reader key reader =>
    simp only
    cases reader.read s.output d with
    | mk told d => cases told <;> rfl
  | _ => rfl

theorem readOutput_withSource (r : Registry) (source : Option String) (d : Device)
    (e : String × List (List Char)) :
    readOutput r (d.withSource source) e = (readOutput r d e).withSource source := by
  unfold readOutput
  cases r.lookup e.1.toList with
  | reader key reader =>
    simp only [reader.read_withSource]
    split <;> rfl
  | _ => rfl

/-- What is not understood changes nothing. -/
theorem readOutput_of_not_understood {r : Registry} {e : String × List (List Char)}
    (h : isUnderstood r e.1 = false) (d : Device) : readOutput r d e = d := by
  unfold isUnderstood at h
  unfold readOutput
  cases hlookup : r.lookup e.1.toList with
  | reader key reader => simp [hlookup] at h
  | _ => rfl

/-- The commands that are understood, with what they showed, in the order in which they are
read. -/
def told (r : Registry) (sections : SortedMap String Section) : List (String × List (List Char)) :=
  (sections.values.map fun s => (s.command, s.output)).filter fun e => isUnderstood r e.1

theorem foldl_readSection (r : Registry) (sections : SortedMap String Section) (d : Device) :
    sections.values.foldl (readSection r) d = (told r sections).foldl (readOutput r) d := by
  have hstep : (fun d e => if isUnderstood r e.1 = true then readOutput r d e else d) =
      readOutput r := by
    funext d e
    cases he : isUnderstood r e.1 with
    | true => rfl
    | false => exact (readOutput_of_not_understood he d).symm
  rw [told, List.foldl_filter, hstep, List.foldl_map]
  congr 1
  funext d s
  exact readSection_eq r d s

section Told

variable {stored : List Section} {sections : SortedMap String Section}

theorem Stores.mem_values (h : Stores stored sections) {s : Section} :
    s ∈ sections.values ↔ s ∈ stored := by
  constructor
  · intro hs
    obtain ⟨e, he, rfl⟩ := List.mem_map.1 hs
    exact ((h e.1 e.2).1 (SortedMap.mem_entries.1 he)).1
  · intro hs
    exact List.mem_map.2
      ⟨(s.command, s), SortedMap.mem_entries.2 ((h s.command s).2 ⟨hs, rfl⟩), rfl⟩

theorem Stores.map_command (h : Stores stored sections) :
    sections.values.map Section.command = sections.keys := by
  unfold SortedMap.values SortedMap.keys
  rw [List.map_map]
  exact List.map_congr_left fun e he => ((h e.1 e.2).1 (SortedMap.mem_entries.1 he)).2

/-- The commands are read in ascending order. -/
theorem Stores.ascending_told (h : Stores stored sections) (r : Registry) :
    (told r sections).Pairwise fun e e' => compare e.1 e'.1 = .lt := by
  have hkeys := sections.ascending
  rw [Ascending, show sections.entries.map Prod.fst = sections.keys from rfl, ← h.map_command,
    List.pairwise_map] at hkeys
  exact (List.pairwise_map.2 hkeys).filter _

theorem Stores.mem_told (h : Stores stored sections) (r : Registry)
    (e : String × List (List Char)) :
    e ∈ told r sections ↔ ∃ s ∈ stored, IsUnderstood r s.prompt.command ∧ s.command = e.1 ∧
      s.output = e.2 := by
  unfold told
  rw [List.mem_filter, List.mem_map]
  constructor
  · rintro ⟨⟨s, hs, rfl⟩, hunderstood⟩
    exact ⟨s, h.mem_values.1 hs, isUnderstood_iff.1 hunderstood, rfl, rfl⟩
  · rintro ⟨s, hs, hunderstood, hcommand, houtput⟩
    obtain ⟨command, output⟩ := e
    obtain rfl : s.command = command := hcommand
    obtain rfl : s.output = output := houtput
    exact ⟨⟨s, h.mem_values.2 hs, rfl⟩, isUnderstood_iff.2 hunderstood⟩

end Told

theorem told_eq {r : Registry} {stored stored' : List Section}
    {sections sections' : SortedMap String Section} (h : Stores stored sections)
    (h' : Stores stored' sections')
    (hmem : ∀ e, e ∈ told r sections ↔ e ∈ told r sections') :
    told r sections = told r sections' := by
  have hnodup {l : List (String × List (List Char))}
      (hl : l.Pairwise fun e e' => compare e.1 e'.1 = .lt) : l.Nodup :=
    hl.imp fun {e e'} hlt heq => by
      subst heq
      simp at hlt
  have hperm := (List.perm_ext_iff_of_nodup (hnodup (h.ascending_told r))
    (hnodup (h'.ascending_told r))).2 hmem
  refine hperm.eq_of_pairwise (fun e e' _ _ hlt hlt' => ?_) (h.ascending_told r)
    (h'.ascending_told r)
  exact absurd hlt' (Std.OrientedCmp.not_lt_of_lt hlt)

/-! ## Blocks -/

/-- A command line and the lines that are shown behind it. -/
structure Block where
  prompt : Prompt
  line : List Char
  shown : List (List Char)
  opens : Prompt.parse? line = some prompt
  quiet : ∀ l ∈ shown, Prompt.parse? l = none

namespace Block

def lines (b : Block) : List (List Char) := b.line :: b.shown

def body (b : Block) : List (List Char) := afterRefusal b.shown

/-- The block is long enough, and its command is understood. -/
def Matters (r : Registry) (required : Nat) (b : Block) : Prop :=
  b.prompt.command ≠ [] ∧ required < b.body.length + 1 ∧ IsUnderstood r b.prompt.command

end Block

theorem cutSections_append {lead : List (List Char)} (hlead : ∀ l ∈ lead, Prompt.parse? l = none)
    (n : Nat) (rest : List (List Char)) :
    cutSections n (lead ++ rest) =
      (lead ++ (cutSections (n + lead.length) rest).1,
        (cutSections (n + lead.length) rest).2) := by
  induction lead generalizing n with
  | nil => rfl
  | cons l lead ih =>
    have hl := hlead l List.mem_cons_self
    have hrest := ih (fun m hm => hlead m (List.mem_cons_of_mem l hm)) (n + 1)
    rw [Nat.add_right_comm] at hrest
    simp only [List.cons_append, cutSections, hl, hrest, List.length_cons, ← Nat.add_assoc]

/-- The sections of blocks are those of the single blocks. -/
theorem cutSections_blocks (n : Nat) (blocks : List Block) :
    (cutSections n (blocks.flatMap Block.lines)).1 = [] ∧
      ((cutSections n (blocks.flatMap Block.lines)).2.map fun s => (s.prompt, s.body)) =
        blocks.map fun b => (b.prompt, b.body) := by
  induction blocks generalizing n with
  | nil => exact ⟨rfl, rfl⟩
  | cons b blocks ih =>
    obtain ⟨hlead, hsections⟩ := ih (n + 1 + b.shown.length)
    have hcut := cutSections_append b.quiet (n + 1) (blocks.flatMap Block.lines)
    rw [hlead, List.append_nil] at hcut
    rw [List.flatMap_cons, Block.lines, List.cons_append]
    simp only [cutSections, b.opens, hcut, List.map_cons, hsections]
    exact ⟨trivial, rfl⟩

/-- What is told is told by some block, wherever it stands. -/
theorem tells_blocks {r : Registry} {required : Nat} {lead : List (List Char)}
    (hlead : ∀ l ∈ lead, Prompt.parse? l = none) {blocks : List Block} {command : String}
    {output : List (List Char)} :
    Tells r required (lead ++ blocks.flatMap Block.lines) command output ↔
      ∃ b ∈ blocks, b.Matters r required ∧ String.ofList b.prompt.command = command ∧
        b.body.map cleanLine = output := by
  have hsections := (cutSections_blocks (1 + lead.length) blocks).2
  have hcut := congrArg Prod.snd (cutSections_append hlead 1 (blocks.flatMap Block.lines))
  rw [← hcut] at hsections
  constructor
  · rintro ⟨s, ⟨hsection, hnamed, hlong⟩, hunderstood, rfl, rfl⟩
    have hmem := List.mem_map_of_mem (f := fun s => (s.prompt, s.body))
      (isSection_iff_mem.1 hsection)
    rw [hsections] at hmem
    obtain ⟨b, hb, heq⟩ := List.mem_map.1 hmem
    obtain ⟨hprompt, hbody⟩ := Prod.mk.inj heq
    exact ⟨b, hb, ⟨hprompt ▸ hnamed, hbody ▸ hlong, hprompt ▸ hunderstood⟩, by rw [hprompt]; rfl,
      by rw [hbody]; rfl⟩
  · rintro ⟨b, hb, ⟨hnamed, hlong, hunderstood⟩, rfl, rfl⟩
    have hmem := List.mem_map_of_mem (f := fun b : Block => (b.prompt, b.body)) hb
    rw [← hsections] at hmem
    obtain ⟨s, hs, heq⟩ := List.mem_map.1 hmem
    obtain ⟨hprompt, hbody⟩ := Prod.mk.inj heq
    exact ⟨s, ⟨isSection_iff_mem.2 hs, hprompt ▸ hnamed, hbody ▸ hlong⟩, hprompt ▸ hunderstood,
      by rw [← hprompt]; rfl, by rw [← hbody]; rfl⟩

/-- Neither the order of the blocks counts, nor what stands before them, nor those that are too
short or whose command is not understood. -/
theorem tells_congr {r : Registry} {required : Nat} {lead lead' : List (List Char)}
    (hlead : ∀ l ∈ lead, Prompt.parse? l = none) (hlead' : ∀ l ∈ lead', Prompt.parse? l = none)
    {blocks blocks' : List Block} (h : ∀ b, b.Matters r required → (b ∈ blocks ↔ b ∈ blocks'))
    (command : String) (output : List (List Char)) :
    Tells r required (lead ++ blocks.flatMap Block.lines) command output ↔
      Tells r required (lead' ++ blocks'.flatMap Block.lines) command output := by
  rw [tells_blocks hlead, tells_blocks hlead']
  constructor
  · rintro ⟨b, hb, hmatters, htold⟩
    exact ⟨b, (h b hmatters).1 hb, hmatters, htold⟩
  · rintro ⟨b, hb, hmatters, htold⟩
    exact ⟨b, (h b hmatters).2 hb, hmatters, htold⟩

/-! ## Importing -/

theorem mem_values_of_split {options : SplitOptions} {content : Bytes} {session : Session}
    (h : split options content = .ok session) {s : Section} :
    s ∈ session.sections.values ↔ IsKept options.shortest (linesOf content) s :=
  (stores_of_split h).mem_values.trans ((keptInOrder_keptSections options (linesOf content)).2 s)

theorem mem_told_of_split {r : Registry} {options : SplitOptions} {content : Bytes}
    {session : Session} (h : split options content = .ok session)
    (e : String × List (List Char)) :
    e ∈ told r session.sections ↔ Tells r options.shortest (linesOf content) e.1 e.2 := by
  rw [(stores_of_split h).mem_told]
  exact exists_congr fun s =>
    and_congr_left' ((keptInOrder_keptSections options (linesOf content)).2 s)

theorem importDevice_of_split (r : Registry) {options : SplitOptions} {content : Bytes}
    {session : Session} (h : split options content = .ok session) (hname : session.device ≠ "")
    (hsections : session.sections.isEmpty = false) (file : String) :
    importDevice r options file (some content) = .ok
      (((told r session.sections).foldl (readOutput r) (Device.blank session.device)).withSource
        (some file)) := by
  have himport : importDevice r options file (some content) = session.toDevice r file := by
    simp only [importDevice, h]
    rfl
  have hdevice : session.device.isEmpty = false := by simpa using hname
  rw [himport, toDevice, hdevice, hsections, foldl_readSection]
  simp only [Bool.false_eq_true, ↓reduceIte]
  rw [← List.foldl_hom (Device.withSource (some file)) (readOutput_withSource r (some file))]
  rfl

section Alike

variable {r : Registry} {options options' : SplitOptions} {content content' : Bytes}
  {session session' : Session}

theorem told_eq_of_tells (h : split options content = .ok session)
    (h' : split options' content' = .ok session')
    (htells : ∀ command output,
      Tells r options.shortest (linesOf content) command output ↔
        Tells r options'.shortest (linesOf content') command output) :
    told r session.sections = told r session'.sections := by
  refine told_eq (stores_of_split h) (stores_of_split h') fun e => ?_
  rw [mem_told_of_split h, mem_told_of_split h', htells]

theorem importDevice_of_told_eq (h : split options content = .ok session)
    (h' : split options' content' = .ok session') (hname : session.device ≠ "")
    (hsame : session.device = session'.device) (hsections : session.sections.isEmpty = false)
    (hsections' : session'.sections.isEmpty = false)
    (htold : told r session.sections = told r session'.sections) (file file' : String) :
    ∃ d : Device, importDevice r options file (some content) = .ok { d with source := some file } ∧
      importDevice r options' file' (some content') = .ok { d with source := some file' } := by
  refine ⟨(told r session.sections).foldl (readOutput r) (Device.blank session.device),
    importDevice_of_split r h hname hsections file, ?_⟩
  rw [htold, hsame]
  exact importDevice_of_split r h' (hsame ▸ hname) hsections' file'

end Alike

/-- Two sessions on one device in which the commands that are understood show the same give the
same device, except for the file that it comes from. -/
theorem import_congr (r : Registry) {options options' : SplitOptions} {content content' : Bytes}
    {session session' : Session} (h : split options content = .ok session)
    (h' : split options' content' = .ok session') (hname : session.device ≠ "")
    (hsame : session.device = session'.device) (hsections : session.sections.isEmpty = false)
    (hsections' : session'.sections.isEmpty = false)
    (htells : ∀ command output,
      Tells r options.shortest (linesOf content) command output ↔
        Tells r options'.shortest (linesOf content') command output) (file file' : String) :
    ∃ d : Device, importDevice r options file (some content) = .ok { d with source := some file } ∧
      importDevice r options' file' (some content') = .ok { d with source := some file' } := by
  have htold := told_eq_of_tells h h' htells
  exact importDevice_of_told_eq h h' hname hsame hsections hsections' htold file file'

/-- Command lines with a single line of output are kept. -/
def brief : SplitOptions := { shortest := 1 }

def taken : Bytes := Utf8.encode "sw#sh run\nhostname core\nsw#sh ver\nModel number: 2960\n".toList

/-- The same commands in another order, behind some other text and among commands of which the first
is not understood, the second only asks for a part, and the third shows nothing. -/
def retaken : Bytes := Utf8.encode <|
  "Login:\nsw#show ver\n^\nModel number: 2960 \r\nsw#sh clock\n12\n".toList ++
    "sw#sh arp all\n-\nsw#sh ip\nsw#sh run\nhostname core".toList

def taught : List (String × List (List Char)) :=
  [("run", ["hostname core".toList]), ("ver", ["Model number: 2960".toList])]

theorem import_retaken :
    (∃ session session', split brief taken = .ok session ∧ split brief retaken = .ok session' ∧
      session.device ≠ "" ∧ session.device = session'.device ∧
      session.sections.isEmpty = false ∧ session'.sections.isEmpty = false ∧
      (∀ command output, Tells .standard 1 (linesOf taken) command output ↔
        Tells .standard 1 (linesOf retaken) command output) ∧
      ∃ d : Device,
        importDevice .standard brief "a" (some taken) = .ok { d with source := some "a" } ∧
        importDevice .standard brief "b" (some retaken) = .ok { d with source := some "b" }) ∧
      (importDevice .standard brief "b" (some retaken)).toOption.map (·.commands) =
        some ["run", "ver"] := by
  have hsplit (content : Bytes)
      (h : ((split brief content).toOption.any fun s =>
        s.device == "sw" && !s.sections.isEmpty && told .standard s.sections == taught) = true) :
      ∃ session, split brief content = .ok session ∧ session.device = "sw" ∧
        session.sections.isEmpty = false ∧ told .standard session.sections = taught := by
    cases hresult : split brief content with
    | error fault => simp [hresult, Except.toOption] at h
    | ok session =>
      simp only [hresult, Except.toOption, Option.any_some, Bool.and_eq_true, beq_iff_eq,
        Bool.not_eq_true'] at h
      exact ⟨session, rfl, h.1.1, h.1.2, h.2⟩
  obtain ⟨session, h, hname, hsections, htold⟩ := hsplit taken (by decide +kernel)
  obtain ⟨session', h', hname', hsections', htold'⟩ := hsplit retaken (by decide +kernel)
  have hne : session.device ≠ "" := by rw [hname]; decide
  have hsame : session.device = session'.device := hname.trans hname'.symm
  have htells (command : String) (output : List (List Char)) :
      Tells .standard 1 (linesOf taken) command output ↔
        Tells .standard 1 (linesOf retaken) command output := by
    have hmem := mem_told_of_split (r := .standard) h (command, output)
    have hmem' := mem_told_of_split (r := .standard) h' (command, output)
    rw [htold] at hmem
    rw [htold'] at hmem'
    exact hmem.symm.trans hmem'
  exact ⟨⟨session, session', h, h', hne, hsame, hsections, hsections', htells,
    import_congr .standard h h' hne hsame hsections hsections' htells "a" "b"⟩, by decide +kernel⟩

/-- Sessions on one device give the same device when the blocks that matter are the same: their
order does not count, nor the text before them, nor blocks that are too short or whose command is
not understood. -/
theorem import_blocks (r : Registry) {options : SplitOptions} {content content' : Bytes}
    {lead lead' : List (List Char)} {blocks blocks' : List Block}
    (hlead : ∀ l ∈ lead, Prompt.parse? l = none) (hlead' : ∀ l ∈ lead', Prompt.parse? l = none)
    (hlines : linesOf content = lead ++ blocks.flatMap Block.lines)
    (hlines' : linesOf content' = lead' ++ blocks'.flatMap Block.lines)
    (hblocks : ∀ b, b.Matters r options.shortest → (b ∈ blocks ↔ b ∈ blocks'))
    {session session' : Session} (h : split options content = .ok session)
    (h' : split options content' = .ok session') (hname : session.device ≠ "")
    (hsame : session.device = session'.device) (hsections : session.sections.isEmpty = false)
    (hsections' : session'.sections.isEmpty = false) (file file' : String) :
    ∃ d : Device, importDevice r options file (some content) = .ok { d with source := some file } ∧
      importDevice r options file' (some content') = .ok { d with source := some file' } := by
  have htells (command : String) (output : List (List Char)) :
      Tells r options.shortest (linesOf content) command output ↔
        Tells r options.shortest (linesOf content') command output := by
    rw [hlines, hlines']
    exact tells_congr hlead hlead' hblocks command output
  have htold := told_eq_of_tells h h' htells
  exact importDevice_of_told_eq h h' hname hsame hsections hsections' htold file file'

end Session

end HostSurvey
