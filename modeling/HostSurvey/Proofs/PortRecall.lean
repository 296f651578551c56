import HostSurvey.Proofs.DeviceOperations
import HostSurvey.Proofs.PortIdentity

/-!
# Asking for a port again

A port that was asked for stays, under whatever name it has come to, and a name
without blanks goes on to be a name of its interface. It need not go on to find
that port: an abbreviation finds the first port, in the order of names, that it
abbreviates, so another port can come before the one that was found at first.
`asked_again` says that nothing else stands between the name and the port.
-/

namespace HostSurvey

open Std Text

namespace SortedSet

variable {κ : Type} [Ord κ] [TransOrd κ] [LawfulEqOrd κ]

theorem insertList_of_mem {l : List κ} (hl : Ascending l) {k : κ} (hk : k ∈ l) :
    insertList k l = l := by
  refine eq_of_mem_iff_list (ascending_insertList hl) hl fun x => ?_
  rw [mem_insertList]
  exact ⟨fun h => h.elim (fun hx => hx ▸ hk) id, .inr⟩

omit [LawfulEqOrd κ] in
/-- The first member that passes a test comes before all others that pass it. -/
theorem find?_eq_some_iff_of_ascending {l : List κ} (hl : Ascending l) {test : κ → Bool} {k : κ} :
    l.find? test = some k ↔
      k ∈ l ∧ test k = true ∧ ∀ j ∈ l, test j = true → j = k ∨ compare k j = .lt := by
  induction l with
  | nil => simp
  | cons a l ih =>
    have hlt := (List.pairwise_cons.1 hl).1
    rw [List.find?_cons]
    cases ha : test a with
    | true =>
      simp only [Option.some.injEq]
      constructor
      · rintro rfl
        refine ⟨List.mem_cons_self, ha, fun j hj _ => ?_⟩
        exact (List.mem_cons.1 hj).imp_right (hlt j)
      · rintro ⟨hk, -, hfirst⟩
        obtain rfl | hk := List.mem_cons.1 hk
        · rfl
        · -- the head passes too, and is before the member
          obtain h | h := hfirst a List.mem_cons_self ha
          · exact h
          · exact absurd h (OrientedCmp.not_lt_of_lt (hlt k hk))
    | false =>
      simp only
      rw [ih (List.pairwise_cons.1 hl).2, List.forall_mem_cons]
      constructor
      · rintro ⟨hk, htest, hfirst⟩
        exact ⟨List.mem_cons_of_mem a hk, htest, by simp [ha], hfirst⟩
      · rintro ⟨hk, htest, -, hfirst⟩
        refine ⟨(List.mem_cons.1 hk).resolve_left ?_, htest, hfirst⟩
        rintro rfl
        rw [ha] at htest
        cases htest

end SortedSet

namespace Device

variable {d d₁ e : Device} {name key k : String}

/-! ## The names of the ports -/

theorem contains_iff_mem_keys : d.ports.contains name = true ↔ name ∈ d.ports.keys :=
  SortedMap.findEntry_isSome_iff

/-- A name finds the port of that very name, otherwise the first port that it abbreviates. -/
theorem portKey?_eq_some_iff :
    d.portKey? name = some key ↔
      key ∈ d.ports.keys ∧ Interface.same key.toList name.toList = true ∧
        (key = name ∨ name ∉ d.ports.keys ∧
          ∀ j ∈ d.ports.keys, Interface.same j.toList name.toList = true →
            j = key ∨ compare key j = .lt) := by
  unfold portKey?
  by_cases hname : name ∈ d.ports.keys
  · rw [if_pos (contains_iff_mem_keys.2 hname)]
    simp only [Option.some.injEq, hname, not_true_eq_false, false_and, or_false]
    exact ⟨fun h => h ▸ ⟨hname, Interface.same_refl _, rfl⟩, fun h => h.2.2.symm⟩
  · have hascending : Ascending d.ports.keys := d.ports.ascending
    rw [if_neg (hname <| contains_iff_mem_keys.1 ·),
      SortedSet.find?_eq_some_iff_of_ascending hascending]
    refine and_congr_right fun hkey => and_congr_right fun _ => ?_
    have hne : key ≠ name := fun h => hname (h ▸ hkey)
    simp only [hne, hname, not_false_eq_true, true_and, false_or]

theorem keys_insert_of_mem (h : key ∈ d.ports.keys) (p : Port) :
    (d.ports.insert key p).keys = d.ports.keys := by
  have hascending : Ascending d.ports.keys := d.ports.ascending
  have hkeys : (d.ports.insert key p).keys = SortedSet.insertList key d.ports.keys :=
    SortedMap.keys_insertEntry ..
  rw [hkeys, SortedSet.insertList_of_mem hascending h]

theorem keys_modifyPort (d : Device) (key : String) (f : Port → Port) :
    (d.modifyPort key f).ports.keys = d.ports.keys := by
  unfold modifyPort
  split
  · rename_i p hp
    exact keys_insert_of_mem (SortedMap.mem_keys.2 ⟨p, hp⟩) (f p)
  · rfl

/-- Names have no blanks at their ends. -/
def Trims (d : Device) : Prop := ∀ k ∈ d.ports.keys, trimmed k = k

/-- Once a port is open, its name opens it again. -/
theorem openPort_of_mem (hd : Trims d) (h : key ∈ d.ports.keys) : d.openPort key = (key, d) := by
  obtain ⟨p, hp⟩ := SortedMap.mem_keys.1 h
  exact openPort_self (hd key h) hp

/-! ## How names change -/

theorem Opens.mem_keys (h : d.Opens name key d₁) : key ∈ d₁.ports.keys :=
  SortedMap.mem_keys.2 h.exists_port

/-- The names after opening a port are those from before and the one that it has then; the one that
it had is not kept beside it. -/
theorem Opens.mem_keys_iff (h : d.Opens name key d₁) :
    k ∈ d₁.ports.keys ↔ k = key ∨ k ∈ d.ports.keys ∧ d.portKey? name ≠ some k := by
  simp only [SortedMap.mem_keys]
  cases h with
  | @found key p hkey hp hlength =>
    rw [hkey]
    simp only [ne_eq, Option.some.injEq]
    constructor
    · intro hk
      exact (eq_or_ne k key).imp_right fun hne => ⟨hk, Ne.symm hne⟩
    · rintro (rfl | ⟨hk, -⟩)
      · exact ⟨p, hp⟩
      · exact hk
  | @renamed old p hkey hp hfree hlength =>
    rw [hkey, find?_renamePort hp]
    by_cases hnew : name = k
    · simp [hnew]
    · by_cases hold : old = k
      · simp [hnew, hold, Ne.symm hnew]
      · simp [hnew, hold, Ne.symm hnew]
  | added hkey hfree =>
    rw [hkey, SortedMap.find?_insert]
    by_cases hnew : name = k
    · simp [hnew]
    · simp [hnew, Ne.symm hnew]

theorem Trims.opens (hd : Trims d) (hname : trimmed name = name) (h : d.Opens name key d₁) :
    Trims d₁ := by
  intro k hk
  obtain rfl | ⟨hk, -⟩ := h.mem_keys_iff.1 hk
  · cases h with
    | @found key p hkey hp hlength => exact hd _ (SortedMap.mem_keys.2 ⟨p, hp⟩)
    | _ => exact hname
  · exact hd k hk

theorem Trims.openPort (hd : Trims d) (name : String) : Trims (d.openPort name).2 :=
  hd.opens (trimmed_trimmed name) (d.opens_openPort name)

/-- An operation on a port leaves the names that opening the port leaves. -/
theorem Trims.keys_perform (hd : Trims d) {op : Operation} (hop : op.port? = some name) :
    (d.perform op).ports.keys = (d.openPort name).2.ports.keys := by
  cases op with
  | edit name f =>
    cases hop
    exact keys_modifyPort ..
  | join name id =>
    cases hop
    exact keys_modifyPort ..
  | learn vlan mac name =>
    cases hop
    have hlearned := keys_modifyPort (d.openPort name).2 (d.openPort name).1 (·.addConnection mac)
    cases vlan with
    | none => exact hlearned
    | some id =>
      -- the port is opened a second time, by the name that it has now
      have htrims : Trims ((d.openPort name).2.modifyPort (d.openPort name).1
          (·.addConnection mac)) := by
        unfold Trims
        rw [hlearned]
        exact hd.openPort name
      have hmem : (d.openPort name).1 ∈ ((d.openPort name).2.modifyPort (d.openPort name).1
          (·.addConnection mac)).ports.keys := by
        rw [hlearned]
        exact (d.opens_openPort name).mem_keys
      have hself := openPort_of_mem htrims hmem
      simp only [perform, addMacRow, addVlanMember, hself]
      exact (keys_modifyPort ..).trans hlearned
  | _ => cases hop

theorem ports_perform_of_none {op : Operation} (hop : op.port? = none) :
    (d.perform op).ports = d.ports := by
  cases op with
  | edit | join | learn => cases hop
  | arp row =>
    simp only [perform, addArpRow]
    split <;> rfl
  | _ => rfl

theorem Trims.perform (hd : Trims d) (op : Operation) : Trims (d.perform op) := by
  unfold Trims
  cases hop : op.port? with
  | none =>
    rw [ports_perform_of_none hop]
    exact hd
  | some name =>
    rw [hd.keys_perform hop]
    exact hd.openPort name

theorem Trims.performAll (hd : Trims d) (ops : List Operation) : Trims (d.performAll ops) := by
  induction ops generalizing d with
  | nil => exact hd
  | cons op ops ih => exact ih (hd.perform op)

theorem trims_blank (name : String) : Trims (blank name) := fun _ hk => nomatch hk

/-! ## Following a port -/

/-- The name, once a port is opened by `name`, of the port that was stored under `k`. -/
def followOpen (d : Device) (name k : String) : String :=
  if d.portKey? (trimmed name) = some k then (d.openPort name).1 else k

/-- The name, after operations, of the port that was stored under `k`. -/
def lastName (d : Device) : List Operation → String → String
  | [], k => k
  | op :: ops, k => (d.perform op).lastName ops ((op.port?.map fun n => d.followOpen n k).getD k)

theorem followOpen_mem_keys (hk : k ∈ d.ports.keys) (name : String) :
    d.followOpen name k ∈ (d.openPort name).2.ports.keys := by
  have hopens := d.opens_openPort name
  unfold followOpen
  split
  · exact hopens.mem_keys
  · rename_i hne
    exact hopens.mem_keys_iff.2 (.inr ⟨hk, hne⟩)

/-- A port that was there is still there, under its last name. -/
theorem Trims.lastName_mem_keys (hd : Trims d) (ops : List Operation) (hk : k ∈ d.ports.keys) :
    d.lastName ops k ∈ (d.performAll ops).ports.keys := by
  induction ops generalizing d k with
  | nil => exact hk
  | cons op ops ih =>
    refine ih (hd.perform op) ?_
    cases hop : op.port? with
    | none =>
      rw [ports_perform_of_none hop]
      exact hk
    | some name =>
      rw [hd.keys_perform hop]
      exact followOpen_mem_keys hk name

/-! ## Names without blanks -/

theorem Distinct.congr (hd : Distinct d) (h : d.ports.keys = e.ports.keys) : Distinct e := by
  have hfind {k : String} {p : Port} (hp : e.ports.find? k = some p) :
      ∃ q, d.ports.find? k = some q := by
    rw [← SortedMap.mem_keys, h]
    exact SortedMap.mem_keys.2 ⟨p, hp⟩
  constructor
  · intro k p hp
    obtain ⟨q, hq⟩ := hfind hp
    exact hd.unbroken k q hq
  · intro j k p q hp hq
    obtain ⟨p', hp'⟩ := hfind hp
    obtain ⟨q', hq'⟩ := hfind hq
    exact hd.apart j k p' q' hp' hq'

theorem Distinct.trims (hd : Distinct d) : Trims d := by
  intro k hk
  obtain ⟨p, hp⟩ := SortedMap.mem_keys.1 hk
  exact trimmed_of_unbroken (hd.unbroken k p hp)

theorem Distinct.unbroken_of_mem (hd : Distinct d) (hk : k ∈ d.ports.keys) :
    Unbroken k.toList := by
  obtain ⟨p, hp⟩ := SortedMap.mem_keys.1 hk
  exact hd.unbroken k p hp

theorem Distinct.openPort (hd : Distinct d) (hname : Unbroken name.toList) :
    Distinct (d.openPort name).2 := by
  have hopens := d.opens_openPort name
  rw [trimmed_of_unbroken hname] at hopens
  exact hd.opens hname hopens

theorem Distinct.perform (hd : Distinct d) {op : Operation}
    (hop : ∀ name ∈ op.port?, Unbroken name.toList) : Distinct (d.perform op) := by
  cases hport : op.port? with
  | none => exact hd.congr (by rw [ports_perform_of_none hport])
  | some name => exact (hd.openPort (hop name hport)).congr (hd.trims.keys_perform hport).symm

/-- All names of ports in the operations are without blanks. -/
def UnbrokenNames (ops : List Operation) : Prop :=
  ∀ op ∈ ops, ∀ name ∈ op.port?, Unbroken name.toList

instance (ops : List Operation) : Decidable (UnbrokenNames ops) :=
  inferInstanceAs (Decidable (∀ op ∈ ops, ∀ name ∈ op.port?, Unbroken name.toList))

theorem Distinct.performAll (hd : Distinct d) {ops : List Operation} (hops : UnbrokenNames ops) :
    Distinct (d.performAll ops) := by
  induction ops generalizing d with
  | nil => exact hd
  | cons op ops ih =>
    rw [UnbrokenNames, List.forall_mem_cons] at hops
    exact ih (hd.perform hops.1) hops.2

theorem shortens_followOpen (d : Device) (name k : String) :
    Interface.Shortens k.toList (d.followOpen name k).toList := by
  unfold followOpen
  split
  · rename_i hkey
    exact (d.opens_openPort name).shortens.2 k hkey
  · exact ⟨Interface.same_refl _, Nat.le_refl _⟩

/-- What was a name of a port shortens its later ones. -/
theorem Distinct.shortens_lastName (hd : Distinct d) {ops : List Operation}
    (hops : UnbrokenNames ops) (hk : k ∈ d.ports.keys) :
    Interface.Shortens k.toList (d.lastName ops k).toList := by
  induction ops generalizing d k with
  | nil => exact ⟨Interface.same_refl _, Nat.le_refl _⟩
  | cons op ops ih =>
    have hlast := hd.trims.lastName_mem_keys (op :: ops) hk
    have hfinal := hd.performAll hops
    rw [UnbrokenNames, List.forall_mem_cons] at hops
    have hd' := hd.perform hops.1
    cases hop : op.port? with
    | none =>
      have hports := ports_perform_of_none (d := d) hop
      have hrest := ih hd' hops.2 (k := k) (by rw [hports]; exact hk)
      rw [lastName, hop]
      exact hrest
    | some name =>
      have hfollow : d.followOpen name k ∈ (d.perform op).ports.keys := by
        rw [hd.trims.keys_perform hop]
        exact followOpen_mem_keys hk name
      have hrest := ih hd' hops.2 hfollow
      have hnames : d.lastName (op :: ops) k =
          (d.perform op).lastName ops (d.followOpen name k) := by
        rw [lastName, hop]
        rfl
      rw [hnames] at hlast ⊢
      exact (shortens_followOpen d name k).trans (hd.unbroken_of_mem hk)
        (hd'.unbroken_of_mem hfollow) (hfinal.unbroken_of_mem hlast) hrest

/-- A name that shortens the name of some port finds a port, and gives it no new name. -/
theorem Distinct.openPort_eq (hd : Distinct d) (hname : Unbroken name.toList)
    (hk : k ∈ d.ports.keys) (hshort : Interface.Shortens name.toList k.toList) :
    ∃ j, d.portKey? name = some j ∧ d.openPort name = (j, d) := by
  have hsame : Interface.same k.toList name.toList = true := by
    rw [Interface.same_comm]
    exact hshort.1
  obtain ⟨p, hp⟩ := SortedMap.mem_keys.1 hk
  cases hkey : d.portKey? name with
  | none =>
    rw [(portKey?_eq_none hkey).2 k p hp] at hsame
    cases hsame
  | some j =>
    obtain ⟨⟨q, hq⟩, hj⟩ := portKey?_eq_some hkey
    have hlength : ¬ j.utf8ByteSize < name.utf8ByteSize := by
      intro hlt
      -- a shorter name of a port would shorten the one that is no shorter than `name`
      have hjname : Interface.Shortens j.toList name.toList :=
        ⟨hj, by rw [← utf8ByteSize_eq, ← utf8ByteSize_eq]; omega⟩
      have hjk := hjname.trans (hd.unbroken j q hq) hname (hd.unbroken k p hp) hshort
      obtain rfl := hd.apart j k q p hq hp hjk.1
      have hle := hshort.2
      rw [← utf8ByteSize_eq, ← utf8ByteSize_eq] at hle
      omega
    refine ⟨j, rfl, ?_⟩
    unfold Device.openPort
    simp only [trimmed_of_unbroken hname, hkey, if_neg hlength]

/-- No two ports are of one interface, so a name that shortens the name of a port either finds that
port or another one, with a name before it, that it shortens too. -/
theorem Distinct.portKey?_eq_iff (hd : Distinct d) (hk : k ∈ d.ports.keys)
    (hshort : Interface.Shortens name.toList k.toList) :
    d.portKey? name = some k ↔
      ∀ j ∈ d.ports.keys, Interface.same j.toList name.toList = true →
        j = k ∨ compare k j = .lt := by
  have hsame : Interface.same k.toList name.toList = true := by
    rw [Interface.same_comm]
    exact hshort.1
  obtain ⟨p, hp⟩ := SortedMap.mem_keys.1 hk
  rw [portKey?_eq_some_iff]
  constructor
  · rintro ⟨-, -, rfl | ⟨-, hfirst⟩⟩
    · intro j hj hjk
      obtain ⟨q, hq⟩ := SortedMap.mem_keys.1 hj
      exact .inl (hd.apart j k q p hq hp hjk)
    · exact hfirst
  · intro hfirst
    refine ⟨hk, hsame, ?_⟩
    by_cases hname : name ∈ d.ports.keys
    · obtain ⟨q, hq⟩ := SortedMap.mem_keys.1 hname
      exact .inl (hd.apart k name p q hp hq hsame)
    · exact .inr ⟨hname, hfirst⟩

/-! ## Asking -/

/-- A new device is asked for a port between some operations and others. -/
structure Asking where
  device : String
  before : List Operation
  name : String
  behind : List Operation

namespace Asking

def start (a : Asking) : Device := (blank a.device).performAll a.before

/-- What the port is called when it is asked for. -/
def found (a : Asking) : String := (a.start.openPort a.name).1

def final (a : Asking) : Device := (a.start.openPort a.name).2.performAll a.behind

/-- What the port is called in the end. -/
def lastKey (a : Asking) : String := (a.start.openPort a.name).2.lastName a.behind a.found

/-- The name asked for and all others are without blanks. -/
def IsUnbroken (a : Asking) : Prop :=
  Unbroken a.name.toList ∧ UnbrokenNames a.before ∧ UnbrokenNames a.behind

instance (a : Asking) : Decidable a.IsUnbroken :=
  inferInstanceAs
    (Decidable (Unbroken a.name.toList ∧ UnbrokenNames a.before ∧ UnbrokenNames a.behind))

/-- A port that was asked for is there under its last name. The same name finds it again exactly
when it is the port of that very name, or no port is, and the name is still one of its interface and
of that of no port before it. Between names without blanks the name remains one of the port's
interface, asking for it changes nothing any more, and it finds the port exactly when no port before
it is of an interface that the name is one of. -/
theorem asked_again (a : Asking) :
    a.lastKey ∈ a.final.ports.keys ∧
      (a.final.portKey? a.name = some a.lastKey ↔
        Interface.same a.lastKey.toList a.name.toList = true ∧
          (a.lastKey = a.name ∨ a.name ∉ a.final.ports.keys ∧
            ∀ j ∈ a.final.ports.keys, Interface.same j.toList a.name.toList = true →
              j = a.lastKey ∨ compare a.lastKey j = .lt)) ∧
      (a.IsUnbroken →
        Interface.Shortens a.name.toList a.lastKey.toList ∧
          (∃ j, a.final.portKey? a.name = some j ∧ a.final.openPort a.name = (j, a.final)) ∧
          (a.final.portKey? a.name = some a.lastKey ↔
            ∀ j ∈ a.final.ports.keys, Interface.same j.toList a.name.toList = true →
              j = a.lastKey ∨ compare a.lastKey j = .lt)) := by
  have htrims : Trims a.start := (trims_blank a.device).performAll a.before
  have hopens := a.start.opens_openPort a.name
  have hmem : a.lastKey ∈ a.final.ports.keys :=
    (htrims.openPort a.name).lastName_mem_keys a.behind hopens.mem_keys
  refine ⟨hmem, by rw [portKey?_eq_some_iff, and_iff_right hmem], ?_⟩
  rintro ⟨hname, hbefore, hbehind⟩
  have hstart : Distinct a.start := (distinct_blank a.device).performAll hbefore
  have hasked := hstart.openPort hname
  have hfinal : Distinct a.final := hasked.performAll hbehind
  rw [trimmed_of_unbroken hname] at hopens
  have hshort : Interface.Shortens a.name.toList a.lastKey.toList :=
    hopens.shortens.1.trans hname (hasked.unbroken_of_mem hopens.mem_keys)
      (hfinal.unbroken_of_mem hmem) (hasked.shortens_lastName hbehind hopens.mem_keys)
  exact ⟨hshort, hfinal.openPort_eq hname hmem hshort, hfinal.portKey?_eq_iff hmem hshort⟩

/-- A port is asked for by a short name and takes a longer one; then another port is added that the
short name abbreviates as well. -/
def abbreviated : Asking where
  device := "sw"
  before := [.join "Gig1/0/1" 7]
  name := "G1/0/1"
  behind := [.edit "GigabitEthernet1/0/1" id, .join "GroupAsync1/0/1" 9]

/-- The other port has a name behind that of the port that was asked for, which is found again. -/
theorem asked_again_abbreviated :
    abbreviated.IsUnbroken ∧ abbreviated.found = "Gig1/0/1" ∧
      abbreviated.final.ports.keys = ["GigabitEthernet1/0/1", "GroupAsync1/0/1"] ∧
      Interface.same "GroupAsync1/0/1".toList "G1/0/1".toList = true ∧
      abbreviated.final.portKey? "G1/0/1" = some "GigabitEthernet1/0/1" ∧
      abbreviated.final.openPort "G1/0/1" = ("GigabitEthernet1/0/1", abbreviated.final) := by
  have hnames : abbreviated.IsUnbroken := by decide +kernel
  have hkeys : abbreviated.final.ports.keys = ["GigabitEthernet1/0/1", "GroupAsync1/0/1"] := by
    decide +kernel
  have hlast : abbreviated.lastKey = "GigabitEthernet1/0/1" := by decide +kernel
  obtain ⟨-, -, hunbroken⟩ := asked_again abbreviated
  obtain ⟨-, ⟨j, hj, hopen⟩, hiff⟩ := hunbroken hnames
  rw [hkeys, hlast] at hiff
  have hfound : abbreviated.final.portKey? "G1/0/1" = some "GigabitEthernet1/0/1" :=
    hiff.2 (by decide +kernel)
  obtain rfl : j = "GigabitEthernet1/0/1" := Option.some.inj (hj.symm.trans hfound)
  exact ⟨hnames, by decide +kernel, hkeys, by decide +kernel, hfound, hopen⟩

/-- Two ports whose names begin with one letter, the later one before the other in the order of
names. -/
def overtaken : Asking where
  device := "sw"
  before := [.edit "FortyGigE1/0/1" id]
  name := "F1/0/1"
  behind := [.edit "FastEthernet1/0/1" id]

/-- An abbreviation does not always find again the port that it found at first. -/
theorem not_asked_again :
    ¬ ∀ a : Asking, a.IsUnbroken → a.final.portKey? a.name = some a.lastKey := by
  intro h
  have hnames : overtaken.IsUnbroken := by decide +kernel
  have hlast : overtaken.lastKey = "FortyGigE1/0/1" := by decide +kernel
  have hfinal : overtaken.final.portKey? overtaken.name = some "FastEthernet1/0/1" := by
    decide +kernel
  have hagain := h overtaken hnames
  rw [hfinal, hlast] at hagain
  exact absurd hagain (by decide)

end Asking

end Device

end HostSurvey
