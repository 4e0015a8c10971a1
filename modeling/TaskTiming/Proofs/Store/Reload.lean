import TaskTiming.Store.File
import TaskTiming.Proofs.Json.Saving
import TaskTiming.Proofs.Store.Records

/-!
# Stores saved and loaded again

The CPUs of a store stand in order, whether it was built by changes or loaded from a file whose CPUs stand in
any order (`Ordered`), so that putting what is written back one CPU after the other makes the same list
(`reads_toJson`). What a change sets is there until it is set anew, and nothing else changes
(`busyloop_changed`, `overheads_changed`). Main statement: `store_is_loaded_as_saved`.
-/

namespace TaskTiming.Store
set_option autoImplicit false
open Json (Decoder Schema)
open Json.Decoder

variable {s : Store}

/-! ## The order of the CPUs -/

/-- Every CPU stands behind the lower ones. -/
def Ascending (cpus : List (UInt64 × CpuRecord)) : Prop := cpus.Pairwise fun a b => a.1 < b.1

def Ordered (s : Store) : Prop := Ascending s.cpus

theorem mem_insert {cpu : UInt64} {r : CpuRecord} {cpus : List (UInt64 × CpuRecord)}
    {entry : UInt64 × CpuRecord} (mem : entry ∈ insert cpu r cpus) : entry = (cpu, r) ∨ entry ∈ cpus := by
  induction cpus with
  | nil => exact .inl (List.mem_singleton.1 mem)
  | cons head rest ih =>
    obtain ⟨other, record⟩ := head
    rw [insert] at mem
    split at mem
    · exact List.mem_cons.1 mem
    split at mem
    · rcases List.mem_cons.1 mem with here | later
      · exact .inl here
      · exact .inr (List.mem_cons_of_mem _ later)
    · rcases List.mem_cons.1 mem with here | later
      · exact .inr (here ▸ List.mem_cons_self)
      · rcases ih later with new | old
        · exact .inl new
        · exact .inr (List.mem_cons_of_mem _ old)

theorem ascending_insert {cpus : List (UInt64 × CpuRecord)} (ascending : Ascending cpus) (cpu : UInt64)
    (r : CpuRecord) : Ascending (insert cpu r cpus) := by
  induction cpus with
  | nil => exact List.pairwise_singleton _ _
  | cons head rest ih =>
    obtain ⟨other, record⟩ := head
    obtain ⟨above, later⟩ := List.pairwise_cons.1 ascending
    rw [insert]
    split
    · rename_i lower
      apply List.pairwise_cons.2
      refine ⟨?_, ascending⟩
      intro entry mem
      rcases List.mem_cons.1 mem with rfl | mem
      · exact lower
      · exact UInt64.lt_trans lower (above entry mem)
    split
    · rename_i same
      subst same
      exact List.pairwise_cons.2 ⟨above, later⟩
    · rename_i notLower different
      apply List.pairwise_cons.2
      refine ⟨?_, ih later⟩
      intro entry mem
      rcases mem_insert mem with rfl | old
      · show other < cpu
        rw [UInt64.lt_iff_toNat_lt] at notLower ⊢
        rw [← UInt64.toNat_inj] at different
        omega
      · exact above entry old

/-- A CPU above all others is put at the end. -/
theorem insert_above {cpu : UInt64} {cpus : List (UInt64 × CpuRecord)} (above : ∀ entry ∈ cpus, entry.1 < cpu)
    (r : CpuRecord) : insert cpu r cpus = cpus ++ [(cpu, r)] := by
  induction cpus with
  | nil => rfl
  | cons head rest ih =>
    obtain ⟨other, record⟩ := head
    have lower : other < cpu := above _ List.mem_cons_self
    have notBelow : ¬cpu < other := UInt64.lt_asymm lower
    have different : ¬cpu = other := by
      rintro rfl
      exact UInt64.lt_irrefl _ lower
    rw [insert, if_neg notBelow, if_neg different, ih fun entry mem => above entry (List.mem_cons_of_mem _ mem)]
    rfl

/-- Puts records one after the other. -/
def putAll (s : Store) (cpus : List (UInt64 × CpuRecord)) : Store :=
  cpus.foldl (fun s entry => s.put entry.1 entry.2) s

/-- CPUs that stand in order are put one behind the other. -/
theorem putAll_ascending {cpus : List (UInt64 × CpuRecord)} (ascending : Ascending (s.cpus ++ cpus)) :
    (s.putAll cpus).cpus = s.cpus ++ cpus := by
  induction cpus generalizing s with
  | nil => exact (List.append_nil _).symm
  | cons entry rest ih =>
    have above : ∀ before ∈ s.cpus, before.1 < entry.1 := fun before mem =>
      (List.pairwise_append.1 ascending).2.2 before mem entry List.mem_cons_self
    have put : (s.put entry.1 entry.2).cpus = s.cpus ++ [entry] := insert_above above entry.2
    rw [List.append_cons, ← put] at ascending ⊢
    exact ih ascending

/-! ## What is written and read -/

/-- A digit needs no escape. -/
theorem escapeChar_digit {c : Char} (digit : Decimal.isDigit c = true) : Json.escapeChar c = [c] := by
  have apart : ∀ mark, Decimal.isDigit mark = false → ¬c = mark := by
    rintro mark no rfl
    rw [digit] at no
    cases no
  have visible : ¬c.toNat < 32 := by
    simp only [Decimal.isDigit, Bool.and_eq_true, decide_eq_true_eq] at digit
    omega
  rw [Json.escapeChar, if_neg (apart _ rfl), if_neg (apart _ rfl), if_neg (apart _ rfl), if_neg (apart _ rfl),
    if_neg (apart _ rfl), if_neg (apart _ rfl), if_neg (apart _ rfl), if_neg visible]

theorem escape_digits {row : List Char} (digits : row.all Decimal.isDigit = true) : Json.escape row = row := by
  induction row with
  | nil => rfl
  | cons c rest ih =>
    rw [List.all_cons, Bool.and_eq_true] at digits
    rw [Json.escape, List.flatMap_cons, escapeChar_digit digits.1]
    exact congrArg (c :: ·) (ih digits.2)

/-- An index is read from the key that it is written as. -/
theorem index?_escape_text (cpu : UInt64) : index? (Json.escape (Decimal.text cpu.toNat).toList) = some cpu := by
  have noZero : (Decimal.digits cpu.toNat).head? = some '0' → (Decimal.digits cpu.toNat).length = 1 := by
    intro zero
    rw [Decimal.eq_zero_of_head_digits zero, Decimal.digits, if_pos (by decide)]
    rfl
  have plain : ¬((Decimal.digits cpu.toNat).isEmpty || !(Decimal.digits cpu.toNat).all Decimal.isDigit ||
      ((Decimal.digits cpu.toNat).head? = some '0' && (Decimal.digits cpu.toNat).length ≠ 1)) = true := by
    simp only [Decimal.all_digits, Bool.not_true, Bool.or_false, Bool.or_eq_true, List.isEmpty_iff,
      Decimal.digits_ne_nil, false_or, Bool.and_eq_true, decide_eq_true_eq]
    rintro ⟨zero, long⟩
    exact long (noZero zero)
  rw [Decimal.text, String.toList_ofList, escape_digits (Decimal.all_digits _), index?, if_neg plain,
    Decimal.value_digits]
  exact Word.ofNat?_eq_some.2 rfl

/-- What a store does with each of its members. -/
def cpuMember (s : Store) (row : List Char) : Decoder Store :=
  match index? row with
  | none => Decoder.malformed
  | some cpu => do return s.put cpu (← CpuRecord.schema.read)

/-- What is written for each CPU. -/
def cpuMembers (cpus : List (UInt64 × CpuRecord)) : List (String × Json) :=
  cpus.map fun (cpu, r) => (Decimal.text cpu.toNat, r.toJson)

theorem takes_cpuMember (s : Store) (cpu : UInt64) (r : CpuRecord) :
    (cpuMember s (Json.escape (Decimal.text cpu.toNat).toList)).Takes r.toJson.tokens (s.put cpu r) := by
  rw [cpuMember, index?_escape_text]
  exact r.reads_toJson.takes.bind_nil (takes_pure _)

theorem handles_cpuMembers (s : Store) (cpus : List (UInt64 × CpuRecord)) :
    Handles cpuMember s (cpuMembers cpus) (s.putAll cpus) := by
  induction cpus generalizing s with
  | nil => exact .nil s
  | cons entry rest ih => exact .cons (takes_cpuMember s entry.1 entry.2) (ih _)

/-- The CPUs of a store in order are read back. -/
theorem reads_cpus (ordered : s.Ordered) : cpusDecoder.Reads (.object (cpuMembers s.cpus)) s where
  natural := by
    apply Json.Natural.object
    intro m mem
    obtain ⟨entry, -, rfl⟩ := List.mem_map.1 mem
    exact entry.2.reads_toJson.natural
  takes := by
    have same : putAll empty s.cpus = s := congrArg mk (putAll_ascending ordered)
    have takes := takes_members (handles_cpuMembers empty s.cpus)
    rw [same] at takes
    exact takes

def entries (s : Store) : List (Schema.Entry Store) := [⟨"cpus", .object (cpuMembers s.cpus), fun _ => s⟩]

/-- **A store is read back** if its CPUs stand in order. -/
theorem reads_toJson (ordered : s.Ordered) : schema.read.Reads s.toJson s := by
  have writes : ∀ e ∈ s.entries, schema.Writes e := by
    intro e mem
    rw [entries, List.mem_singleton] at mem
    rw [mem]
    exact ⟨_, rfl, (reads_cpus ordered).map _⟩
  have named : s.entries.map Schema.Entry.name = ["cpus"] := rfl
  apply Schema.reads_written writes named
  · decide
  · decide

/-! ## What is at hand -/

theorem ordered_put (ordered : s.Ordered) (cpu : UInt64) (r : CpuRecord) : (s.put cpu r).Ordered :=
  ascending_insert ordered cpu r

/-- Every store that is read stands in order, whatever the order in the file. -/
theorem gives_ordered : schema.read.Gives Ordered := by
  have member : ∀ s row, Ordered s → (cpuMember s row).Gives Ordered := by
    intro s row ordered
    rw [cpuMember]
    split
    · exact gives_fail _
    · exact gives_bind fun r => gives_pure (ordered_put ordered _ r)
  apply Schema.gives_read
  · exact List.Pairwise.nil
  · intro field mem
    rw [schema, List.mem_singleton] at mem
    rw [mem]
    refine Gives.map (gives_members member List.Pairwise.nil) ?_
    intro s ordered _ _
    exact ordered

/-- A store as a program has it at first: an empty one, or one that was loaded from a file. -/
inductive AtStart : Store → Prop
  | empty : AtStart empty
  | loaded {s : Store} {p : Path} {d d' : Disk} (loaded : (load p : StateM Disk _).run d = (.ok s, d')) :
      AtStart s

theorem AtStart.ordered (start : s.AtStart) : s.Ordered := by
  cases start with
  | empty => exact List.Pairwise.nil
  | loaded loaded => exact Json.gives_file gives_ordered loaded

/-! ## Changes -/

/-- A change of a store. -/
inductive Change
  /-- A CPU is looked up, which makes a record of it. -/
  | touch (cpu : UInt64)
  | busyloop (cpu : UInt64) (c : Calibration)
  | overheads (cpu : UInt64) (release : ReleaseKind) (o : Overheads)

def change (s : Store) : Change → Store
  | .touch cpu => s.update cpu id
  | .busyloop cpu c => s.setBusyloop cpu c
  | .overheads cpu release o => s.setOverheads cpu release o

/-- A store after some changes. -/
def changed (s : Store) (changes : List Change) : Store := changes.foldl change s

theorem ordered_changed (ordered : s.Ordered) (changes : List Change) : (s.changed changes).Ordered := by
  induction changes generalizing s with
  | nil => exact ordered
  | cons c rest ih =>
    have here : (s.change c).Ordered := by
      cases c with
      | touch cpu => exact ordered_put ordered cpu _
      | busyloop cpu c => exact ordered_put ordered cpu _
      | overheads cpu release o => exact ordered_put ordered cpu _
    exact ih here

/-- The calibration of a CPU, where there is one. -/
def busyloop (s : Store) (cpu : UInt64) : Option Calibration := (s.cpu? cpu).bind CpuRecord.busyloop

/-- The calibration that a change sets for a CPU. -/
def Change.busyloopOf (cpu : UInt64) : Change → Option Calibration
  | .busyloop other c => if other = cpu then some c else none
  | _ => none

/-- The overheads that a change sets for tasks of one kind on a CPU. -/
def Change.overheadsOf (cpu : UInt64) (release : ReleaseKind) : Change → Option Overheads
  | .overheads other kind o => if other = cpu ∧ kind = release then some o else none
  | _ => none

section Parts

variable {α : Type} {part : CpuRecord → Option α} {f : CpuRecord → CpuRecord}

/-- An update that sets a part of the record of a CPU leaves that of all other CPUs alone. -/
theorem part_update_of_sets (s : Store) (cpu asked : UInt64) (set : Option α) (sets : ∀ r, part (f r) = set) :
    ((s.update cpu f).cpu? asked).bind part = if cpu = asked then set else (s.cpu? asked).bind part := by
  by_cases same : cpu = asked
  · rw [if_pos same, ← same, update, cpu?_put_self, Option.bind_some, sets]
  · rw [if_neg same, update, cpu?_put_of_ne (Ne.symm same)]

/-- An update that leaves a part as it was leaves that of every CPU. -/
theorem part_update_of_keeps (unknown : part .blank = none) (keeps : ∀ r, part (f r) = part r) (s : Store)
    (cpu asked : UInt64) : ((s.update cpu f).cpu? asked).bind part = (s.cpu? asked).bind part := by
  by_cases same : cpu = asked
  · rw [← same, update, cpu?_put_self, Option.bind_some, keeps]
    cases s.cpu? cpu with
    | none => exact unknown
    | some r => rfl
  · rw [update, cpu?_put_of_ne (Ne.symm same)]

/-- What was set last counts, or else what was there before. -/
theorem part_changed (value : Store → Option α) (set : Change → Option α)
    (step : ∀ s c, value (s.change c) = (set c).or (value s)) (s : Store) (changes : List Change) :
    value (s.changed changes) = (changes.filterMap set).getLast?.or (value s) := by
  induction changes generalizing s with
  | nil => rfl
  | cons c rest ih =>
    show value ((s.change c).changed rest) = _
    rw [ih, step]
    cases here : set c with
    | none => rw [List.filterMap_cons_none here, Option.none_or]
    | some a =>
      rw [List.filterMap_cons_some here, List.getLast?_cons, Option.some_or, Option.some_or]
      cases (rest.filterMap set).getLast? <;> rfl

end Parts

theorem busyloop_change (cpu : UInt64) (s : Store) (c : Change) :
    (s.change c).busyloop cpu = (c.busyloopOf cpu).or (s.busyloop cpu) := by
  cases c with
  | touch other =>
    apply part_update_of_keeps rfl
    intro r
    rfl
  | busyloop other c =>
    have set : (s.setBusyloop other c).busyloop cpu = if other = cpu then some c else s.busyloop cpu := by
      apply part_update_of_sets
      intro r
      rfl
    show _ = (if other = cpu then some c else none).or (s.busyloop cpu)
    rw [change, set]
    split <;> rfl
  | overheads other kind o =>
    apply part_update_of_keeps rfl
    intro r
    cases kind <;> rfl

theorem overheads_change (cpu : UInt64) (release : ReleaseKind) (s : Store) (c : Change) :
    (s.change c).overheads cpu release = (c.overheadsOf cpu release).or (s.overheads cpu release) := by
  have unknown : CpuRecord.blank.overheads release = none := by
    cases release <;> rfl
  cases c with
  | touch other =>
    apply part_update_of_keeps unknown
    intro r
    rfl
  | busyloop other c =>
    apply part_update_of_keeps unknown
    intro r
    cases release <;> rfl
  | overheads other kind o =>
    show _ = (if other = cpu ∧ kind = release then some o else none).or (s.overheads cpu release)
    by_cases same : kind = release
    · subst same
      have set : (s.setOverheads other kind o).overheads cpu kind =
          if other = cpu then some o else s.overheads cpu kind := by
        apply part_update_of_sets
        intro r
        cases kind <;> rfl
      rw [change, set]
      by_cases here : other = cpu
      · rw [if_pos here, if_pos ⟨here, rfl⟩, Option.some_or]
      · rw [if_neg here, if_neg fun both => here both.1, Option.none_or]
    · have other : (s.setOverheads other kind o).overheads cpu release = s.overheads cpu release := by
        apply part_update_of_keeps unknown
        intro r
        cases kind <;> cases release <;> first | rfl | exact absurd rfl same
      rw [if_neg fun both => same both.2, Option.none_or, change, other]

/-- What a store knows after some changes of another one: of each CPU the calibration, and of each CPU and kind
of task the overheads, that were last set, or else what the other one knew. -/
structure Follows (base : Store) (changes : List Change) (s : Store) : Prop where
  busyloop : ∀ cpu, s.busyloop cpu = (changes.filterMap (Change.busyloopOf cpu)).getLast?.or (base.busyloop cpu)
  overheads : ∀ cpu release, s.overheads cpu release =
    (changes.filterMap (Change.overheadsOf cpu release)).getLast?.or (base.overheads cpu release)

theorem follows_changed (base : Store) (changes : List Change) : Follows base changes (base.changed changes) where
  busyloop := by
    intro cpu
    exact part_changed (fun s => s.busyloop cpu) _ (busyloop_change cpu) base changes
  overheads := by
    intro cpu release
    exact part_changed (fun s => s.overheads cpu release) _ (overheads_change cpu release) base changes

/-- An empty store knows nothing. -/
theorem unknown_empty (cpu : UInt64) : empty.busyloop cpu = none ∧ ∀ release, empty.overheads cpu release = none :=
  ⟨rfl, fun _ => rfl⟩

/-- **A store is loaded as it was saved**, with whatever changes since it was empty or loaded itself: what was
set last is there, and what was not set is as it was. -/
theorem store_is_loaded_as_saved {base : Store} (start : base.AtStart) (changes : List Change) {d : Disk}
    {p : Path} (created : (d.create p).1 = .ok ())
    (room : d.HasRoom p (base.changed changes).toJson.textBytes.length) :
    (∃ d', ((base.changed changes).save p : StateM Disk _).run d = (.ok (), d') ∧
      (load p : StateM Disk _).run d' = (.ok (base.changed changes), d')) ∧
    Follows base changes (base.changed changes) ∧
    ∀ cpu, empty.busyloop cpu = none ∧ ∀ release, empty.overheads cpu release = none := by
  have ordered := ordered_changed start.ordered changes
  refine ⟨?_, follows_changed base changes, unknown_empty⟩
  exact Json.run_file_of_save (reads_toJson ordered) created room

/-- A CPU of which nothing is known, and the largest numbers for two others. -/
def farthest : List Change := [
  .touch 7,
  .busyloop Word.max64
    { cpu := Word.max64, frequency := none, iterations := Word.max64, target := .max, tolerance := .zero },
  .overheads 0 .aperiodic { jobStats := .max, finishToStart := .zero }]

theorem store_is_loaded_as_saved_farthest :
    empty.AtStart ∧ (Disk.empty.create ⟨"store.json"⟩).1 = .ok () ∧
      Disk.empty.HasRoom ⟨"store.json"⟩ (empty.changed farthest).toJson.textBytes.length ∧
      (empty.changed farthest).cpus.map Prod.fst = [0, 7, Word.max64] ∧
      ∃ d', ((empty.changed farthest).save ⟨"store.json"⟩ : StateM Disk _).run .empty = (.ok (), d') ∧
        (load ⟨"store.json"⟩ : StateM Disk _).run d' = (.ok (empty.changed farthest), d') := by
  have room : Disk.empty.HasRoom ⟨"store.json"⟩ (empty.changed farthest).toJson.textBytes.length := by
    intro n limited
    cases limited
  refine ⟨.empty, rfl, room, by decide, ?_⟩
  exact (store_is_loaded_as_saved .empty farthest rfl room).1

end TaskTiming.Store
