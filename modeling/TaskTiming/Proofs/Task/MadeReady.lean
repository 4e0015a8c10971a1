import TaskTiming.Task.Ready
import TaskTiming.Proofs.Log.Accepted
import TaskTiming.Proofs.Log.HeaderFormat

/-!
# What tasks are made ready

The checks of a task's parameters are spread over its validation, its first release, its ring and its
header. Together they accept just what `TaskParams.Acceptable` says (`prepare_eq_ok_iff`,
`acceptable_iff_prepared`), and all of them come before the log, so that a refused task leaves the disk
as it was (`task_is_made_ready_iff_acceptable`).
-/

namespace TaskTiming
set_option autoImplicit false

/-- A check is passed by what it does not refuse. -/
theorem Result.refuse_eq_ok {α : Type} {c : Prop} [Decidable c] {e : Error} {r : Result α} {a : α} :
    (if c then .error e else r) = .ok a ↔ ¬c ∧ r = .ok a := by
  by_cases h : c <;> simp [h]

/-- There is an instant for the sum of two that is not too late. -/
theorem Time.add?_eq_ok_iff {a b : Time} : (∃ t, a.add? b = .ok t) ↔ a.toNanos + b.toNanos ≤ max.toNanos := by
  rw [add?_eq]
  constructor
  · rintro ⟨t, sum⟩
    rw [← ofNanos?_eq_ok.1 sum]
    exact t.toNanos_le_max
  · intro le
    obtain ⟨t, sum⟩ := exists_toNanos le
    exact ⟨t, ofNanos?_eq_ok.2 sum⟩

namespace Log.Header

theorem length_nameBytes (h : Header) : h.nameBytes.length = h.name.utf8ByteSize := by
  rw [nameBytes, toList_eq_data, Array.length_toList]
  rfl

end Log.Header

namespace TaskParams

/-- The parameters that a task with a common start can have. -/
structure Acceptable (p : TaskParams) (t0 : Time) : Prop where
  named : p.name ≠ ""
  short : p.name.utf8ByteSize ≤ 4096
  wcet : 0 < p.wcet.toNanos
  /-- A ring that is wanted has a slot. -/
  capacity : p.stats.enabled = true → 0 < p.stats.capacity.toNat
  /-- A limit lets one job run. -/
  maxJobs : p.maxJobs ≠ some 0
  /-- There is an instant for the first release. -/
  first : t0.toNanos + p.offset.toNanos ≤ Time.max.toNanos
  /-- The seconds of all times are 32-bit words. -/
  words : ∀ t ∈ [p.wcet, p.period, p.deadline, t0, p.offset, p.overheads.jobStats,
    p.overheads.finishToStart], t.sec.toNat < 2 ^ 32

instance (p : TaskParams) (t0 : Time) : Decidable (p.Acceptable t0) :=
  decidable_of_iff (p.name ≠ "" ∧ p.name.utf8ByteSize ≤ 4096 ∧ 0 < p.wcet.toNanos ∧
      (p.stats.enabled = true → 0 < p.stats.capacity.toNat) ∧ p.maxJobs ≠ some 0 ∧
      t0.toNanos + p.offset.toNanos ≤ Time.max.toNanos ∧ ∀ t ∈ [p.wcet, p.period, p.deadline, t0, p.offset,
        p.overheads.jobStats, p.overheads.finishToStart], t.sec.toNat < 2 ^ 32)
    ⟨fun ⟨a, b, c, d, e, f, g⟩ => ⟨a, b, c, d, e, f, g⟩, fun ⟨a, b, c, d, e, f, g⟩ => ⟨a, b, c, d, e, f, g⟩⟩

theorem validate_eq_ok {p : TaskParams} : p.validate = .ok () ↔
    p.name ≠ "" ∧ 0 < p.wcet.toNanos ∧ (p.stats.enabled = true → 0 < p.stats.capacity.toNat) ∧
      p.maxJobs ≠ some 0 := by
  have named : p.name.isEmpty = true ↔ p.name = "" := String.isEmpty_iff
  have capacity : p.stats.capacity = 0 ↔ ¬0 < p.stats.capacity.toNat := by
    rw [← UInt64.toNat_inj]
    simp
  unfold validate
  simp only [Result.refuse_eq_ok, named, Time.not_isZero_iff_toNanos, capacity, not_and, Classical.not_not, and_true, ne_eq]

/-- The header has bytes if its name is short and its times are pairs of 32-bit words. -/
theorem encode_header_iff {p : TaskParams} {t0 : Time} : (∃ bytes, (p.header t0).encode = .ok bytes) ↔
    p.name.utf8ByteSize ≤ 4096 ∧ ∀ t ∈ [p.wcet, p.period, p.deadline, t0, p.offset, p.overheads.jobStats,
      p.overheads.finishToStart], t.sec.toNat < 2 ^ 32 := by
  have length : (p.header t0).nameBytes.length = p.name.utf8ByteSize := (p.header t0).length_nameBytes
  constructor
  · rintro ⟨bytes, encoded⟩
    obtain ⟨short, times, written, -⟩ := Log.Header.encode_eq_ok encoded
    rw [length] at short
    exact ⟨short, Log.lt_of_encodeTimes written⟩
  · rintro ⟨short, words⟩
    apply Log.Header.encode_accepts
    · rw [length]
      exact short
    · exact words

end TaskParams

namespace ReadyTask

variable {p : TaskParams} {t0 : Time} {path : Path}

/-- A task is prepared if nothing is wrong with any part of it. -/
theorem prepare_eq_ok_iff {task : ReadyTask} : prepare p t0 path = .ok task ↔
    p.validate = .ok () ∧ (∃ first, t0.add? p.offset = .ok first) ∧
      ∃ ring header, ringOf p.stats = .ok ring ∧ (p.header t0).encode = .ok header ∧
        task = { params := p, t0, ring, log := { bytes := header, samples := 0 }, path } := by
  constructor
  · intro prepared
    unfold prepare at prepared
    cases valid : p.validate with
    | error e => rw [valid] at prepared; cases prepared
    | ok _ =>
      cases first : t0.add? p.offset with
      | error e => rw [valid, first] at prepared; cases prepared
      | ok instant =>
        cases ring : ringOf p.stats with
        | error e => rw [valid, first, ring] at prepared; cases prepared
        | ok r =>
          cases encoded : (p.header t0).encode with
          | error e =>
            rw [valid, first, ring, Log.Writer.new, encoded] at prepared
            cases prepared
          | ok header =>
            rw [valid, first, ring, Log.Writer.new_of_encoded encoded] at prepared
            cases prepared
            exact ⟨rfl, ⟨instant, rfl⟩, r, header, rfl, rfl, rfl⟩
  · rintro ⟨valid, ⟨first, instant⟩, ring, header, hasRing, encoded, rfl⟩
    rw [prepare, valid, instant, hasRing, Log.Writer.new_of_encoded encoded]
    rfl

/-- There is a ring if one is wanted with a slot, or none is wanted. -/
theorem ringOf_eq_ok_iff {s : StatsConfig} :
    (∃ ring, ringOf s = .ok ring) ↔ (s.enabled = true → 0 < s.capacity.toNat) := by
  unfold ringOf
  by_cases enabled : s.enabled = true
  · rw [if_pos enabled]
    by_cases pos : 0 < s.capacity.toNat
    · rw [Ring.new_eq_ok pos]
      exact ⟨fun _ _ => pos, fun _ => ⟨_, rfl⟩⟩
    · rw [Ring.new, dif_neg pos]
      constructor
      · rintro ⟨ring, made⟩
        cases made
      · intro slot
        exact (pos (slot enabled)).elim
  · rw [if_neg enabled]
    exact ⟨fun _ on => (enabled on).elim, fun _ => ⟨none, rfl⟩⟩

/-- **Acceptable parameters are those that a task is prepared with.** -/
theorem acceptable_iff_prepared : (∃ task, prepare p t0 path = .ok task) ↔ p.Acceptable t0 := by
  constructor
  · rintro ⟨task, prepared⟩
    obtain ⟨valid, first, ring, header, hasRing, encoded, -⟩ := prepare_eq_ok_iff.1 prepared
    obtain ⟨named, wcet, capacity, maxJobs⟩ := TaskParams.validate_eq_ok.1 valid
    obtain ⟨short, words⟩ := TaskParams.encode_header_iff.1 ⟨header, encoded⟩
    exact ⟨named, short, wcet, capacity, maxJobs, Time.add?_eq_ok_iff.1 first, words⟩
  · intro ok
    obtain ⟨ring, hasRing⟩ := ringOf_eq_ok_iff.2 ok.capacity
    obtain ⟨header, encoded⟩ := TaskParams.encode_header_iff.2 ⟨ok.short, ok.words⟩
    refine ⟨_, prepare_eq_ok_iff.2 ⟨?_, Time.add?_eq_ok_iff.2 ok.first, ring, header, hasRing, encoded, rfl⟩⟩
    exact TaskParams.validate_eq_ok.2 ⟨ok.named, ok.wcet, ok.capacity, ok.maxJobs⟩

/-- What making a task ready comes to: whom it accepts, what it leaves in the file, and that it leaves the
disk as it was where it refuses. -/
structure Settles {α : Type} (made : Result α × Disk) (accepted : Prop) (header : Log.Header) (path : Path)
    (d : Disk) : Prop where
  accepts : (∃ a, made.1 = .ok a) ↔ accepted
  file : ∀ a, made.1 = .ok a → ∃ bytes, header.encode = .ok bytes ∧ made.2.read path = .ok (.ok bytes)
  refuses : ∀ e, made.1 = .error e → made.2 = d

section Settles

variable {d : Disk}

theorem Settles.of_refused {α : Type} {accepted : Prop} (not : ¬accepted) (e : Error) (header : Log.Header)
    (path : Path) (d : Disk) : Settles (α := α) (.error e, d) accepted header path d where
  accepts := ⟨fun ⟨_, made⟩ => (nomatch made), fun ok => (not ok).elim⟩
  file := nofun
  refuses _ _ := rfl

theorem Settles.of_made {α : Type} {accepted : Prop} {header : Log.Header} {d' : Disk} (ok : accepted) (a : α)
    (file : ∃ bytes, header.encode = .ok bytes ∧ d'.read path = .ok (.ok bytes)) (d : Disk) :
    Settles (.ok a, d') accepted header path d where
  accepts := ⟨fun _ => ok, fun _ => ⟨a, rfl⟩⟩
  file _ _ := file
  refuses := nofun

/-- The disk takes the header, if there is one. -/
def Works (d : Disk) (path : Path) (header : Log.Header) : Prop :=
  ∀ bytes, header.encode = .ok bytes → (d.createWith path bytes).1 = .ok ()

/-- A task that was prepared gets its log. -/
theorem create_of_prepared {task : ReadyTask} (prepared : prepare p t0 path = .ok task)
    (works : Works d path (p.header t0)) :
    (task.create d).1 = .ok () ∧
    ∃ bytes, (p.header t0).encode = .ok bytes ∧ (task.create d).2.read path = .ok (.ok bytes) := by
  obtain ⟨-, -, ring, bytes, -, encoded, rfl⟩ := prepare_eq_ok_iff.1 prepared
  have made := works bytes encoded
  have saved := Log.Writer.save_of_made (w := { bytes, samples := 0 }) made
  rw [create, saved]
  exact ⟨rfl, bytes, encoded, Disk.read_createWith (Prod.ext made rfl)⟩

theorem new_settles (works : Works d path (p.header t0)) :
    Settles (new p t0 path d) (p.Acceptable t0) (p.header t0) path d := by
  rw [← acceptable_iff_prepared]
  cases prepared : prepare p t0 path with
  | error e =>
    have refused : new p t0 path d = (.error e, d) := by rw [new, prepared]
    rw [refused]
    exact .of_refused (fun ⟨_, ok⟩ => nomatch ok) e _ _ _
  | ok task =>
    obtain ⟨saved, file⟩ := create_of_prepared prepared works
    have made : new p t0 path d = (.ok task, (task.create d).2) := by
      rw [new, prepared]
      simp only [saved]
      rfl
    rw [made]
    exact .of_made ⟨task, rfl⟩ task file d

/-- A busy task is prepared if it is left a budget, and there is a loop for it. -/
theorem prepareBusy_eq_ok_iff {calibration job : Calibration} {task : ReadyTask} :
    prepareBusy p t0 calibration path = .ok (task, job) ↔
      (∃ budget, p.overheads.effectiveBudget p.wcet = .ok budget ∧ calibration.scaledTo budget = .ok job) ∧
        prepare p t0 path = .ok task := by
  unfold prepareBusy
  constructor
  · intro prepared
    cases budget : p.overheads.effectiveBudget p.wcet with
    | error e => rw [budget] at prepared; cases prepared
    | ok left =>
      rw [budget] at prepared
      dsimp only [bind, Except.bind] at prepared
      cases loop : calibration.scaledTo left with
      | error e => rw [loop] at prepared; cases prepared
      | ok found =>
        cases ready : prepare p t0 path with
        | error e => rw [loop, ready] at prepared; cases prepared
        | ok task =>
          rw [loop, ready] at prepared
          cases prepared
          exact ⟨⟨left, rfl, loop⟩, rfl⟩
  · rintro ⟨⟨left, budget, loop⟩, ready⟩
    rw [budget]
    dsimp only [bind, Except.bind]
    rw [loop, ready]
    rfl

theorem newBusy_settles (works : Works d path (p.header t0)) (calibration : Calibration) :
    Settles (newBusy p t0 calibration path d)
      (p.Acceptable t0 ∧ ∃ budget job, p.overheads.effectiveBudget p.wcet = .ok budget ∧
        calibration.scaledTo budget = .ok job) (p.header t0) path d := by
  have accepts : (∃ made, prepareBusy p t0 calibration path = .ok made) ↔ p.Acceptable t0 ∧
      ∃ budget job, p.overheads.effectiveBudget p.wcet = .ok budget ∧ calibration.scaledTo budget = .ok job := by
    rw [← acceptable_iff_prepared]
    constructor
    · rintro ⟨⟨task, job⟩, prepared⟩
      obtain ⟨⟨budget, left, loop⟩, ready⟩ := prepareBusy_eq_ok_iff.1 prepared
      exact ⟨⟨task, ready⟩, budget, job, left, loop⟩
    · rintro ⟨⟨task, ready⟩, budget, job, left, loop⟩
      exact ⟨(task, job), prepareBusy_eq_ok_iff.2 ⟨⟨budget, left, loop⟩, ready⟩⟩
  rw [← accepts]
  cases prepared : prepareBusy p t0 calibration path with
  | error e =>
    have refused : newBusy p t0 calibration path d = (.error e, d) := by rw [newBusy, prepared]
    rw [refused]
    exact .of_refused (fun ⟨_, ok⟩ => nomatch ok) e _ _ _
  | ok busy =>
    obtain ⟨task, job⟩ := busy
    obtain ⟨saved, file⟩ := create_of_prepared (prepareBusy_eq_ok_iff.1 prepared).2 works
    have made : newBusy p t0 calibration path d = (.ok (task, job), (task.create d).2) := by
      rw [newBusy, prepared]
      simp only [saved]
      rfl
    rw [made]
    exact .of_made ⟨(task, job), rfl⟩ (task, job) file d

end Settles

/-- **Tasks are made ready from acceptable parameters and from no others.** Then the log is the header
alone, and else the disk is as it was, be it that the task is refused for itself or, if its jobs are busy,
for its budget. -/
theorem task_is_made_ready_iff_acceptable {p : TaskParams} {t0 : Time} {path : Path} {d : Disk}
    (works : Works d path (p.header t0)) :
    Settles (new p t0 path d) (p.Acceptable t0) (p.header t0) path d ∧
    ∀ calibration : Calibration, Settles (newBusy p t0 calibration path d)
      (p.Acceptable t0 ∧ ∃ budget job, p.overheads.effectiveBudget p.wcet = .ok budget ∧
        calibration.scaledTo budget = .ok job) (p.header t0) path d :=
  ⟨new_settles works, newBusy_settles works⟩

/-- A deadline of 2^32 seconds is one second too long, and an older log stays. -/
theorem task_is_made_ready_iff_acceptable_late :
    let p := TaskParams.periodic "tau" (.ofSecs 1) (.ofSecs 2)
    let late := { p with deadline := .ofSecs 4294967296 }
    let d : Disk := { nodes := [(["log"], .file [1, 2, 3])], here := [], room := none }
    Works d ⟨"log"⟩ (p.header (.ofSecs 5)) ∧ (∃ task, (new p (.ofSecs 5) ⟨"log"⟩ d).1 = .ok task) ∧
    Works d ⟨"log"⟩ (late.header (.ofSecs 5)) ∧ ¬late.Acceptable (.ofSecs 5) ∧
      (new late (.ofSecs 5) ⟨"log"⟩ d).2 = d := by
  intro p late d
  have works (header : Log.Header) : Works d ⟨"log"⟩ header :=
    fun bytes _ => Disk.createWith_of_unlimited rfl (fun _ => rfl) bytes
  have made := (task_is_made_ready_iff_acceptable (works (p.header (.ofSecs 5)))).1
  have refused := (task_is_made_ready_iff_acceptable (works (late.header (.ofSecs 5)))).1
  have wrong : ¬late.Acceptable (.ofSecs 5) := by decide
  refine ⟨works _, made.accepts.2 (by decide), works _, wrong, ?_⟩
  cases answer : (new late (.ofSecs 5) ⟨"log"⟩ d).1 with
  | ok task => exact (wrong (refused.accepts.1 ⟨task, answer⟩)).elim
  | error e => exact refused.refuses e answer

end ReadyTask

end TaskTiming
