import TaskTiming.Proofs.Calibration.WideProducts
import TaskTiming.Proofs.Task.BusyRounds
import TaskTiming.Task.Live

/-!
# What brings down who starts a task

On the way from parameters to a thread every refusal is an error to report (`Result.Reports`), but for two. The
rounds of a busy job are scaled before its header is made, so that no bound on its times holds yet, and a
product that has no room is an abort (`scaling_aborts_iff_too_wide`). And a name is checked for its length but not
for what a thread cannot be called: with a zero byte in it a task is made ready like any other, and starting it is
an abort (`start_aborts_iff_zero_in_name`).
-/

namespace TaskTiming
set_option autoImplicit false

/-! ## Errors to report -/

/-- Whatever goes wrong is an error to report. -/
def Result.Reports {α : Type} (r : Result α) : Prop := ∀ e, r = .error e → e.isAbort = false

/-- A check ends with its error, or as what comes behind it. -/
theorem Result.refuse_eq_error {α : Type} {c : Prop} [Decidable c] {e e' : Error} {r : Result α} :
    (if c then .error e else r) = .error e' ↔ e' = e ∧ c ∨ ¬c ∧ r = .error e' := by
  by_cases h : c <;> simp [h, eq_comm]

theorem Error.isAbort_ofTime (e : TimeError) : (Error.ofTime e).isAbort = false := by
  cases e <;> rfl

namespace Result.Reports

variable {α β : Type} {e : Error} {r : Result α}

theorem ok (a : α) : Reports (.ok a) := nofun

theorem error (reported : e.isAbort = false) : Reports (α := α) (.error e) := by
  rintro _ ⟨⟩
  exact reported

theorem refuse {c : Prop} [Decidable c] (reported : e.isAbort = false) (reports : r.Reports) :
    Reports (if c then .error e else r) := by
  split
  · exact error reported
  · exact reports

theorem bind {f : α → Result β} (reports : r.Reports) (rest : ∀ a, (f a).Reports) : Reports (r >>= f) := by
  cases r with
  | error e => exact error (reports e rfl)
  | ok a => exact rest a

theorem ofTime (computed : Except TimeError α) : (Result.ofTime computed).Reports := by
  cases computed with
  | ok a => exact ok a
  | error e => exact error (Error.isAbort_ofTime e)

theorem map (reports : r.Reports) (f : α → β) : Reports (r.map f) := by
  cases r with
  | error e => exact error (reports e rfl)
  | ok a => exact ok (f a)

end Result.Reports

namespace Log

theorem reports_encodeTime (t : Time) : (encodeTime t).Reports := by
  unfold encodeTime
  split
  · exact .ok _
  · exact .error (Error.isAbort_ofTime _)

theorem reports_encodeTimes (times : List Time) : (encodeTimes times).Reports := by
  induction times with
  | nil => exact .ok _
  | cons t rest ih => exact .bind (reports_encodeTime t) fun _ => .bind ih fun _ => .ok _

theorem Header.reports_encode (h : Header) : h.encode.Reports :=
  .refuse rfl (.bind (reports_encodeTimes _) fun _ => .ok _)

end Log

/-! ## Zero bytes -/

theorem Bytes.ofNat_ne_zero {n : Nat} (pos : 0 < n) (byte : n < 256) : UInt8.ofNat n ≠ 0 := by
  intro zero
  have := congrArg UInt8.toNat zero
  rw [UInt8.toNat_ofNat_of_lt' byte, UInt8.toNat_zero] at this
  omega

/-- The bytes of a character are its number if that is small, and else marked in their highest bits. -/
theorem Bytes.ne_zero_of_mem_utf8 {c : Char} (pos : 0 < c.val.toNat) {b : UInt8}
    (mem : b ∈ String.utf8EncodeChar c) : b ≠ 0 := by
  unfold String.utf8EncodeChar at mem
  generalize c.val.toNat = v at *
  dsimp only at mem
  split at mem
  · obtain rfl := List.mem_singleton.1 mem
    exact ofNat_ne_zero pos (by omega)
  · simp only [apply_ite (b ∈ ·), List.mem_cons, List.not_mem_nil, or_false] at mem
    split at mem
    · rcases mem with rfl | rfl <;> exact ofNat_ne_zero (by omega) (by omega)
    split at mem
    · rcases mem with rfl | rfl | rfl <;> exact ofNat_ne_zero (by omega) (by omega)
    · rcases mem with rfl | rfl | rfl | rfl <;> exact ofNat_ne_zero (by omega) (by omega)

theorem Bytes.zero_mem_utf8_iff {c : Char} : 0 ∈ String.utf8EncodeChar c ↔ c = '\x00' := by
  constructor
  · intro mem
    by_contra other
    have pos : 0 < c.val.toNat := Nat.pos_of_ne_zero fun zero => other (Char.toNat_inj.1 zero)
    exact ne_zero_of_mem_utf8 pos mem rfl
  · rintro rfl
    decide

theorem Log.Header.nameBytes_eq (h : Log.Header) : h.nameBytes = h.name.toList.flatMap String.utf8EncodeChar := by
  have bytes : h.name.toByteArray = h.name.toList.utf8Encode := by
    rw [← String.toByteArray_ofList, String.ofList_toList]
  rw [nameBytes, String.toUTF8_eq_toByteArray, toList_eq_data, bytes, List.utf8Encode, List.toList_data_toByteArray]

/-- A name holds a zero byte if one of its characters is NUL. -/
theorem Log.Header.zero_mem_nameBytes_iff (h : Log.Header) : 0 ∈ h.nameBytes ↔ '\x00' ∈ h.name.toList := by
  rw [nameBytes_eq, List.mem_flatMap]
  constructor
  · rintro ⟨c, mem, zero⟩
    rwa [← Bytes.zero_mem_utf8_iff.1 zero]
  · intro mem
    exact ⟨_, mem, Bytes.zero_mem_utf8_iff.2 rfl⟩

namespace ReadyTask

variable {p : TaskParams} {t0 : Time} {c : Calibration} {path : Path} {d : Disk} {task : ReadyTask}

theorem reports_ringOf (s : StatsConfig) : (ringOf s).Reports := by
  unfold ringOf Ring.new
  split
  · split
    · exact .ok _
    · exact .error rfl
  · exact .ok _

/-- Nothing that is wrong with parameters brings anybody down. -/
theorem reports_prepare (p : TaskParams) (t0 : Time) (path : Path) : (prepare p t0 path).Reports := by
  have valid : p.validate.Reports := .refuse rfl (.refuse rfl (.refuse rfl (.refuse rfl (.ok _))))
  have log : (Log.Writer.new (p.header t0)).Reports := .bind (Log.Header.reports_encode _) fun _ => .ok _
  exact .bind valid fun _ => .bind (.ofTime _) fun _ => .bind (reports_ringOf _) fun _ => .bind log fun _ => .ok _

/-- Nor does a disk. -/
theorem reports_create (task : ReadyTask) (d : Disk) : (task.create d).1.Reports := by
  intro e failed
  change (d.createWith task.path task.log.bytes).1.mapError .io = .error e at failed
  cases made : (d.createWith task.path task.log.bytes).1 with
  | ok _ => rw [made] at failed; cases failed
  | error cause => rw [made] at failed; cases failed; rfl

/-! ## Products without room -/

theorem newBusy_of_unpaid {e : Error} (unpaid : p.overheads.effectiveBudget p.wcet = .error e) :
    newBusy p t0 c path d = (.error e, d) := by
  rw [newBusy, prepareBusy, unpaid]
  rfl

theorem newBusy_of_unscaled {budget : Time} {e : Error} (left : p.overheads.effectiveBudget p.wcet = .ok budget)
    (unscaled : c.scaledTo budget = .error e) : newBusy p t0 c path d = (.error e, d) := by
  rw [newBusy, prepareBusy, left]
  dsimp only [bind, Except.bind]
  rw [unscaled]

/-- Once its rounds are there, a busy task is made ready or refused like any other. -/
theorem reports_newBusy {budget : Time} {job : Calibration}
    (left : p.overheads.effectiveBudget p.wcet = .ok budget) (scaled : c.scaledTo budget = .ok job) :
    (newBusy p t0 c path d).1.Reports := by
  rw [newBusy, prepareBusy, left]
  dsimp only [bind, Except.bind]
  rw [scaled]
  cases prepared : prepare p t0 path with
  | error e => exact .error (reports_prepare p t0 path e prepared)
  | ok task => exact (reports_create task d).map _

/-- Only the scaling of the rounds can abort. -/
theorem newBusy_aborts_iff {abort : Abort} : (newBusy p t0 c path d).1 = .error (.aborted abort) ↔
    ∃ budget, p.overheads.effectiveBudget p.wcet = .ok budget ∧
      c.scaledTo budget = .error (.aborted abort) := by
  constructor
  · intro aborts
    cases left : p.overheads.effectiveBudget p.wcet with
    | error e =>
      obtain rfl := Overheads.fault_of_effectiveBudget left
      rw [newBusy_of_unpaid left] at aborts
      cases aborts
    | ok budget =>
      cases scaled : c.scaledTo budget with
      | error e =>
        rw [newBusy_of_unscaled left scaled] at aborts
        cases aborts
        exact ⟨budget, rfl, scaled⟩
      | ok job => cases reports_newBusy left scaled _ aborts
  · rintro ⟨budget, left, aborts⟩
    rw [newBusy_of_unscaled left aborts]

/-- **Scaling a calibration brings its caller down just if a product has no room**, be it for a duration or for
the budget of a busy task, and whatever else is wrong is an error. There is room for every duration beside few
rounds with a small tolerance, and for seconds of 32 bits beside a tolerance of such seconds. -/
theorem scaling_aborts_iff_too_wide (c : Calibration) :
    (∀ duration abort, c.scaledTo duration = .error (.aborted abort) ↔
      abort = .wideProduct ∧ c.TooWide duration) ∧
    (∀ duration, ¬c.TooWide duration →
      (∃ job, c.scaledTo duration = .ok job ∧ c.Scaled duration job) ∨
      ∃ e, c.scaledTo duration = .error e ∧ c.Refuses duration e) ∧
    (∀ p t0 path d abort, (newBusy p t0 c path d).1 = .error (.aborted abort) ↔
      abort = .wideProduct ∧ ∃ budget, 0 < budget.toNanos ∧
        budget.toNanos + p.overheads.nanos = p.wcet.toNanos ∧ c.TooWide budget) ∧
    (c.iterations.toNat ≤ 2 ^ 34 → c.tolerance.toNanos ≤ 2 ^ 34 → ∀ duration, ¬c.TooWide duration) ∧
    (c.tolerance.sec.toNat < 2 ^ 32 → ∀ duration : Time, duration.sec.toNat < 2 ^ 32 →
      ¬c.TooWide duration) := by
  refine ⟨fun _ _ => Calibration.scaledTo_eq_aborted_iff, ?_, ?_,
    fun few small _ => Calibration.room_of_small few small,
    fun tolerance _ word => Calibration.room_of_words tolerance word⟩
  · intro duration room
    rcases Calibration.scaled_or_refused c duration with ⟨job, scaled⟩ | ⟨e, refuses⟩ | wide
    · exact .inl ⟨job, scaled, (Calibration.scaledTo_eq_ok_iff.1 scaled).2⟩
    · exact .inr ⟨e, refuses.scaledTo, refuses⟩
    · exact (room wide).elim
  · intro p t0 path d abort
    rw [newBusy_aborts_iff]
    simp only [Overheads.effectiveBudget_eq_ok_iff, Calibration.scaledTo_eq_aborted_iff]
    constructor
    · rintro ⟨budget, ⟨pos, sum⟩, same, wide⟩
      exact ⟨same, budget, pos, sum, wide⟩
    · rintro ⟨same, budget, pos, sum, wide⟩
      exact ⟨budget, ⟨pos, sum⟩, same, wide⟩

/-- 2^53 - 1 rounds in 1 ms have no room beside 10^14 s. They have beside a second, as 1000 rounds have beside
the longest time. -/
theorem scaling_aborts_iff_too_wide_long :
    let c : Calibration := {
      cpu := 0, frequency := none, iterations := 9007199254740991, target := .ofNanos 1000000
      tolerance := .ofNanos 10000 }
    let p := TaskParams.periodic "tau" (.ofSecs 100000000000000) (.ofSecs 2)
    let d : Disk := { nodes := [], here := [], room := none }
    c.scaledTo (.ofSecs 100000000000000) = .error (.aborted .wideProduct) ∧
    (newBusy p .zero c ⟨"log"⟩ d).1 = .error (.aborted .wideProduct) ∧
    ¬c.TooWide (.ofSecs 1) ∧ c.scaledTo (.ofSecs 1) ≠ .error (.aborted .wideProduct) ∧
    (∃ e, c.scaledTo .zero = .error e ∧ c.Refuses .zero e) ∧
    ¬{ c with iterations := 1000 : Calibration }.TooWide .max := by
  intro c p d
  obtain ⟨aborts, reports, busy, -, words⟩ := scaling_aborts_iff_too_wide c
  obtain ⟨-, -, -, small, -⟩ := scaling_aborts_iff_too_wide { c with iterations := 1000 }
  have wide : c.TooWide (.ofSecs 100000000000000) := by decide
  have room : ¬c.TooWide (.ofSecs 1) := words (by decide) _ (by decide)
  refine ⟨(aborts _ _).2 ⟨rfl, wide⟩, ?_, room, ?_, ?_, small (by decide) (by decide) _⟩
  · exact (busy _ _ _ _ _).2 ⟨rfl, .ofSecs 100000000000000, by decide, by decide, wide⟩
  · exact fun aborted => room ((aborts _ _).1 aborted).2
  · rcases reports .zero (by decide) with ⟨job, scaled, -⟩ | refused
    · cases scaled
    · exact refused

/-- Calibrations and budgets may be so large that a product has no room: 2^53 - 1 rounds and 10^14 s bring down
who scales the one to the other, and who makes a task of them. -/
theorem scaling_without_room :
    let c : Calibration := {
      cpu := 0, frequency := none, iterations := 9007199254740991, target := .ofNanos 1000000
      tolerance := .ofNanos 10000 }
    let p := TaskParams.periodic "tau" (.ofSecs 100000000000000) (.ofSecs 2)
    2 ^ 128 ≤ c.iterations.toNat * p.wcet.toNanos ∧
    c.scaledTo p.wcet = .error (.aborted .wideProduct) ∧
    ∀ d, (newBusy p .zero c ⟨"log"⟩ d).1 = .error (.aborted .wideProduct) := by
  intro c p
  have wide : c.TooWide p.wcet := by decide
  refine ⟨by decide, wide.scaledTo, fun d => newBusy_aborts_iff.2 ⟨p.wcet, ?_, wide.scaledTo⟩⟩
  exact Overheads.effectiveBudget_eq_ok_iff.2 ⟨by decide, by decide⟩

/-! ## Names of threads -/

theorem checkStart_eq_ok_iff {hasReleases : Bool} : task.checkStart hasReleases = .ok () ↔
    (task.params.release = .aperiodic → hasReleases = true) ∧ '\x00' ∉ task.params.name.toList := by
  rw [checkStart, Result.refuse_eq_ok, Result.refuse_eq_ok]
  simp

theorem checkStart_eq_error_iff {hasReleases : Bool} {e : Error} : task.checkStart hasReleases = .error e ↔
    e = .argument (.noReleaseSource task.params.name) ∧ task.params.release = .aperiodic ∧ hasReleases = false ∨
    e = .aborted .nulInThreadName ∧ (task.params.release = .aperiodic → hasReleases = true) ∧
      '\x00' ∈ task.params.name.toList := by
  have lacks : ¬(task.params.release = .aperiodic ∧ hasReleases = false) ↔
      (task.params.release = .aperiodic → hasReleases = true) := by
    rw [not_and, Bool.not_eq_false]
  rw [checkStart, Result.refuse_eq_error, Result.refuse_eq_error]
  simp only [Bool.not_eq_true', lacks, List.contains_iff_mem, reduceCtorEq, and_false, or_false]
  exact or_congr_right and_left_comm

/-- Whatever is wrong with a task is seen before the system is asked for a thread. -/
theorem spawn_eq_go_iff {hasReleases : Bool} {e : Error} : task.spawn hasReleases = .go (.error e) ↔
    task.checkStart hasReleases = .error e := by
  unfold spawn
  cases task.checkStart hasReleases with
  | ok => simp
  | error e' => simp

theorem spawn_eq_ask_iff {hasReleases : Bool} : task.spawn hasReleases = .ask (.startThread task.params.name) id ↔
    task.checkStart hasReleases = .ok () := by
  unfold spawn
  cases task.checkStart hasReleases with
  | ok => simp
  | error e => simp

theorem prepare_of_new (made : (new p t0 path d).1 = .ok task) : prepare p t0 path = .ok task := by
  unfold new at made
  cases prepared : prepare p t0 path with
  | error e => rw [prepared] at made; cases made
  | ok found =>
    rw [prepared] at made
    dsimp only at made
    cases saved : (found.create d).1 with
    | error e => rw [saved] at made; cases made
    | ok _ => rw [saved] at made; cases made; rfl

theorem params_of_new (made : (new p t0 path d).1 = .ok task) : task.params = p := by
  obtain ⟨-, -, ring, header, -, -, rfl⟩ := prepare_eq_ok_iff.1 (prepare_of_new made)
  rfl

/-- A name is as good as any other of its length, and a task with it is made ready. -/
theorem new_renamed_iff {name : String} {d' : Disk} (ok : p.Acceptable t0)
    (works : Works d' path ({ p with name }.header t0)) :
    (∃ renamed, (new { p with name } t0 path d').1 = .ok renamed) ↔
      name ≠ "" ∧ name.utf8ByteSize ≤ 4096 := by
  rw [(new_settles works).accepts]
  constructor
  · rintro ⟨named, short⟩
    exact ⟨named, short⟩
  · rintro ⟨named, short⟩
    exact { ok with named, short }

/-- **Starting a task that was made ready brings the caller down just if its name holds a zero byte**, and all
else that is refused is an aperiodic task without releases. Any other task asks the system for a thread, and its
start comes to what the system answers. What makes a task ready looks at no byte of a name, only at their
number. -/
theorem start_aborts_iff_zero_in_name (made : (new p t0 path d).1 = .ok task) (hasReleases : Bool) :
    (task.spawn hasReleases = .ask (.startThread p.name) id ↔
      (p.release = .aperiodic → hasReleases = true) ∧ 0 ∉ (p.header t0).nameBytes) ∧
    (∀ e, task.spawn hasReleases = .go (.error e) ↔
      e = .argument (.noReleaseSource p.name) ∧ p.release = .aperiodic ∧ hasReleases = false ∨
      e = .aborted .nulInThreadName ∧ (p.release = .aperiodic → hasReleases = true) ∧
        0 ∈ (p.header t0).nameBytes) ∧
    (task.spawn hasReleases = .ask (.startThread p.name) id ∨ ∃ e, task.spawn hasReleases = .go (.error e)) ∧
    ∀ name d', Works d' path ({ p with name }.header t0) →
      ((∃ renamed, (new { p with name } t0 path d').1 = .ok renamed) ↔
        name ≠ "" ∧ name.utf8ByteSize ≤ 4096) := by
  have ok : p.Acceptable t0 := acceptable_iff_prepared.1 ⟨task, prepare_of_new made⟩
  have bytes : 0 ∈ (p.header t0).nameBytes ↔ '\x00' ∈ p.name.toList := (p.header t0).zero_mem_nameBytes_iff
  have params : task.params = p := params_of_new made
  refine ⟨?_, fun e => ?_, ?_, fun name d' works => new_renamed_iff ok works⟩
  · rw [← params, spawn_eq_ask_iff, checkStart_eq_ok_iff, params, bytes]
  · rw [spawn_eq_go_iff, checkStart_eq_error_iff, params, bytes]
  · rw [← params, spawn_eq_ask_iff]
    cases checked : task.checkStart hasReleases with
    | ok => exact .inl rfl
    | error e => exact .inr ⟨e, spawn_eq_go_iff.2 checked⟩

/-- Both of two names are made ready; the thread of the one that holds a zero byte is not started. -/
theorem start_aborts_iff_zero_in_name_in_the_middle :
    let p := TaskParams.periodic "tau" (.ofSecs 1) (.ofSecs 2)
    let d : Disk := { nodes := [], here := [], room := none }
    ∃ plain split, (new p .zero ⟨"log"⟩ d).1 = .ok plain ∧ plain.spawn false = .ask (.startThread "tau") id ∧
      (new { p with name := "t\x00u" } .zero ⟨"log"⟩ d).1 = .ok split ∧
      split.spawn false = .go (.error (.aborted .nulInThreadName)) := by
  intro p d
  have works (header : Log.Header) : Works d ⟨"log"⟩ header :=
    fun bytes _ => Disk.createWith_of_unlimited rfl (fun _ => rfl) bytes
  obtain ⟨plain, made⟩ := (new_settles (works (p.header .zero))).accepts.2 (by decide)
  obtain ⟨starts, -, -, renamed⟩ := start_aborts_iff_zero_in_name made false
  obtain ⟨split, made'⟩ := (renamed "t\x00u" d (works _)).2 (by decide)
  obtain ⟨-, ends, -⟩ := start_aborts_iff_zero_in_name made' false
  refine ⟨plain, split, made, starts.2 ⟨by decide, ?_⟩, made', (ends _).2 (.inr ⟨rfl, by decide, ?_⟩)⟩
  · rw [Log.Header.zero_mem_nameBytes_iff]
    decide
  · rw [Log.Header.zero_mem_nameBytes_iff]
    decide

/-- What is made ready is not always started or refused: the thread of a task with the name `t\x00u` is an
abort. -/
theorem start_of_ready_task_aborts :
    let p := TaskParams.periodic "t\x00u" (.ofSecs 1) (.ofSecs 2)
    let d : Disk := { nodes := [], here := [], room := none }
    ∃ task, (new p .zero ⟨"log"⟩ d).1 = .ok task ∧
      ∀ hasReleases, task.spawn hasReleases = .go (.error (.aborted .nulInThreadName)) := by
  intro p d
  have works : Works d ⟨"log"⟩ (p.header .zero) := fun bytes _ => Disk.createWith_of_unlimited rfl (fun _ => rfl) bytes
  obtain ⟨task, made⟩ := (new_settles works).accepts.2 (by decide)
  refine ⟨task, made, fun hasReleases => ?_⟩
  rw [spawn_eq_go_iff, checkStart_eq_error_iff, params_of_new made]
  exact .inr ⟨rfl, nofun, by decide⟩

end ReadyTask

end TaskTiming
