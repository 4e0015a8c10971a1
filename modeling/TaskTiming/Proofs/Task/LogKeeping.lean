import TaskTiming.Proofs.DiskChanges
import TaskTiming.Proofs.Task.Ending
import TaskTiming.Proofs.Task.Flushing

/-!
# Threads and their logs

Of all the files on a disk a thread writes into its own log alone (`changesAt_of_meets`). So as long as nobody
else does, the log of a thread that has not been brought down is told by what the thread has met
(`Thread.Keeps`), step by step, and in the end by its flush (`Thread.Keeps.logged`).
-/

namespace TaskTiming
set_option autoImplicit false

/-- A file that was written into is still one, whatever became of the writing. -/
theorem Disk.read_after_write {d : Disk} {p : Path} {old : List UInt8} (before : d.read p = .ok (.ok old))
    (offset : Nat) (bytes : List UInt8) : ∃ new, (d.write p offset bytes).2.read p = .ok (.ok new) := by
  obtain ⟨place, located, node⟩ := entry_of_read before
  obtain ⟨new, written⟩ := node?_write located node offset bytes
  have still := (d.changesAt_write p offset bytes).keeps.locate located
  refine ⟨new, read_of_look ?_⟩
  rw [look_entry still, written]
  rfl

section Served

variable {path : Path} {d d₁ d' : Disk} {events : List Event}

/-- Whoever else uses the disk leaves the file as it is. -/
theorem Served.elsewhere (served : Served path d events d₁) (others : d'.read path = d₁.read path) :
    Served path d events d' := by
  induction served with
  | nil before => exact .nil (others.trans before)
  | cons before now _ ih => exact .cons before now (ih others)

/-- The disk serves one more event. -/
theorem Served.snoc {e : Event} (served : Served path d events d₁) (on : e.On d₁ d') :
    Served path d (events ++ [e]) d' := by
  induction served with
  | nil before => exact .cons before on (.nil rfl)
  | cons before now _ ih => exact .cons before now (ih on)

end Served

namespace Thread

variable {t t' : Thread} {e : Event} {d d' : Disk} {events : List Event}

/-- A run changes the spot of a thread alone. -/
theorem spot_of_run (run : Run Thread.next t events t') : t' = { t with spot := t'.spot } := by
  induction run with
  | nil => rfl
  | cons meets _ ih =>
    rw [spot_of_meets meets] at ih
    exact ih

/-- All that a thread asks of the disk is to write into its log. -/
theorem write_of_meets (meets : t.next.Meets e t') : e.isOnDisk = false ∨
    ∃ offset bytes outcome, e = .answer (.write t.task.path offset bytes) outcome := by
  cases here : t.spot with
  | looping l =>
    rw [Thread.next, here] at meets
    obtain ⟨l', inner, -⟩ := Action.meets_map meets
    exact .inl (Loop.offDisk_of_did (Loop.did_of_meets inner))
  | writing outcome report bytes =>
    rw [Thread.next, here] at meets
    cases meets
    exact .inr ⟨_, _, _, rfl⟩
  | ended _ => rw [Thread.next, here] at meets; cases meets
  | _ =>
    rw [Thread.next, here] at meets
    cases meets
    exact .inl rfl

/-- **A step of a thread changes no file but its log.** -/
theorem changesAt_of_meets (meets : t.next.Meets e t') (on : e.On d d') :
    d.ChangesAt d' (t.task.path.place d.here) := by
  rcases write_of_meets meets with off | ⟨offset, bytes, outcome, rfl⟩
  · rw [Event.on_of_offDisk off on]
    exact .refl d _
  · obtain ⟨-, rfl⟩ := Event.on_write.1 on
    exact d.changesAt_write _ _ _

/-- A thread that is not brought down comes behind its log by the step into `joined`. -/
theorem spot_of_behind {c : Control} (meets : t.next.Meets e t') (closed : t'.HasClosed c)
    (before : t.isBehind = false) (behind : t'.isBehind = true) :
    ∃ outcome answer, t.spot = .closing outcome answer := by
  have proceeds (l : Loop) (same : t' = t.proceed l) : False := by
    subst same
    unfold Thread.proceed at closed behind
    split at behind
    · cases behind
    · rename_i down
      rw [down] at closed
      exact closed
    · cases behind
  have flushes (outcome : Result Nat) (sink : Sink) (same : t' = t.flush outcome sink) : False := by
    subst same
    unfold Thread.flush at behind
    split at behind
    · cases behind
    · dsimp only at behind
      split at behind
      · cases behind
      · split at behind <;> cases behind
  cases here : t.spot with
  | closing outcome answer => exact ⟨outcome, answer, rfl⟩
  | complainingAgain _ _ | finishing _ | ended _ => rw [isBehind, here] at before; cases before
  | admission =>
    rw [Thread.next, here] at meets
    cases meets with
    | ask _ _ outcome => cases outcome <;> cases behind
  | admitted =>
    rw [Thread.next, here] at meets
    cases meets
    exact (proceeds _ rfl).elim
  | looping l =>
    rw [Thread.next, here] at meets
    obtain ⟨l', -, same⟩ := Action.meets_map meets
    exact (proceeds l' same).elim
  | leaving outcome sink =>
    rw [Thread.next, here] at meets
    cases meets
    cases outcome with
    | ok n => exact (flushes _ _ rfl).elim
    | error e => cases behind
  | complaining _ _ =>
    rw [Thread.next, here] at meets
    cases meets
    exact (flushes _ _ rfl).elim
  | warning _ _ _ _ | writing _ _ _ =>
    rw [Thread.next, here] at meets
    cases meets
    cases behind

/-- What a thread behind its log leaves on the disk: it has flushed, and if the flush answered with a report, the
log is the header and the records of the samples that were kept of its jobs. -/
inductive Logged (p : TaskParams) (t0 : Time) (path : Path) (d : Disk) (events : List Event) (t : Thread) : Prop
  | intro {task : ReadyTask} {admission : Admission} {answer : Result Report} (params : task.params = p)
      (logPath : task.path = path) (flushed : (Thread.start task admission).Flushed answer events t)
      (complete : ∀ report, answer = .ok report → ∃ header, (p.header t0).encode = .ok header ∧
        d.read path = .ok (.ok (header ++ Log.records (p.logged (samplesOf events)))))

/-- How a thread stands to its log: the log was made with the header, the disk has served the thread since,
and once the thread is behind its log it has flushed it. -/
inductive Keeps (p : TaskParams) (t0 : Time) (path : Path) (d : Disk) (events : List Event) (t : Thread) : Prop
  | intro {task : ReadyTask} {admission : Admission} {header : List UInt8} {d₁ : Disk}
      (made : task.Made p t0 path header d₁) (run : Run Thread.next (Thread.start task admission) events t)
      (served : Served path d₁ events d) (file : ∃ bytes, d.read path = .ok (.ok bytes))
      (flushed : t.isBehind = true → ∃ answer, (Thread.start task admission).Flushed answer events t)

namespace Keeps

variable {p : TaskParams} {t0 : Time} {path : Path}

theorem start {task : ReadyTask} {header : List UInt8} (made : task.Made p t0 path header d)
    (admission : Admission) : Keeps p t0 path d [] (Thread.start task admission) :=
  .intro made (.nil _) (.nil rfl) ⟨header, made.file⟩ nofun

theorem path_eq (keeps : t.Keeps p t0 path d events) : t.task.path = path := by
  cases keeps with
  | intro made run =>
    rw [spot_of_run run]
    exact made.logPath

/-- The thread takes a step. -/
theorem met (keeps : t.Keeps p t0 path d events) {c : Control} (meets : t.next.Meets e t')
    (closed : t'.HasClosed c) (on : e.On d d') : t'.Keeps p t0 path d' (events ++ [e]) := by
  have same := keeps.path_eq
  cases keeps with
  | intro made run served file flushed =>
    refine .intro made (run.snoc meets) (served.snoc on) ?_ fun behind => ?_
    · rcases write_of_meets meets with off | ⟨offset, bytes, outcome, rfl⟩
      · rw [Event.on_of_offDisk off on]
        exact file
      · obtain ⟨old, before⟩ := file
        rw [same] at on
        rw [(Event.on_write.1 on).2]
        exact Disk.read_after_write before offset bytes
    · cases before : t.isBehind with
      | true =>
        obtain ⟨answer, done⟩ := flushed before
        exact ⟨answer, done.snoc meets⟩
      | false =>
        obtain ⟨outcome, answer, here⟩ := spot_of_behind meets closed before behind
        have whole := spot_of_run run
        rw [here] at whole
        rw [whole] at run meets
        exact ⟨answer, .intro run (.cons meets (.nil _))⟩

/-- Others change the disk elsewhere. -/
theorem elsewhere (keeps : t.Keeps p t0 path d events) {place : Place} (changes : d.ChangesAt d' place)
    (apart : path.place d.here ≠ place) : t.Keeps p t0 path d' events := by
  cases keeps with
  | intro made run served file flushed =>
    obtain ⟨bytes, before⟩ := file
    have after := changes.read apart before
    exact .intro made run (served.elsewhere (after.trans before.symm)) ⟨bytes, after⟩ flushed

/-- A thread behind its log has logged its samples. -/
theorem logged (keeps : t.Keeps p t0 path d events) (behind : t.isBehind = true) :
    t.Logged p t0 path d events := by
  cases keeps with
  | @intro task admission header d₁ made run served file flushed =>
    obtain ⟨answer, done⟩ := flushed behind
    refine .intro made.params made.logPath done ?_
    rintro report rfl
    exact ⟨header, made.encoded, done.read made served⟩

end Keeps

end Thread

end TaskTiming
