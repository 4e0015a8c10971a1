import TaskTiming.Proofs.Task.Company

/-!
# The handshake of stopping

A thread shows in the control whether it waits for a release, or is about to, and whether it has ended
(`Thread.Shows`). A call to stop the task cancels the wait only where it sees the one, and returns only
where it sees the other or has cancelled; what it has seen or done by then stays (`StopCall.Backed`).
-/

namespace TaskTiming
set_option autoImplicit false

/-! ## What a thread shows -/

/-- Only the state or the `inWait` flag differ. -/
structure Control.SameTokens (c c' : Control) : Prop where
  stopped : c'.stopped = c.stopped
  finished : c'.finished = c.finished
  cancel : c'.cancel = c.cancel

theorem Control.SameTokens.refl (c : Control) : c.SameTokens c := ⟨rfl, rfl, rfl⟩

theorem Control.SameTokens.advance (c : Control) (s : TaskState) : c.SameTokens (c.advance s) :=
  ⟨rfl, rfl, rfl⟩

theorem Control.SameTokens.setInWait (c : Control) (b : Bool) : c.SameTokens { c with inWait := b } :=
  ⟨rfl, rfl, rfl⟩

/-- From the raising of the `inWait` flag to its lowering. -/
def Loop.Spot.isFlagged : Loop.Spot → Bool
  | .look => true
  | .retreat => true
  | .wait => true
  | .lower _ => true
  | _ => false

namespace Loop

theorem isFlagged_toJob (l : Loop) : l.toJob.spot.isFlagged = false := by
  unfold toJob
  cases l.sink.isSampling <;> rfl

theorem isFlagged_released (l : Loop) : l.released.spot.isFlagged = false := by
  unfold released
  split
  · rfl
  · exact l.isFlagged_toJob

theorem isFlagged_sleepTo (l : Loop) (release : Time) : (l.sleepTo release).spot.isFlagged = false := by
  unfold sleepTo
  split <;> rfl

theorem isFlagged_again (l : Loop) : l.again.spot.isFlagged = false := by
  unfold again
  split
  · split
    · exact l.isFlagged_sleepTo _
    · rfl
  · rfl

theorem isFlagged_jobDone (l : Loop) : l.jobDone.spot.isFlagged = false := by
  unfold jobDone
  dsimp only
  split <;> rfl

variable {l l' : Loop} {e : Event} {c c' : Control}

/-- A step that leaves the control alone, outside the flagged part. -/
theorem flag_of_same (shown : c.inWait = false) (there : l'.spot.isFlagged = false) (same : c' = c) :
    c'.inWait = l'.spot.isFlagged ∧ c.SameTokens c' := by
  subst same
  exact ⟨by rw [shown, there], .refl _⟩

/-- A loop raises its flag before it looks for a stop and lowers it before it goes on from the wait. -/
theorem flag_step (meets : l.next.Meets e l') (moves : e.Moves c c') (shown : c.inWait = l.spot.isFlagged) :
    c'.inWait = l'.spot.isFlagged ∧ c.SameTokens c' := by
  cases here : l.spot with
  | sleep =>
    rw [Loop.next, here] at meets
    rw [here] at shown
    cases meets with
    | ask _ _ outcome =>
      cases outcome with
      | ok => exact flag_of_same shown l.isFlagged_released moves
      | error _ => exact flag_of_same shown rfl moves
  | enter =>
    rw [Loop.next, here] at meets
    rw [here] at shown
    cases meets
    obtain ⟨rfl, rfl⟩ := moves
    exact ⟨shown.trans l.isFlagged_toJob.symm, .advance _ _⟩
  | raise =>
    rw [Loop.next, here] at meets
    cases meets
    obtain ⟨rfl, rfl⟩ := moves
    exact ⟨rfl, .setInWait _ _⟩
  | look =>
    rw [Loop.next, here] at meets
    rw [here] at shown
    cases meets with
    | access _ found =>
      obtain ⟨rfl, rfl⟩ := moves
      have still (stop : Bool) : (if stop then Spot.retreat else Spot.wait).isFlagged = true := by
        cases stop <;> rfl
      exact ⟨shown.trans (still found.stopped).symm, .refl _⟩
  | retreat =>
    rw [Loop.next, here] at meets
    cases meets
    obtain ⟨rfl, rfl⟩ := moves
    exact ⟨rfl, .setInWait _ _⟩
  | wait =>
    rw [Loop.next, here] at meets
    rw [here] at shown
    cases meets
    cases moves
    exact ⟨shown, .refl _⟩
  | lower outcome =>
    rw [Loop.next, here] at meets
    cases meets
    obtain ⟨rfl, rfl⟩ := moves
    refine ⟨?_, .setInWait _ _⟩
    match outcome with
    | .ok .released => exact l.isFlagged_released.symm
    | .ok .cancelled => rfl
    | .error e => rfl
  | clockIn =>
    rw [Loop.next, here] at meets
    rw [here] at shown
    cases meets with
    | readClock _ now =>
      cases now with
      | ok start => exact flag_of_same shown rfl moves
      | error _ => exact flag_of_same shown rfl moves
  | job start =>
    rw [Loop.next, here] at meets
    rw [here] at shown
    cases meets
    exact flag_of_same shown rfl moves
  | working start =>
    rw [Loop.next, here] at meets
    rw [here] at shown
    cases meets with
    | finishJob _ outcome =>
      refine flag_of_same shown ?_ moves
      match outcome with
      | .finished (.ok ()) =>
        show (if l.sink.isSampling then _ else l.jobDone).spot.isFlagged = false
        split
        · rfl
        · exact l.isFlagged_jobDone
      | .finished (.error _) => rfl
      | .panicked => rfl
  | clockOut start =>
    rw [Loop.next, here] at meets
    rw [here] at shown
    cases meets with
    | readClock _ now =>
      cases now with
      | ok finish => exact flag_of_same shown (isFlagged_jobDone _) moves
      | error _ => exact flag_of_same shown rfl moves
  | check =>
    rw [Loop.next, here] at meets
    rw [here] at shown
    cases meets with
    | access _ found =>
      obtain ⟨rfl, rfl⟩ := moves
      refine flag_of_same shown ?_ rfl
      show (if found.stopped then _ else l.again).spot.isFlagged = false
      split
      · rfl
      · exact l.isFlagged_again
  | ended _ => rw [Loop.next, here] at meets; cases meets
  | panicked => rw [Loop.next, here] at meets; cases meets

end Loop

namespace Thread

variable {t t' : Thread} {e : Event} {c c' : Control}

/-- In the flagged part of the loop. -/
def isFlagged (t : Thread) : Bool :=
  match t.spot with
  | .looping l => l.spot.isFlagged
  | _ => false

def isOver (t : Thread) : Bool :=
  match t.spot with
  | .ended _ => true
  | _ => false

theorem isOver_iff (t : Thread) : t.isOver = true ↔ ∃ fate, t.end? = some fate := by
  unfold isOver Thread.end?
  cases t.spot <;> simp

/-- The control shows where the thread stands. -/
structure Shows (t : Thread) (c : Control) : Prop where
  inWait : c.inWait = t.isFlagged
  finished : c.finished = t.isOver

/-- Out of the loop the flag is lowered. -/
theorem isFlagged_proceed (t : Thread) (l : Loop) : (t.proceed l).isFlagged = l.spot.isFlagged := by
  unfold Thread.proceed
  split
  · rename_i here
    rw [here]
    rfl
  · rename_i here
    rw [here]
    rfl
  · rfl

theorem isOver_proceed (t : Thread) (l : Loop) : (t.proceed l).isOver = false := by
  unfold Thread.proceed
  split <;> rfl

theorem isFlagged_firstLoop (t : Thread) : t.firstLoop.spot.isFlagged = false := by
  unfold Thread.firstLoop
  dsimp only
  split
  · rfl
  · split
    · exact Loop.isFlagged_sleepTo _ _
    · rfl

theorem shows_flush {outcome : Result Nat} {sink : Sink} (waiting : c.inWait = false)
    (running : c.finished = false) : (t.flush outcome sink).Shows c := by
  unfold Thread.flush
  split
  · exact ⟨waiting, running⟩
  · dsimp only
    split
    · exact ⟨waiting, running⟩
    · split
      · exact ⟨waiting, running⟩
      · exact ⟨waiting, running⟩

/-- A thread shows its way in every step, and asks for no stop nor cancels its own wait. -/
theorem shows_step (meets : t.next.Meets e t') (moves : e.Moves c c') (shown : t.Shows c) :
    t'.Shows c' ∧ c'.stopped = c.stopped ∧ c'.cancel = c.cancel := by
  obtain ⟨waiting, finished⟩ := shown
  unfold Thread.isFlagged at waiting
  unfold Thread.isOver at finished
  cases here : t.spot with
  | looping l =>
    rw [Thread.next, here] at meets
    rw [here] at waiting finished
    obtain ⟨l', inner, rfl⟩ := Action.meets_map meets
    obtain ⟨flag, same⟩ := Loop.flag_step inner moves waiting
    refine ⟨⟨?_, ?_⟩, same.stopped, same.cancel⟩
    · rw [isFlagged_proceed, flag]
    · rw [isOver_proceed, same.finished, finished]
  | admission =>
    rw [Thread.next, here] at meets
    rw [here] at waiting finished
    cases meets with
    | ask _ _ outcome =>
      cases moves
      cases outcome with
      | ok => exact ⟨⟨waiting, finished⟩, rfl, rfl⟩
      | error _ => exact ⟨⟨waiting, finished⟩, rfl, rfl⟩
  | admitted =>
    rw [Thread.next, here] at meets
    rw [here] at waiting finished
    cases meets
    obtain ⟨rfl, rfl⟩ := moves
    refine ⟨⟨?_, ?_⟩, rfl, rfl⟩
    · exact waiting.trans (by rw [isFlagged_proceed, isFlagged_firstLoop])
    · exact finished.trans (isOver_proceed _ _).symm
  | leaving outcome sink =>
    rw [Thread.next, here] at meets
    rw [here] at waiting finished
    cases meets
    obtain ⟨rfl, rfl⟩ := moves
    cases outcome with
    | ok n => exact ⟨shows_flush waiting finished, rfl, rfl⟩
    | error _ => exact ⟨⟨waiting, finished⟩, rfl, rfl⟩
  | complaining _ sink =>
    rw [Thread.next, here] at meets
    rw [here] at waiting finished
    cases meets
    cases moves
    exact ⟨shows_flush waiting finished, rfl, rfl⟩
  | warning _ _ _ _ | writing _ _ _ | complainingAgain _ _ =>
    rw [Thread.next, here] at meets
    rw [here] at waiting finished
    cases meets
    cases moves
    exact ⟨⟨waiting, finished⟩, rfl, rfl⟩
  | closing outcome report =>
    rw [Thread.next, here] at meets
    rw [here] at waiting finished
    cases meets
    obtain ⟨rfl, rfl⟩ := moves
    match outcome, report with
    | .ok _, _ => exact ⟨⟨waiting, finished⟩, rfl, rfl⟩
    | .error _, .ok _ => exact ⟨⟨waiting, finished⟩, rfl, rfl⟩
    | .error _, .error _ => exact ⟨⟨waiting, finished⟩, rfl, rfl⟩
  | finishing fate =>
    rw [Thread.next, here] at meets
    rw [here] at waiting
    cases meets
    obtain ⟨rfl, rfl⟩ := moves
    exact ⟨⟨waiting, rfl⟩, rfl, rfl⟩
  | ended _ => rw [Thread.next, here] at meets; cases meets

/-- A thread waits for a release in its loop alone. -/
theorem spot_of_awaits {next : Result WaitOutcome → Thread} (awaits : t.next = .awaitRelease next) :
    ∃ l, t.spot = .looping l ∧ l.spot = .wait := by
  cases here : t.spot with
  | looping l =>
    rw [Thread.next, here] at awaits
    refine ⟨l, rfl, ?_⟩
    cases spot : l.spot with
    | wait => rfl
    | _ =>
      simp only [Loop.next, spot] at awaits
      cases awaits
  | _ => rw [Thread.next, here] at awaits; cases awaits

/-- A thread shows that it waits while it does. -/
theorem isFlagged_of_awaits {next : Result WaitOutcome → Thread} (awaits : t.next = .awaitRelease next) :
    t.isFlagged = true := by
  obtain ⟨l, here, spot⟩ := spot_of_awaits awaits
  rw [isFlagged, here]
  show l.spot.isFlagged = true
  rw [spot]
  rfl

/-- However a wait ends, the thread is out of it. -/
theorem leaves_wait {next : Result WaitOutcome → Thread} (awaits : t.next = .awaitRelease next)
    (meets : t.next.Meets e t') (again : Result WaitOutcome → Thread) : t'.next ≠ .awaitRelease again := by
  obtain ⟨l, here, spot⟩ := spot_of_awaits awaits
  rw [Thread.next, here] at meets
  simp only [Loop.next, spot] at meets
  cases meets
  intro awaits'
  obtain ⟨l', here', spot'⟩ := spot_of_awaits awaits'
  cases here'
  cases spot'

end Thread

/-! ## What a call relies on -/

/-- Cancelled, and waits return. -/
structure CancelToken.Fired (t : CancelToken) : Prop where
  cancelled : t.cancelled
  readable : t.signals.isReadable

/-- A signal is refused only where there are others. -/
theorem CancelToken.readable_signal (t : CancelToken) : t.signal.2.signals.isReadable := by
  unfold CancelToken.signal EventCounter.signal EventCounter.isReadable
  by_cases room : t.signals.pending < EventCounter.limit
  · simp only [room, if_true, decide_eq_true_eq]
    omega
  · simp only [room, if_false, decide_eq_true_eq]
    have some : 0 < EventCounter.limit := by decide
    omega

theorem CancelToken.cancelled_signal (t : CancelToken) : t.signal.2.cancelled = t.cancelled := by
  unfold CancelToken.signal
  cases t.signals.signal
  rfl

/-- What was raised stays so. -/
structure Control.Grows (c c' : Control) : Prop where
  finished : c.finished → c'.finished
  cancelled : c.cancel.cancelled → c'.cancel.cancelled
  readable : c.cancel.signals.isReadable → c'.cancel.signals.isReadable

theorem Control.Grows.refl (c : Control) : c.Grows c := ⟨id, id, id⟩

theorem Control.Grows.fired {c c' : Control} (grows : c.Grows c') (fired : c.cancel.Fired) :
    c'.cancel.Fired :=
  ⟨grows.cancelled fired.cancelled, grows.readable fired.readable⟩

namespace StopCall

/-- What the control shows to a call at a spot, once and for all. -/
def Spot.Backed (c : Control) : StopCall.Spot → Prop
  | .signal => c.cancel.cancelled
  | .complaining _ => c.cancel.Fired
  | .returned => c.finished ∨ c.cancel.Fired
  | _ => True

/-- A call to stop an aperiodic task, with what it relies on. -/
structure Backed (call : StopCall) (c : Control) : Prop where
  release : call.release = .aperiodic
  spot : call.spot.Backed c

theorem Backed.grow {call : StopCall} {c c' : Control} (backed : call.Backed c) (grows : c.Grows c') :
    call.Backed c' := by
  refine ⟨backed.release, ?_⟩
  have here := backed.spot
  cases spot : call.spot with
  | signal => rw [spot] at here; exact grows.cancelled here
  | complaining _ => rw [spot] at here; exact grows.fired here
  | returned =>
    rw [spot] at here
    rcases here with done | fired
    · exact .inl (grows.finished done)
    · exact .inr (grows.fired fired)
  | _ => trivial

/-- How many steps a call takes at most while the thread waits. -/
def Spot.rank : StopCall.Spot → Nat
  | .raise => 5
  | .advance => 4
  | .lookFinished _ => 3
  | .lookInWait _ => 2
  | .pausing _ => 4
  | .cancel => 1
  | _ => 0

/-- What a step of a call does to the control, which grows but shows the same of the thread. -/
structure Stepped (c c' : Control) (call call' : StopCall) : Prop where
  backed : call'.Backed c'
  grows : c.Grows c'
  inWait : c'.inWait = c.inWait
  finished : c'.finished = c.finished
  /-- No step is wasted on a thread that waits and is not cancelled yet. -/
  closer : c.inWait → c.finished = false → c'.cancel.signals.isReadable = false →
    call'.spot.rank < call.spot.rank

theorem step_of_meets {call call' : StopCall} {e : Event} {c c' : Control} (meets : call.next.Meets e call')
    (moves : e.Moves c c') (backed : call.Backed c) : Stepped c c' call call' := by
  obtain ⟨release, relies⟩ := backed
  cases here : call.spot with
  | raise =>
    rw [StopCall.next, here] at meets
    cases meets
    obtain ⟨rfl, rfl⟩ := moves
    refine ⟨⟨release, trivial⟩, ⟨id, id, id⟩, rfl, rfl, ?_⟩
    intro _ _ _
    rw [here]
    exact Nat.lt_add_one 4
  | advance =>
    rw [StopCall.next, here] at meets
    simp only [release] at meets
    cases meets
    obtain ⟨rfl, rfl⟩ := moves
    refine ⟨⟨rfl, trivial⟩, ⟨id, id, id⟩, rfl, rfl, ?_⟩
    intro _ _ _
    rw [here]
    exact Nat.lt_add_one 3
  | lookFinished pause =>
    rw [StopCall.next, here] at meets
    cases meets with
    | access _ found =>
      obtain ⟨rfl, rfl⟩ := moves
      refine ⟨⟨release, ?_⟩, .refl _, rfl, rfl, ?_⟩
      · show Spot.Backed found (if found.finished then .returned else .lookInWait pause)
        split
        · rename_i done
          exact .inl done
        · trivial
      · intro _ running _
        show Spot.rank (if found.finished then .returned else .lookInWait pause) < _
        rw [running, here]
        exact Nat.lt_add_one 2
  | lookInWait pause =>
    rw [StopCall.next, here] at meets
    cases meets with
    | access _ found =>
      obtain ⟨rfl, rfl⟩ := moves
      refine ⟨⟨release, ?_⟩, .refl _, rfl, rfl, ?_⟩
      · show Spot.Backed found (if found.inWait then .cancel else .pausing pause)
        split
        · trivial
        · trivial
      · intro waits _ _
        show Spot.rank (if found.inWait then .cancel else .pausing pause) < _
        rw [waits, here]
        exact Nat.lt_add_one 1
  | pausing pause =>
    rw [StopCall.next, here] at meets
    cases meets
    cases moves
    refine ⟨⟨release, trivial⟩, .refl _, rfl, rfl, ?_⟩
    intro _ _ _
    rw [here]
    exact Nat.lt_add_one 3
  | cancel =>
    rw [StopCall.next, here] at meets
    cases meets
    obtain ⟨rfl, rfl⟩ := moves
    refine ⟨⟨release, rfl⟩, ⟨id, fun _ => rfl, id⟩, rfl, rfl, ?_⟩
    intro _ _ _
    rw [here]
    exact Nat.lt_add_one 0
  | signal =>
    rw [StopCall.next, here] at meets
    rw [here] at relies
    cases meets with
    | access _ found =>
      obtain ⟨rfl, rfl⟩ := moves
      have fired : found.cancel.signal.2.Fired :=
        ⟨found.cancel.cancelled_signal.trans relies, found.cancel.readable_signal⟩
      have grows : found.Grows { found with cancel := found.cancel.signal.2 } :=
        ⟨id, fun _ => fired.cancelled, fun _ => fired.readable⟩
      refine ⟨⟨?_, ?_⟩, grows, rfl, rfl, ?_⟩
      · dsimp only
        split
        · exact release
        · exact release
      · dsimp only
        split
        · exact .inr fired
        · exact fired
      · intro _ _ silent
        rw [fired.readable] at silent
        cases silent
  | complaining cause =>
    rw [StopCall.next, here] at meets
    rw [here] at relies
    cases meets
    cases moves
    refine ⟨⟨release, .inr relies⟩, .refl _, rfl, rfl, ?_⟩
    intro _ _ silent
    rw [relies.readable] at silent
    cases silent
  | returned => rw [StopCall.next, here] at meets; cases meets

end StopCall

end TaskTiming
