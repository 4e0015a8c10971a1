import TaskTiming.Proofs.Task.History

/-!
# The order of states

Two enter states of a task: its thread at four of its spots, and whoever stops it at one. Behind a step the
state is what it was, or the later of that and the one entered (`Thread.state_of_meets`,
`StopCall.state_of_meets`), so it never falls back, whoever takes the step. A call to stop the task leaves
it at `stopped` or beyond for good, and the thread is not seen `running` before it has met its first
release.
-/

namespace TaskTiming
set_option autoImplicit false

/-! ## Entering a state -/

namespace TaskState

/-- The state behind a step that enters a state, or none. -/
def after (present : TaskState) (entered : Option TaskState) : TaskState :=
  entered.elim present present.advance

theorem rank_le_rank_after (s : TaskState) (entered : Option TaskState) :
    s.rank ≤ (s.after entered).rank := by
  cases entered with
  | none => exact Nat.le_refl _
  | some t =>
    show s.rank ≤ (s.advance t).rank
    rw [rank_advance]
    exact Nat.le_max_left _ _

/-- Whoever enters a state is there or further. -/
theorem rank_le_rank_entered (s t : TaskState) : t.rank ≤ (s.after (some t)).rank := by
  show t.rank ≤ (s.advance t).rank
  rw [rank_advance]
  exact Nat.le_max_right _ _

/-- A state that is new was entered. -/
theorem entered_of_after {s t : TaskState} {entered : Option TaskState} (new : s ≠ t)
    (here : s.after entered = t) : entered = some t := by
  cases entered with
  | none => exact (new here).elim
  | some u =>
    have choice : (if s.rank < u.rank then u else s) = t := here
    split at choice
    · rw [choice]
    · exact (new choice).elim

end TaskState

/-- The state that a loop enters with its next step. -/
def Loop.Spot.entered? : Loop.Spot → Option TaskState
  | .enter => some .running
  | _ => none

/-- The state that a thread enters with its next step. -/
def Thread.entered? (t : Thread) : Option TaskState :=
  match t.spot with
  | .admitted => some .released
  | .looping l => l.spot.entered?
  | .leaving _ _ => some .stopped
  | .closing _ _ => some .joined
  | _ => none

/-- The state that a call to stop a task enters with its next step. -/
def StopCall.Spot.entered? : StopCall.Spot → Option TaskState
  | .advance => some .stopped
  | _ => none

section Meets

variable {e : Event} {c c' : Control}

theorem Loop.state_of_meets {l l' : Loop} (meets : l.next.Meets e l') (moves : e.Moves c c') :
    c'.state = c.state.after l.spot.entered? := by
  cases Loop.did_of_meets meets with
  | slept here | sleepless here | waited here | clockedIn here | clocklessIn here | started here
  | finished here | counted here | failed here | panicked here | clockedOut here | clocklessOut here =>
    cases moves
    rw [here]
    rfl
  | entered here | raised here | warned here | unwarned here | retreated here | released here
  | cancelled here | unwaited here | stopped here | wentOn here =>
    obtain ⟨rfl, rfl⟩ := moves
    rw [here]
    rfl

/-- **What a thread does to the state.** -/
theorem Thread.state_of_meets {t t' : Thread} (meets : t.next.Meets e t') (moves : e.Moves c c') :
    c'.state = c.state.after t.entered? := by
  unfold Thread.entered?
  cases here : t.spot with
  | looping l =>
    rw [Thread.next, here] at meets
    obtain ⟨l', inner, -⟩ := Action.meets_map meets
    exact Loop.state_of_meets inner moves
  | admitted | leaving _ _ | closing _ _ | finishing _ =>
    rw [Thread.next, here] at meets
    cases meets
    obtain ⟨rfl, rfl⟩ := moves
    rfl
  | admission | complaining _ _ | warning _ _ _ _ | writing _ _ _ | complainingAgain _ _ =>
    rw [Thread.next, here] at meets
    cases meets
    cases moves
    rfl
  | ended _ => rw [Thread.next, here] at meets; cases meets

/-- **What a call to stop a task does to its state.** -/
theorem StopCall.state_of_meets {call call' : StopCall} (meets : call.next.Meets e call')
    (moves : e.Moves c c') : c'.state = c.state.after call.spot.entered? := by
  cases here : call.spot with
  | raise | advance | lookFinished _ | lookInWait _ | cancel | signal =>
    rw [StopCall.next, here] at meets
    cases meets
    obtain ⟨rfl, rfl⟩ := moves
    rfl
  | pausing _ | complaining _ =>
    rw [StopCall.next, here] at meets
    cases meets
    cases moves
    rfl
  | returned => rw [StopCall.next, here] at meets; cases meets

end Meets

/-! ## Stops -/

namespace StopCall

/-- The call has entered `stopped`. -/
def HasStopped (call : StopCall) : Prop := call.spot ≠ .raise ∧ call.spot ≠ .advance

/-- A call that has entered `stopped` had before, or has with this step. -/
theorem stopped_of_meets {call call' : StopCall} {e : Event} (meets : call.next.Meets e call')
    (stopped : call'.HasStopped) : call.HasStopped ∨ call.spot = .advance := by
  by_cases here : call.spot = .raise
  · rw [StopCall.next, here] at meets
    cases meets
    exact (stopped.2 rfl).elim
  · by_cases there : call.spot = .advance
    · exact .inr there
    · exact .inl ⟨here, there⟩

end StopCall

namespace Company

variable {c₀ c c' : Company} {a : Actor} {events : List Event}

/-- A step enters a state or none: the thread its next one, a call to stop the task the one of its spot,
and nobody else any. -/
inductive Enters (c c' : Company) : Prop
  | thread {e : Event} (meets : c.live.machine.next.Meets e c'.live.machine)
      (state : c'.live.control.state = c.live.control.state.after c.live.machine.entered?)
  | call (spot : StopCall.Spot) (machine : c'.live.machine = c.live.machine)
      (state : c'.live.control.state = c.live.control.state.after spot.entered?)
  | apart (machine : c'.live.machine = c.live.machine)
      (state : c'.live.control.state = c.live.control.state)

theorem Step.enters (step : Step c a c') : c.Enters c' := by
  cases step with
  | thread leads =>
    rcases Live.moved_of_leads leads with ⟨meets, moves, -⟩ | ⟨-, -, machine, control⟩
    · exact .thread meets (Thread.state_of_meets meets moves)
    · exact .apart machine (congrArg Control.state control)
  | failure e awaits =>
    rename_i next
    have meets : c.live.machine.next.Meets (.waitEnd (.error e)) (next (.error e)) := by
      rw [awaits]
      exact .awaitRelease _ _
    exact .thread meets (Thread.state_of_meets meets rfl)
  | call here leads =>
    obtain ⟨e, stopped⟩ := Live.stopped_of_leads leads
    exact .call _ stopped.machine (StopCall.state_of_meets stopped.meets stopped.moves)
  | interruption | release | newCall => exact .apart rfl rfl

/-- **No step takes the state back.** -/
theorem Step.rank_le (step : Step c a c') : c.live.control.state.rank ≤ c'.live.control.state.rank := by
  rcases step.enters with ⟨-, state⟩ | ⟨_, -, state⟩ | ⟨-, state⟩
  · rw [state]
    exact TaskState.rank_le_rank_after _ _
  · rw [state]
    exact TaskState.rank_le_rank_after _ _
  · exact Nat.le_of_eq (by rw [state])

/-- **States only move forward**, in whatever order the steps are taken. -/
theorem History.rank_le (history : History c₀ events c) :
    c₀.live.control.state.rank ≤ c.live.control.state.rank := by
  induction history with
  | start => exact Nat.le_refl _
  | met _ step _ _ ih => exact Nat.le_trans ih step.rank_le
  | apart _ step _ _ ih => exact Nat.le_trans ih step.rank_le

/-- New calls have done nothing yet, and those that have entered `stopped` find it entered. -/
structure Heeded (c : Company) : Prop where
  handle : c.handle.spot = .raise
  calls : ∀ call ∈ c.calls, call.HasStopped → TaskState.stopped.rank ≤ c.live.control.state.rank

theorem Heeded.step (heeded : c.Heeded) (step : Step c a c') : c'.Heeded := by
  have forward := step.rank_le
  have before : ∀ call ∈ c.calls, call.HasStopped →
      TaskState.stopped.rank ≤ c'.live.control.state.rank :=
    fun call mem stopped => Nat.le_trans (heeded.calls call mem stopped) forward
  cases step with
  | thread | interruption | failure | release => exact ⟨heeded.handle, before⟩
  | newCall =>
    refine ⟨heeded.handle, fun call mem stopped => ?_⟩
    rcases List.mem_append.1 mem with old | new
    · exact before call old stopped
    · rw [List.mem_singleton.1 new] at stopped
      exact (stopped.1 heeded.handle).elim
  | call here leads =>
    obtain ⟨e, turn⟩ := Live.stopped_of_leads leads
    refine ⟨heeded.handle, fun call mem stopped => ?_⟩
    rcases List.mem_or_eq_of_mem_set mem with old | rfl
    · exact before call old stopped
    · rcases StopCall.stopped_of_meets turn.meets stopped with early | now
      · exact before _ (List.mem_of_getElem? here) early
      · have state := StopCall.state_of_meets turn.meets turn.moves
        rw [now] at state
        show _ ≤ TaskState.rank (Control.state _)
        rw [state]
        exact TaskState.rank_le_rank_entered _ _

theorem heeded_start (task : ReadyTask) (admission : Admission) : (start task admission).Heeded :=
  ⟨rfl, nofun⟩

/-- **Stops are never undone.** -/
theorem History.heeded (history : History c₀ events c) (heeded : c₀.Heeded) : c.Heeded := by
  induction history with
  | start => exact heeded
  | met _ step _ _ ih => exact ih.step step
  | apart _ step _ _ ih => exact ih.step step

end Company

/-! ## The first release -/

/-- What the thread of a task meets as its first release: the end of its sleep until the offset, or of a
wait. -/
inductive ReadyTask.IsRelease (task : ReadyTask) : Event → Prop
  | slept {first : Time} (periodic : task.params.release = .periodic)
      (due : task.t0.add? task.params.offset = .ok first) :
      IsRelease task (.answer (.sleepUntil first) (.ok ()))
  | waited (aperiodic : task.params.release = .aperiodic) : IsRelease task (.waitEnd (.ok .released))

/-- A loop of the task that still awaits the first release, or ends without one. -/
def Loop.Awaits (l : Loop) (task : ReadyTask) : Prop :=
  match l.spot with
  | .sleep => task.IsRelease (.answer (.sleepUntil l.release) (.ok ()))
  | .raise => task.params.release = .aperiodic
  | .look => task.params.release = .aperiodic
  | .wait => task.params.release = .aperiodic
  | .lower outcome => outcome ≠ .ok .released
  | .retreat => True
  | .ended _ => True
  | .panicked => True
  | _ => False

/-- It does until its thread meets the release. -/
theorem Loop.Awaits.step {task : ReadyTask} {l l' : Loop} {e : Event} (awaits : l.Awaits task)
    (did : l.Did e l') : task.IsRelease e ∨ l'.Awaits task := by
  unfold Loop.Awaits at awaits
  cases did with
  | slept here =>
    rw [here] at awaits
    exact .inl awaits
  | raised here | unwarned here =>
    rw [here] at awaits
    exact .inr awaits
  | waited here outcome =>
    rw [here] at awaits
    by_cases released : outcome = .ok .released
    · subst released
      exact .inl (.waited awaits)
    · exact .inr released
  | released here =>
    rw [here] at awaits
    exact (awaits rfl).elim
  | sleepless | warned | retreated | cancelled | unwaited => exact .inr trivial
  | entered here | clockedIn here | clocklessIn here | started here | finished here | counted here
  | failed here | panicked here | clockedOut here | clocklessOut here | stopped here | wentOn here =>
    rw [here] at awaits
    exact awaits.elim

namespace Thread

variable {t t' : Thread} {e : Event}

theorem awaits_firstLoop (t : Thread) : t.firstLoop.Awaits t.task := by
  unfold Thread.firstLoop
  dsimp only
  cases kind : t.task.params.release with
  | aperiodic => exact kind
  | periodic =>
    cases due : t.task.t0.add? t.task.params.offset with
    | error e => trivial
    | ok first =>
      show (Loop.sleepTo _ first).Awaits t.task
      unfold Loop.sleepTo
      split
      · exact .slept kind due
      · trivial

/-- If the thread is in its loop, the loop still awaits the first release. -/
def Unreleased (t : Thread) : Prop := ∀ l, t.spot = .looping l → l.Awaits t.task

theorem unreleased_proceed {l : Loop} (awaits : l.Awaits t.task) : (t.proceed l).Unreleased := by
  unfold Thread.proceed
  intro l' here
  split at here
  · cases here
  · cases here
  · cases here
    exact awaits

/-- A thread meets the first release before it is past it. -/
theorem Unreleased.step (unreleased : t.Unreleased) (did : t.Did e t') : t.task.IsRelease e ∨ t'.Unreleased := by
  cases did with
  | looped here did =>
    rcases (unreleased _ here).step did with release | awaits
    · exact .inl release
    · exact .inr (unreleased_proceed awaits)
  | admitted | refused => exact .inr fun l here => by cases here
  | released => exact .inr (unreleased_proceed t.awaits_firstLoop)
  | closed _ through =>
    refine .inr fun l here => ?_
    rw [isThrough, here] at through
    cases through

/-- Until then it does not enter `running`. -/
theorem Unreleased.entered (unreleased : t.Unreleased) : t.entered? ≠ some .running := by
  unfold Thread.entered?
  cases here : t.spot with
  | looping l =>
    have awaits := unreleased l here
    intro enters
    cases spot : l.spot with
    | enter =>
      unfold Loop.Awaits at awaits
      rw [spot] at awaits
      exact awaits
    | _ =>
      dsimp only at enters
      rw [spot] at enters
      cases enters
  | _ => nofun

end Thread

namespace Company

variable {c₀ c : Company} {events : List Event}

/-- Whoever takes steps, the thread changes its spot alone. -/
theorem History.machine (history : History c₀ events c) :
    c.live.machine = { c₀.live.machine with spot := c.live.machine.spot } := by
  induction history with
  | start => rfl
  | met _ _ meets _ ih =>
    have moved := Thread.spot_of_meets meets
    rw [ih] at moved
    exact moved
  | apart _ _ machine _ ih =>
    rw [machine]
    exact ih

/-- The thread has met the first release, or nobody has seen it `running` yet. -/
theorem History.released {task : ReadyTask} {admission : Admission}
    (history : History (Company.start task admission) events c) :
    (∃ e ∈ events, task.IsRelease e) ∨ c.live.machine.Unreleased ∧ c.live.control.state ≠ .running := by
  induction history with
  | start =>
    refine .inr ⟨fun l here => ?_, ?_⟩
    · cases here
    · intro running
      cases running
  | met before _ meets moves ih =>
    rcases ih with ⟨e, mem, release⟩ | ⟨unreleased, still⟩
    · exact .inl ⟨e, List.mem_append_left _ mem, release⟩
    have same : _ = task := congrArg Thread.task before.machine
    rcases unreleased.step (Thread.did_of_meets meets) with release | unreleased'
    · exact .inl ⟨_, List.mem_append_right _ (List.mem_singleton.2 rfl), same ▸ release⟩
    · refine .inr ⟨unreleased', fun running => ?_⟩
      rw [Thread.state_of_meets meets moves] at running
      exact unreleased.entered (TaskState.entered_of_after still running)
  | apart _ step machine _ ih =>
    rcases ih with met | ⟨unreleased, still⟩
    · exact .inl met
    refine .inr ⟨machine ▸ unreleased, fun running => ?_⟩
    rcases step.enters with ⟨-, state⟩ | ⟨spot, -, state⟩ | ⟨-, state⟩
    · rw [state] at running
      exact unreleased.entered (TaskState.entered_of_after still running)
    · rw [state] at running
      have entered := TaskState.entered_of_after still running
      cases spot <;> cases entered
    · exact still (state.symm.trans running)

end Company

end TaskTiming
