import TaskTiming.Proofs.Experiment.Return
import TaskTiming.Proofs.Task.Windup

/-!
# Giving up a session

A session that cannot be set up stops and joins the tasks that it has started, one after the other, and waits
for their generators (`Unwinds`). What is left of that is measured (`remaining`): nobody's step adds to it,
and he whom it is up to at the moment (`awaited`) can take his turn and lessens it
(`Unwinds.isOpen`, `Unwinds.nearer_of_spins`).
-/

namespace TaskTiming
set_option autoImplicit false

/-- How many steps a generator has left once the session was ended. -/
def Generator.Spot.left : Generator.Spot → Nat
  | .sleep => 4
  | .signal => 3
  | .look => 2
  | .complaining _ => 1
  | .ended => 0

namespace Session

variable {s s' : Session} {e : Error} {i : Nat}

/-- What the conductor may rely on. -/
structure Runs (s : Session) : Prop where
  sound : s.Sound
  stands : s.Stands
  loops : ∀ started ∈ s.tasks, started.live.machine.Loops
  released : ∀ g ∈ s.generators, g.task < s.tasks.length

/-- The setting up is given up with an error, which the session is about to return. -/
def Unwinds (e : Error) (s : Session) : Prop :=
  match s.spot with
  | .noting _ _ outcome => outcome = .error e
  | .dropping => s.failure = some e
  | .stopping i call => s.failure = some e ∧ ∃ started, s.held[i]? = some started ∧ started.live.Suits call
  | .joining i => s.failure = some e ∧ ∃ started, s.held[i]? = some started ∧ started.live.Freed
  | .joiningGenerator i => s.failure = some e ∧ i ≤ s.generators.length
  | .returned outcome => outcome = .error e ∧ s.Joined
  | _ => False

/-- A number that tells of the started task at a position. -/
def ofTask (s : Session) (i : Nat) (f : LiveTask → Nat) : Nat := ((s.tasks[i]?).map (f ·.live)).getD 0

/-- How far a session that was given up is from its return: the stages that are left, what is left of the
present one, and what is left to those whom it waits for. -/
def remaining (s : Session) : Nat × Nat × Nat :=
  -- Each task is stopped and joined, then each generator is joined.
  let stages := s.generators.length + 2
  match s.spot with
  | .noting _ lines _ => (2 * s.tasks.length + stages + 2, lines.length, 0)
  | .dropping => (2 * s.tasks.length + stages + 1, 0, 0)
  | .stopping i call => (2 * (s.tasks.length - i) + stages, call.spot.stage, s.ofTask i (·.pollsLeft call.spot))
  | .joining i => (2 * (s.tasks.length - i) + stages - 1, 0, s.ofTask i (·.stepsLeft))
  | .joiningGenerator i =>
    (s.generators.length + 1 - i, 0, ((s.generators[i]?).map (·.spot.left)).getD 0)
  | _ => (0, 0, 0)

/-- Less is left. -/
def Nearer (s' s : Session) : Prop :=
  Prod.Lex (· < ·) (Prod.Lex (· < ·) (· < ·)) s'.remaining s.remaining

theorem wellFounded_nearer : WellFounded Nearer :=
  InvImage.wf remaining (Prod.lex Nat.lt_wfRel (Prod.lex Nat.lt_wfRel Nat.lt_wfRel)).wf

/-- Who has to take a turn for the session to come nearer to its return. -/
def awaited (s : Session) : Actor :=
  match s.spot with
  | .stopping i call => if call.spot.isPolling ∧ (s.tasks[i]?).any (·.live.isBusy) then .task i else .conductor
  | .joining i => if (s.tasks[i]?).any (·.live.machine.isOver) then .conductor else .task i
  | .joiningGenerator i =>
    if (s.generators[i]?).all (·.spot = .ended) then .conductor else .generator i
  | _ => .conductor

/-- A session that is given up is so still, and no farther from its return. -/
inductive Winds (e : Error) (s s' : Session) : Prop
  | nearer (unwinds : s'.Unwinds e) (nearer : s'.Nearer s)
  | same (unwinds : s'.Unwinds e) (remaining : s'.remaining = s.remaining) (awaited : s'.awaited = s.awaited)

theorem Winds.unwinds (winds : Winds e s s') : s'.Unwinds e := by
  cases winds with
  | nearer unwinds => exact unwinds
  | same unwinds => exact unwinds

/-- All that it returns is its error, with nothing left running that it holds. -/
theorem Unwinds.returned {outcome : Result Unit} (unwinds : s.Unwinds e) (returned : s.outcome? = some outcome) :
    outcome = .error e ∧ s.Joined := by
  unfold Unwinds at unwinds
  rw [spot_of_outcome returned] at unwinds
  exact unwinds

/-- It has begun, and does not wait to be over. -/
theorem Unwinds.away (unwinds : s.Unwinds e) : s.spot.isEarly = false ∧ s.spot.isPolling = false := by
  unfold Unwinds at unwinds
  cases here : s.spot with
  | noting _ _ _ | dropping | stopping _ _ | joining _ | joiningGenerator _ | returned _ => exact ⟨rfl, rfl⟩
  | _ =>
    rw [here] at unwinds
    exact unwinds.elim

theorem Nearer.of_stages (fewer : s'.remaining.1 < s.remaining.1) : s'.Nearer s := Prod.Lex.left _ _ fewer

/-- In the same place less is left to him who is waited for. -/
theorem Nearer.of_last {stages rest last last' : Nat} (before : s.remaining = (stages, rest, last))
    (after : s'.remaining = (stages, rest, last')) (less : last' < last) : s'.Nearer s := by
  rw [Nearer, before, after]
  exact .right _ (.right _ less)

theorem remaining_stopping {call : StopCall} {t : Started} (here : s.spot = .stopping i call)
    (there : s.tasks[i]? = some t) : s.remaining = (2 * (s.tasks.length - i) + (s.generators.length + 2),
      call.spot.stage, t.live.pollsLeft call.spot) := by
  simp only [remaining, here, ofTask, there]
  rfl

theorem awaited_stopping {call : StopCall} {t : Started} (here : s.spot = .stopping i call)
    (there : s.tasks[i]? = some t) :
    s.awaited = if call.spot.isPolling ∧ t.live.isBusy then .task i else .conductor := by
  simp only [awaited, here, there]
  rfl

theorem remaining_joining {t : Started} (here : s.spot = .joining i) (there : s.tasks[i]? = some t) :
    s.remaining = (2 * (s.tasks.length - i) + (s.generators.length + 2) - 1, 0, t.live.stepsLeft) := by
  simp only [remaining, here, ofTask, there]
  rfl

theorem awaited_joining {t : Started} (here : s.spot = .joining i) (there : s.tasks[i]? = some t) :
    s.awaited = if t.live.machine.isOver then .conductor else .task i := by
  simp only [awaited, here, there]
  rfl

theorem remaining_joiningGenerator {g : Generator} (here : s.spot = .joiningGenerator i)
    (there : s.generators[i]? = some g) : s.remaining = (s.generators.length + 1 - i, 0, g.spot.left) := by
  simp only [remaining, here, there]
  rfl

theorem awaited_joiningGenerator {g : Generator} (here : s.spot = .joiningGenerator i)
    (there : s.generators[i]? = some g) :
    s.awaited = if g.spot = .ended then .conductor else .generator i := by
  simp [awaited, here, there]

/-- What it takes while the tasks are stopped and joined: a task that was told to stop. -/
theorem Runs.wasStopped {call : StopCall} {t : Started} (runs : s.Runs) (here : s.spot = .stopping i call)
    (there : s.held[i]? = some t) (on : call.spot ≠ .raise) : t.live.WasStopped := by
  have stands := runs.stands
  unfold Stands at stands
  rw [here] at stands
  exact stands.asked.resolve_left on (Nat.lt_succ_self i) there

theorem Runs.wasStopped_polling {call : StopCall} {t : Started} (runs : s.Runs) (here : s.spot = .stopping i call)
    (there : s.held[i]? = some t) (polling : call.spot.isPolling = true) : t.live.WasStopped :=
  runs.wasStopped here there fun raise => by
    rw [raise] at polling
    cases polling

theorem Runs.wasStopped_joining {t : Started} (runs : s.Runs) (here : s.spot = .joining i)
    (there : s.held[i]? = some t) : t.live.WasStopped := by
  have stands := runs.stands
  unfold Stands at stands
  rw [here] at stands
  exact stands.stopped (Nat.lt_succ_self i) there

theorem Runs.joiningGenerator (runs : s.Runs) (here : s.spot = .joiningGenerator i) : s.JoiningGenerator i := by
  have stands := runs.stands
  unfold Stands at stands
  rw [here] at stands
  exact stands

theorem Runs.loopsAt {t : Started} (runs : s.Runs) (here : s.tasks[i]? = some t) : t.live.machine.Loops :=
  runs.loops t (List.mem_of_getElem? here)

/-! ## Steps beside the conductor -/

/-- Every task and generator has come nearer to its end, or is where it was. -/
structure Advances (s s' : Session) : Prop where
  spot : s'.spot = s.spot
  onward : s.Onward s'
  generatorCount : s'.generators.length = s.generators.length
  tasks : ∀ ⦃i : Nat⦄ ⦃t⦄, s.tasks[i]? = some t → ∃ t', s'.tasks[i]? = some t' ∧ t.live.Advances t'.live
  generators : ∀ ⦃i : Nat⦄ ⦃g⦄, s.generators[i]? = some g →
    ∃ g', s'.generators[i]? = some g' ∧ (g'.spot = g.spot ∨ (s.running = false → g'.spot.left < g.spot.left))

theorem Advances.held {t : Started} (advances : s.Advances s') (here : s.held[i]? = some t) :
    ∃ t', s'.held[i]? = some t' ∧ t.live.Advances t'.live := by
  obtain ⟨inside, there⟩ := getElem?_held_eq_some.1 here
  obtain ⟨t', there', live⟩ := advances.tasks there
  exact ⟨t', getElem?_held_eq_some.2 ⟨advances.onward.handles ▸ inside, there'⟩, live⟩

/-- One task goes on. -/
theorem advances_setLive {t : Started} {live : LiveTask} (here : s.tasks[i]? = some t)
    (advances : t.live.Advances live) (onward : s.Onward (s.setLive i live)) : s.Advances (s.setLive i live) where
  spot := rfl
  onward := onward
  generatorCount := rfl
  tasks j u there := by
    refine ⟨_, task_setLive there i live, ?_⟩
    split
    · rename_i same
      subst same
      cases here.symm.trans there
      exact advances
    · exact .refl _
  generators _ g there := ⟨g, there, .inl rfl⟩

/-- One generator goes on. -/
theorem advances_setGenerator {g g' : Generator} (here : s.generators[i]? = some g)
    (closer : s.running = false → g'.spot.left < g.spot.left) (onward : s.Onward (s.setGenerator i g')) :
    s.Advances (s.setGenerator i g') where
  spot := rfl
  onward := onward
  generatorCount := List.length_set
  tasks _ t there := ⟨t, there, .refl _⟩
  generators j h there := by
    by_cases same : i = j
    · subst same
      cases here.symm.trans there
      have inside := (List.getElem?_eq_some_iff.1 here).1
      exact ⟨g', List.getElem?_set_self inside, .inr closer⟩
    · exact ⟨h, (List.getElem?_set_ne same).trans there, .inl rfl⟩

/-- A generator goes on, and the task that it releases. -/
theorem advances_generatorTurn (sound : s.Sound) (spins : (s.generatorTurn i).Spins s') :
    s.Advances s' ∧ ∃ g g', s.generators[i]? = some g ∧ s'.generators[i]? = some g' ∧
      (s.running = false → g'.spot.left < g.spot.left) := by
  obtain ⟨onward, -⟩ := onward_generatorTurn sound spins
  have alone {g g' : Generator} (here : s.generators[i]? = some g) (same : s' = s.setGenerator i g')
      (closer : s.running = false → g'.spot.left < g.spot.left) :
      s.Advances s' ∧ ∃ g₀ g₁, s.generators[i]? = some g₀ ∧ s'.generators[i]? = some g₁ ∧
        (s.running = false → g₁.spot.left < g₀.spot.left) := by
    subst same
    have inside := (List.getElem?_eq_some_iff.1 here).1
    exact ⟨advances_setGenerator here closer onward, g, g', here, List.getElem?_set_self inside, closer⟩
  cases generates_of_spins spins with
  | looked here spot =>
    refine alone here rfl fun ended => ?_
    rw [ended, spot]
    exact (by decide : 0 < 2)
  | slept here spot outcome =>
    refine alone here rfl fun _ => ?_
    rw [spot]
    cases outcome with
    | ok => exact (by decide : 3 < 4)
    | error e => exact (by decide : 1 < 4)
  | complained here spot =>
    refine alone here rfl fun _ => ?_
    rw [spot]
    exact (by decide : 0 < 1)
  | @signalled g t here spot there =>
    have inside := (List.getElem?_eq_some_iff.1 here).1
    have closer : s.running = false → (g.signalled t.live.release.1).spot.left < g.spot.left := by
      intro _
      rw [spot]
      cases t.live.release.1 with
      | ok => exact (by decide : 2 < 3)
      | error e => exact (by decide : 1 < 3)
    have first := onward_setLive sound there (Live.onward_release (sound.live there))
    have released := advances_setLive there t.live.advances_release first
    have signalled := advances_setGenerator here closer (onward_setGenerator sound here (by simp [spot]))
    refine ⟨?_, g, _, here, List.getElem?_set_self inside, closer⟩
    exact ⟨rfl, onward, signalled.generatorCount, released.tasks, signalled.generators⟩

/-- **What a step is for those whom the conductor started**, unless it is his. -/
theorem Step.conducted_or_advances (sound : s.Sound) (step : s.Step s') :
    s.conduct.Spins s' ∨ s.Advances s' := by
  cases step with
  | conductor spins => exact .inl spins
  | task here goes =>
    have live := sound.live here
    have onward := onward_setLive sound here (Live.onward_of_goes live goes)
    exact .inr (advances_setLive here (Live.advances_of_goes live goes) onward)
  | generator spins => exact .inr (advances_generatorTurn sound spins).1
  | interruption =>
    have onward : s.Onward s.interrupt := .of_same sound rfl rfl rfl (fun _ => rfl) rfl
    refine .inr ⟨rfl, onward, rfl, fun _ t there => ?_, fun _ g there => ?_⟩
    · exact ⟨t, there, .refl _⟩
    · exact ⟨g, there, .inl rfl⟩

/-- Where the conductor waits, others come nearer to what he waits for, or are where they were. -/
theorem winds_of_last {stages rest last last' : Nat} (unwinds : s'.Unwinds e)
    (before : s.remaining = (stages, rest, last)) (after : s'.remaining = (stages, rest, last'))
    (how : last' < last ∨ last' = last ∧ s'.awaited = s.awaited) : Winds e s s' := by
  rcases how with less | ⟨equal, awaited⟩
  · exact .nearer unwinds (.of_last before after less)
  · exact .same unwinds (by rw [before, after, equal]) awaited

theorem winds_stopping {call : StopCall} (here : s.spot = .stopping i call) (unwinds : s.Unwinds e) (runs : s.Runs)
    (advances : s.Advances s') : Winds e s s' := by
  unfold Unwinds at unwinds
  rw [here] at unwinds
  obtain ⟨failed, t, held, suits⟩ := unwinds
  obtain ⟨t', held', live⟩ := advances.held held
  have spot : s'.spot = .stopping i call := advances.spot.trans here
  have unwinds' : s'.Unwinds e := by
    simp only [Unwinds, spot]
    exact ⟨advances.onward.failure.trans failed, t', held', suits.advances live⟩
  have there := tasks_of_held held
  have there' := tasks_of_held held'
  have after := remaining_stopping spot there'
  rw [advances.onward.count, advances.generatorCount] at after
  refine winds_of_last unwinds' (remaining_stopping here there) after ?_
  rw [awaited_stopping here there, awaited_stopping spot there']
  cases polling : call.spot.isPolling with
  | false => exact .inr (by simp [Live.pollsLeft, polling])
  | true =>
    rcases live.pollsLeft (runs.wasStopped_polling here held polling) polling with less | ⟨equal, busy⟩
    · exact .inl less
    · exact .inr ⟨equal, by rw [busy]⟩

theorem winds_joining (here : s.spot = .joining i) (unwinds : s.Unwinds e) (runs : s.Runs)
    (advances : s.Advances s') : Winds e s s' := by
  unfold Unwinds at unwinds
  rw [here] at unwinds
  obtain ⟨failed, t, held, freed⟩ := unwinds
  obtain ⟨t', held', live⟩ := advances.held held
  have later : t.live.Onward t'.live := by
    obtain ⟨u, before, later⟩ := advances.onward.held held'
    cases held.symm.trans before
    exact later
  have spot : s'.spot = .joining i := advances.spot.trans here
  have unwinds' : s'.Unwinds e := by
    simp only [Unwinds, spot]
    exact ⟨advances.onward.failure.trans failed, t', held', freed.advances later live⟩
  have there := tasks_of_held held
  have there' := tasks_of_held held'
  have after := remaining_joining spot there'
  rw [advances.onward.count, advances.generatorCount] at after
  refine winds_of_last unwinds' (remaining_joining here there) after ?_
  rw [awaited_joining here there, awaited_joining spot there']
  have woken := freed.woken (runs.loopsAt there)
  rcases live.stepsLeft_le (runs.wasStopped_joining here held) woken with less | ⟨equal, same⟩
  · exact .inl less
  · exact .inr ⟨equal, by rw [same]⟩

theorem winds_joiningGenerator (here : s.spot = .joiningGenerator i) (unwinds : s.Unwinds e) (runs : s.Runs)
    (advances : s.Advances s') : Winds e s s' := by
  unfold Unwinds at unwinds
  rw [here] at unwinds
  obtain ⟨failed, most⟩ := unwinds
  have spot : s'.spot = .joiningGenerator i := advances.spot.trans here
  have unwinds' : s'.Unwinds e := by
    simp only [Unwinds, spot, advances.generatorCount]
    exact ⟨advances.onward.failure.trans failed, most⟩
  cases there : s.generators[i]? with
  | none =>
    have there' : s'.generators[i]? = none := by
      rw [List.getElem?_eq_none_iff, advances.generatorCount]
      exact List.getElem?_eq_none_iff.1 there
    refine .same unwinds' ?_ ?_
    · simp only [remaining, spot, here, there, there', advances.generatorCount]
    · simp only [awaited, spot, here, there, there']
  | some g =>
    obtain ⟨g', there', stands⟩ := advances.generators there
    have after := remaining_joiningGenerator spot there'
    rw [advances.generatorCount] at after
    refine winds_of_last unwinds' (remaining_joiningGenerator here there) after ?_
    rw [awaited_joiningGenerator here there, awaited_joiningGenerator spot there']
    rcases stands with same | closer
    · exact .inr (by rw [same]; exact ⟨rfl, rfl⟩)
    · exact .inl (closer (runs.joiningGenerator here).dropped)

/-- Nobody but the conductor takes a session back from its return. -/
theorem Unwinds.winds (unwinds : s.Unwinds e) (runs : s.Runs) (advances : s.Advances s') : Winds e s s' := by
  have spot := advances.spot
  cases here : s.spot with
  | stopping i call => exact winds_stopping here unwinds runs advances
  | joining i => exact winds_joining here unwinds runs advances
  | joiningGenerator i => exact winds_joiningGenerator here unwinds runs advances
  | noting _ _ _ | dropping =>
    unfold Unwinds at unwinds
    rw [here] at unwinds spot
    refine .same ?_ ?_ ?_
    · simp only [Unwinds, spot, advances.onward.failure]
      exact unwinds
    · simp only [remaining, spot, here, advances.onward.count, advances.generatorCount]
    · simp only [awaited, spot, here]
  | returned outcome =>
    unfold Unwinds at unwinds
    rw [here] at unwinds spot
    refine .same ?_ ?_ ?_
    · simp only [Unwinds, spot]
      exact ⟨unwinds.1, unwinds.2.onward advances.onward⟩
    · simp only [remaining, spot, here]
    · simp only [awaited, spot, here]
  | _ =>
    unfold Unwinds at unwinds
    rw [here] at unwinds
    exact unwinds.elim

/-! ## The conductor's steps -/

theorem unwinds_stopFrom (failed : s.failure = some e) (i : Nat) : (s.stopFrom i).Unwinds e ∧
    (s.stopFrom i).remaining.1 ≤ 2 * (s.tasks.length - i) + (s.generators.length + 2) := by
  unfold stopFrom
  split
  · rename_i t there
    exact ⟨⟨failed, t, there, t.live.suits_start⟩, Nat.le_refl _⟩
  · rw [failed]
    refine ⟨⟨failed, Nat.zero_le _⟩, ?_⟩
    show s.generators.length + 1 - 0 ≤ _
    omega

/-- The call that stops a task takes a step. -/
theorem unwinds_stops {call call' : StopCall} {t : Started} {live : LiveTask} (runs : s.Runs)
    (here : s.spot = .stopping i call) (failed : s.failure = some e) (held : s.held[i]? = some t)
    (suits : t.live.Suits call) (leads : (t.live.stopTurn call).Leads (live, call')) :
    let s' := (s.setLive i live).goto (.stopping i call')
    s'.Unwinds e ∧ (s'.Nearer s ∨ (s'.remaining = s.remaining ∧ s'.awaited = s.awaited) ∧
      s.awaited ≠ .conductor) := by
  intro s'
  obtain ⟨e', stopped⟩ := Live.stopped_of_leads leads
  obtain ⟨inside, there⟩ := getElem?_held_eq_some.1 held
  have sound := runs.sound.live there
  have there' : s'.tasks[i]? = some { t with live } := task_setLive_self there live
  have held' : s'.held[i]? = some { t with live } := getElem?_held_eq_some.2 ⟨inside, there'⟩
  have count : s'.tasks.length = s.tasks.length := List.length_modify _ _ _
  have release := StopCall.release_of_meets stopped.meets
  have suits' : live.Suits call' := by
    refine ⟨?_, fun aperiodic => ?_⟩
    · rw [release, stopped.machine]
      exact suits.release
    · rw [release] at aperiodic
      exact (StopCall.step_of_meets stopped.meets stopped.moves (suits.backed aperiodic)).backed
  refine ⟨⟨failed, _, held', suits'⟩, ?_⟩
  have before := remaining_stopping here there
  have after : s'.remaining = (2 * (s.tasks.length - i) + (s.generators.length + 2), call'.spot.stage,
      Live.pollsLeft live call'.spot) := by
    rw [remaining_stopping (rfl : s'.spot = .stopping i call') there', count]
    rfl
  rcases StopCall.nearer_of_meets stopped.meets stopped.moves with less | polls
  · left
    rw [Nearer, before, after]
    exact .right _ (.left _ _ less)
  · rw [polls.stage_eq] at after
    rcases Live.pollsLeft_of_polls stopped.machine polls sound.shows with less | ⟨equal, busy⟩
    · exact .inl (.of_last before after less)
    · -- There is nothing for the call to see, so it is up to the thread.
      have still : live.isBusy = true := by
        unfold Live.isBusy at busy ⊢
        rw [stopped.machine]
        exact busy
      have first := awaited_stopping here there
      have second := awaited_stopping (rfl : s'.spot = .stopping i call') there'
      rw [if_pos ⟨polls.before, busy⟩] at first
      rw [if_pos ⟨polls.after, still⟩] at second
      refine .inr ⟨⟨?_, second.trans first.symm⟩, ?_⟩
      · rw [before, after, equal]
      · rw [first]
        exact nofun

/-- **A step of the conductor** brings a session nearer to its return, unless it polls a thread that neither
waits nor has ended. -/
theorem Unwinds.conducts (unwinds : s.Unwinds e) (runs : s.Runs) (plain : e.isAbort = false)
    (spins : s.conduct.Spins s') : s'.Unwinds e ∧
      (s'.Nearer s ∨ (s'.remaining = s.remaining ∧ s'.awaited = s.awaited) ∧ s.awaited ≠ .conductor) := by
  obtain ⟨early, waits⟩ := unwinds.away
  unfold Unwinds at unwinds
  cases conducts_of_spins spins with
  | @noted _ line lines _ here =>
    rw [here] at unwinds
    refine ⟨unwinds, .inl ?_⟩
    simp only [Nearer, remaining, goto, here]
    exact .right _ (.left _ _ (Nat.lt_succ_self _))
  | refused here =>
    rw [here] at unwinds
    cases unwinds
    have given : s.giveUp e = { s with failure := some e, spot := .dropping } := by
      rw [giveUp, plain]
      rfl
    rw [given]
    refine ⟨rfl, .inl (.of_stages ?_)⟩
    simp only [remaining, here]
    exact Nat.lt_succ_self _
  | dropped here =>
    rw [here] at unwinds
    obtain ⟨unwinds', most⟩ := unwinds_stopFrom (s := { s with running := false }) unwinds 0
    refine ⟨unwinds', .inl (.of_stages (Nat.lt_of_le_of_lt most ?_))⟩
    simp only [remaining, here]
    exact Nat.lt_succ_self _
  | @stopped i call here done =>
    rw [here] at unwinds
    obtain ⟨failed, t, held, suits⟩ := unwinds
    have returned : call.spot = .returned := done.resolve_right (by simp [held])
    have sound := runs.sound.live (tasks_of_held held)
    have on : s.stopped i = s.goto (.joining i) := by
      rw [Session.stopped, failed]
      rfl
    rw [on]
    refine ⟨⟨failed, t, held, suits.freed sound returned⟩, .inl (.of_stages ?_)⟩
    have inside := (List.getElem?_eq_some_iff.1 (tasks_of_held held)).1
    simp only [remaining, goto, here]
    omega
  | stops here there part =>
    rw [here] at unwinds
    obtain ⟨failed, t, held, suits⟩ := unwinds
    cases there.symm.trans held
    exact unwinds_stops runs here failed held suits part.leads
  | joinedAll here past =>
    rw [here] at unwinds
    obtain ⟨-, t, held, -⟩ := unwinds
    cases past.symm.trans held
  | @joined i _ firstError here there =>
    rw [here] at unwinds
    obtain ⟨failed, -⟩ := unwinds
    have inside := (List.getElem?_eq_some_iff.1 (tasks_of_held there)).1
    have on : Session.joined { s with firstError } i = stopFrom { s with firstError } (i + 1) := by
      rw [Session.joined, failed]
      rfl
    rw [on]
    obtain ⟨unwinds', most⟩ := unwinds_stopFrom (s := { s with firstError }) failed (i + 1)
    refine ⟨unwinds', .inl (.of_stages (Nat.lt_of_le_of_lt most ?_))⟩
    simp only [remaining, here]
    omega
  | @joinedGenerator i _ here there =>
    rw [here] at unwinds
    obtain ⟨failed, -⟩ := unwinds
    have inside := (List.getElem?_eq_some_iff.1 there).1
    refine ⟨⟨failed, inside⟩, .inl (.of_stages ?_)⟩
    simp only [remaining, goto, here]
    omega
  | returned here past =>
    rw [here] at unwinds
    obtain ⟨failed, most⟩ := unwinds
    have outcome : s.outcome = .error e := by rw [Session.outcome, failed]
    rw [outcome]
    obtain ⟨tasks, generators⟩ := (runs.joiningGenerator here).joined_of_past past
    refine ⟨⟨rfl, tasks, generators⟩, .inl (.of_stages ?_)⟩
    simp only [remaining, finish, goto, here]
    omega
  | accepted here =>
    rw [here] at unwinds
    cases unwinds
  | polled polling => cases polling.symm.trans waits
  | unbegun begins => cases begins.symm.trans early
  | entered here | began here | passed here | prepared here | created here | uncreated here | started here
  | unstarted here | generates here | ungenerated here | nobody here | clockless here =>
    rw [here] at unwinds
    exact unwinds.elim

/-- Nobody takes a session back from its return. -/
theorem Unwinds.step (unwinds : s.Unwinds e) (runs : s.Runs) (plain : e.isAbort = false) (step : s.Step s') :
    Winds e s s' := by
  rcases step.conducted_or_advances runs.sound with spins | advances
  · obtain ⟨unwinds', nearer | ⟨⟨remaining, awaited⟩, -⟩⟩ := unwinds.conducts runs plain spins
    · exact .nearer unwinds' nearer
    · exact .same unwinds' remaining awaited
  · exact unwinds.winds runs advances

/-! ## He whom it is up to -/

/-- It is up to a task while it is polled and does not wait, and until it is joined. -/
theorem Unwinds.task_of_awaited (unwinds : s.Unwinds e) (awaited : s.awaited = .task i) :
    ∃ t, s.held[i]? = some t ∧
      ((∃ call, s.spot = .stopping i call ∧ call.spot.isPolling = true ∧ t.live.isBusy = true) ∨
        s.spot = .joining i ∧ t.live.machine.isOver = false ∧ t.live.Freed) := by
  unfold Unwinds at unwinds
  cases here : s.spot with
  | stopping j call =>
    rw [here] at unwinds
    obtain ⟨-, t, there, -⟩ := unwinds
    rw [awaited_stopping here (tasks_of_held there)] at awaited
    split at awaited
    · rename_i polls
      cases awaited
      exact ⟨t, there, .inl ⟨call, rfl, polls⟩⟩
    · cases awaited
  | joining j =>
    rw [here] at unwinds
    obtain ⟨-, t, there, freed⟩ := unwinds
    rw [awaited_joining here (tasks_of_held there)] at awaited
    split at awaited
    · cases awaited
    · rename_i running
      cases awaited
      exact ⟨t, there, .inr ⟨rfl, by simpa using running, freed⟩⟩
  | joiningGenerator j =>
    simp only [Session.awaited, here] at awaited
    split at awaited <;> cases awaited
  | _ =>
    simp only [Session.awaited, here] at awaited
    cases awaited

/-- It is up to a generator until it is joined. -/
theorem generator_of_awaited (awaited : s.awaited = .generator i) :
    s.spot = .joiningGenerator i ∧ ∃ g, s.generators[i]? = some g ∧ g.spot ≠ .ended := by
  cases here : s.spot with
  | stopping j call =>
    simp only [Session.awaited, here] at awaited
    split at awaited <;> cases awaited
  | joining j =>
    simp only [Session.awaited, here] at awaited
    split at awaited <;> cases awaited
  | joiningGenerator j =>
    simp only [Session.awaited, here] at awaited
    split at awaited
    · cases awaited
    · rename_i ended
      cases awaited
      cases there : s.generators[i]? with
      | none =>
        rw [there] at ended
        exact (ended rfl).elim
      | some g =>
        rw [there] at ended
        exact ⟨rfl, g, rfl, by simpa using ended⟩
  | _ =>
    simp only [Session.awaited, here] at awaited
    cases awaited

/-- **He whom it is up to brings the session nearer to its return** when he takes his turn. -/
theorem Unwinds.nearer_of_spins (unwinds : s.Unwinds e) (runs : s.Runs) (plain : e.isAbort = false)
    (spins : (s.turn s.awaited).Spins s') : s'.Nearer s := by
  cases who : s.awaited with
  | conductor =>
    rw [who] at spins
    obtain ⟨-, nearer | ⟨-, other⟩⟩ := unwinds.conducts runs plain spins
    · exact nearer
    · exact (other who).elim
  | task i =>
    rw [who] at spins
    obtain ⟨t, held, stands⟩ := unwinds.task_of_awaited who
    have there := tasks_of_held held
    simp only [turn, there] at spins
    obtain ⟨live, part, rfl⟩ := spins.of_map
    have there' := task_setLive_self there live
    have count : (s.setLive i live).tasks.length = s.tasks.length := List.length_modify _ _ _
    rcases stands with ⟨call, here, polling, busy⟩ | ⟨here, running, freed⟩
    · have after := remaining_stopping (s := s.setLive i live) here there'
      rw [count] at after
      have left := Live.left_of_spins part (runs.wasStopped_polling here held polling) busy
      exact .of_last (remaining_stopping here there) after (Live.pollsLeft_of_left left polling)
    · have after := remaining_joining (s := s.setLive i live) here there'
      rw [count] at after
      have woken := freed.woken (runs.loopsAt there)
      have left := Live.stepsLeft_of_spins part (runs.wasStopped_joining here held) woken
      exact .of_last (remaining_joining here there) after left
  | generator i =>
    rw [who] at spins
    obtain ⟨here, -⟩ := generator_of_awaited who
    obtain ⟨advances, g, g', there, there', closer⟩ := advances_generatorTurn runs.sound spins
    have after := remaining_joiningGenerator (advances.spot.trans here) there'
    rw [advances.generatorCount] at after
    exact .of_last (remaining_joiningGenerator here there) after (closer (runs.joiningGenerator here).dropped)

theorem Unwinds.isOpen_conduct (unwinds : s.Unwinds e) (awaited : s.awaited = .conductor)
    (on : s.outcome? = none) : s.conduct.isOpen = true := by
  unfold Unwinds at unwinds
  cases here : s.spot with
  | noting i lines outcome =>
    rw [here] at unwinds
    subst unwinds
    cases lines with
    | cons line lines =>
      simp only [conduct, here]
      rfl
    | nil =>
      simp only [conduct, here]
      rfl
  | dropping =>
    simp only [conduct, here]
    rfl
  | stopping i call =>
    rw [here] at unwinds
    obtain ⟨-, t, there, -⟩ := unwinds
    simp only [conduct, here, there]
    split
    · rfl
    · rename_i going
      rw [Turn.isOpen_map]
      exact StopCall.isOpen_stopTurn going
  | joining i =>
    rw [here] at unwinds
    obtain ⟨-, t, there, -⟩ := unwinds
    rw [awaited_joining here (tasks_of_held there)] at awaited
    split at awaited
    · rename_i ended
      obtain ⟨fate, end'⟩ := (Thread.isOver_iff _).1 ended
      simp only [conduct, here, there, end', joinTurn]
      split
      · split <;> rfl
      · split <;> rfl
    · cases awaited
  | joiningGenerator i =>
    simp only [conduct, here]
    split
    · rfl
    · rename_i g there
      rw [awaited_joiningGenerator here there] at awaited
      split at awaited
      · rename_i ended
        rw [if_pos ended]
        rfl
      · cases awaited
  | returned outcome =>
    rw [outcome?, here] at on
    cases on
  | _ =>
    rw [here] at unwinds
    exact unwinds.elim

/-- **He whom it is up to can take his turn**, as long as the session has not returned. -/
theorem Unwinds.isOpen (unwinds : s.Unwinds e) (runs : s.Runs) (on : s.outcome? = none) :
    (s.turn s.awaited).isOpen = true := by
  cases who : s.awaited with
  | conductor => exact unwinds.isOpen_conduct who on
  | task i =>
    obtain ⟨t, held, stands⟩ := unwinds.task_of_awaited who
    have there := tasks_of_held held
    have loops := runs.loopsAt there
    simp only [turn, there]
    rw [Turn.isOpen_map]
    rcases stands with ⟨call, here, polling, busy⟩ | ⟨here, running, freed⟩
    · exact Live.isOpen_of_running loops (Live.running_of_isBusy busy) (Live.woken_of_isBusy busy)
    · exact Live.isOpen_of_running loops running (freed.woken loops)
  | generator i =>
    obtain ⟨here, g, there, running⟩ := generator_of_awaited who
    simp only [turn, generatorTurn, there]
    cases spot : g.spot with
    | ended => exact (running spot).elim
    | signal =>
      have inside := runs.released g (List.mem_of_getElem? there)
      simp only [List.getElem?_eq_getElem inside]
      rfl
    | _ => rfl

end Session

end TaskTiming
