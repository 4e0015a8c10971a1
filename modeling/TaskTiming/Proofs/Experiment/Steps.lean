import Mathlib.Logic.Relation
import TaskTiming.Experiment.Drive
import TaskTiming.Proofs.Task.Ending

/-!
# Steps of a session

Conductor, tasks and generators take their steps in any order, whatever the world answers them, and
somebody may interrupt the session. The runs that are driven are among these (`reaches_drive`). All but
the conductor leave him where he is, and every task and generator comes at least as far as it was
(`Onward`).
-/

namespace TaskTiming
set_option autoImplicit false

namespace Session

/-- One atomic step. -/
inductive Step (s : Session) : Session → Prop
  | conductor {s' : Session} (spins : s.conduct.Spins s') : Step s s'
  | task {i : Nat} {started : Started} {live : LiveTask} (here : s.tasks[i]? = some started)
      (goes : started.live.Goes live) : Step s (s.setLive i live)
  | generator {i : Nat} {s' : Session} (spins : (s.generatorTurn i).Spins s') : Step s s'
  | interruption : Step s s.interrupt

/-- Steps in any order lead from one state to another. -/
def Reaches : Session → Session → Prop := Relation.ReflTransGen Step

variable {s s' s'' : Session}

/-! ## What is driven -/

theorem step_of_spins {a : Actor} (spins : (s.turn a).Spins s') : s.Step s' := by
  cases a with
  | conductor => exact .conductor spins
  | generator i => exact .generator (i := i) spins
  | task i =>
    simp only [turn] at spins
    cases here : s.tasks[i]? with
    | none => rw [here] at spins; cases spins
    | some started =>
      rw [here] at spins
      obtain ⟨live, part, rfl⟩ := spins.of_map
      exact .task here (.turn part)

theorem step_of_move {w w' : World} {a : Actor} (went : s.move w a = .went s' w') : s.Step s' := by
  apply step_of_spins (a := a)
  unfold move at went
  cases turn : s.turn a with
  | idle => simp only [turn] at went; cases went
  | blocked => simp only [turn] at went; cases went
  | go _ =>
    simp only [turn] at went
    cases went
    exact .go _
  | readClock next =>
    simp only [turn] at went
    cases went
    exact .readClock _ _
  | ask request next =>
    simp only [turn] at went
    split at went
    · cases went
      exact .ask _ _ _
    · cases went
  | finishJob next =>
    simp only [turn] at went
    split at went
    · cases went
      exact .finishJob _
    · cases went

theorem step_of_moveFirst {w w' : World} {actors : List Actor} (went : s.moveFirst w actors = .went s' w') :
    s.Step s' := by
  induction actors generalizing w with
  | nil => cases went
  | cons a rest ih =>
    rw [moveFirst] at went
    split at went
    · rename_i moved
      cases went
      exact step_of_move moved
    · exact ih went

/-- Driving a session leads it by steps. -/
theorem reaches_drive (s : Session) (w : World) (fuel : Nat) : s.Reaches (s.drive w fuel).1 := by
  induction fuel generalizing s w with
  | zero => exact .refl
  | succ fuel ih =>
    rw [drive]
    split
    · exact .refl
    · split
      · rename_i went
        exact .head (step_of_moveFirst went) (ih _ _)
      · split
        · exact .refl
        · exact ih _ _

/-! ## What goes on beside the conductor -/

/-- Every task and generator has come at least as far, and a session that was ended stays so. -/
structure Onward (s s' : Session) : Prop where
  tasks : ∀ {i : Nat} {t' : Started}, s'.tasks[i]? = some t' →
    ∃ t, s.tasks[i]? = some t ∧ t.live.Onward t'.live
  generators : ∀ {i : Nat} {g' : Generator}, s'.generators[i]? = some g' →
    ∃ g, s.generators[i]? = some g ∧ (g.spot = .ended → g'.spot = .ended)
  count : s'.tasks.length = s.tasks.length
  handles : s'.handles = s.handles
  running : s.running = false → s'.running = false
  failure : s'.failure = s.failure

/-- All started tasks are sound. -/
def Sound (s : Session) : Prop := ∀ started ∈ s.tasks, started.live.Sound

theorem Sound.live {i : Nat} {started : Started} (sound : s.Sound) (here : s.tasks[i]? = some started) :
    started.live.Sound :=
  sound started (List.mem_of_getElem? here)

theorem Onward.sound (onward : s.Onward s') : s'.Sound := by
  intro t' mem
  obtain ⟨i, here⟩ := List.mem_iff_getElem?.1 mem
  obtain ⟨t, -, live⟩ := onward.tasks here
  exact live.sound

/-- The tasks and generators are what they were. -/
theorem Onward.of_same (sound : s.Sound) (tasks : s'.tasks = s.tasks) (generators : s'.generators = s.generators)
    (handles : s'.handles = s.handles) (running : s.running = false → s'.running = false)
    (failure : s'.failure = s.failure) : s.Onward s' where
  tasks {i t'} here := by
    rw [tasks] at here
    exact ⟨t', here, .refl (sound.live here)⟩
  generators {i g'} here := by
    rw [generators] at here
    exact ⟨g', here, id⟩
  count := congrArg List.length tasks
  handles := handles
  running := running
  failure := failure

/-- A task that there is when one of them goes on. -/
theorem task_setLive {j : Nat} {t : Started} (there : s.tasks[j]? = some t) (i : Nat) (live : LiveTask) :
    (s.setLive i live).tasks[j]? = some (if i = j then { t with live } else t) := by
  rw [setLive, List.getElem?_modify, there]
  rfl

/-- The task that goes on. -/
theorem task_setLive_self {i : Nat} {t : Started} (there : s.tasks[i]? = some t) (live : LiveTask) :
    (s.setLive i live).tasks[i]? = some { t with live } := by
  rw [task_setLive there, if_pos rfl]

/-- One task goes on. -/
theorem onward_setLive {i : Nat} {started : Started} {live : LiveTask} (sound : s.Sound)
    (here : s.tasks[i]? = some started) (onward : started.live.Onward live) : s.Onward (s.setLive i live) where
  tasks {j t'} there := by
    rw [setLive, List.getElem?_modify] at there
    obtain ⟨t, before, rfl⟩ := Option.map_eq_some_iff.1 there
    refine ⟨t, before, ?_⟩
    by_cases same : i = j
    · subst same
      rw [here] at before
      cases before
      simpa using onward
    · simpa [same] using Live.Onward.refl (sound.live before)
  generators there := ⟨_, there, id⟩
  count := List.length_modify _ _ _
  handles := rfl
  running := id
  failure := rfl

/-- One generator goes on. -/
theorem onward_setGenerator {i : Nat} {g g' : Generator} (sound : s.Sound) (here : s.generators[i]? = some g)
    (ended : g.spot = .ended → g'.spot = .ended) : s.Onward (s.setGenerator i g') where
  tasks {j t'} there := ⟨t', there, .refl (sound.live there)⟩
  generators {j h'} there := by
    rw [setGenerator, List.getElem?_set] at there
    by_cases same : i = j
    · subst same
      refine ⟨g, here, ?_⟩
      simp only [if_true] at there
      split at there
      · cases there
        exact ended
      · cases there
    · rw [if_neg same] at there
      exact ⟨h', there, id⟩
  count := rfl
  handles := rfl
  running := id
  failure := rfl

theorem Onward.trans (first : s.Onward s') (second : s'.Onward s'') : s.Onward s'' where
  tasks here := by
    obtain ⟨t', between, later⟩ := second.tasks here
    obtain ⟨t, before, earlier⟩ := first.tasks between
    exact ⟨t, before, later.sound, later.ended ∘ earlier.ended, later.stopped ∘ earlier.stopped⟩
  generators here := by
    obtain ⟨g', between, later⟩ := second.generators here
    obtain ⟨g, before, earlier⟩ := first.generators between
    exact ⟨g, before, later ∘ earlier⟩
  count := second.count.trans first.count
  handles := second.handles.trans first.handles
  running := second.running ∘ first.running
  failure := second.failure.trans first.failure

/-- What a generator's step may be. -/
inductive Generates (s : Session) (i : Nat) : Session → Prop
  | looked {g : Generator} (here : s.generators[i]? = some g) (spot : g.spot = .look) :
      Generates s i (s.setGenerator i (g.looked s.running))
  | slept {g : Generator} (here : s.generators[i]? = some g) (spot : g.spot = .sleep) (outcome : Result Unit) :
      Generates s i (s.setGenerator i (g.slept outcome))
  /-- It releases its task. -/
  | signalled {g : Generator} {t : Started} (here : s.generators[i]? = some g) (spot : g.spot = .signal)
      (released : s.tasks[g.task]? = some t) :
      Generates s i ((s.setLive g.task t.live.release.2).setGenerator i (g.signalled t.live.release.1))
  | complained {g : Generator} {e : Error} (here : s.generators[i]? = some g) (spot : g.spot = .complaining e) :
      Generates s i (s.setGenerator i { g with spot := .ended })

theorem generates_of_spins {i : Nat} (spins : (s.generatorTurn i).Spins s') : s.Generates i s' := by
  unfold generatorTurn at spins
  cases here : s.generators[i]? with
  | none => rw [here] at spins; cases spins
  | some g =>
    simp only [here] at spins
    cases spot : g.spot with
    | look =>
      simp only [spot] at spins
      cases spins
      exact .looked here spot
    | sleep =>
      simp only [spot] at spins
      cases spins
      exact .slept here spot _
    | complaining e =>
      simp only [spot] at spins
      cases spins
      exact .complained here spot
    | ended => simp only [spot] at spins; cases spins
    | signal =>
      simp only [spot] at spins
      cases released : s.tasks[g.task]? with
      | none => simp only [released] at spins; cases spins
      | some t =>
        simp only [released] at spins
        cases spins
        exact .signalled here spot released

/-- A generator goes on, and the task that it releases. -/
theorem onward_generatorTurn {i : Nat} (sound : s.Sound) (spins : (s.generatorTurn i).Spins s') :
    s.Onward s' ∧ s'.spot = s.spot := by
  cases generates_of_spins spins with
  | looked here spot => exact ⟨onward_setGenerator sound here (by simp [spot]), rfl⟩
  | slept here spot => exact ⟨onward_setGenerator sound here (by simp [spot]), rfl⟩
  | complained here => exact ⟨onward_setGenerator sound here fun _ => rfl, rfl⟩
  | signalled here spot released =>
    have first := onward_setLive sound released (Live.onward_release (sound.live released))
    exact ⟨first.trans (onward_setGenerator first.sound here (by simp [spot])), rfl⟩

/-- **What a step is for those whom the conductor started**, unless it is his. -/
theorem Step.conducted_or_onward (sound : s.Sound) (step : s.Step s') :
    s.conduct.Spins s' ∨ s.Onward s' ∧ s'.spot = s.spot := by
  cases step with
  | conductor spins => exact .inl spins
  | task here goes => exact .inr ⟨onward_setLive sound here (Live.onward_of_goes (sound.live here) goes), rfl⟩
  | generator spins => exact .inr (onward_generatorTurn sound spins)
  | interruption => exact .inr ⟨.of_same sound rfl rfl rfl (fun _ => rfl) rfl, rfl⟩

end Session

end TaskTiming
