import TaskTiming.Experiment
import TaskTiming.Proofs.Paths

/-!
# Log files of an experiment

An experiment is accepted if no two of its tasks have logs at the same path, part by part
(`apart_of_validate`). That is not the same as logs in different files: two points are parts like others, and
so is the point at the front of a relative path. Two logs of an accepted experiment come to the same file
only for one of these two reasons (`logs_resolve_apart`), and then they do (`experiment_with_shared_log`).
-/

namespace TaskTiming
set_option autoImplicit false

namespace Experiment

/-- Tasks that are accepted behind others have logs with other parts. -/
theorem apart_of_checkTasks {logDir : Path} {before tasks : List ExperimentTask}
    (accepted : checkTasks logDir before tasks = .ok ()) :
    tasks.Pairwise (fun t u => (t.logPath logDir).parts ≠ (u.logPath logDir).parts) ∧
    ∀ t ∈ before, ∀ u ∈ tasks, (t.logPath logDir).parts ≠ (u.logPath logDir).parts := by
  induction tasks generalizing before with
  | nil => exact ⟨.nil, fun t _ u mem => (List.not_mem_nil mem).elim⟩
  | cons t rest ih =>
    rw [checkTasks] at accepted
    cases first : t.check logDir before with
    | error e =>
      rw [first] at accepted
      cases accepted
    | ok done =>
      rw [first] at accepted
      obtain ⟨apart, others⟩ := ih accepted
      have new : ∀ u ∈ before, (u.logPath logDir).parts ≠ (t.logPath logDir).parts := by
        intro u mem same
        unfold ExperimentTask.check at first
        split at first
        · cases first
        split at first
        · cases first
        · rename_i shared
          exact shared (List.any_eq_true.2 ⟨u, mem, decide_eq_true same⟩)
      refine ⟨List.pairwise_cons.2 ⟨?_, apart⟩, fun u mem v mem' => ?_⟩
      · intro u mem
        exact others t (List.mem_append_right _ (List.mem_singleton_self t)) u mem
      · rcases List.mem_cons.1 mem' with rfl | later
        · exact new u mem
        · exact others u (List.mem_append_left _ mem) v later

/-- **Logs of an accepted experiment have different parts.** -/
theorem apart_of_validate {e : Experiment} (accepted : e.validate = .ok ()) {i j : Nat}
    {t u : ExperimentTask} (first : e.tasks[i]? = some t) (second : e.tasks[j]? = some u) (ne : i ≠ j) :
    (t.logPath e.logDir).parts ≠ (u.logPath e.logDir).parts := by
  unfold validate at accepted
  split at accepted
  · cases accepted
  have apart := List.pairwise_iff_getElem.1 (apart_of_checkTasks accepted).1
  obtain ⟨lt, rfl⟩ := List.getElem?_eq_some_iff.1 first
  obtain ⟨lt', rfl⟩ := List.getElem?_eq_some_iff.1 second
  rcases Nat.lt_or_gt_of_ne ne with before | behind
  · exact apart i j lt lt' before
  · exact (apart j i lt' lt behind).symm

/-- How the logs of two tasks lie to each other. -/
structure LogsApart (logDir p q : Path) : Prop where
  /-- They come to the same for two points, or for a point at the front of one of them where the log directory
  has no name. -/
  resolve : p.resolve = q.resolve →
    .up ∈ p.parts ∨ .up ∈ q.parts ∨ logDir.text = "" ∧ (p.front = [.here] ↔ ¬q.front = [.here])
  /-- Then they are in one file, if a disk finds them at all, -/
  shared : p.resolve = q.resolve → ∀ (d : Disk) {place place' : Place} {slash slash' : Bool},
    d.locate p = .ok (.entry place slash) → d.locate q = .ok (.entry place' slash') → place = place'
  /-- and if neither reason is there and both start alike, they are in two. -/
  separate : .up ∉ p.parts → .up ∉ q.parts → logDir.text ≠ "" → p.isAbsolute = q.isAbsolute →
    ∀ (d : Disk) {place place' : Place} {slash slash' : Bool},
    d.locate p = .ok (.entry place slash) → d.locate q = .ok (.entry place' slash') → place ≠ place'

/-- Logs with other parts that come to the same without two points have other fronts, and no log directory
gives them those. -/
theorem fronts_of_resolve {logDir l m : Path} {p q : Path} (below : p = logDir.join l) (below' : q = logDir.join m)
    (apart : p.parts ≠ q.parts) (same : p.resolve = q.resolve) (plain : .up ∉ p.parts)
    (plain' : .up ∉ q.parts) : logDir.text = "" ∧ (p.front = [.here] ↔ ¬q.front = [.here]) := by
  obtain ⟨start, behind⟩ := Path.behind_eq_of_resolve plain plain' same
  have fronts : p.front ≠ q.front := by
    intro front
    rw [Path.parts_eq, Path.parts_eq, front, behind] at apart
    exact apart rfl
  cases absolute : p.isAbsolute with
  | true =>
    rw [Path.front_of_absolute absolute, Path.front_of_absolute (start ▸ absolute)] at fronts
    exact (fronts rfl).elim
  | false =>
    have absolute' : q.isAbsolute = false := start ▸ absolute
    refine ⟨?_, ?_⟩
    · refine Decidable.byContradiction fun some => fronts ?_
      -- An absolute log stays what it is, so both logs are relative.
      have relative {n r : Path} (below : r = logDir.join n) (absolute : r.isAbsolute = false) :
          n.isAbsolute = false := by
        cases outside : n.isAbsolute with
        | false => rfl
        | true => rwa [below, Path.join_absolute outside, outside] at absolute
      rw [below, below', Path.front_join some (relative below absolute),
        Path.front_join some (relative below' absolute')]
    · rcases Path.front_of_relative absolute with here | none <;>
        rcases Path.front_of_relative absolute' with here' | none'
      · exact (fronts (here.trans here'.symm)).elim
      · simp [here, none']
      · simp [none, here']
      · exact (fronts (none.trans none'.symm)).elim

/-- **Logs of an accepted experiment come to different files**, unless two points or a point at the front hide
that they do not. -/
theorem logs_resolve_apart {e : Experiment} (accepted : e.validate = .ok ()) {i j : Nat}
    {t u : ExperimentTask} (first : e.tasks[i]? = some t) (second : e.tasks[j]? = some u) (ne : i ≠ j) :
    LogsApart e.logDir (t.logPath e.logDir) (u.logPath e.logDir) := by
  have apart := apart_of_validate accepted first second ne
  have resolve (same : (t.logPath e.logDir).resolve = (u.logPath e.logDir).resolve)
      (plain : .up ∉ (t.logPath e.logDir).parts) (plain' : .up ∉ (u.logPath e.logDir).parts) :=
    fronts_of_resolve rfl rfl apart same plain plain'
  refine ⟨fun same => ?_, fun same d _ _ _ _ located located' => ?_, ?_⟩
  · by_cases plain : .up ∈ (t.logPath e.logDir).parts
    · exact .inl plain
    by_cases plain' : .up ∈ (u.logPath e.logDir).parts
    · exact .inr (.inl plain')
    · exact .inr (.inr (resolve same plain plain'))
  · rw [Disk.locate_entry located, Disk.locate_entry located', Path.place_eq_of_resolve same]
  · intro plain plain' some start d place place' _ _ located located' same
    rw [Disk.locate_entry located, Disk.locate_entry located'] at same
    exact some (resolve (Path.resolve_eq_of_place plain plain' start same) plain plain').1

/-- A log in a directory of its own below the common one. -/
theorem logs_resolve_apart_below :
    let task (name : String) (log : Option Path) : ExperimentTask := {
      params := .periodic name (.ofSecs 1) (.ofSecs 10), cpu := none, priority := none, log
      releaseInterval := none }
    let t := task "tau1" none
    let u := task "b" (some ⟨"./b//tau1.log"⟩)
    let e : Experiment := {
      duration := none, cpu := 0, logDir := defaultLogDir, realtime := false, startDelay := defaultStartDelay
      tasks := [t, u] }
    e.validate = .ok () ∧ e.tasks[0]? = some t ∧ e.tasks[1]? = some u ∧
      (t.logPath e.logDir).resolve ≠ (u.logPath e.logDir).resolve := by
  intro task t u e
  have accepted : e.validate = .ok () := by
    have ok : e.validate.isOk = true := by decide +kernel
    cases result : e.validate with
    | error cause =>
      rw [result] at ok
      cases ok
    | ok done => rfl
  refine ⟨accepted, rfl, rfl, fun same => ?_⟩
  have apart := logs_resolve_apart accepted (i := 0) (j := 1) rfl rfl (by decide)
  obtain up | up | ⟨none, -⟩ := apart.resolve same
  · exact absurd up (by decide +kernel)
  · exact absurd up (by decide +kernel)
  · exact absurd none (by decide)

/-- Two points lead back into the log directory, and a point stands at the front of a path where there is
none. Both experiments are accepted, and on a disk with the directory both logs are one file. -/
theorem experiment_with_shared_log :
    let task (name : String) (log : Option Path) : ExperimentTask := {
      params := .periodic name (.ofSecs 1) (.ofSecs 10), cpu := none, priority := none, log
      releaseInterval := none }
    let experiment (logDir : Path) (tasks : List ExperimentTask) : Experiment := {
      duration := none, cpu := 0, logDir, realtime := false, startDelay := defaultStartDelay, tasks }
    let t := task "tau1" none
    let u := task "b" (some ⟨"../logs/tau1.log"⟩)
    let v := task "b" (some ⟨"./tau1.log"⟩)
    let d : Disk := { nodes := [(["logs"], .directory)], here := [], room := none }
    (experiment defaultLogDir [t, u]).validate = .ok () ∧
      (t.logPath defaultLogDir).resolve = (u.logPath defaultLogDir).resolve ∧
      (d.create (u.logPath defaultLogDir)).2.look (t.logPath defaultLogDir) = .ok (.file []) ∧
    (experiment ⟨""⟩ [t, v]).validate = .ok () ∧
      (t.logPath ⟨""⟩).resolve = (v.logPath ⟨""⟩).resolve ∧
      (d.create (v.logPath ⟨""⟩)).2.look (t.logPath ⟨""⟩) = .ok (.file []) := by
  refine ⟨rfl, ?_, rfl, rfl, ?_, rfl⟩ <;> decide +kernel

end Experiment

end TaskTiming
