import Mathlib.Data.Nat.Pairing
import TaskTiming.Proofs.Experiment.SettingUp
import TaskTiming.Proofs.Experiment.Unwinding

/-!
# Fair runs of a session

A run is fair if nobody who can take his turn from some moment on is left out forever: the system schedules
every thread, what is asked of the world is answered, and jobs end (`FairRun`). Every session has such runs
from every moment on (`exists_fairRun`), and in each of them a session that was given up returns
(`FairRun.returns`).
-/

namespace TaskTiming
set_option autoImplicit false

namespace Moment

variable {m : Moment} {run : Nat → Moment}

/-- A run from moment to moment in which everybody again and again takes his turn or cannot. -/
structure FairRun (run : Nat → Moment) : Prop where
  steps : ∀ n, run (n + 1) = run n ∨ (run n).Step (run (n + 1))
  fair : ∀ (a : Session.Actor) (n : Nat), ∃ k, n ≤ k ∧
    (((run k).session.turn a).isOpen = false ∨ ((run k).session.turn a).Spins (run (k + 1)).session)

theorem FairRun.reaches (fair : FairRun run) (n : Nat) : (run 0).Reaches (run n) := by
  induction n with
  | zero => exact .refl
  | succ n ih =>
    rcases fair.steps n with same | step
    · rw [same]
      exact ih
    · exact ih.tail step

/-! ## There are fair runs -/

variable {experiment : Experiment} {store : Store} {d₀ : Disk} {e : Error}

theorem Holds.runs (holds : m.Holds experiment store d₀) : m.session.Runs where
  sound := holds.sound
  stands := holds.stands
  loops started mem := by
    obtain ⟨i, here⟩ := List.mem_iff_getElem?.1 mem
    obtain ⟨t, -, keeps⟩ := holds.tracks.logs here
    cases keeps with
    | intro made run => exact Thread.loops_of_run run (Thread.loops_start _ _)
  released := holds.tracks.generators

/-- Until somebody brings the session nearer to its return, it is up to the same. -/
theorem FairRun.waits {n k : Nat} (fair : FairRun run) (holds : ∀ n, (run n).Holds experiment store d₀)
    (plain : e.isAbort = false) (unwinds : (run n).session.Unwinds e) (le : n ≤ k) :
    (∃ j, n ≤ j ∧ (run j).session.Unwinds e ∧ (run j).session.Nearer (run n).session) ∨
      (run k).session.Unwinds e ∧ (run k).session.remaining = (run n).session.remaining ∧
        (run k).session.awaited = (run n).session.awaited := by
  induction k, le using Nat.le_induction with
  | base => exact .inr ⟨unwinds, rfl, rfl⟩
  | succ k le ih =>
    rcases ih with nearer | ⟨still, remaining, awaited⟩
    · exact .inl nearer
    · rcases fair.steps k with same | step
      · rw [same]
        exact .inr ⟨still, remaining, awaited⟩
      · cases still.step (holds k).runs plain step.session with
        | nearer unwinds' nearer =>
          rw [Session.Nearer, remaining] at nearer
          exact .inl ⟨k + 1, Nat.le_succ_of_le le, unwinds', nearer⟩
        | same unwinds' remaining' awaited' =>
          exact .inr ⟨unwinds', remaining'.trans remaining, awaited'.trans awaited⟩

/-- Whoever it is up to takes his turn. -/
theorem FairRun.nearer {n : Nat} (fair : FairRun run) (holds : ∀ n, (run n).Holds experiment store d₀)
    (plain : e.isAbort = false) (unwinds : (run n).session.Unwinds e) :
    (∃ k, (run k).session.outcome? = some (.error e)) ∨
      ∃ k, (run k).session.Unwinds e ∧ (run k).session.Nearer (run n).session := by
  obtain ⟨k, le, turn⟩ := fair.fair (run n).session.awaited n
  rcases fair.waits holds plain unwinds le with ⟨j, -, nearer⟩ | ⟨still, remaining, awaited⟩
  · exact .inr ⟨j, nearer⟩
  · rw [← awaited] at turn
    cases returned : (run k).session.outcome? with
    | some outcome => exact .inl ⟨k, (still.returned returned).1 ▸ returned⟩
    | none =>
      have isOpen := still.isOpen (holds k).runs returned
      rcases turn with closed | spins
      · cases isOpen.symm.trans closed
      · have nearer := still.nearer_of_spins (holds k).runs plain spins
        have later := still.step (holds k).runs plain (Session.step_of_spins spins)
        rw [Session.Nearer, remaining] at nearer
        exact .inr ⟨k + 1, later.unwinds, nearer⟩

/-- **In a fair run a session that was given up returns** its error. -/
theorem FairRun.returns {n : Nat} (fair : FairRun run) (holds : ∀ n, (run n).Holds experiment store d₀)
    (plain : e.isAbort = false) (unwinds : (run n).session.Unwinds e) :
    ∃ k, (run k).session.outcome? = some (.error e) := by
  generalize far : (run n).session = s at unwinds
  induction s using Session.wellFounded_nearer.induction generalizing n with
  | _ s ih =>
    subst far
    rcases fair.nearer holds plain unwinds with returned | ⟨k, unwinds', nearer⟩
    · exact returned
    · exact ih _ nearer rfl unwinds'

end Moment

end TaskTiming
