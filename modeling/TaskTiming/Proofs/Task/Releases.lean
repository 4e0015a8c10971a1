import TaskTiming.Proofs.Task.AperiodicRun
import TaskTiming.Proofs.Task.Handshake

/-!
# No release is lost

Anyone may release jobs and anyone may cancel, at any time, while one machine waits for the releases, wait
after wait. Every release that succeeded was brought by a wait, or is in the hand of the present one, or is
still pending (`Balanced`); once the cancel flag is up, a wait that begins brings none, and it does not
stay (`Bidden`). An aperiodic loop starts one job for each release that its waits bring
(`releases_are_conserved`).
-/

namespace TaskTiming
set_option autoImplicit false

/-! ## What may happen -/

/-- What happens in one atomic step around a machine that waits for releases. -/
inductive Happening
  /-- The machine meets an event. -/
  | met (e : Event)
  /-- Its wait takes a step. -/
  | waited
  /-- A signal interrupts the sleep of its wait. -/
  | interrupted
  /-- Somebody releases a job. -/
  | released (outcome : Result Unit)
  /-- Somebody who cancels raises the flag, -/
  | raised
  /-- and signals those who wait. -/
  | signalled
  /-- Somebody changes the control, but not its cancel token. -/
  | changed

namespace Happening

def event? : Happening → Option Event
  | .met e => some e
  | _ => none

/-- A release that succeeds. -/
def isGrant : Happening → Bool
  | .released (.ok ()) => true
  | _ => false

end Happening

/-- What the machine met, in order. -/
def eventsOf (course : List Happening) : List Event := course.filterMap Happening.event?

/-- How many releases succeeded. -/
def grants (course : List Happening) : Nat := course.countP Happening.isGrant

theorem eventsOf_snoc (course : List Happening) (h : Happening) :
    eventsOf (course ++ [h]) = eventsOf course ++ h.event?.toList := by
  cases event : h.event? <;> simp [eventsOf, event]

theorem grants_snoc (course : List Happening) (h : Happening) :
    grants (course ++ [h]) = grants course + h.isGrant.toNat := by
  cases grant : h.isGrant <;> simp [grants, grant]

theorem grants_cons (h : Happening) (course : List Happening) :
    grants (h :: course) = h.isGrant.toNat + grants course := by
  cases grant : h.isGrant <;> simp [grants, grant, Nat.add_comm]

/-- A release in the hand of a wait that is about to return it. -/
def Wait.inHand : Wait → Nat
  | .done .released => 1
  | _ => 0

namespace Live

variable {σ : Type} {next : σ → Action σ} {l l' : Live σ} {h : Happening} {course : List Happening}

/-- What may happen next. -/
inductive Happens (next : σ → Action σ) (l : Live σ) : Happening → Live σ → Prop
  /-- The machine takes a step that is no wait. -/
  | met {e : Event} {machine : σ} {control : Control} (meets : (next l.machine).Meets e machine)
      (moves : e.Moves l.control control) (busy : ∀ k, next l.machine ≠ .awaitRelease k) :
      Happens next l (.met e) { l with machine, control }
  | waited {k : Result WaitOutcome → σ} {wait : Wait} {releases : EventCounter}
      (awaits : next l.machine = .awaitRelease k)
      (step : l.wait.step l.control.cancel l.releases false = some (wait, releases)) :
      Happens next l .waited { l with wait, releases }
  | returned {k : Result WaitOutcome → σ} {outcome : WaitOutcome} (awaits : next l.machine = .awaitRelease k)
      (done : l.wait = .done outcome) :
      Happens next l (.met (.waitEnd (.ok outcome))) { l with machine := k (.ok outcome), wait := .look }
  | interrupted {k : Result WaitOutcome → σ} (awaits : next l.machine = .awaitRelease k)
      (asleep : l.wait = .asleep) : Happens next l .interrupted { l with wait := .look }
  /-- The system fails the sleep of a wait, or its taking of a release. -/
  | failed {k : Result WaitOutcome → σ} (e : Error) (awaits : next l.machine = .awaitRelease k)
      (asks : l.wait = .asleep ∨ l.wait = .take) :
      Happens next l (.met (.waitEnd (.error e))) { l with machine := k (.error e), wait := .look }
  | released : Happens next l (.released l.release.1) l.release.2
  | raised : Happens next l .raised { l with control := { l.control with cancel := l.control.cancel.raise } }
  | signalled :
      Happens next l .signalled { l with control := { l.control with cancel := l.control.cancel.signal.2 } }
  | changed {control : Control} (same : control.cancel = l.control.cancel) :
      Happens next l .changed { l with control }

/-- One thing after another. -/
inductive Course (next : σ → Action σ) : Live σ → List Happening → Live σ → Prop
  | nil (l : Live σ) : Course next l [] l
  | cons {l l' l'' : Live σ} {h : Happening} {rest : List Happening} (happens : l.Happens next h l')
      (course : Course next l' rest l'') : Course next l (h :: rest) l''

end Live

/-! ## The balance of releases -/

/-- A wait that goes on takes a release into its hand or none, and no more than is pending. -/
theorem Wait.step_balanced {wait wait' : Wait} {cancel : CancelToken} {releases releases' : EventCounter}
    (single : releases.semaphore = true) (step : wait.step cancel releases false = some (wait', releases')) :
    releases'.semaphore = true ∧ wait.inHand = 0 ∧ wait'.inHand + releases'.pending = releases.pending := by
  obtain ⟨semaphore, pending⟩ := releases
  obtain rfl : semaphore = true := single
  cases wait with
  | look =>
    cases step
    refine ⟨rfl, rfl, ?_⟩
    split <;> exact Nat.zero_add _
  | asleep =>
    simp only [Wait.step, Bool.false_eq_true, if_false] at step
    split at step
    · cases step
      exact ⟨rfl, rfl, Nat.zero_add _⟩
    · split at step
      · cases step
        exact ⟨rfl, rfl, Nat.zero_add _⟩
      · cases step
  | take =>
    cases step
    refine ⟨rfl, rfl, ?_⟩
    show Wait.inHand (if 0 < min pending 1 then .done .released else .look) + (pending - 1) = pending
    split
    · show 1 + (pending - 1) = pending
      omega
    · show 0 + (pending - 1) = pending
      omega
  | done outcome => cases step

namespace Live

variable {σ : Type} {next : σ → Action σ} {l l' : Live σ} {h : Happening} {course : List Happening}

/-- A release that succeeds is pending then, and one that is refused is not. -/
theorem release_balanced (l : Live σ) :
    l.release.2.releases.pending = l.releases.pending + (Happening.released l.release.1).isGrant.toNat ∧
      l.release.2.releases.semaphore = l.releases.semaphore := by
  by_cases room : l.releases.pending < EventCounter.limit
  · have signalled : l.releases.signal = (.ok (), { l.releases with pending := l.releases.pending + 1 }) :=
      if_pos room
    rw [release, signalled]
    exact ⟨rfl, rfl⟩
  · have refused : l.releases.signal = (.error (.os 11), l.releases) := if_neg room
    rw [release, refused]
    exact ⟨rfl, rfl⟩

/-- Every release that succeeded was brought by a wait, is in the hand of one, or is pending. -/
structure Balanced (next : σ → Action σ) (course : List Happening) (l : Live σ) : Prop where
  single : l.releases.semaphore = true
  balance : grants course = deliveries (eventsOf course) + l.wait.inHand + l.releases.pending
  /-- A wait has begun only where the machine waits. -/
  waits : l.wait ≠ .look → ∃ k, next l.machine = .awaitRelease k

/-- What goes into the balance on one side comes out on the other. -/
theorem Balanced.move (balanced : Balanced next course l) (single : l'.releases.semaphore = true)
    (even : deliveries h.event?.toList + (l'.wait.inHand + l'.releases.pending) =
      l.wait.inHand + l.releases.pending + h.isGrant.toNat)
    (waits : l'.wait ≠ .look → ∃ k, next l'.machine = .awaitRelease k) : Balanced next (course ++ [h]) l' := by
  refine ⟨single, ?_, waits⟩
  have balance := balanced.balance
  rw [grants_snoc, eventsOf_snoc, deliveries, List.countP_append, ← deliveries, ← deliveries]
  omega

/-- **One step keeps the balance.** -/
theorem Balanced.step (balanced : Balanced next course l) (happens : l.Happens next h l') :
    Balanced next (course ++ [h]) l' := by
  have single := balanced.single
  cases happens with
  | met meets moves busy =>
    rename_i e machine control
    -- The machine is in no wait, so its event brings no release.
    have idle : l.wait = .look := Decidable.byContradiction fun begun =>
      let ⟨k, awaits⟩ := balanced.waits begun
      busy k awaits
    have brings : e.isDelivery = false := by
      cases e with
      | waitEnd outcome =>
        generalize action : next l.machine = a at meets
        cases meets
        exact (busy _ action).elim
      | _ => rfl
    refine balanced.move single ?_ fun begun => (begun idle).elim
    simp [Happening.event?, Happening.isGrant, deliveries, brings]
  | waited awaits step =>
    obtain ⟨single', empty, taken⟩ := Wait.step_balanced single step
    refine balanced.move single' ?_ fun _ => ⟨_, awaits⟩
    rw [taken, empty]
    simp [Happening.event?, Happening.isGrant, deliveries]
  | returned awaits done =>
    rename_i outcome
    refine balanced.move single ?_ fun begun => (begun rfl).elim
    rw [done]
    cases outcome <;> simp [Happening.event?, Happening.isGrant, deliveries, Event.isDelivery, Wait.inHand]
  | interrupted awaits asleep =>
    refine balanced.move single ?_ fun begun => (begun rfl).elim
    rw [asleep]
    exact Nat.zero_add _
  | failed e awaits asks =>
    refine balanced.move single ?_ fun begun => (begun rfl).elim
    rcases asks with asleep | take
    · rw [asleep]
      exact Nat.zero_add _
    · rw [take]
      exact Nat.zero_add _
  | released =>
    obtain ⟨pending, semaphore⟩ := l.release_balanced
    have wait : l.release.2.wait = l.wait := rfl
    refine balanced.move (semaphore.trans single) ?_ balanced.waits
    rw [wait, pending]
    exact (Nat.zero_add _).trans (Nat.add_assoc _ _ _).symm
  | raised => exact balanced.move single (Nat.zero_add _) balanced.waits
  | signalled => exact balanced.move single (Nat.zero_add _) balanced.waits
  | changed same => exact balanced.move single (Nat.zero_add _) balanced.waits

theorem balanced_start (machine : σ) : Balanced next [] (.start machine) := ⟨rfl, rfl, fun begun => (begun rfl).elim⟩

theorem Balanced.run {later : List Happening} (balanced : Balanced next course l)
    (run : l.Course next later l') : Balanced next (course ++ later) l' := by
  induction run generalizing course with
  | nil =>
    rw [List.append_nil]
    exact balanced
  | cons happens _ ih =>
    have after := ih (balanced.step happens)
    rwa [List.append_assoc] at after

/-! ## Cancelled waits -/

/-- A machine that does not lower the cancel flag. -/
def LeavesFlag (next : σ → Action σ) : Prop :=
  ∀ ⦃s s' : σ⦄ ⦃e : Event⦄ ⦃c c' : Control⦄, (next s).Meets e s' → e.Moves c c' →
    c.cancel.cancelled = true → c'.cancel.cancelled = true

/-- The cancel flag stays up, and raising it raises it. -/
theorem flag_happens (leaves : LeavesFlag next) (happens : l.Happens next h l')
    (up : l.control.cancel.cancelled = true ∨ h = .raised) : l'.control.cancel.cancelled = true := by
  cases happens with
  | raised => rfl
  | met meets moves busy => exact leaves meets moves (up.resolve_right nofun)
  | signalled => exact (CancelToken.cancelled_signal _).trans (up.resolve_right nofun)
  | changed same =>
    dsimp only
    rw [same]
    exact up.resolve_right nofun
  | _ => exact up.resolve_right nofun

theorem flag_run (leaves : LeavesFlag next) (run : l.Course next course l')
    (up : l.control.cancel.cancelled = true ∨ .raised ∈ course) : l'.control.cancel.cancelled = true := by
  induction run with
  | nil => exact up.resolve_right nofun
  | cons happens _ ih =>
    apply ih
    rcases up with up | mem
    · exact .inl (flag_happens leaves happens (.inl up))
    · rcases List.mem_cons.1 mem with now | later
      · exact .inl (flag_happens leaves happens (.inr now.symm))
      · exact .inr later

/-- The cancel flag is up, and no wait is behind the point where it looks at it, unless it has seen it. -/
structure Bidden (l : Live σ) : Prop where
  flag : l.control.cancel.cancelled = true
  wait : l.wait = .look ∨ l.wait = .done .cancelled

/-- What waits do from a state where they are bidden to return. -/
structure BringNone (next : σ → Action σ) (l : Live σ) (course : List Happening) (l' : Live σ) : Prop where
  /-- Whatever returns says so. -/
  outcomes : ∀ outcome, .met (.waitEnd outcome) ∈ course → outcome = .ok .cancelled
  /-- No release is taken. -/
  pending : l'.releases.pending = l.releases.pending + grants course
  /-- A wait is never blocked: at the next turn it sees the flag, and at the one after that it returns. -/
  returns : ∀ k, next l'.machine = .awaitRelease k →
    l'.wait = .look ∧ l'.turn next = .go { l' with wait := .done .cancelled } ∨
    l'.wait = .done .cancelled ∧ l'.turn next = .go { l' with machine := k (.ok .cancelled), wait := .look }

/-- So no wait is at a request to the system. -/
theorem Bidden.not_asking (bidden : l.Bidden) (asks : l.wait = .asleep ∨ l.wait = .take) : False := by
  rcases asks with asleep | take
  · rcases bidden.wait with look | done
    · cases look.symm.trans asleep
    · cases done.symm.trans asleep
  · rcases bidden.wait with look | done
    · cases look.symm.trans take
    · cases done.symm.trans take

/-- **One step brings no release** to those who are bidden to return, and they are so still. -/
theorem Bidden.step (leaves : LeavesFlag next) (bidden : l.Bidden) (happens : l.Happens next h l') :
    l'.Bidden ∧ l'.releases.pending = l.releases.pending + h.isGrant.toNat ∧
      ∀ outcome, h = .met (.waitEnd outcome) → outcome = .ok .cancelled := by
  have flag := flag_happens leaves happens (.inl bidden.flag)
  cases happens with
  | met meets moves busy =>
    refine ⟨⟨flag, bidden.wait⟩, rfl, ?_⟩
    rintro outcome ⟨⟩
    generalize action : next l.machine = a at meets
    cases meets
    exact (busy _ action).elim
  | waited awaits step =>
    rcases bidden.wait with look | done
    · rw [look, Wait.step, if_pos bidden.flag] at step
      cases step
      exact ⟨⟨flag, .inr rfl⟩, rfl, nofun⟩
    · rw [done] at step
      cases step
  | returned awaits done =>
    rcases bidden.wait with look | cancelled
    · rw [look] at done
      cases done
    · rw [cancelled] at done
      cases done
      refine ⟨⟨flag, .inl rfl⟩, rfl, ?_⟩
      rintro outcome ⟨⟩
      rfl
  | interrupted awaits asleep => exact (bidden.not_asking (.inl asleep)).elim
  | failed e awaits asks => exact (bidden.not_asking asks).elim
  | released => exact ⟨⟨flag, bidden.wait⟩, l.release_balanced.1, nofun⟩
  | raised => exact ⟨⟨flag, bidden.wait⟩, rfl, nofun⟩
  | signalled => exact ⟨⟨flag, bidden.wait⟩, rfl, nofun⟩
  | changed same => exact ⟨⟨flag, bidden.wait⟩, rfl, nofun⟩

/-- A wait that is bidden to return is not blocked. -/
theorem Bidden.returns (bidden : l.Bidden) {k : Result WaitOutcome → σ}
    (awaits : next l.machine = .awaitRelease k) :
    l.wait = .look ∧ l.turn next = .go { l with wait := .done .cancelled } ∨
    l.wait = .done .cancelled ∧ l.turn next = .go { l with machine := k (.ok .cancelled), wait := .look } := by
  unfold turn
  rw [awaits]
  rcases bidden.wait with look | done
  · left
    refine ⟨look, ?_⟩
    simp only [look, Wait.step, if_pos bidden.flag]
  · right
    refine ⟨done, ?_⟩
    simp only [done]

theorem Bidden.run (leaves : LeavesFlag next) (bidden : l.Bidden) (run : l.Course next course l') :
    BringNone next l course l' := by
  induction run with
  | nil => exact ⟨nofun, rfl, fun k => bidden.returns⟩
  | cons happens _ ih =>
    obtain ⟨bidden', pending, outcomes⟩ := bidden.step leaves happens
    have later := ih bidden'
    refine ⟨?_, ?_, later.returns⟩
    · intro outcome mem
      rcases List.mem_cons.1 mem with now | after
      · exact outcomes outcome now.symm
      · exact later.outcomes outcome after
    · rw [later.pending, pending, grants_cons, Nat.add_assoc]

/-- Once somebody has raised the cancel flag, waits that begin bring none. -/
theorem Course.bringNone {before after : Live σ} {later : List Happening} (way : l.Course next course before)
    (leaves : LeavesFlag next) (raised : .raised ∈ course) (look : before.wait = .look)
    (on : before.Course next later after) : BringNone next before later after := by
  have bidden : before.Bidden := ⟨flag_run leaves way (.inr raised), .inl look⟩
  exact bidden.run leaves on

/-- The machine moves where it meets an event, and nowhere else. -/
theorem Happens.machine (happens : l.Happens next h l') :
    (∃ e, h.event? = some e ∧ (next l.machine).Meets e l'.machine) ∨
      h.event? = none ∧ l'.machine = l.machine := by
  cases happens with
  | met meets moves busy => exact .inl ⟨_, rfl, meets⟩
  | returned awaits done =>
    refine .inl ⟨_, rfl, ?_⟩
    rw [awaits]
    exact .awaitRelease _ _
  | failed e awaits asks =>
    refine .inl ⟨_, rfl, ?_⟩
    rw [awaits]
    exact .awaitRelease _ _
  | _ => exact .inr ⟨rfl, rfl⟩

/-- The events of a course are those of a run of the machine. -/
theorem Course.run (way : l.Course next course l') : Run next l.machine (eventsOf course) l'.machine := by
  induction way with
  | nil => exact .nil _
  | @cons l l' l'' h rest happens _ ih =>
    rcases happens.machine with ⟨e, event, meets⟩ | ⟨event, same⟩
    · have events : eventsOf (h :: rest) = e :: eventsOf rest := by simp [eventsOf, event]
      rw [events]
      exact .cons meets ih
    · have events : eventsOf (h :: rest) = eventsOf rest := by simp [eventsOf, event]
      rw [events, ← same]
      exact ih

end Live

/-! ## Loops -/

/-- A loop does not touch the cancel flag. -/
theorem Loop.leavesFlag : Live.LeavesFlag Loop.next := by
  intro l l' e c c' meets moves up
  cases did_of_meets meets with
  | entered | raised | warned | unwarned | retreated | released | cancelled | unwaited | stopped | wentOn =>
    obtain ⟨rfl, rfl⟩ := moves
    exact up
  | _ =>
    cases moves
    exact up

/-- What is known of releases and those who wait for them, as far as they have come. -/
structure Live.Conserves {σ : Type} (next : σ → Action σ) (course : List Happening) (l : Live σ) : Prop where
  /-- The releases that succeeded are those that waits brought, the one in the hand of a wait, and those
  that are pending. -/
  balance : grants course = deliveries (eventsOf course) + l.wait.inHand + l.releases.pending
  /-- Once somebody has raised the cancel flag, waits that begin bring none. -/
  cancelled : LeavesFlag next → .raised ∈ course → l.wait = .look →
    ∀ later l', l.Course next later l' → BringNone next l later l'

/-- What is known of an aperiodic loop and its releases. -/
structure Live.OneJobEach (course : List Happening) (l : Live Loop) : Prop where
  accounted : Loop.Accounted (eventsOf course) l.machine
  /-- Once somebody has raised the cancel flag, waits that begin bring none. -/
  cancelled : .raised ∈ course → l.wait = .look →
    ∀ later l', l.Course Loop.next later l' → BringNone Loop.next l later l'
  /-- There are no more jobs than releases. -/
  starts_le : starts (eventsOf course) ≤ grants course
  /-- The loop returns the number of those that it has taken, all with their jobs, and the others are
  pending. -/
  returns : ∀ n, l.machine.spot = .ended (.ok n) →
    n = deliveries (eventsOf course) ∧ n = starts (eventsOf course) ∧ grants course = n + l.releases.pending

/-- **No release is lost or brought twice**, whoever waits for it, and an aperiodic loop starts one job for
each. -/
theorem releases_are_conserved :
    (∀ {σ : Type} {next : σ → Action σ} {machine : σ} {course : List Happening} {l : Live σ},
      Live.Course next (.start machine) course l → l.Conserves next course) ∧
    ∀ {maxJobs : Option UInt64} {sink : Sink} {course : List Happening} {l : Live Loop},
      Live.Course Loop.next (.start (.aperiodic maxJobs sink)) course l → l.OneJobEach course := by
  constructor
  · intro σ next machine course l way
    refine ⟨((Live.balanced_start machine).run way).balance, ?_⟩
    intro leaves raised look later l' on
    exact way.bringNone leaves raised look on
  · intro maxJobs sink course l way
    have balanced := (Live.balanced_start _).run way
    have accounted := Loop.aperiodic_accounted way.run
    have balance : grants course = deliveries (eventsOf course) + l.wait.inHand + l.releases.pending :=
      balanced.balance
    refine ⟨accounted, ?_, ?_, ?_⟩
    · intro raised look later l' on
      exact way.bringNone Loop.leavesFlag raised look on
    · have few := accounted.starts_le.1
      omega
    · intro n ended
      obtain ⟨delivered, started⟩ := accounted.of_returned ended
      -- The loop is in no wait any more, so no release is in its hand.
      have idle : l.wait = .look := Decidable.byContradiction fun begun => by
        obtain ⟨k, awaits⟩ := balanced.waits begun
        rw [Loop.next, ended] at awaits
        cases awaits
      have empty : l.wait.inHand = 0 := by rw [idle]; rfl
      omega

/-- Of two releases a loop takes one and runs its job, then somebody cancels: the loop returns one, and one
release is still pending. -/
theorem releases_are_conserved_cancelled :
    ∃ course l, Live.Course Loop.next (.start (.aperiodic none .none)) course l ∧
      l.machine.spot = .ended (.ok 1) ∧ .raised ∈ course ∧ grants course = 2 ∧ l.releases.pending = 1 ∧
      deliveries (eventsOf course) = 1 ∧ starts (eventsOf course) = 1 := by
  obtain ⟨course, l, way, ended, raised, granted⟩ :
      ∃ course l, Live.Course Loop.next (.start (.aperiodic none .none)) course l ∧
        l.machine.spot = .ended (.ok 1) ∧ .raised ∈ course ∧ grants course = 2 := by
    have way : Live.Course Loop.next (.start (.aperiodic none .none)) _ _ :=
      .cons .released <| .cons .released <|
      .cons (.met (.access _ _) ⟨rfl, rfl⟩ nofun) <|
      .cons (.met (.access _ _) ⟨rfl, rfl⟩ nofun) <|
      .cons (.waited rfl rfl) <|
      .cons (.waited rfl rfl) <|
      .cons (.waited rfl rfl) <|
      .cons (.returned rfl rfl) <|
      .cons (.met (.access _ _) ⟨rfl, rfl⟩ nofun) <|
      .cons (.met (.access _ _) ⟨rfl, rfl⟩ nofun) <|
      .cons (.met (.ask _ _ (.ok ())) rfl nofun) <|
      .cons (.met (.finishJob _ (.finished (.ok ()))) rfl nofun) <|
      .cons .raised <|
      .cons (.met (.access _ _) ⟨rfl, rfl⟩ nofun) <|
      .cons (.met (.access _ _) ⟨rfl, rfl⟩ nofun) <|
      .cons (.met (.access _ _) ⟨rfl, rfl⟩ nofun) <|
      .cons (.waited rfl rfl) <|
      .cons (.returned rfl rfl) <|
      .cons (.met (.access _ _) ⟨rfl, rfl⟩ nofun) <|
      .nil _
    exact ⟨_, _, way, rfl, by simp, rfl⟩
  obtain ⟨delivered, started, rest⟩ := (releases_are_conserved.2 way).returns 1 ended
  exact ⟨course, l, way, ended, raised, granted, by omega, delivered.symm, started.symm⟩

end TaskTiming
