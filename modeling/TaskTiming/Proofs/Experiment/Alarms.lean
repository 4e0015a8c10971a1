import TaskTiming.Proofs.Experiment.PendingReleases

/-!
# Alarms

Who waits in a world is answered by the alarm that he has set, and when nobody can go on the clock is moved to
the earliest one. A generator has an alarm only while it sleeps, at its pending release (`Session.Armed`). So a
session that is driven takes its steps at the instants that the clock of its world shows
(`Clocked.reaches_drive`), and what holds of pending releases at every instant holds of it.
-/

namespace TaskTiming
set_option autoImplicit false

/-- The turn of somebody who sleeps until an instant. -/
def Turn.IsSleep {σ : Type} : Turn σ → Prop
  | .ask (.sleepUntil _) _ => True
  | _ => False

theorem Turn.isSleep_map {σ τ : Type} (f : σ → τ) (turn : Turn σ) : (turn.map f).IsSleep ↔ turn.IsSleep := by
  cases turn with
  | ask request => cases request <;> rfl
  | _ => rfl

/-- The world behind a reply. -/
def Reply.world {α : Type} : Reply α → World
  | .answered _ w => w
  | .later w => w

namespace World

variable {w w' : World} {who : Nat}

/-- While one of those who wait is attended to, time stands still, and nobody else gets an alarm. -/
structure Attends (who : Nat) (w w' : World) : Prop where
  clock : w'.clock = w.clock
  others : ∀ ⦃k : Nat⦄ ⦃due : Time⦄, k ≠ who → (k, due) ∈ w'.alarms → (k, due) ∈ w.alarms

theorem Attends.of_same (clock : w'.clock = w.clock) (alarms : w'.alarms = w.alarms) : w.Attends who w' :=
  ⟨clock, fun _ _ _ mem => alarms ▸ mem⟩

/-- A wait is over once the alarm is due, the one that was set before or a new one. -/
inductive Waits (w : World) (who : Nat) (instant : Time) : Reply Unit → Prop
  | elapsed {due : Time} (set : (who, due) ∈ w.alarms ∨ due = instant) (past : due ≤ w.clock) :
      Waits w who instant (.answered () { w with alarms := w.alarms.filter (·.1 ≠ who) })
  | running {due : Time} (set : (who, due) ∈ w.alarms ∨ due = instant) :
      Waits w who instant (.later { w with alarms := (who, due) :: w.alarms.filter (·.1 ≠ who) })

theorem waits_waitFor (w : World) (who : Nat) (instant : Time) : w.Waits who instant (w.waitFor who instant) := by
  have set : (who, ((w.alarms.find? (·.1 = who)).map (·.2)).getD instant) ∈ w.alarms ∨
      ((w.alarms.find? (·.1 = who)).map (·.2)).getD instant = instant := by
    cases found : w.alarms.find? (·.1 = who) with
    | none => exact .inr rfl
    | some alarm =>
      have his : alarm.1 = who := by simpa using List.find?_some found
      subst his
      exact .inl (List.mem_of_find?_eq_some found)
  unfold waitFor
  dsimp only
  split
  · rename_i past
    exact .elapsed set past
  · exact .running set

theorem attends_waitFor (w : World) (who : Nat) (instant : Time) :
    w.Attends who (w.waitFor who instant).world := by
  have waits := w.waits_waitFor who instant
  generalize w.waitFor who instant = reply at waits
  cases waits with
  | elapsed => exact ⟨rfl, fun k due _ mem => (List.mem_filter.1 mem).1⟩
  | running =>
    refine ⟨rfl, fun k due other mem => ?_⟩
    rcases List.mem_cons.1 mem with same | before
    · exact (other (congrArg Prod.fst same)).elim
    · exact (List.mem_filter.1 before).1

/-- Sleeping is waiting, which goes well. -/
theorem answer_sleepUntil (w : World) (who : Nat) (instant : Time) :
    w.answer who (.sleepUntil instant) = match w.waitFor who instant with
      | .answered () w' => .answered (.ok ()) w'
      | .later w' => .later w' := rfl

theorem attends_answer (w : World) (who : Nat) (request : Request) :
    w.Attends who (w.answer who request).world := by
  have waited (instant : Time) : w.Attends who (match w.waitFor who instant with
      | .answered () w' => Reply.answered (.ok ()) w'
      | .later w' => .later w' : Reply (Result Unit)).world := by
    have attends := w.attends_waitFor who instant
    cases reply : w.waitFor who instant with
    | answered =>
      rw [reply] at attends
      exact attends
    | later =>
      rw [reply] at attends
      exact attends
  cases request with
  | sleepUntil instant => exact waited instant
  | pause duration => exact waited (w.clock + duration)
  | _ => exact .of_same rfl rfl

end World

namespace Session

variable {s s' : Session} {w w' : World} {a : Actor} {i : Nat}

/-- Only generators that sleep have alarms, and each for its pending release. -/
def Armed (s : Session) (w : World) : Prop :=
  ∀ ⦃i : Nat⦄ ⦃due : Time⦄, ((Actor.generator i).number, due) ∈ w.alarms →
    ∃ g, s.generators[i]? = some g ∧ g.spot = .sleep ∧ g.release = due

theorem Armed.attended (armed : s.Armed w) (attends : w.Attends a.number w') (other : ∀ i, a ≠ .generator i)
    (kept : ∀ ⦃i : Nat⦄ ⦃g : Generator⦄, s.generators[i]? = some g → s'.generators[i]? = some g) : s'.Armed w' := by
  intro i due mem
  have ne : (Actor.generator i).number ≠ a.number := by
    cases a with
    | conductor => simp [Actor.number]
    | task j => simp only [Actor.number]; omega
    | generator j => exact (other j rfl).elim
  obtain ⟨g, here, asleep, same⟩ := armed (attends.others ne mem)
  exact ⟨g, kept here, asleep, same⟩

/-- What giving somebody the turn leads to: his step at that instant, unless he has slept, or the same state. -/
inductive Moves (s : Session) (w : World) (a : Actor) : Move → Prop
  | went {s' : Session} {w' : World} (spins : (s.turn a).Spins s')
      (timely : ¬(s.turn a).IsSleep → (s.turn a).SpinsAt w.clock s')
      (attends : w.Attends a.number w') : Moves s w a (.went s' w')
  | stuck {w' : World} (attends : w.Attends a.number w') : Moves s w a (.stuck w')

theorem moves_move (s : Session) (w : World) (a : Actor) : s.Moves w a (s.move w a) := by
  unfold move
  cases turn : s.turn a with
  | idle => exact .stuck (.of_same rfl rfl)
  | blocked => exact .stuck (.of_same rfl rfl)
  | go s' => exact .went (turn ▸ .go s') (fun _ => turn ▸ .go s') (.of_same rfl rfl)
  | readClock next =>
    have tells (t : Time) (told : Except.ok w.clock = (.ok t : Result Time)) : t = w.clock := by
      cases told
      rfl
    exact .went (turn ▸ .readClock next _) (fun _ => turn ▸ .readClock next _ tells) (.of_same rfl rfl)
  | ask request next =>
    have attends := w.attends_answer a.number request
    dsimp only
    cases answer : w.answer a.number request with
    | answered outcome w' =>
      rw [answer] at attends
      refine .went (turn ▸ .ask request next outcome) (fun awake => ?_) attends
      have past (instant : Time) (sleeps : request = .sleepUntil instant) (_ : outcome = .ok ()) :
          instant ≤ w.clock := by
        rw [turn, sleeps] at awake
        exact (awake trivial).elim
      exact turn ▸ .ask request next outcome past
    | later w' =>
      rw [answer] at attends
      exact .stuck attends
  | finishJob next =>
    have attends := w.attends_waitFor a.number (w.clock + s.jobTime a)
    dsimp only
    cases answer : w.waitFor a.number (w.clock + s.jobTime a) with
    | answered done w' =>
      rw [answer] at attends
      exact .went (turn ▸ .finishJob next) (fun _ => turn ▸ .finishJob next) attends
    | later w' =>
      rw [answer] at attends
      exact .stuck attends

/-- The conductor rests between his looks, and does not sleep until an instant. -/
theorem not_isSleep_conduct (s : Session) : ¬s.conduct.IsSleep := by
  have stopping (l : LiveTask) (call : StopCall) : ¬(l.stopTurn call).IsSleep := by
    unfold Live.stopTurn StopCall.next
    cases call.spot <;> exact id
  have starting (i : Nat) (task : ReadyTask) (job : Calibration) : ¬(s.startTask i task job).IsSleep := by
    unfold startTask
    split
    · exact id
    · rw [Turn.isSleep_map]
      unfold ReadyTask.spawn
      split <;> exact id
  have generating (i : Nat) (interval : Time) : ¬(s.startGenerator i interval).IsSleep := by
    unfold startGenerator
    split <;> exact id
  have joining (i : Nat) (thread : Thread) (fate : ThreadEnd) : ¬(s.joinTurn i thread fate).IsSleep := by
    unfold joinTurn
    repeat' split
    all_goals exact id
  unfold conduct
  repeat' split
  all_goals first
    | exact id
    | exact starting _ _ _
    | exact generating _ _
    | exact joining _ _ _
    | exact fun sleeps => stopping _ _ ((Turn.isSleep_map _ _).1 sleeps)

end Session

namespace Clocked

variable {s s' : Session} {w w' : World} {i : Nat} {g : Generator}

/-- What giving somebody the turn comes to, for the clock and the generators' alarms. -/
inductive Comes (s : Session) (w : World) : Session.Move → Prop
  | went {s' : Session} {w' : World} (step : Step ⟨s, w.clock⟩ ⟨s', w'.clock⟩) (armed : s'.Armed w') :
      Comes s w (.went s' w')
  | stuck {w' : World} (same : w'.clock = w.clock) (armed : s.Armed w') : Comes s w (.stuck w')

theorem comes_of_conductor (armed : s.Armed w) : Comes s w (s.move w .conductor) := by
  have moves := s.moves_move w .conductor
  generalize s.move w .conductor = move at moves
  cases moves with
  | stuck attends => exact .stuck attends.clock (armed.attended attends nofun fun _ _ here => here)
  | went spins timely attends =>
    have spinsAt := timely s.not_isSleep_conduct
    have conducts := Session.conductsAt_of_spinsAt spinsAt
    refine .went ?_ (armed.attended attends nofun fun _ _ here => conducts.generator here)
    rw [attends.clock]
    exact .conductor spinsAt

theorem comes_of_task (armed : s.Armed w) (i : Nat) : Comes s w (s.move w (.task i)) := by
  have moves := s.moves_move w (.task i)
  generalize s.move w (.task i) = move at moves
  cases moves with
  | stuck attends => exact .stuck attends.clock (armed.attended attends nofun fun _ _ here => here)
  | went spins timely attends =>
    simp only [Session.turn] at spins
    cases here : s.tasks[i]? with
    | none =>
      rw [here] at spins
      cases spins
    | some started =>
      rw [here] at spins
      obtain ⟨live, part, rfl⟩ := spins.of_map
      refine .went ?_ (armed.attended attends nofun fun _ _ here => here)
      rw [attends.clock]
      exact .task here (.turn part)

/-- Who is awake has no alarm, and may go to sleep. -/
theorem Comes.awake (armed : s.Armed w) (here : s.generators[i]? = some g) (awake : g.spot ≠ .sleep)
    (spins : (s.generatorTurn i).SpinsAt w.clock s') (clock : w'.clock = w.clock) (alarms : w'.alarms = w.alarms) :
    Comes s w (.went s' w') := by
  obtain ⟨h, h', there, goes, beside⟩ := Session.goes_of_generatorTurn spins
  refine .went ?_ ?_
  · rw [clock]
    exact .generator spins
  · intro j due mem
    rw [alarms] at mem
    obtain ⟨g', here', asleep, same⟩ := armed mem
    have ne : i ≠ j := by
      rintro rfl
      cases here.symm.trans here'
      exact awake asleep
    refine ⟨g', ?_, asleep, same⟩
    rw [beside.generators, Session.setGenerator, List.getElem?_set_ne ne, here']

/-- Who is asleep is answered when his alarm is due, at the release that is pending. -/
theorem comes_of_asleep (armed : s.Armed w) (here : s.generators[i]? = some g) (asleep : g.spot = .sleep) :
    Comes s w (s.move w (.generator i)) := by
  have sleeps : s.generatorTurn i = .ask (.sleepUntil g.release) fun r => s.setGenerator i (g.slept r) := by
    simp only [Session.generatorTurn, here, asleep]
  have waits := w.waits_waitFor (Session.Actor.generator i).number g.release
  -- an alarm that was set before was set for this release
  have pending {due : Time} (set : ((Session.Actor.generator i).number, due) ∈ w.alarms ∨ due = g.release) :
      due = g.release := by
    refine set.elim (fun mem => ?_) id
    obtain ⟨g', here', -, same⟩ := armed mem
    cases here.symm.trans here'
    exact same.symm
  simp only [Session.move, Session.turn, sleeps, World.answer_sleepUntil]
  generalize w.waitFor (Session.Actor.generator i).number g.release = reply at waits
  cases waits with
  | elapsed set past =>
    cases pending set
    refine .went (.generator (i := i) (sleeps ▸ .ask _ _ (.ok ()) ?_)) fun j due mem => ?_
    · rintro instant ⟨⟩ -
      exact past
    · obtain ⟨mem, other⟩ := List.mem_filter.1 mem
      have ne : i ≠ j := by
        rintro rfl
        simp at other
      obtain ⟨g', here', asleep', same⟩ := armed mem
      exact ⟨g', (List.getElem?_set_ne ne).trans here', asleep', same⟩
  | running set =>
    cases pending set
    refine .stuck rfl fun j due mem => ?_
    rcases List.mem_cons.1 mem with new | before
    · simp only [Session.Actor.number, Prod.mk.injEq] at new
      obtain ⟨number, rfl⟩ := new
      obtain rfl : j = i := by omega
      exact ⟨g, here, asleep, rfl⟩
    · exact armed (List.mem_filter.1 before).1

theorem comes_of_generator (armed : s.Armed w) (i : Nat) : Comes s w (s.move w (.generator i)) := by
  have stuck (idle : s.generatorTurn i = .idle) : Comes s w (s.move w (.generator i)) := by
    simp only [Session.move, Session.turn, idle]
    exact .stuck rfl armed
  cases here : s.generators[i]? with
  | none => exact stuck (by simp only [Session.generatorTurn, here])
  | some g =>
    cases spot : g.spot with
    | sleep => exact comes_of_asleep armed here spot
    | look =>
      have turn : s.generatorTurn i = .go (s.setGenerator i (g.looked s.running)) := by
        simp only [Session.generatorTurn, here, spot]
      simp only [Session.move, Session.turn, turn]
      exact .awake armed here (by simp [spot]) (turn ▸ .go _) rfl rfl
    | signal =>
      cases there : s.tasks[g.task]? with
      | none => exact stuck (by simp only [Session.generatorTurn, here, spot, there])
      | some started =>
        have turn : s.generatorTurn i = .go ((s.setLive g.task started.live.release.2).setGenerator i
            (g.signalled started.live.release.1)) := by
          simp only [Session.generatorTurn, here, spot, there]
        simp only [Session.move, Session.turn, turn]
        exact .awake armed here (by simp [spot]) (turn ▸ .go _) rfl rfl
    | complaining e =>
      have turn : s.generatorTurn i = .ask (.note (g.failureLine e)) fun _ =>
          s.setGenerator i { g with spot := .ended } := by
        simp only [Session.generatorTurn, here, spot]
      simp only [Session.move, Session.turn, turn]
      exact .awake armed here (by simp [spot]) (turn ▸ .ask _ _ (.ok ()) (by rintro instant ⟨⟩)) rfl rfl
    | ended => exact stuck (by simp only [Session.generatorTurn, here, spot])

theorem comes_of_move (armed : s.Armed w) (a : Session.Actor) : Comes s w (s.move w a) := by
  cases a with
  | conductor => exact comes_of_conductor armed
  | task i => exact comes_of_task armed i
  | generator i => exact comes_of_generator armed i

theorem comes_of_moveFirst (armed : s.Armed w) (actors : List Session.Actor) :
    Comes s w (s.moveFirst w actors) := by
  induction actors generalizing w with
  | nil => exact .stuck rfl armed
  | cons a rest ih =>
    have first := comes_of_move armed a
    rw [Session.moveFirst]
    generalize s.move w a = move at first
    cases first with
    | went step armed => exact .went step armed
    | @stuck w₁ same armed =>
      have later := ih armed
      dsimp only
      generalize s.moveFirst w₁ rest = move at later
      cases later with
      | went step armed => exact .went (same ▸ step) armed
      | stuck still armed => exact .stuck (still.trans same) armed

/-- **What is driven keeps time**: it goes through states of the session with a clock. -/
theorem reaches_drive (armed : s.Armed w) (fuel : Nat) :
    Reaches ⟨s, w.clock⟩ ⟨(s.drive w fuel).1, (s.drive w fuel).2.clock⟩ := by
  induction fuel generalizing s w with
  | zero => exact .refl
  | succ fuel ih =>
    rw [Session.drive]
    split
    · exact .refl
    · have comes := comes_of_moveFirst armed s.actors
      generalize s.moveFirst w s.actors = move at comes
      cases comes with
      | went step armed => exact .head step (ih armed)
      | @stuck w₁ same armed =>
        rw [← same]
        dsimp only
        split
        · exact .refl
        · rename_i instant _
          have later : w₁.clock ≤ Max.max w₁.clock instant := by
            rw [Time.le_iff_toNanos, Time.toNanos_maxOf]
            exact Nat.le_max_left _ _
          exact .head (.tick later) (ih (w := { w₁ with clock := Max.max w₁.clock instant }) armed)

/-- A world without alarms leaves every release of an experiment pending where it should be. -/
theorem pending_drive (host : Host) (experiment : Experiment) (store : Store) (none : w.alarms = []) (fuel : Nat) :
    Pending experiment ⟨((Session.start host experiment store).drive w fuel).1,
      ((Session.start host experiment store).drive w fuel).2.clock⟩ := by
  have armed : (Session.start host experiment store).Armed w := by
    intro i due mem
    rw [none] at mem
    exact (List.not_mem_nil mem).elim
  exact Reaches.pending (reaches_drive armed fuel)

end Clocked

end TaskTiming
