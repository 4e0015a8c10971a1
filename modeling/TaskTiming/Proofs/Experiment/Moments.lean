import TaskTiming.Proofs.DiskChanges
import TaskTiming.Proofs.Experiment.Return
import TaskTiming.Proofs.Task.Flushing

/-!
# A session and its disk

A moment of a session is the session, the disk that answers it, and what the threads of its tasks have met so
far. The steps that lead from one moment to the next are those of the session (`Moment.Step.session`), with
the disk's own answers to what is asked of it; driving a session in a world leads through such moments
(`Moment.reaches_drive`).
-/

namespace TaskTiming
set_option autoImplicit false

/-- A turn leads to a state and a disk, where a job that ends has not failed. -/
inductive Turn.SpinsOn {σ : Type} (d : Disk) : Turn σ → σ → Disk → Prop
  | go (s : σ) : SpinsOn d (.go s) s d
  | ask (request : Request) (next : Result Unit → σ) {outcome : Result Unit} {d' : Disk}
      (on : Event.On d (.answer request outcome) d') : SpinsOn d (.ask request next) (next outcome) d'
  | readClock (next : Result Time → σ) (now : Result Time) : SpinsOn d (.readClock next) (next now) d
  | finishJob (next : JobEnd → σ) : SpinsOn d (.finishJob next) (next (.finished (.ok ()))) d

theorem Turn.SpinsOn.spins {σ : Type} {turn : Turn σ} {s : σ} {d d' : Disk} (spins : turn.SpinsOn d s d') :
    turn.Spins s := by
  cases spins with
  | go => exact .go s
  | ask request next => exact .ask request next _
  | readClock next now => exact .readClock next now
  | finishJob next => exact .finishJob next

/-- The turn of a whole is the turn of its part. -/
theorem Turn.SpinsOn.of_map {σ τ : Type} {f : σ → τ} {turn : Turn σ} {t : τ} {d d' : Disk}
    (spins : (turn.map f).SpinsOn d t d') : ∃ s, turn.SpinsOn d s d' ∧ f s = t := by
  cases turn with
  | idle => cases spins
  | blocked => cases spins
  | go s =>
    cases spins
    exact ⟨s, .go s, rfl⟩
  | ask request next =>
    cases spins with
    | ask _ _ on => exact ⟨_, .ask request next on, rfl⟩
  | readClock next =>
    cases spins with
    | readClock _ now => exact ⟨next now, .readClock next now, rfl⟩
  | finishJob next =>
    cases spins
    exact ⟨_, .finishJob next, rfl⟩

/-- A turn that asks nothing of the disk. -/
def Turn.IsQuiet {σ : Type} : Turn σ → Prop
  | .ask request _ => ∀ d, request.onDisk d = none
  | _ => True

theorem Turn.isQuiet_map {σ τ : Type} {f : σ → τ} {turn : Turn σ} : (turn.map f).IsQuiet ↔ turn.IsQuiet := by
  cases turn <;> rfl

/-- It leaves the disk alone. -/
theorem Turn.SpinsOn.disk_eq {σ : Type} {turn : Turn σ} {s : σ} {d d' : Disk} (spins : turn.SpinsOn d s d')
    (quiet : turn.IsQuiet) : d' = d := by
  cases spins with
  | ask request next on =>
    unfold Event.On at on
    dsimp only at on
    rw [quiet d] at on
    exact on
  | _ => rfl

/-- A step of a task whose jobs are busy loops, with what its thread meets. -/
inductive Live.Does (l : LiveTask) (d : Disk) (l' : LiveTask) : List Event → Disk → Prop
  | met {e : Event} {d' : Disk} (goes : l.Goes l') (meets : l.machine.next.Meets e l'.machine)
      (moves : e.Moves l.control l'.control) (on : e.On d d') : Does l d l' [e] d'
  /-- The wait that the thread is in takes a step. -/
  | waited (goes : l.Goes l') (machine : l'.machine = l.machine) (control : l'.control = l.control) :
      Does l d l' [] d

theorem Live.Does.goes {l l' : LiveTask} {d d' : Disk} {told : List Event} (does : l.Does d l' told d') :
    l.Goes l' := by
  cases does with
  | met goes => exact goes
  | waited goes => exact goes

/-- The turn of a task is such a step. -/
theorem Live.does_of_spinsOn {l l' : LiveTask} {d d' : Disk} (spins : (l.turn Thread.next).SpinsOn d l' d') :
    ∃ told, l.Does d l' told d' := by
  have goes : l.Goes l' := .turn spins.spins
  cases action : l.machine.next with
  | ask request next =>
    rw [Live.turn, action] at spins
    cases spins with
    | ask _ _ on =>
      refine ⟨_, .met goes ?_ (show Event.Moves (.answer request _) _ _ from rfl) on⟩
      rw [action]
      exact .ask _ _ _
  | _ =>
    have same : d' = d := by
      rw [Live.turn, action] at spins
      dsimp only at spins
      repeat' split at spins
      all_goals cases spins
      all_goals rfl
    subst same
    rcases met_of_goes goes with ⟨e, -, meets, moves⟩ | ⟨machine, control⟩
    · refine ⟨[e], .met goes meets moves ?_⟩
      rw [action] at meets
      generalize l'.machine = t at meets
      cases meets <;> rfl
    · exact ⟨[], .waited goes machine control⟩

/-- A session at a moment. -/
structure Moment where
  session : Session
  disk : Disk
  /-- What the threads of the tasks have met, in order, with the positions of their tasks. -/
  met : List (Nat × Event)

namespace Moment

variable {m m' : Moment} {i j : Nat}

/-- Before the first step. -/
def start (host : Host) (experiment : Experiment) (store : Store) (disk : Disk) : Moment :=
  { session := .start host experiment store, disk, met := [] }

/-- What the thread of one task has met. -/
def metBy (m : Moment) (i : Nat) : List Event := m.met.filterMap fun (j, e) => if j = i then some e else none

/-- One task's thread has met something. -/
def tell (m : Moment) (i : Nat) (told : List Event) : List (Nat × Event) := m.met ++ told.map (i, ·)

/-- One atomic step. -/
inductive Step (m : Moment) : Moment → Prop
  | conductor {session : Session} {disk : Disk} (spins : m.session.conduct.SpinsOn m.disk session disk) :
      Step m { m with session, disk }
  | task {i : Nat} {started : Started} {live : LiveTask} {told : List Event} {disk : Disk}
      (here : m.session.tasks[i]? = some started) (does : started.live.Does m.disk live told disk) :
      Step m { session := m.session.setLive i live, disk, met := m.tell i told }
  | generator {i : Nat} {session : Session} {disk : Disk}
      (spins : (m.session.generatorTurn i).SpinsOn m.disk session disk) : Step m { m with session, disk }
  | interruption : Step m { m with session := m.session.interrupt }

/-- Steps in any order lead from one moment to another. -/
def Reaches : Moment → Moment → Prop := Relation.ReflTransGen Step

theorem Step.session (step : m.Step m') : m.session.Step m'.session := by
  cases step with
  | conductor spins => exact .conductor spins.spins
  | task here does => exact .task here does.goes
  | generator spins => exact .generator spins.spins
  | interruption => exact .interruption

theorem Reaches.session (reaches : m.Reaches m') : m.session.Reaches m'.session := by
  induction reaches with
  | refl => exact .refl
  | tail _ step ih => exact ih.tail step.session

theorem metBy_tell_self (session : Session) (disk : Disk) (told : List Event) :
    metBy { session, disk, met := m.tell i told } i = m.metBy i ++ told := by
  have all : (told.map (i, ·)).filterMap (fun (j, e) => if j = i then some e else none) = told := by
    rw [List.filterMap_map]
    show told.filterMap (fun e => if i = i then some e else none) = told
    simp
  rw [metBy, tell, List.filterMap_append, all, ← metBy]

theorem metBy_tell_of_ne (session : Session) (disk : Disk) (told : List Event) (ne : j ≠ i) :
    metBy { session, disk, met := m.tell j told } i = m.metBy i := by
  have none : (told.map (j, ·)).filterMap (fun (k, e) => if k = i then some e else none) = [] := by
    simp [ne]
  rw [metBy, tell, List.filterMap_append, none, List.append_nil, ← metBy]

/-! ## What is driven -/

/-- The world answers what is asked of the disk by its disk, and else leaves that alone. -/
theorem on_of_answer {w w' : World} {who : Nat} {request : Request} {outcome : Result Unit}
    (answered : w.answer who request = .answered outcome w') :
    Event.On w.disk (.answer request outcome) w'.disk := by
  cases request with
  | sleepUntil instant =>
    simp only [World.answer, World.waitFor] at answered
    split at answered
    · rename_i waited
      split at waited <;> cases waited
      cases answered
      rfl
    · cases answered
  | pause duration =>
    simp only [World.answer, World.waitFor] at answered
    split at answered
    · rename_i waited
      split at waited <;> cases waited
      cases answered
      rfl
    · cases answered
  | _ =>
    cases answered
    first
      | rfl
      | exact ⟨rfl, rfl⟩

theorem disk_of_waitFor {w w' : World} {who : Nat} {instant : Time} :
    (w.waitFor who instant = .answered () w' → w'.disk = w.disk) ∧
      (w.waitFor who instant = .later w' → w'.disk = w.disk) := by
  unfold World.waitFor
  dsimp only
  split
  · refine ⟨?_, nofun⟩
    rintro ⟨⟩
    rfl
  · refine ⟨nofun, ?_⟩
    rintro ⟨⟩
    rfl

theorem disk_of_later {w w' : World} {who : Nat} {request : Request}
    (later : w.answer who request = .later w') : w'.disk = w.disk := by
  cases request with
  | sleepUntil instant =>
    rw [World.answer] at later
    split at later
    · cases later
    · rename_i waited
      cases later
      exact disk_of_waitFor.2 waited
  | pause duration =>
    rw [World.answer] at later
    split at later
    · cases later
    · rename_i waited
      cases later
      exact disk_of_waitFor.2 waited
  | _ => cases later

/-- The turn of anyone is a step. -/
theorem step_of_spinsOn {a : Session.Actor} {s : Session} {d : Disk}
    (spins : (m.session.turn a).SpinsOn m.disk s d) : ∃ met, m.Step { session := s, disk := d, met } := by
  cases a with
  | conductor => exact ⟨_, .conductor spins⟩
  | generator i => exact ⟨_, .generator (i := i) spins⟩
  | task i =>
    simp only [Session.turn] at spins
    cases here : m.session.tasks[i]? with
    | none =>
      rw [here] at spins
      cases spins
    | some started =>
      rw [here] at spins
      obtain ⟨live, part, rfl⟩ := spins.of_map
      obtain ⟨told, does⟩ := Live.does_of_spinsOn part
      exact ⟨_, .task here does⟩

/-- What giving somebody the turn comes to: a step, or a disk that was left alone. -/
inductive Comes (s : Session) (w : World) (met : List (Nat × Event)) : Session.Move → Prop
  | went {s' : Session} {w' : World} {met' : List (Nat × Event)}
      (step : Step ⟨s, w.disk, met⟩ ⟨s', w'.disk, met'⟩) : Comes s w met (.went s' w')
  | stuck {w' : World} (same : w'.disk = w.disk) : Comes s w met (.stuck w')

theorem comes_of_move (s : Session) (w : World) (met : List (Nat × Event)) (a : Session.Actor) :
    Comes s w met (s.move w a) := by
  have went {s' : Session} {w' : World} (turn : (s.turn a).SpinsOn w.disk s' w'.disk) :
      Comes s w met (.went s' w') := by
    obtain ⟨met', step⟩ := step_of_spinsOn (m := ⟨s, w.disk, met⟩) turn
    exact .went step
  unfold Session.move
  cases turn : s.turn a with
  | idle => exact .stuck rfl
  | blocked => exact .stuck rfl
  | go _ => exact went (turn ▸ .go _)
  | readClock next => exact went (turn ▸ .readClock next _)
  | ask request next =>
    dsimp only
    cases answer : w.answer a.number request with
    | answered outcome w' => exact went (turn ▸ .ask request next (on_of_answer answer))
    | later w' => exact .stuck (disk_of_later answer)
  | finishJob next =>
    dsimp only
    cases answer : w.waitFor a.number (w.clock + s.jobTime a) with
    | answered done w' =>
      refine went ?_
      rw [disk_of_waitFor.1 answer, turn]
      exact .finishJob next
    | later w' => exact .stuck (disk_of_waitFor.2 answer)

theorem comes_of_moveFirst (s : Session) (w : World) (met : List (Nat × Event)) (actors : List Session.Actor) :
    Comes s w met (s.moveFirst w actors) := by
  induction actors generalizing w with
  | nil => exact .stuck rfl
  | cons a rest ih =>
    rw [Session.moveFirst]
    have first := comes_of_move s w met a
    split
    · rename_i moved
      rw [moved] at first
      exact first
    · rename_i w₁ moved
      rw [moved] at first
      cases first with
      | stuck same =>
        have later := ih w₁
        generalize s.moveFirst w₁ rest = move at later
        cases later with
        | went step =>
          rw [same] at step
          exact .went step
        | stuck still => exact .stuck (still.trans same)

/-- **Driving a session leads it through moments.** -/
theorem reaches_drive (s : Session) (w : World) (met : List (Nat × Event)) (fuel : Nat) :
    ∃ met', Reaches ⟨s, w.disk, met⟩ ⟨(s.drive w fuel).1, (s.drive w fuel).2.disk, met'⟩ := by
  induction fuel generalizing s w met with
  | zero => exact ⟨met, .refl⟩
  | succ fuel ih =>
    rw [Session.drive]
    split
    · exact ⟨met, .refl⟩
    · have comes := comes_of_moveFirst s w met s.actors
      split
      · rename_i s₁ w₁ went
        rw [went] at comes
        cases comes with
        | went step =>
          obtain ⟨met', later⟩ := ih s₁ w₁ _
          exact ⟨met', .head step later⟩
      · rename_i w₁ stuck
        rw [stuck] at comes
        cases comes with
        | stuck same =>
        rw [← same]
        split
        · exact ⟨met, .refl⟩
        · rename_i instant _
          exact ih s { w₁ with clock := Max.max w₁.clock instant } met

end Moment

end TaskTiming
