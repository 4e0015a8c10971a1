import TaskTiming.Experiment.Session
import TaskTiming.World

/-!
# Driving a session

A session is driven in a world by giving the turn to the first actor who can go on: the conductor, then
the tasks, then the generators, each in order. When nobody can, the clock is moved to the earliest alarm.
A job takes the time it was calibrated for.
-/

namespace TaskTiming
set_option autoImplicit false

/-- The number under which an actor's alarms are kept. -/
def Session.Actor.number : Session.Actor → Nat
  | .conductor => 0
  | .task i => 2 * i + 1
  | .generator i => 2 * i + 2

namespace Session

/-- What giving somebody the turn leads to. -/
inductive Move
  | went (s : Session) (w : World)
  /-- He cannot go on yet. -/
  | stuck (w : World)

/-- Gives an actor the turn. -/
def move (s : Session) (w : World) (a : Actor) : Move :=
  let who := a.number
  match s.turn a with
  | .idle => .stuck w
  | .blocked => .stuck w
  | .go s => .went s w
  | .readClock next => .went (next (.ok w.clock)) w
  | .ask request next =>
    match w.answer who request with
    | .answered outcome w => .went (next outcome) w
    | .later w => .stuck w
  | .finishJob next =>
    match w.waitFor who (w.clock + s.jobTime a) with
    | .answered () w => .went (next (.finished (.ok ()))) w
    | .later w => .stuck w

/-- Gives the turn to the first actor who can go on. -/
def moveFirst (s : Session) (w : World) : List Actor → Move
  | [] => .stuck w
  | a :: rest =>
    match s.move w a with
    | .went s w => .went s w
    | .stuck w => s.moveFirst w rest

/-- Drives a session until it has ended, for as many turns as there is fuel. -/
def drive (s : Session) (w : World) : Nat → Session × World
  | 0 => (s, w)
  | fuel + 1 =>
    match s.outcome? with
    | some _ => (s, w)
    | none =>
      match s.moveFirst w s.actors with
      | .went s w => s.drive w fuel
      | .stuck w =>
        match w.nextAlarm? with
        | none => (s, w)
        | some instant => s.drive { w with clock := Max.max w.clock instant } fuel

end Session

end TaskTiming
