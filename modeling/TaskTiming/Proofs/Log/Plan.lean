import TaskTiming.Log.Reader

/-!
# Plans of reading

A header is read by a plan: a part of some length, then, by what came, the next part, a refusal or the header
(`Header.decode_planned`). Whatever holds of all plans, by induction on them, holds of the reading of a header.
-/

namespace TaskTiming.Log
set_option autoImplicit false

/-- What is asked of a source, part by part. -/
inductive Plan (α : Type)
  | done (a : α)
  | refuse (fault : LogFault)
  | part (p : HeaderPart) (length : Nat) (next : List UInt8 → Plan α)

namespace Plan

variable {α β : Type}

def run : Plan α → HeaderReader α
  | done a => pure a
  | refuse fault => corrupt fault
  | part p length next => takePart p length >>= fun bytes => (next bytes).run

def bind (f : α → Plan β) : Plan α → Plan β
  | done a => f a
  | refuse fault => refuse fault
  | part p length next => part p length fun bytes => (next bytes).bind f

theorem run_bind (plan : Plan α) (f : α → Plan β) :
    (plan.bind f).run = plan.run >>= fun a => (f a).run := by
  induction plan with
  | done a => rfl
  | refuse fault => rfl
  | part p length next ih =>
    simp only [bind, run, ih]
    funext source
    show (takePart p length source >>= fun q => (next q.1).run q.2 >>= fun q => (f q.1).run q.2) =
      ((takePart p length source >>= fun q => (next q.1).run q.2) >>= fun q => (f q.1).run q.2)
    cases takePart p length source <;> rfl

end Plan

/-- What a reader does is laid down by a plan. -/
def Planned {α : Type} (m : HeaderReader α) : Prop := ∃ plan : Plan α, plan.run = m

section Planned

variable {α β : Type} {m : HeaderReader α} {f : α → HeaderReader β}

theorem Planned.pure (a : α) : Planned (Pure.pure a) := ⟨.done a, rfl⟩

theorem Planned.corrupt (fault : LogFault) : Planned (corrupt fault : HeaderReader α) := ⟨.refuse fault, rfl⟩

theorem Planned.bind (first : Planned m) (second : ∀ a, Planned (f a)) : Planned (m >>= f) := by
  obtain ⟨plan, rfl⟩ := first
  obtain ⟨next, runs⟩ := Classical.axiomOfChoice second
  refine ⟨plan.bind next, ?_⟩
  rw [Plan.run_bind]
  simp only [runs]

theorem Planned.unless {c : Prop} [Decidable c] {fault : LogFault} (rest : Planned m) :
    Planned (if c then Log.corrupt fault >>= fun _ : Unit => m else m) := by
  split
  · exact (Planned.corrupt fault).bind fun _ => rest
  · exact rest

theorem takePart_planned (part : HeaderPart) (n : Nat) : Planned (takePart part n) := by
  refine ⟨.part part n .done, ?_⟩
  funext source
  show (takePart part n source >>= fun q => Except.ok (q.1, q.2)) = _
  cases takePart part n source <;> rfl

theorem takeTime_planned : Planned takeTime := by
  unfold takeTime
  refine (takePart_planned .time 4).bind fun _ => (takePart_planned .time 4).bind fun _ => ?_
  dsimp only
  split
  · exact .pure _
  · exact .corrupt _

theorem takePreamble_planned : Planned takePreamble := by
  unfold takePreamble
  refine (takePart_planned .magic 4).bind fun _ => ?_
  apply Planned.unless
  refine (takePart_planned .version 1).bind fun _ => ?_
  apply Planned.unless
  refine (takePart_planned .byteOrder 4).bind fun _ => ?_
  apply Planned.unless
  refine (takePart_planned .timestampSizes 2).bind fun _ => ?_
  apply Planned.unless
  exact (takePart_planned .flags 2).bind fun _ => .pure _

theorem takeName_planned : Planned takeName := by
  unfold takeName
  refine (takePart_planned .nameLength 4).bind fun _ => ?_
  apply Planned.unless
  refine (takePart_planned .name _).bind fun _ => ?_
  split
  · exact .pure _
  · exact .corrupt _

/-- **A header is read by a plan.** -/
theorem Header.decode_planned : Planned Header.decode := by
  unfold Header.decode
  refine takePreamble_planned.bind fun _ => ?_
  refine takeTime_planned.bind fun _ => takeTime_planned.bind fun _ => takeTime_planned.bind fun _ => ?_
  refine takeTime_planned.bind fun _ => takeTime_planned.bind fun _ => takeTime_planned.bind fun _ => ?_
  exact takeTime_planned.bind fun _ => takeName_planned.bind fun _ => .pure _

end Planned

end TaskTiming.Log
