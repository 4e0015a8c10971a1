import TaskTiming.Proofs.Calibration.Targets
import TaskTiming.Proofs.Calibration.TimeSpent
import TaskTiming.Proofs.Calibration.WideProducts

/-!
# What calibrations say about durations

A duration that is refused is told a limit, and it should be beyond that limit (`Error.Coherent`). The checks
of a request hold to this wherever there is a time above the tolerance. Behind them a search may still lose
its target: the count of rounds becomes zero or no word (`Losing`). It then quotes the cost of a round in the
last probe or the limit of all calibrations, neither of which the count was lost for. So only a search that
makes no pass can be right about its target, and a calibration that is scaled quotes the same limit
(`duration_errors_are_coherent_iff`).
-/

namespace TaskTiming
set_option autoImplicit false

/-- A duration that is too short or too long is beyond the limit that is quoted. -/
def Error.Coherent : Error → Prop
  | .tooShort requested minimum => requested.toNanos < minimum.toNanos
  | .tooLong requested maximum => maximum.toNanos < requested.toNanos
  | _ => True

instance (e : Error) : Decidable e.Coherent := by
  cases e <;> first | exact Nat.decLt _ _ | exact instDecidableTrue

namespace Calibration

variable {r : Request} {e : Error} {σ : Type}

/-! ## Requests -/

/-- A target is told a limit that it is beyond, unless there is no time above the tolerance. -/
theorem Request.Rejects.coherent_iff (rejects : r.Rejects e) :
    e.Coherent ↔ ¬(0 < r.maxPasses.toNat ∧ r.tolerance = .max ∧ r.target = .max) := by
  have tolerance_le := r.tolerance.toNanos_le_max
  have target_le := r.target.toNanos_le_max
  have far : 60000000000 < Time.max.toNanos := by decide
  simp only [← Time.toNanos_inj]
  cases rejects with
  | noTolerance zero =>
    simp only [Error.Coherent, true_iff]
    omega
  | noPasses tolerance zero =>
    simp only [Error.Coherent, true_iff]
    omega
  | short tolerance passes below quoted =>
    simp only [Error.Coherent, quoted]
    unfold Request.shortest at below ⊢
    omega
  | long tolerance passes above beyond =>
    have quoted : maxTarget.toNanos = 60000000000 := by decide
    simp only [Error.Coherent, quoted]
    unfold Request.shortest at above
    omega
  | many tolerance passes above most beyond quoted =>
    simp only [Error.Coherent, quoted]
    omega

/-! ## Searches -/

/-- No limit that is quoted behind a pass is right: if a round of the probe took longer than the target, no pass
would have been made. -/
theorem Losing.coherent_iff (sound : r.Sound) {k n : UInt64} {t : Time} {passes : List Call}
    (pos : 0 < k.toNat) (first : n.toNat = r.scaled k t) (losing : Losing r (t.toNanos / k.toNat) n passes e) :
    e.Coherent ↔ passes = [] ∧ (r.target.toNanos + 1) * k.toNat ≤ t.toNanos := by
  have most := sound.most
  have quoted : maxTarget.toNanos = 60000000000 := by decide
  -- a round that takes longer than the target leaves a count of zero
  have none (slow : (r.target.toNanos + 1) * k.toNat ≤ t.toNanos) : n.toNat = 0 := by
    rw [first, Request.scaled]
    apply Nat.div_eq_of_lt
    rw [Nat.add_mul, Nat.mul_comm] at slow
    omega
  have beyond {e' : Error} {n' : UInt64} {rest : List Call} (losing : Losing r (t.toNanos / k.toNat) n' rest e') :
      e'.Coherent → (r.target.toNanos + 1) * k.toNat ≤ t.toNanos := by
    rw [← Nat.le_div_iff_mul_le pos]
    induction losing with
    | noRound zero minimum =>
      simp only [Error.Coherent, minimum]
      omega
    | manyRounds some measured many =>
      simp only [Error.Coherent, quoted]
      omega
    | again some measured count later ih => exact ih
  cases losing with
  | noRound zero minimum =>
    simp only [Error.Coherent, minimum, true_and]
    exact Nat.le_div_iff_mul_le pos
  | manyRounds some measured many =>
    simp only [Error.Coherent, quoted, List.cons_ne_nil, false_and, iff_false]
    omega
  | again some measured count later =>
    simp only [List.cons_ne_nil, false_and, iff_false]
    intro coherent
    have zero := none (beyond later coherent)
    omega

/-! ## Scaled calibrations -/

/-- A duration is told a limit that it is beyond, unless no calibration is too long for it and there are too many
rounds in it. -/
theorem scaledTo_coherent_iff {c : Calibration} {duration : Time} (refused : c.scaledTo duration = .error e) :
    e.Coherent ↔ ¬(duration.toNanos ≤ 60000000000 ∧
      2 ^ 64 ≤ c.iterations.toNat * duration.toNanos / c.target.toNanos) := by
  have quoted : maxTarget.toNanos = 60000000000 := by decide
  have least : (Time.ofNanos 1).toNanos = 1 := by decide
  rcases scaledTo_eq_error_iff.1 refused with refuses | ⟨rfl, pos, target, wide⟩
  · cases refuses with
    | nothing zero => simp [Error.Coherent, zero, least]
    | unmeasured pos zero => simp [Error.Coherent, zero]
    | manyRounds pos target fits many =>
      simp only [Error.Coherent, quoted]
      omega
    | longTolerance pos target fits few toleranceFits long =>
      simp only [Error.Coherent, true_iff]
      omega
  · simp only [Error.Coherent, true_iff]
    rintro ⟨most, many⟩
    have small : c.iterations.toNat * duration.toNanos ≤ 2 ^ 64 * 60000000000 :=
      Nat.mul_le_mul (Nat.le_of_lt c.iterations.toNat_lt) most
    omega

/-! ## All of them -/

/-- **Which limits are right.** A request that is refused is told a limit that its target is beyond, unless both
the target and the tolerance are the longest time. An error of a search is that of its request, or the meter's,
or about its measurements, or the passes lost the target; then the limit is right if none was made, because a
round of the last probe took longer than the target, and wrong otherwise. A calibration quotes a wrong limit for
every duration that is not too long for all of them and has too many rounds. -/
theorem duration_errors_are_coherent_iff (r : Request) (measure : UInt64 → σ → Result Time × σ) (s : σ)
    (c : Calibration) (duration : Time) :
    (∀ e, r.validate = .error e →
      (e.Coherent ↔ ¬(0 < r.maxPasses.toNat ∧ r.tolerance = .max ∧ r.target = .max))) ∧
    (∀ e, (search r (.new measure s)).1 = .error e → r.validate = .error e ∨
      ∃ probes passes, (search r (.new measure s)).2.calls = probes ++ passes ∧
        ((∃ n, (n, .error e) ∈ probes ++ passes) ∨ r.Stalls e ∨
          ∃ k t n, probes.getLast? = some (k, .ok t) ∧ n.toNat = r.scaled k t ∧
            Losing r (t.toNanos / k.toNat) n passes e ∧
            (e.Coherent ↔ passes = [] ∧ (r.target.toNanos + 1) * k.toNat ≤ t.toNanos))) ∧
    ∀ e, c.scaledTo duration = .error e →
      (e.Coherent ↔ ¬(duration.toNanos ≤ 60000000000 ∧
        2 ^ 64 ≤ c.iterations.toNat * duration.toNanos / c.target.toNanos)) := by
  refine ⟨fun e refused => ?_, fun e ends => ?_, fun e => scaledTo_coherent_iff⟩
  · exact (Request.validate_eq_error_iff.1 refused).coherent_iff
  · cases valid : r.validate with
    | error fault =>
      rw [search, valid] at ends
      cases ends
      exact .inl rfl
    | ok _ =>
      obtain ⟨probes, passes, run, fails⟩ := search_losing valid (.new measure s)
      refine .inr ⟨probes, passes, run.calls, ?_⟩
      rcases fails e ends with meter | other | ⟨k, t, n, last, pos, first, losing⟩
      · exact .inl meter
      · exact .inr (.inl other)
      · have coherent := losing.coherent_iff (Request.sound_of_validate valid) pos first
        exact .inr (.inr ⟨k, t, n, last, first, losing, coherent⟩)

/-- A target of an hour and a duration of a minute and a half are beyond the minute that they are told. -/
theorem duration_errors_are_coherent_iff_long :
    let r : Request := { cpu := 0, target := .ofSecs 3600, tolerance := .ofMillis 1, maxPasses := 64 }
    let c : Calibration := {
      cpu := 0, frequency := none, iterations := 9007199254740991, target := .ofMicros 1
      tolerance := .ofNanos 100 }
    r.validate = .error (.tooLong r.target maxTarget) ∧ Error.Coherent (.tooLong r.target maxTarget) ∧
      c.scaledTo (.ofSecs 90) = .error (.tooLong (.ofSecs 90) maxTarget) ∧
      Error.Coherent (.tooLong (.ofSecs 90) maxTarget) := by
  intro r c
  have beyond : r.validate = .error (.tooLong r.target maxTarget) := by decide
  have many : c.scaledTo (.ofSecs 90) = .error (.tooLong (.ofSecs 90) maxTarget) := by decide
  obtain ⟨validates, -, scales⟩ :=
    duration_errors_are_coherent_iff r (fun _ s => (.ok .zero, s)) () c (.ofSecs 90)
  exact ⟨beyond, (validates _ beyond).2 (by decide), many, (scales _ many).2 (by decide)⟩

/-- Ten milliseconds have too many rounds of a fast calibration. A meter whose rounds get free behind the probe
lets a search refuse half a second as longer than a minute, and one that stalls there as shorter than a round
that is said to take 200 nanoseconds. Above the longest tolerance there is no time to quote. -/
theorem refused_durations_within_limits :
    let c : Calibration := {
      cpu := 0, frequency := none, iterations := 9007199254740991, target := .ofMicros 1
      tolerance := .ofNanos 100 }
    let r : Request := { cpu := 0, target := .ofMillis 500, tolerance := .ofMillis 1, maxPasses := 64 }
    let behindProbe (t : Time) (_ : UInt64) (k : Nat) : Result Time × Nat :=
      (.ok (if k = 0 then .ofMicros 200 else t), k + 1)
    let farthest : Request := { cpu := 0, target := .max, tolerance := .max, maxPasses := 64 }
    (c.scaledTo (.ofMillis 10) = .error (.tooLong (.ofMillis 10) maxTarget) ∧
      ¬Error.Coherent (.tooLong (.ofMillis 10) maxTarget)) ∧
    ((search r (.new (behindProbe (.ofNanos 1)) 0)).1 = .error (.tooLong r.target maxTarget) ∧
      ¬Error.Coherent (.tooLong r.target maxTarget)) ∧
    ((search r (.new (behindProbe (.ofSecs 2000000)) 0)).1 = .error (.tooShort r.target (.ofNanos 200)) ∧
      ¬Error.Coherent (.tooShort r.target (.ofNanos 200))) ∧
    farthest.validate = .error (.tooShort .max .max) ∧ ¬Error.Coherent (.tooShort .max .max) := by
  intro c r behindProbe farthest
  have valid : r.validate = .ok () := by decide
  have asked (t : Time) := Meter.ask_of_measure (m := .new (behindProbe t) 0) (n := UInt64.ofNat (probeRounds 0)) rfl
  have long : ¬r.Short (.ofMicros 200) := by
    unfold Request.Short
    decide
  have first : rescale (UInt64.ofNat (probeRounds 0)) r.target (.ofMicros 200) = .ok 2500000 :=
    rescale_eq_ok.2 (by decide)
  refine ⟨⟨by decide, by decide⟩, ⟨?_, by decide⟩, ⟨?_, by decide⟩, by decide, by decide⟩
  · rw [search_of_judged valid (asked _) long first]
    decide +kernel
  · rw [search_of_judged valid (asked _) long first]
    decide +kernel

end Calibration

end TaskTiming
