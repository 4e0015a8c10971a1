import TaskTiming.Overheads.Measurement
import TaskTiming.Proofs.Time.Exactness

/-!
# Two jobs back to back

A round of a measurement keeps the samples of its first two jobs. It comes to how late the first one started and
how long the second one took to start behind it. Both are differences of instants, and a clock that goes back can
make either negative: such a round is refused, and so is one whose sum is beyond the longest time. Any other
round comes to the exact sum (`round_is_settled_by_first_two`).
-/

namespace TaskTiming.Overheads
set_option autoImplicit false

/-- How late the first job started, and how long the second one took from its finish, in nanoseconds. -/
def exactOverhead (intended : Time) (first second : Sample) : Int :=
  ((first.start.toNanos : Int) - intended.toNanos) + (second.start.toNanos - first.finish.toNanos)

/-- The first job did not start before its release, nor the second one before the first one finished. -/
def InTurn (intended : Time) (first second : Sample) : Prop :=
  intended ≤ first.start ∧ first.finish ≤ second.start

instance (intended : Time) (first second : Sample) : Decidable (InTurn intended first second) :=
  inferInstanceAs (Decidable (_ ∧ _))

variable {intended : Time} {first second : Sample} {round other : SampleArray 2}

theorem not_inTurn_iff :
    ¬InTurn intended first second ↔ first.start < intended ∨ second.start < first.finish := by
  rw [InTurn, ← Time.not_lt, ← Time.not_lt]
  exact Decidable.or_iff_not_not_and_not.symm

/-! ## What is read of a round -/

/-- Nothing but the samples of a round is read. -/
theorem backToBackOverhead_congr (same : other.samples = round.samples) :
    backToBackOverhead intended other = backToBackOverhead intended round := by
  unfold backToBackOverhead
  rw [same]

/-- Of the samples that are offered the first two are kept. -/
theorem samples_recorded (samples : List Sample) :
    (SampleArray.empty.recordAll samples : SampleArray 2).samples = samples.take 2 :=
  SampleArray.empty.samples_recordAll samples

theorem backToBackOverhead_of_few (few : round.samples.length < 2) :
    backToBackOverhead intended round = .error (.calibration .roundIncomplete) := by
  unfold backToBackOverhead
  match round.samples, few with
  | [], _ => rfl
  | [_], _ => rfl

/-! ## Two samples -/

/-- A difference that would be negative is refused. -/
theorem backToBackOverhead_of_not_inTurn (pair : round.samples = [first, second])
    (untimely : ¬InTurn intended first second) : backToBackOverhead intended round = .error .underflow := by
  rw [not_inTurn_iff] at untimely
  unfold backToBackOverhead
  by_cases ahead : first.start < intended
  · simp only [pair, Time.sub?_of_lt ahead]
    rfl
  · simp only [pair, Time.sub?_of_le (Time.not_lt.1 ahead), Time.sub?_of_lt (untimely.resolve_left ahead)]
    rfl

/-- Behind the differences only the sum is checked. -/
theorem backToBackOverhead_of_inTurn (pair : round.samples = [first, second])
    (inTurn : InTurn intended first second) : backToBackOverhead intended round =
      Result.ofTime ((first.start.subClamped intended).add? (second.start.subClamped first.finish)) := by
  unfold backToBackOverhead
  simp only [pair, Time.sub?_of_le inTurn.1, Time.sub?_of_le inTurn.2]
  rfl

theorem exactOverhead_nonneg (inTurn : InTurn intended first second) :
    0 ≤ exactOverhead intended first second := by
  rw [InTurn, Time.le_iff_toNanos, Time.le_iff_toNanos] at inTurn
  unfold exactOverhead
  omega

/-- Neither difference is clamped, so their sum is the exact one. -/
theorem exact_sum (inTurn : InTurn intended first second) :
    Time.Exact ((first.start.subClamped intended).add? (second.start.subClamped first.finish))
      (exactOverhead intended first second) := by
  have same : exactOverhead intended first second = (first.start.subClamped intended).toNanos +
      (second.start.subClamped first.finish).toNanos := by
    rw [InTurn, Time.le_iff_toNanos, Time.le_iff_toNanos] at inTurn
    rw [exactOverhead, Time.toNanos_subClamped, Time.toNanos_subClamped]
    omega
  rw [same]
  exact Time.exact_add? _ _

/-- Of the time from the release to the second start, the response time of the first job is no overhead. -/
theorem exactOverhead_eq (intended : Time) (second : Sample) (forward : first.start ≤ first.finish) :
    exactOverhead intended first second =
      ((second.start.toNanos : Int) - intended.toNanos) - first.responseTime.toNanos := by
  rw [Time.le_iff_toNanos] at forward
  rw [exactOverhead, Sample.responseTime, Time.toNanos_subClamped]
  omega

/-- What a round of two jobs comes to. -/
structure Settled (overhead : Result Time) (intended : Time) (first second : Sample) : Prop where
  underflow : overhead = .error .underflow ↔ first.start < intended ∨ second.start < first.finish
  overflow : InTurn intended first second →
    (overhead = .error .overflow ↔ (Time.max.toNanos : Int) < exactOverhead intended first second)
  time : InTurn intended first second → exactOverhead intended first second ≤ Time.max.toNanos →
    ∃ t, overhead = .ok t ∧ (t.toNanos : Int) = exactOverhead intended first second
  /-- Unless the first job finished before it started, the time from the release to the second start is
  counted, less its response time. -/
  lessResponse : InTurn intended first second → first.start ≤ first.finish →
    ∃ t, overhead = .ok t ∧
      (t.toNanos : Int) = ((second.start.toNanos : Int) - intended.toNanos) - first.responseTime.toNanos

theorem settled_of_not_inTurn (untimely : ¬InTurn intended first second) :
    Settled (.error .underflow) intended first second where
  underflow := iff_of_true rfl (not_inTurn_iff.1 untimely)
  overflow inTurn := absurd inTurn untimely
  time inTurn := absurd inTurn untimely
  lessResponse inTurn := absurd inTurn untimely

theorem settled_of_inTurn (inTurn : InTurn intended first second) :
    Settled (Result.ofTime ((first.start.subClamped intended).add? (second.start.subClamped first.finish)))
      intended first second := by
  have sum := exact_sum inTurn
  have nonneg := exactOverhead_nonneg inTurn
  have time (fits : exactOverhead intended first second ≤ Time.max.toNanos) : ∃ t,
      Result.ofTime ((first.start.subClamped intended).add? (second.start.subClamped first.finish)) = .ok t ∧
        (t.toNanos : Int) = exactOverhead intended first second := by
    obtain ⟨t, found, same⟩ := sum.exists_time nonneg fits
    exact ⟨t, Result.ofTime_eq_ok_iff.2 found, same⟩
  refine ⟨iff_of_false (fun refused => ?_) ?_, fun _ => ?_, fun _ => time, fun _ forward => ?_⟩
  · have negative := sum.underflow.1 (Result.ofTime_eq_error_iff.1 refused)
    omega
  · exact fun untimely => not_inTurn_iff.2 untimely inTurn
  · exact Result.ofTime_eq_error_iff.trans sum.overflow
  · have most := second.start.toNanos_le_max
    have all := exactOverhead_eq intended second forward
    rw [← all]
    exact time (by omega)

theorem settled_of_pair (pair : round.samples = [first, second]) :
    Settled (backToBackOverhead intended round) intended first second := by
  by_cases inTurn : InTurn intended first second
  · rw [backToBackOverhead_of_inTurn pair inTurn]
    exact settled_of_inTurn inTurn
  · rw [backToBackOverhead_of_not_inTurn pair inTurn]
    exact settled_of_not_inTurn inTurn

/-- A round of two jobs is complete. -/
theorem Settled.complete {overhead : Result Time} (settled : Settled overhead intended first second) :
    overhead ≠ .error (.calibration .roundIncomplete) := by
  rintro rfl
  by_cases inTurn : InTurn intended first second
  · rcases Int.lt_or_le Time.max.toNanos (exactOverhead intended first second) with large | fits
    · cases (settled.overflow inTurn).2 large
    · obtain ⟨t, found, -⟩ := settled.time inTurn fits
      cases found
  · cases settled.underflow.2 (not_inTurn_iff.1 inTurn)

/-- **A round is settled by its first two samples.** With fewer samples it is incomplete. With two or more, it
is refused if one of the two jobs started too early, or if the sum is beyond the longest time, and comes to the
exact sum otherwise; samples that are recorded after the second one change nothing. -/
theorem round_is_settled_by_first_two (intended : Time) (samples : List Sample) :
    let overhead := backToBackOverhead intended (SampleArray.empty.recordAll samples)
    (∀ others, others.take 2 = samples.take 2 →
      backToBackOverhead intended (SampleArray.empty.recordAll others) = overhead) ∧
    (overhead = .error (.calibration .roundIncomplete) ↔ samples.length < 2) ∧
    ∀ first second rest, samples = first :: second :: rest → Settled overhead intended first second := by
  intro overhead
  have settled : ∀ first second rest, samples = first :: second :: rest →
      Settled overhead intended first second := by
    rintro first second rest rfl
    exact settled_of_pair (samples_recorded _)
  refine ⟨fun others same => ?_, ⟨fun incomplete => ?_, fun few => ?_⟩, settled⟩
  · apply backToBackOverhead_congr
    rw [samples_recorded, samples_recorded, same]
  · match samples with
    | [] => exact Nat.zero_lt_two
    | [_] => exact Nat.one_lt_two
    | first :: second :: rest => exact absurd incomplete (settled first second rest rfl).complete
  · apply backToBackOverhead_of_few
    rw [samples_recorded, List.length_take]
    omega

/-- Released at 100 µs, two jobs are 3 µs late and 4 µs apart, whatever is recorded after them. Behind a job
that started at the longest time and finished at zero, the sum is too large. -/
theorem round_is_settled_by_first_two_back :
    let first : Sample := ⟨.ofMicros 103, .ofMicros 110⟩
    let second : Sample := ⟨.ofMicros 114, .ofMicros 120⟩
    let back : Sample := ⟨.max, .zero⟩
    (InTurn (.ofMicros 100) first second ∧ first.start ≤ first.finish) ∧
    (∃ t, backToBackOverhead (.ofMicros 100) (SampleArray.empty.recordAll [first, second, back]) = .ok t ∧
      (t.toNanos : Int) = 7000) ∧
    (InTurn .zero back second ∧ (Time.max.toNanos : Int) < exactOverhead .zero back second) ∧
    backToBackOverhead .zero (SampleArray.empty.recordAll [back, second]) = .error .overflow := by
  intro first second back
  have inTurn : InTurn (.ofMicros 100) first second := by decide
  have inTurn' : InTurn .zero back second := by decide
  have forward : first.start ≤ first.finish := by decide
  have large : (Time.max.toNanos : Int) < exactOverhead .zero back second := by
    have zero : Time.zero.toNanos = 0 := rfl
    have start : (Time.ofMicros 114).toNanos = 114000 := by decide
    show (Time.max.toNanos : Int) <
      (Time.max.toNanos - Time.zero.toNanos) + ((Time.ofMicros 114).toNanos - Time.zero.toNanos)
    rw [zero, start]
    omega
  obtain ⟨-, -, counted⟩ := round_is_settled_by_first_two (.ofMicros 100) [first, second, back]
  obtain ⟨-, -, refused⟩ := round_is_settled_by_first_two .zero [back, second]
  obtain ⟨t, found, rest⟩ := (counted _ _ _ rfl).lessResponse inTurn forward
  exact ⟨⟨inTurn, forward⟩, ⟨t, found, rest.trans (by decide)⟩, ⟨inTurn', large⟩,
    ((refused _ _ _ rfl).overflow inTurn').2 large⟩

end TaskTiming.Overheads
