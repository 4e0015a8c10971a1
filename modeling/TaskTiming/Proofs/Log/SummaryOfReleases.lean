import TaskTiming.Proofs.Measured
import TaskTiming.Proofs.Log.LatestRelease
import TaskTiming.Proofs.Log.ReadBack
import TaskTiming.Proofs.Task.PeriodicRun

/-!
# Summaries and releases

A log does not say when its jobs were released. A summary finds the release of the first sample that is
left by a division, and goes on from it by additions; the loop that ran the jobs only ever added. Both
come to the same instants (`Header.releaseAt`), so a summary evaluates each sample against the release
of its own job, whatever was evicted from the ring or read before (`summary_follows_releases`).
-/

namespace TaskTiming.Log
set_option autoImplicit false

/-! ## Reading on -/

namespace Reader

variable {r r' : Reader}

/-- A fold does what the next answer says. -/
theorem fold_of_next {α : Type} (f : α → Sample → α) (a : α) (r : Reader) :
    r.fold f a = match r.next with
      | (.error e, r') => (.error e, r')
      | (.ok none, r') => (.ok a, r')
      | (.ok (some s), r') => r'.fold f (f a s) := by
  rw [fold]
  split <;> rename_i here <;> rw [here]

/-- What a fold comes to is settled by the answers, not by what is done with the samples. -/
theorem fold_settled (r : Reader) : ∃ outcome : Result (List Sample),
    ∀ {α : Type} (f : α → Sample → α) (a : α), (r.fold f a).1 = outcome.map (List.foldl f a) := by
  -- Induction on the bytes that are left, as a sample comes off them.
  induction left : r.source.size using Nat.strongRecOn generalizing r with
  | _ n ih =>
    subst left
    match call : r.next with
    | (.error e, r') => exact ⟨.error e, fun f a => by rw [fold_of_next, call]; rfl⟩
    | (.ok none, r') => exact ⟨.ok [], fun f a => by rw [fold_of_next, call]; rfl⟩
    | (.ok (some s), r') =>
      obtain ⟨outcome, settled⟩ := ih _ (size_next call) r' rfl
      refine ⟨outcome.map (s :: ·), fun f a => ?_⟩
      rw [fold_of_next, call]
      dsimp only
      rw [settled]
      cases outcome <;> rfl

/-- A fold goes over all samples that are left. -/
theorem fold_eq {α : Type} (f : α → Sample → α) (a : α) (r : Reader) :
    (r.fold f a).1 = r.readAll.map (List.foldl f a) := by
  obtain ⟨outcome, settled⟩ := r.fold_settled
  have all : r.readAll = outcome := by
    show Except.map List.reverse (r.fold (fun samples s => s :: samples) []).1 = outcome
    rw [settled]
    cases outcome <;> simp [Except.map]
  rw [settled, all]

/-- Where samples are left, a call takes the first of them. -/
theorem readAll_next {s : Sample} {rest : List Sample} (all : r.readAll = .ok (s :: rest)) :
    r.next.2.readAll = .ok rest := by
  change Except.map List.reverse (r.fold (fun samples s => s :: samples) []).1 = _ at all
  rw [fold_of_next] at all
  match call : r.next with
  | (.error e, r') =>
    rw [call] at all
    cases all
  | (.ok none, r') =>
    rw [call] at all
    cases all
  | (.ok (some first), r') =>
    rw [call] at all
    dsimp only at all
    rw [fold_eq] at all
    cases left : r'.readAll with
    | error e =>
      rw [left] at all
      cases all
    | ok others =>
      rw [left] at all
      simp [Except.map] at all
      rw [all.2]

theorem header_next (r : Reader) : r.next.2.header = r.header := by
  unfold next
  split <;> rfl

theorem header_skip (r : Reader) (n : Nat) : (r.skip n).header = r.header := by
  induction n generalizing r with
  | zero => rfl
  | succ n ih => exact (ih r.next.2).trans r.header_next

/-- After some of the samples the rest is left. -/
theorem readAll_skip {samples : List Sample} (all : r.readAll = .ok samples) {n : Nat}
    (few : n ≤ samples.length) : (r.skip n).readAll = .ok (samples.drop n) := by
  induction n generalizing r samples with
  | zero => exact all
  | succ n ih =>
    match samples, few with
    | s :: rest, few => exact ih (readAll_next all) (Nat.le_of_succ_le_succ few)

/-- Samples that were written are all read. -/
theorem Before.readAll {h : Header} {samples : List Sample} (here : r.Before h (records samples))
    (loggable : ∀ s ∈ samples, s.Loggable) : r.readAll = .ok samples := by
  show Except.map List.reverse (r.fold (fun samples s => s :: samples) []).1 = _
  rw [(here.fold_records loggable []).1]
  simp [Except.map]

end Reader

/-! ## Releases -/

namespace Header

/-- The release of the job at a position, in nanoseconds. -/
def releaseAt (h : Header) (i : Nat) : Nat := h.t0.toNanos + h.offset.toNanos + i * h.period.toNanos

theorem releaseAt_succ (h : Header) (i : Nat) : h.releaseAt (i + 1) = h.releaseAt i + h.period.toNanos := by
  rw [releaseAt, releaseAt, Nat.succ_mul]
  omega

theorem releaseAt_eq (h : Header) (i : Nat) : h.releaseAt i = h.releaseAt 0 + i * h.period.toNanos := by
  simp only [releaseAt]
  omega

/-- The job at a position, of which there is a sample, finishes later than its deadline. -/
def misses (h : Header) (job : Sample × Nat) : Bool :=
  h.releaseAt job.2 + h.deadline.toNanos < job.1.finish.toNanos

/-- How late that job starts, in nanoseconds. -/
def lateness (h : Header) (job : Sample × Nat) : Nat := job.1.start.toNanos - h.releaseAt job.2

/-- The first release is that of the job at position zero. -/
theorem toNanos_first {h : Header} (inside : h.releaseAt 0 ≤ Time.max.toNanos) :
    (h.t0 + h.offset).toNanos = h.releaseAt 0 := by
  have first : h.releaseAt 0 = h.t0.toNanos + h.offset.toNanos := by rw [releaseAt, Nat.zero_mul, Nat.add_zero]
  rw [Time.add_eq, Time.toNanos_ofNanosClamped, ← first]
  exact Nat.min_eq_left inside

end Header

/-! ## Evaluation -/

/-- What a summary says of jobs whose positions are known. -/
structure Summary.Evaluates (summary : Summary) (h : Header) (jobs : List (Sample × Nat)) : Prop where
  samples : summary.samples = jobs.length
  misses : summary.misses = jobs.countP h.misses
  lateness : summary.lateness.Tells ((jobs.map h.lateness).take Word.max64.toNat)

namespace Summary.Partial

/-- A summary on its way through a log has evaluated these jobs. -/
structure Stands (p : Partial) (h : Header) (jobs : List (Sample × Nat)) : Prop where
  samples : p.summary.samples = jobs.length
  misses : p.summary.misses = jobs.countP h.misses
  lateness : ∃ values : List Time, p.summary.lateness = Measure.empty.recordAll values ∧
    values.map Time.toNanos = jobs.map h.lateness

/-- The release that the next sample is taken to belong to. -/
def release (p : Partial) (h : Header) (s : Sample) : Time :=
  let first := h.t0 + h.offset
  p.nextRelease.getD (first + h.period * releaseOrdinal first h.period s.start)

variable {p : Partial} {h : Header} {jobs : List (Sample × Nat)} {s : Sample} {i : Nat}

theorem Stands.evaluates (stands : p.Stands h jobs) : p.summary.Evaluates h jobs := by
  obtain ⟨values, recorded, late⟩ := stands.lateness
  refine ⟨stands.samples, stands.misses, ?_⟩
  rw [recorded, ← late]
  exact Measure.recordAll_tells values

theorem stands_start (h : Header) : start.Stands h [] := ⟨rfl, rfl, [], rfl, rfl⟩

/-- **A sample that is taken to belong to its release is evaluated against it.** -/
theorem Stands.add (stands : p.Stands h jobs) (here : (p.release h s).toNanos = h.releaseAt i)
    (inside : h.releaseAt i + h.deadline.toNanos ≤ Time.max.toNanos) :
    (addPeriodic h p s).Stands h (jobs ++ [(s, i)]) := by
  obtain ⟨values, recorded, late⟩ := stands.lateness
  refine ⟨?_, ?_, values ++ [s.start.subClamped (p.release h s)], ?_, ?_⟩
  · rw [List.length_append, ← stands.samples]
    rfl
  · have due : (p.release h s + h.deadline).toNanos = h.releaseAt i + h.deadline.toNanos := by
      rw [Time.add_eq, Time.toNanos_ofNanosClamped, here]
      exact Nat.min_eq_left inside
    have missed : decide (p.release h s + h.deadline < s.finish) = h.misses (s, i) := by
      rw [Header.misses, decide_eq_decide, Time.lt_iff_toNanos, due]
    rw [List.countP_append, ← stands.misses, List.countP_singleton, ← missed]
    show p.summary.misses + (decide (p.release h s + h.deadline < s.finish)).toNat = _
    cases decide (p.release h s + h.deadline < s.finish) <;> rfl
  · rw [Measure.recordAll_snoc, ← recorded]
    rfl
  · rw [List.map_append, List.map_append, late, List.map_singleton, List.map_singleton,
      Time.toNanos_subClamped, here]
    rfl

/-- The next sample is taken to belong to the release one period later. -/
theorem release_add (here : (p.release h s).toNanos = h.releaseAt i)
    (inside : h.releaseAt (i + 1) ≤ Time.max.toNanos) (next : Sample) :
    ((addPeriodic h p s).release h next).toNanos = h.releaseAt (i + 1) := by
  show (p.release h s + h.period).toNanos = _
  rw [Time.add_eq, Time.toNanos_ofNanosClamped, here, ← Header.releaseAt_succ]
  exact Nat.min_eq_left inside

/-- The first sample is taken to belong to the release behind which it starts within a period. -/
theorem release_start (word : i < 2 ^ 64) (inside : h.releaseAt i ≤ Time.max.toNanos)
    (behind : h.releaseAt i ≤ s.start.toNanos) (before : s.start.toNanos < h.releaseAt (i + 1)) :
    (start.release h s).toNanos = h.releaseAt i := by
  have step := h.releaseAt_eq i
  have first : (h.t0 + h.offset).toNanos = h.releaseAt 0 := by
    apply Header.toNanos_first
    rw [step] at inside
    omega
  have ordinal : (releaseOrdinal (h.t0 + h.offset) h.period s.start).toNat = i := by
    apply toNat_releaseOrdinal word
    · rwa [first, ← step]
    · rwa [first, ← h.releaseAt_eq]
  show (h.t0 + h.offset + h.period * releaseOrdinal (h.t0 + h.offset) h.period s.start).toNanos = _
  rw [toNanos_release, first, ordinal, ← step]

/-- **All samples are evaluated against their releases**, if the first of them is. -/
theorem Stands.addAll {samples : List Sample} (stands : p.Stands h jobs)
    (here : ∀ s, samples.head? = some s → (p.release h s).toNanos = h.releaseAt i)
    (inside : ∀ j < samples.length, h.releaseAt (i + j) + h.deadline.toNanos ≤ Time.max.toNanos) :
    (samples.foldl (addPeriodic h) p).Stands h (jobs ++ samples.zipIdx i) := by
  induction samples generalizing p jobs i with
  | nil =>
    rw [List.zipIdx_nil, List.append_nil]
    exact stands
  | cons s rest ih =>
    have now := here s rfl
    have later := ih (stands.add now (inside 0 (Nat.succ_pos _))) (i := i + 1) ?_ ?_
    · rwa [List.append_assoc] at later
    · intro t next
      apply release_add now
      have fits := inside 1 ?_
      · omega
      · rw [List.length_cons]
        cases rest with
        | nil => cases next
        | cons => simp
    · intro j lt
      have fits := inside (j + 1) (Nat.succ_lt_succ lt)
      rwa [Nat.add_comm j, ← Nat.add_assoc] at fits

end Summary.Partial

/-- Dropping elements leaves the others at their positions. -/
theorem drop_zipIdx {α : Type} (l : List α) {k n : Nat} (few : n ≤ l.length) :
    (l.zipIdx k).drop n = (l.drop n).zipIdx (k + n) := by
  have length : (l.take n).length = n := List.length_take_of_le few
  have cut : (l.take n ++ l.drop n).zipIdx k = (l.take n).zipIdx k ++ (l.drop n).zipIdx (k + n) := by
    rw [List.zipIdx_append, length]
  rw [List.take_append_drop] at cut
  rw [cut]
  exact List.drop_left' (by rw [List.length_zipIdx, length])

/-- The summary of the samples that are left evaluates each against the release of its own job, if the first
one starts within a period behind its release. -/
theorem Reader.summarize_eq {r : Reader} (periodic : r.header.release = .periodic) {s : Sample}
    {rest : List Sample} (all : r.readAll = .ok (s :: rest)) {i : Nat} (word : i < 2 ^ 64)
    (behind : r.header.releaseAt i ≤ s.start.toNanos) (before : s.start.toNanos < r.header.releaseAt (i + 1))
    (inside : ∀ j < (s :: rest).length,
      r.header.releaseAt (i + j) + r.header.deadline.toNanos ≤ Time.max.toNanos) :
    ∃ summary, r.summarize = .ok summary ∧ summary.Evaluates r.header ((s :: rest).zipIdx i) := by
  have stands : ((s :: rest).foldl (Summary.addPeriodic r.header) Summary.start).Stands r.header
      ([] ++ (s :: rest).zipIdx i) := by
    apply (Summary.Partial.stands_start r.header).addAll _ inside
    intro t first
    cases first
    apply Summary.Partial.release_start word _ behind before
    have fits := inside 0 (Nat.succ_pos _)
    rw [Nat.add_zero] at fits
    omega
  have adds : Summary.add r.header = Summary.addPeriodic r.header := by
    funext p t
    rw [Summary.add, periodic]
  refine ⟨_, ?_, stands.evaluates⟩
  rw [Reader.summarize, Reader.fold_eq, all, adds]
  rfl

/-- What summaries of the samples of consecutive jobs from a position on come to. -/
structure SummariesFollow (h : Header) (k : Nat) (samples : List Sample) : Prop where
  /-- The releases are the instants that the loop of the task sleeps to. -/
  slept : ∀ {first : Time} {maxJobs : Option UInt64} {sink : Sink} {events : List Event} {l : Loop},
    h.t0.add? h.offset = .ok first → Run Loop.next (.periodic first h.period maxJobs sink) events l →
    ∀ (i : Nat) (instant : Time), (sleeps events)[i]? = some instant → instant.toNanos = h.releaseAt i
  /-- Whatever an overwriting ring has lost of the samples and whatever was read before, those that are left
  are evaluated each against its own release, if the first of them starts within a period behind its. -/
  evaluates : ∀ (r : Reader) (capacity skipped n : Nat) (s : Sample), r.header = h →
    r.readAll = .ok (OverrunPolicy.overwrite.kept capacity samples) →
    n = samples.length - capacity + skipped → samples[n]? = some s → k + n < 2 ^ 64 →
    h.releaseAt (k + n) ≤ s.start.toNanos → s.start.toNanos < h.releaseAt (k + n + 1) →
    ∃ summary, (r.skip skipped).summarize = .ok summary ∧
      summary.Evaluates h ((samples.zipIdx k).drop n)

/-- **Summaries follow the releases.** -/
theorem summary_follows_releases {h : Header} (periodic : h.release = .periodic) {k : Nat}
    {samples : List Sample} (inside : ∀ j < samples.length,
      h.releaseAt (k + j) + h.deadline.toNanos ≤ Time.max.toNanos) :
    SummariesFollow h k samples := by
  constructor
  · intro first maxJobs sink events l added run i instant here
    rw [Time.add?_eq, Time.ofNanos?_eq_ok] at added
    obtain ⟨slept, told⟩ := ((Loop.told_periodic first h.period maxJobs sink).run run).slept
    rw [List.nil_append] at told
    have there : (instants first h.period slept)[i]? = some instant.toNanos := by
      rw [← told, List.getElem?_map, here]
      rfl
    rw [← getElem?_instants there, added]
    rfl
  · rintro r capacity skipped n s rfl all rfl first word behind before
    have few : samples.length - capacity + skipped < samples.length := (List.getElem?_eq_some_iff.1 first).1
    have left := Reader.readAll_skip all (n := skipped) (by rw [OverrunPolicy.length_kept]; omega)
    rw [OverrunPolicy.kept, List.drop_drop] at left
    generalize samples.length - capacity + skipped = n at *
    obtain ⟨inRange, rfl⟩ := List.getElem?_eq_some_iff.1 first
    have cut : samples.drop n = samples[n] :: samples.drop (n + 1) := List.drop_eq_getElem_cons inRange
    rw [drop_zipIdx samples (Nat.le_of_lt few), cut]
    rw [cut] at left
    have header := r.header_skip skipped
    rw [← header] at periodic behind before inside ⊢
    apply Reader.summarize_eq periodic left word behind before
    intro j lt
    rw [← cut, List.length_drop] at lt
    rw [Nat.add_assoc]
    exact inside (n + j) (by omega)

/-- Of three jobs from position three on the first was evicted. The second starts nine seconds late and
misses its deadline, the third starts two seconds late. -/
theorem summary_follows_releases_evicted :
    let h : Header := {
      name := "tau", release := .periodic, statsDisabled := false, wcet := .ofSecs 1, period := .ofSecs 10
      deadline := .ofSecs 4, t0 := .ofSecs 95, offset := .ofSecs 5, overheads := .none }
    let samples : List Sample :=
      [⟨.ofSecs 131, .ofSecs 132⟩, ⟨.ofSecs 149, .ofSecs 151⟩, ⟨.ofSecs 152, .ofSecs 153⟩]
    let r : Reader := { header := h, source := .ofBytes (records (OverrunPolicy.overwrite.kept 2 samples)) }
    (∀ j < samples.length, h.releaseAt (3 + j) + h.deadline.toNanos ≤ Time.max.toNanos) ∧
      ∃ summary, r.summarize = .ok summary ∧ summary.samples = 2 ∧ summary.misses = 1 ∧
        summary.lateness.Tells [9000000000, 2000000000] := by
  intro h samples r
  have inside : ∀ j < samples.length, h.releaseAt (3 + j) + h.deadline.toNanos ≤ Time.max.toNanos := by
    decide
  have before : r.Before h (records (OverrunPolicy.overwrite.kept 2 samples)) :=
    ⟨rfl, Source.rest_ofBytes _, Source.ends_ofBytes _⟩
  have all := before.readAll (by decide)
  obtain ⟨summary, summarized, evaluates⟩ :=
    (summary_follows_releases rfl inside).evaluates r 2 0 1 ⟨.ofSecs 149, .ofSecs 151⟩ rfl all rfl rfl (by decide)
      (by decide) (by decide)
  have late : (((samples.zipIdx 3).drop 1).map h.lateness) = [9000000000, 2000000000] := by decide
  have tells := evaluates.lateness
  rw [late, List.take_of_length_le (by decide)] at tells
  exact ⟨inside, summary, summarized, evaluates.samples, evaluates.misses.trans (by decide), tells⟩

end TaskTiming.Log
