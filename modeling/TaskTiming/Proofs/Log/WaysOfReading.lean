import TaskTiming.Proofs.Log.Pieces
import TaskTiming.Proofs.Log.SummaryOfReleases

/-!
# Ways of reading a log

The samples that are left can be asked for one by one, iterated over, read all at once or summed up. All
of these go through the same calls, and what the calls answer up to the first end or error decides what
each of them comes to (`Yields.fold`). So they agree on the samples, on whether there is an error, and on
which (`ways_of_reading_agree`).
-/

namespace TaskTiming.Log
set_option autoImplicit false

namespace Reader

/-- What an iteration makes of an answer: nothing at the end of the log. -/
def yielded : Result (Option Sample) → Option (Result Sample)
  | .ok none => none
  | .ok (some s) => some (.ok s)
  | .error e => some (.error e)

/-- One step of an iteration. -/
def step (r : Reader) : Option (Result Sample) × Reader := (yielded r.next.1, r.next.2)

/-- What an iteration yields after `k` other items. -/
def item : Nat → Reader → Option (Result Sample)
  | 0, r => r.step.1
  | k + 1, r => r.step.2.item k

/-- An iteration yields these samples, and then ends or yields an error. -/
structure Yields (r : Reader) (samples : List Sample) (last : Option Error) : Prop where
  each : ∀ (k : Nat) (s : Sample), samples[k]? = some s → r.item k = some (.ok s)
  behind : r.item samples.length = last.map .error

/-- A value that was come to when an iteration ended, or the error in its place. -/
def ended {α : Type} (a : α) : Option Error → Result α
  | none => .ok a
  | some e => .error e

variable {r : Reader} {samples : List Sample} {last : Option Error}

/-- An iteration asks by the same calls. -/
theorem item_eq (r : Reader) (k : Nat) : r.item k = yielded (r.answer k) := by
  induction k generalizing r with
  | zero => rfl
  | succ k ih => exact ih r.next.2

theorem yielded_eq_sample {answer : Result (Option Sample)} {s : Sample} :
    yielded answer = some (.ok s) ↔ answer = .ok (some s) := by
  unfold yielded
  split <;> simp

theorem yielded_eq_last {answer : Result (Option Sample)} :
    yielded answer = last.map .error ↔ answer = ended none last := by
  unfold yielded
  cases last <;> split <;> simp [ended]

/-- The answers decide what an iteration yields. -/
theorem yields_iff : r.Yields samples last ↔
    (∀ (k : Nat) (s : Sample), samples[k]? = some s → r.answer k = .ok (some s)) ∧
      r.answer samples.length = ended none last := by
  constructor
  · rintro ⟨each, behind⟩
    simp only [item_eq, yielded_eq_sample, yielded_eq_last] at each behind
    exact ⟨each, behind⟩
  · rintro ⟨each, behind⟩
    simp only [← yielded_eq_sample, ← yielded_eq_last, ← item_eq] at each behind
    exact ⟨each, behind⟩

theorem yields_nil_iff : r.Yields [] last ↔ r.next.1 = ended none last := by
  rw [yields_iff]
  exact ⟨fun yields => yields.2, fun first => ⟨fun k s none => (by cases none), first⟩⟩

theorem yields_cons_iff {s : Sample} :
    r.Yields (s :: samples) last ↔ r.next.1 = .ok (some s) ∧ r.next.2.Yields samples last := by
  rw [yields_iff, yields_iff]
  constructor
  · rintro ⟨each, behind⟩
    exact ⟨each 0 s rfl, fun k t here => each (k + 1) t here, behind⟩
  · rintro ⟨first, each, behind⟩
    refine ⟨fun k t here => ?_, behind⟩
    match k with
    | 0 =>
      cases here
      exact first
    | k + 1 => exact each k t here

/-- An iteration ends or yields an error at some point, as a sample comes off the bytes each time. -/
theorem exists_yields (r : Reader) : ∃ samples last, r.Yields samples last := by
  induction left : r.source.size using Nat.strongRecOn generalizing r with
  | _ n ih =>
    subst left
    match call : r.next with
    | (.error e, r') =>
      exact ⟨[], some e, yields_nil_iff.2 (congrArg Prod.fst call)⟩
    | (.ok none, r') =>
      exact ⟨[], none, yields_nil_iff.2 (congrArg Prod.fst call)⟩
    | (.ok (some s), r') =>
      obtain ⟨samples, last, rest⟩ := ih _ (size_next call) r' rfl
      refine ⟨s :: samples, last, yields_cons_iff.2 ?_⟩
      rw [call]
      exact ⟨rfl, rest⟩

/-- **A fold does what an iteration yields**: it goes over the samples, and fails with the error behind
them. -/
theorem Yields.fold {α : Type} (yields : r.Yields samples last) (f : α → Sample → α) (a : α) :
    (r.fold f a).1 = ended (samples.foldl f a) last := by
  induction samples generalizing r a with
  | nil =>
    rw [fold_of_next, ← Prod.eta r.next, yields_nil_iff.1 yields]
    cases last <;> rfl
  | cons s samples ih =>
    obtain ⟨first, rest⟩ := yields_cons_iff.1 yields
    rw [fold_of_next, ← Prod.eta r.next, first]
    exact ih rest (f a s)

theorem Yields.readAll (yields : r.Yields samples last) : r.readAll = ended samples last := by
  show Except.map List.reverse (r.fold (fun samples s => s :: samples) []).1 = _
  rw [yields.fold]
  cases last <;> simp [ended, Except.map]

theorem readAll_eq_ok_iff : r.readAll = .ok samples ↔ r.Yields samples none := by
  constructor
  · intro all
    obtain ⟨samples', last, yields⟩ := r.exists_yields
    rw [yields.readAll] at all
    cases last with
    | none =>
      cases all
      exact yields
    | some e => cases all
  · intro yields
    exact yields.readAll

theorem readAll_eq_error_iff {e : Error} :
    r.readAll = .error e ↔ ∃ samples, r.Yields samples (some e) := by
  constructor
  · intro failed
    obtain ⟨samples, last, yields⟩ := r.exists_yields
    rw [yields.readAll] at failed
    cases last with
    | none => cases failed
    | some e' =>
      cases failed
      exact ⟨samples, yields⟩
  · rintro ⟨samples, yields⟩
    exact yields.readAll

/-- Summing up fails as reading does. -/
theorem summarize_of_readAll (r : Reader) :
    r.summarize = r.readAll.map fun samples =>
      (samples.foldl (Summary.add r.header) Summary.start).summary := by
  rw [summarize, fold_eq]
  cases r.readAll <;> rfl

/-- A sample that is read did not finish before it started. -/
theorem start_le_finish {s : Sample} (read : r.next.1 = .ok (some s)) : s.start ≤ s.finish := by
  unfold next at read
  split at read
  · cases read
  · cases read
  · split at read
    case isFalse => cases read
    case isTrue bytes _ _ _ _ =>
      unfold decodeSample at read
      cases start : decodeInstant (bytes.take 16) with
      | error e =>
        rw [start] at read
        cases read
      | ok first =>
        cases finish : decodeInstant (bytes.drop 16) with
        | error e =>
          rw [start, finish] at read
          cases read
        | ok second =>
          rw [start, finish] at read
          change (if second < first then _ else _ : Result Sample).map some = _ at read
          by_cases early : second < first
          · rw [if_pos early] at read
            cases read
          · rw [if_neg early] at read
            cases read
            rw [Time.lt_iff_toNanos] at early
            rw [Time.le_iff_toNanos]
            exact Nat.not_lt.1 early

theorem Yields.start_le_finish (yields : r.Yields samples last) : ∀ s ∈ samples, s.start ≤ s.finish := by
  induction samples generalizing r with
  | nil => exact List.forall_mem_nil _
  | cons s samples ih =>
    obtain ⟨first, rest⟩ := yields_cons_iff.1 yields
    exact List.forall_mem_cons.2 ⟨Reader.start_le_finish first, ih rest⟩

end Reader

/-! ## Summaries -/

/-- How long a job took, in nanoseconds. -/
def responseNanos (s : Sample) : Nat := s.finish.toNanos - s.start.toNanos

/-- What a summary says of these samples without their releases. -/
structure Summary.Describes (summary : Summary) (h : Header) (samples : List Sample) : Prop where
  count : summary.samples = samples.length
  response : summary.response.Tells ((samples.map responseNanos).take Word.max64.toNat)
  /-- Each start of a periodic task is judged, and none of an aperiodic one. -/
  lateness : summary.lateness.count = if h.release = .periodic then summary.response.count else 0
  missesLe : summary.misses ≤ samples.length
  misses : h.release = .aperiodic →
    summary.misses = samples.countP fun s => h.deadline.toNanos < responseNanos s

namespace Summary.Partial

/-- A summary on its way through a log has counted these samples. -/
structure Counts (p : Partial) (h : Header) (samples : List Sample) : Prop where
  count : p.summary.samples = samples.length
  response : p.summary.response = Measure.empty.recordAll (samples.map Sample.responseTime)
  lateness : ∃ values : List Time, p.summary.lateness = Measure.empty.recordAll values ∧
    values.length = if h.release = .periodic then samples.length else 0
  missesLe : p.summary.misses ≤ samples.length
  misses : h.release = .aperiodic →
    p.summary.misses = samples.countP fun s => h.deadline.toNanos < responseNanos s

variable {p : Partial} {h : Header} {samples : List Sample}

theorem counts_start (h : Header) : start.Counts h [] where
  count := rfl
  response := rfl
  lateness := ⟨[], rfl, by split <;> rfl⟩
  missesLe := Nat.le_refl 0
  misses _ := rfl

/-- One more sample is counted as well. -/
theorem Counts.add (counts : p.Counts h samples) (s : Sample) : (add h p s).Counts h (samples ++ [s]) := by
  obtain ⟨values, recorded, length⟩ := counts.lateness
  have more := counts.count
  have few := counts.missesLe
  have response : p.summary.response.record s.responseTime =
      Measure.empty.recordAll ((samples ++ [s]).map Sample.responseTime) := by
    rw [List.map_append, List.map_singleton, Measure.recordAll_snoc, counts.response]
  unfold Summary.add
  cases release : h.release with
  | periodic =>
    rw [if_pos release] at length
    refine ⟨?_, response, ⟨values ++ [s.start.subClamped (p.release h s)], ?_, ?_⟩, ?_, ?_⟩
    · simp [addPeriodic, more]
    · rw [Measure.recordAll_snoc, ← recorded]
      rfl
    · simp [release, length]
    · rw [List.length_append, List.length_singleton]
      exact Nat.add_le_add few (Bool.toNat_le _)
    · intro aperiodic
      rw [release] at aperiodic
      cases aperiodic
  | aperiodic =>
    refine ⟨?_, response, ⟨values, recorded, ?_⟩, ?_, fun _ => ?_⟩
    · simp [addAperiodic, more]
    · simpa [release] using length
    · rw [List.length_append, List.length_singleton]
      exact Nat.add_le_add few (Bool.toNat_le _)
    · have missed : decide (h.deadline < s.responseTime) = decide (h.deadline.toNanos < responseNanos s) := by
        rw [decide_eq_decide, Time.lt_iff_toNanos, Sample.responseTime, Time.toNanos_subClamped,
          responseNanos]
      rw [List.countP_append, List.countP_singleton, ← counts.misses release, ← missed]
      show p.summary.misses + (decide (h.deadline < s.responseTime)).toNat = _
      cases decide (h.deadline < s.responseTime) <;> rfl

theorem Counts.addAll (counts : p.Counts h samples) (more : List Sample) :
    (more.foldl (Summary.add h) p).Counts h (samples ++ more) := by
  induction more generalizing p samples with
  | nil =>
    rw [List.append_nil]
    exact counts
  | cons s more ih =>
    have later := ih (counts.add s)
    rwa [List.append_assoc] at later

theorem Counts.describes (counts : p.Counts h samples) : p.summary.Describes h samples := by
  obtain ⟨values, recorded, length⟩ := counts.lateness
  have nanos : (samples.map Sample.responseTime).map Time.toNanos = samples.map responseNanos := by
    rw [List.map_map]
    exact List.map_congr_left fun s _ => Time.toNanos_subClamped _ _
  have response := Measure.recordAll_tells (samples.map Sample.responseTime)
  rw [← counts.response, nanos] at response
  have lateness := (Measure.recordAll_tells values).count
  rw [← recorded, List.length_take, List.length_map, length] at lateness
  refine ⟨counts.count, response, ?_, counts.missesLe, counts.misses⟩
  rw [← UInt64.toNat_inj, lateness]
  by_cases release : h.release = .periodic
  · rw [if_pos release, if_pos release, response.count, List.length_take, List.length_map]
  · rw [if_neg release, if_neg release, Nat.min_zero]
    rfl

end Summary.Partial

/-! ## Agreement -/

/-- Reading, iterating and summing up what is left of a log come to the same. -/
structure Reader.WaysAgree (r : Reader) : Prop where
  /-- All samples are read if an iteration yields them and no error up to its end, -/
  reads : ∀ samples, r.readAll = .ok samples ↔ r.Yields samples none
  /-- and else the error that it yields first is answered. -/
  fails : ∀ e, r.readAll = .error e ↔ ∃ samples, r.Yields samples (some e)
  summarizes : (∃ summary, r.summarize = .ok summary) ↔ ∃ samples, r.readAll = .ok samples
  summaryFails : ∀ e, r.summarize = .error e ↔ ∃ samples, r.Yields samples (some e)
  /-- A summary is that of the samples that are read. -/
  describes : ∀ samples summary, r.readAll = .ok samples → r.summarize = .ok summary →
    (∀ s ∈ samples, s.start ≤ s.finish) ∧ summary.Describes r.header samples

/-- **All ways of reading agree**, whatever the source is and however many calls went before. -/
theorem ways_of_reading_agree (r : Reader) (n : Nat) : (r.skip n).WaysAgree ∧ (r.skip n).header = r.header := by
  refine ⟨?_, r.header_skip n⟩
  generalize r.skip n = r
  refine ⟨fun _ => Reader.readAll_eq_ok_iff, fun _ => Reader.readAll_eq_error_iff, ?_, ?_, ?_⟩
  · rw [r.summarize_of_readAll]
    cases r.readAll <;> simp [Except.map]
  · intro e
    rw [← Reader.readAll_eq_error_iff, r.summarize_of_readAll]
    cases r.readAll <;> simp [Except.map]
  · intro samples summary all summarized
    rw [r.summarize_of_readAll, all] at summarized
    cases summarized
    exact ⟨(Reader.readAll_eq_ok_iff.1 all).start_le_finish,
      ((Summary.Partial.counts_start r.header).addAll samples).describes⟩

end TaskTiming.Log
