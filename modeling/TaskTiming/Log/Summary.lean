import TaskTiming.Log.Reader
import TaskTiming.Measure

/-!
# Log summaries

The response times of a log's samples and, for a periodic task, how late its jobs started. Releases
are not logged: the first sample belongs to the latest release at or before its start, and every
further sample to the release one period later.
-/

namespace TaskTiming.Log
set_option autoImplicit false

/-- The index of the latest release at or before `start`, counted from zero. -/
def releaseOrdinal (first period start : Time) : UInt64 :=
  if period.isZero then 0
  else if start ≤ first then 0
  else (Word.ofNat? ((start.subClamped first).toNanos / period.toNanos)).getD Word.max64

/-- The index is a quotient of nanoseconds, or the largest word. -/
theorem toNat_releaseOrdinal_eq (first period start : Time) :
    (releaseOrdinal first period start).toNat =
      min ((start.toNanos - first.toNanos) / period.toNanos) Word.max64.toNat := by
  unfold releaseOrdinal
  by_cases none : period.isZero = true
  · rw [if_pos none, Time.isZero_iff_toNanos.1 none, Nat.div_zero, Nat.zero_min]
    rfl
  · rw [if_neg none]
    by_cases early : start ≤ first
    · rw [if_pos early, Nat.sub_eq_zero_of_le (Time.le_iff_toNanos.1 early), Nat.zero_div, Nat.zero_min]
      rfl
    · rw [if_neg early, ← Time.toNanos_subClamped]
      exact Word.toNat_getD_ofNat? _

structure Summary where
  samples : Nat
  misses : Nat
  response : Measure
  lateness : Measure

/-- A summary on its way through a log: the release of the next sample is known after the first. -/
structure Summary.Partial where
  summary : Summary
  nextRelease : Option Time

namespace Summary

def empty : Summary := { samples := 0, misses := 0, response := .empty, lateness := .empty }

def start : Partial := { summary := empty, nextRelease := none }

/-- One more sample of a periodic task: it misses its deadline if it finishes later than that after
its release. -/
def addPeriodic (h : Header) (p : Partial) (s : Sample) : Partial :=
  let first := h.t0 + h.offset
  let release := p.nextRelease.getD (first + h.period * releaseOrdinal first h.period s.start)
  let missed : Bool := release + h.deadline < s.finish
  { nextRelease := some (release + h.period)
    summary := {
      samples := p.summary.samples + 1
      misses := p.summary.misses + missed.toNat
      response := p.summary.response.record s.responseTime
      lateness := p.summary.lateness.record (s.start.subClamped release) } }

/-- One more sample of an aperiodic task: its release is not known, so its response time is judged. -/
def addAperiodic (h : Header) (p : Partial) (s : Sample) : Partial :=
  let missed : Bool := h.deadline < s.responseTime
  { p with
    summary := {
      p.summary with
      samples := p.summary.samples + 1
      misses := p.summary.misses + missed.toNat
      response := p.summary.response.record s.responseTime } }

def add (h : Header) (p : Partial) (s : Sample) : Partial :=
  match h.release with
  | .periodic => addPeriodic h p s
  | .aperiodic => addAperiodic h p s

end Summary

/-- The summary of the samples that are left. -/
def Reader.summarize (r : Reader) : Result Summary :=
  (r.fold (Summary.add r.header) Summary.start).1.map (·.summary)

end TaskTiming.Log
