import TaskTiming.Store.Codec
import TaskTiming.Proofs.Json.Decoding

/-!
# The parts of a store in JSON

Overheads, calibrations and what is known of a CPU are each read back from the object that they are written
as (`Overheads.reads_toJson`, `Calibration.reads_toJson`, `CpuRecord.reads_toJson`): every part as it was, and
a part that is not known not known again.
-/

namespace TaskTiming
set_option autoImplicit false
open Json (Decoder Schema)
open Json.Decoder

/-- An object is no `null`. -/
theorem Json.Decoder.reads_known {α : Type} {d : Decoder α} {members : List (String × Json)} {a : α}
    (reads : d.Reads (.object members) a) : (nullable d).Reads (.object members) (some a) := by
  apply reads.nullable
  · rw [Json.tokens]
    rfl
  · intro null
    cases null

namespace Overheads

/-- What is written for each field. -/
def entries (o : Overheads) : List (Schema.Entry Overheads) := [
  ⟨"job_stats", .ofTime o.jobStats, fun r => { r with jobStats := o.jobStats }⟩,
  ⟨"finish_to_start", .ofTime o.finishToStart, fun r => { r with finishToStart := o.finishToStart }⟩]

theorem writes_entries (o : Overheads) : ∀ e ∈ o.entries, schema.Writes e := by
  intro e mem
  simp only [entries, List.mem_cons, List.not_mem_nil, or_false] at mem
  rcases mem with rfl | rfl
  · exact ⟨_, rfl, (reads_time o.jobStats).map _⟩
  · exact ⟨_, rfl, (reads_time o.finishToStart).map _⟩

/-- **Overheads are read back.** -/
theorem reads_toJson (o : Overheads) : schema.read.Reads o.toJson o := by
  have named : o.entries.map Schema.Entry.name = ["job_stats", "finish_to_start"] := rfl
  apply Schema.reads_written o.writes_entries named
  · decide
  · decide

end Overheads

namespace Calibration

def entries (c : Calibration) : List (Schema.Entry Calibration) := [
  ⟨"cpu", .ofNat c.cpu.toNat, fun r => { r with cpu := c.cpu }⟩,
  ⟨"frequency_hz", .ofOption (fun n => .ofNat n.toNat) c.frequency,
    fun r => { r with frequency := c.frequency }⟩,
  ⟨"iterations", .ofNat c.iterations.toNat, fun r => { r with iterations := c.iterations }⟩,
  ⟨"target", .ofTime c.target, fun r => { r with target := c.target }⟩,
  ⟨"tolerance", .ofTime c.tolerance, fun r => { r with tolerance := c.tolerance }⟩]

/-- A word that may be unknown is `null` where it is. -/
theorem reads_frequency (frequency : Option UInt64) :
    (nullable uint64).Reads (.ofOption (fun n => .ofNat n.toNat) frequency) frequency := by
  cases frequency with
  | none => exact reads_null uint64
  | some n =>
    apply (reads_uint64 n).nullable rfl
    intro null
    cases null

theorem writes_entries (c : Calibration) : ∀ e ∈ c.entries, schema.Writes e := by
  intro e mem
  simp only [entries, List.mem_cons, List.not_mem_nil, or_false] at mem
  rcases mem with rfl | rfl | rfl | rfl | rfl
  · exact ⟨_, rfl, (reads_uint64 c.cpu).map _⟩
  · exact ⟨_, rfl, (reads_frequency c.frequency).map _⟩
  · exact ⟨_, rfl, (reads_uint64 c.iterations).map _⟩
  · exact ⟨_, rfl, (reads_time c.target).map _⟩
  · exact ⟨_, rfl, (reads_time c.tolerance).map _⟩

/-- **A calibration is read back.** -/
theorem reads_toJson (c : Calibration) : schema.read.Reads c.toJson c := by
  have named : c.entries.map Schema.Entry.name = ["cpu", "frequency_hz", "iterations", "target", "tolerance"] :=
    rfl
  apply Schema.reads_written c.writes_entries named
  · decide
  · decide

end Calibration

namespace CpuRecord

/-- What is written for a part, if it is known. -/
def entry {α : Type} (name : String) (write : α → Json) (put : Option α → CpuRecord → CpuRecord)
    (part : Option α) : List (Schema.Entry CpuRecord) :=
  (part.map fun a => ⟨name, write a, put (some a)⟩).toList

def entries (r : CpuRecord) : List (Schema.Entry CpuRecord) :=
  entry "busyloop" Calibration.toJson (fun c s => { s with busyloop := c }) r.busyloop ++
    entry "periodic_overheads" Overheads.toJson (fun o s => { s with periodicOverheads := o }) r.periodicOverheads ++
    entry "aperiodic_overheads" Overheads.toJson (fun o s => { s with aperiodicOverheads := o })
      r.aperiodicOverheads

theorem mem_entry {α : Type} {name : String} {write : α → Json} {put : Option α → CpuRecord → CpuRecord}
    {part : Option α} {e : Schema.Entry CpuRecord} (mem : e ∈ entry name write put part) :
    ∃ a, e = ⟨name, write a, put (some a)⟩ := by
  cases part with
  | none => cases mem
  | some a =>
    rw [entry, Option.map_some, Option.toList_some, List.mem_singleton] at mem
    exact ⟨a, mem⟩

theorem writes_entries (r : CpuRecord) : ∀ e ∈ r.entries, schema.Writes e := by
  intro e mem
  rw [entries, List.mem_append, List.mem_append] at mem
  rcases mem with (mem | mem) | mem
  · obtain ⟨c, rfl⟩ := mem_entry mem
    exact ⟨_, rfl, (reads_known c.reads_toJson).map _⟩
  · obtain ⟨o, rfl⟩ := mem_entry mem
    exact ⟨_, rfl, (reads_known o.reads_toJson).map _⟩
  · obtain ⟨o, rfl⟩ := mem_entry mem
    exact ⟨_, rfl, (reads_known o.reads_toJson).map _⟩

theorem toJson_eq (r : CpuRecord) : r.toJson = .object (Schema.written r.entries) := by
  obtain ⟨busyloop, periodic, aperiodic⟩ := r
  cases busyloop <;> cases periodic <;> cases aperiodic <;> rfl

theorem filled_entries (r : CpuRecord) : Schema.filled schema.blank r.entries = r := by
  obtain ⟨busyloop, periodic, aperiodic⟩ := r
  cases busyloop <;> cases periodic <;> cases aperiodic <;> rfl

/-- No part is written twice. -/
theorem nodup_entries (r : CpuRecord) : (r.entries.map Schema.Entry.name).Nodup := by
  obtain ⟨busyloop, periodic, aperiodic⟩ := r
  cases busyloop <;> cases periodic <;> cases aperiodic <;>
    simp [entries, entry]

/-- **What is known of a CPU is read back**, and what is not stays unknown. -/
theorem reads_toJson (r : CpuRecord) : schema.read.Reads r.toJson r := by
  have reads := Schema.reads_written r.writes_entries rfl r.nodup_entries (by
    intro field mem required
    simp only [schema, List.mem_cons, List.not_mem_nil, or_false] at mem
    rcases mem with rfl | rfl | rfl <;> cases required)
  rw [filled_entries, ← toJson_eq] at reads
  exact reads

end CpuRecord

end TaskTiming
