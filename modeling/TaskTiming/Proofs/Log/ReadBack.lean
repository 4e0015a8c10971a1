import TaskTiming.Log.Writer
import TaskTiming.Proofs.RingContents
import TaskTiming.Proofs.Log.HeaderCodec
import TaskTiming.Proofs.Log.RecordCodec

/-!
# Logs read back

A log that was written step by step, by single samples and by whole rings, is its header's bytes with one
record for each sample behind them (`Writer.enterAll_eq`). A reader of such bytes finds the header, then
those samples in that order, and then the end, which it does not leave again (`read_written_log`), however
its source cuts the bytes into pieces.
-/

namespace TaskTiming.Log
set_option autoImplicit false

/-! ## Reading -/

namespace Reader

/-- A reader of a log with that header has these bytes before it, and then the end. -/
structure Before (r : Reader) (h : Header) (bytes : List UInt8) : Prop where
  header : r.header = h
  rest : r.source.rest = bytes
  ends : r.source.Ends .eof

variable {r : Reader} {h : Header}

/-- A record is taken off the bytes and decoded. -/
theorem Before.next_record {record after : List UInt8} (here : r.Before h (record ++ after))
    (whole : record.length = recordSize) :
    r.next.1 = (decodeSample record).map some ∧ r.next.2.Before h after := by
  have fits : recordSize ≤ r.source.rest.length := by
    rw [here.rest, List.length_append]
    omega
  obtain ⟨taken, left⟩ := Source.take_of_le fits
  have ends := here.ends.take recordSize
  rw [here.rest, List.take_left' whole] at taken
  rw [here.rest, List.drop_left' whole] at left
  have some : record ≠ [] := by
    rintro rfl
    exact absurd whole (by decide)
  unfold next
  generalize r.source.take recordSize = answer at taken left ends
  obtain ⟨result, source⟩ := answer
  subst taken
  split
  · rename_i e; cases e
  · rename_i e; cases e; exact (some rfl).elim
  · rename_i bytes _ _ e
    cases e
    exact ⟨if_pos whole, here.header, left, ends⟩

/-- At the end a reader stays where it is. -/
theorem Before.next_end (here : r.Before h []) : r.next.1 = .ok none ∧ r.next.2.Before h [] := by
  have short : ¬recordSize ≤ r.source.rest.length := by rw [here.rest]; decide
  have taken := here.ends.take_eq recordSize
  have left := here.ends.take_rest recordSize
  have ends := here.ends.take recordSize
  rw [if_neg short, here.rest] at taken
  rw [here.rest, List.drop_nil] at left
  unfold next
  generalize r.source.take recordSize = answer at taken left ends
  obtain ⟨result, source⟩ := answer
  subst taken
  exact ⟨rfl, here.header, left, ends⟩

theorem Before.skip_end (here : r.Before h []) (n : Nat) : (r.skip n).Before h [] := by
  induction n generalizing r with
  | zero => exact here
  | succ n ih => exact ih here.next_end.2

end Reader

/-- The records of samples, one after the other. -/
def records (samples : List Sample) : List UInt8 := samples.flatMap recordBytes

theorem records_append (first second : List Sample) :
    records (first ++ second) = records first ++ records second := List.flatMap_append

/-- Samples that were written are folded in their order, and the reader ends up behind them. -/
theorem Reader.Before.fold_records {α : Type} {f : α → Sample → α} {samples : List Sample} {h : Header}
    (loggable : ∀ s ∈ samples, s.Loggable) {r : Reader} (here : r.Before h (records samples)) (a : α) :
    (r.fold f a).1 = .ok (samples.foldl f a) ∧ (r.fold f a).2.Before h [] := by
  induction samples generalizing r a with
  | nil =>
    obtain ⟨answer, stays⟩ := here.next_end
    rw [Reader.fold]
    split
    · rename_i e; rw [e] at answer; cases answer
    · rename_i e; rw [e] at stays; exact ⟨rfl, stays⟩
    · rename_i e; rw [e] at answer; cases answer
  | cons s rest ih =>
    obtain ⟨answer, next⟩ := here.next_record (length_recordBytes s)
    rw [decodeSample_recordBytes (loggable s List.mem_cons_self)] at answer
    rw [Reader.fold]
    split
    · rename_i e; rw [e] at answer; cases answer
    · rename_i e; rw [e] at answer; cases answer
    · rename_i e
      rw [e] at answer next
      cases answer
      exact ih (fun t mem => loggable t (List.mem_cons_of_mem s mem)) next (f a s)

/-! ## Writing -/

namespace Writer

/-- Samples that fit are all appended. -/
theorem appendAll_of_fits {samples : List Sample} (fits : ∀ s ∈ samples, s.FitsNative) (w : Writer) :
    w.appendAll samples =
      (.ok (), { bytes := w.bytes ++ records samples, samples := w.samples + samples.length }) := by
  induction samples generalizing w with
  | nil => rw [appendAll, records, List.flatMap_nil, List.append_nil]; rfl
  | cons s rest ih =>
    have first : w.append s = .ok { bytes := w.bytes ++ recordBytes s, samples := w.samples + 1 } := by
      rw [append, encodeSample_of_fits (fits s List.mem_cons_self)]
      rfl
    rw [appendAll, first]
    show Writer.appendAll _ rest = _
    rw [ih fun t mem => fits t (List.mem_cons_of_mem s mem)]
    simp only [records, List.flatMap_cons, List.append_assoc, List.length_cons]
    congr 2
    omega

theorem appendRing_of_fits {ring : Ring} (fits : ∀ s ∈ ring.samples, s.FitsNative) (w : Writer) :
    w.appendRing ring = (.ok ring.samples.length,
      { bytes := w.bytes ++ records ring.samples, samples := w.samples + ring.samples.length }) := by
  rw [appendRing, appendAll_of_fits fits]
  simp only [Except.map, Nat.add_sub_cancel_left]

end Writer

/-- One step of writing a log: a single sample, or a ring with all samples that were offered to it. -/
inductive Entry
  | sample (s : Sample)
  | ring (capacity : Nat) (policy : OverrunPolicy) (offered : List Sample)

namespace Entry

/-- What a step adds to the log, in order. -/
def samples : Entry → List Sample
  | .sample s => [s]
  | .ring capacity policy offered => policy.kept capacity offered

/-- The ring has a slot. -/
def HasSlot : Entry → Prop
  | .sample _ => True
  | .ring capacity _ _ => 0 < capacity

/-- There is such a ring, and a reader takes what the step adds. -/
structure Fits (e : Entry) : Prop where
  slot : e.HasSlot
  loggable : ∀ s ∈ e.samples, s.Loggable

instance : (e : Entry) → Decidable e.HasSlot
  | .sample _ => inferInstanceAs (Decidable True)
  | .ring _ _ _ => inferInstanceAs (Decidable (_ < _))

instance (e : Entry) : Decidable e.Fits :=
  decidable_of_iff (e.HasSlot ∧ ∀ s ∈ e.samples, s.Loggable) ⟨fun h => ⟨h.1, h.2⟩, fun h => ⟨h.1, h.2⟩⟩

end Entry

namespace Writer

/-- Takes a step. -/
def enter (w : Writer) : Entry → Result Unit × Writer
  | .sample s =>
    match w.append s with
    | .ok w => (.ok (), w)
    | .error e => (.error e, w)
  | .ring capacity policy offered =>
    match Ring.new capacity policy with
    | .ok ring =>
      let (outcome, w) := w.appendRing (ring.recordAll offered)
      (outcome.map fun _ => (), w)
    | .error e => (.error e, w)

/-- Takes steps one after the other, whether or not those before were refused. -/
def enterAll (w : Writer) : List Entry → List (Result Unit) × Writer
  | [] => ([], w)
  | e :: rest =>
    let (outcome, w) := w.enter e
    let (outcomes, w) := w.enterAll rest
    (outcome :: outcomes, w)

/-- A step that fits is taken, and its records are appended. -/
theorem enter_of_fits {e : Entry} (fits : e.Fits) (w : Writer) :
    w.enter e = (.ok (),
      { bytes := w.bytes ++ records e.samples, samples := w.samples + e.samples.length }) := by
  cases e with
  | sample s =>
    have native := (fits.loggable s List.mem_cons_self).fits
    have appended : w.append s = .ok { bytes := w.bytes ++ recordBytes s, samples := w.samples + 1 } := by
      rw [append, encodeSample_of_fits native]
      rfl
    rw [enter, appended]
    simp only [Entry.samples, records, List.flatMap_singleton, List.length_singleton]
  | ring capacity policy offered =>
    have pos : 0 < capacity := fits.slot
    have kept := (Ring.tally_recordAll pos policy offered).samples
    have native : ∀ s ∈ ((Ring.blank capacity policy pos).recordAll offered).samples, s.FitsNative := by
      rw [kept]
      exact fun s mem => (fits.loggable s mem).fits
    rw [enter, Ring.new_eq_ok pos]
    simp only [appendRing_of_fits native, kept, Entry.samples]
    rfl

theorem enterAll_of_fits {entries : List Entry} (fit : ∀ e ∈ entries, e.Fits) (w : Writer) :
    w.enterAll entries = (entries.map fun _ => .ok (),
      { bytes := w.bytes ++ records (entries.flatMap Entry.samples)
        samples := w.samples + (entries.flatMap Entry.samples).length }) := by
  induction entries generalizing w with
  | nil => rw [enterAll, List.flatMap_nil, records, List.flatMap_nil, List.append_nil]; rfl
  | cons e rest ih =>
    rw [enterAll, enter_of_fits (fit e List.mem_cons_self)]
    simp only
    rw [ih fun e mem => fit e (List.mem_cons_of_mem _ mem)]
    simp only [List.flatMap_cons, records_append, List.append_assoc, List.length_append, List.map_cons,
      Nat.add_assoc]

end Writer

/-- **Logs are read back.** Once a header is accepted, every step whose samples can be read again is taken;
and however a source hands out the bytes, what is read is the header, all samples of all steps in order,
and from then on the end. -/
theorem read_written_log {h : Header} {w : Writer} (made : Writer.new h = .ok w) {entries : List Entry}
    (fit : ∀ e ∈ entries, e.Fits) :
    (∀ outcome ∈ (w.enterAll entries).1, outcome = .ok ()) ∧
    ∀ source : Source, source.rest = (w.enterAll entries).2.bytes → source.Ends .eof →
      ∃ r, Reader.new source = .ok r ∧ r.header = h ∧
        r.takeAll.1 = .ok (entries.flatMap Entry.samples) ∧
        ∀ n, (r.takeAll.2.skip n).next.1 = .ok none := by
  have loggable : ∀ s ∈ entries.flatMap Entry.samples, s.Loggable := by
    intro s mem
    obtain ⟨e, inEntries, inEntry⟩ := List.mem_flatMap.1 mem
    exact (fit e inEntries).loggable s inEntry
  obtain ⟨bytes, encoded, rfl⟩ : ∃ bytes, h.encode = .ok bytes ∧ w = { bytes, samples := 0 } := by
    unfold Writer.new at made
    cases encoded : h.encode with
    | error e => rw [encoded] at made; cases made
    | ok bytes => rw [encoded] at made; cases made; exact ⟨bytes, rfl, rfl⟩
  rw [Writer.enterAll_of_fits fit]
  constructor
  · intro outcome mem
    obtain ⟨_, _, rfl⟩ := List.mem_map.1 mem
    rfl
  · intro source written whole
    obtain ⟨source', decoded, rest, ends⟩ := Header.decode_encode encoded source _ written
    have opened : Reader.new source = .ok ⟨h, source'⟩ := by
      rw [Reader.new, decoded]
      rfl
    have here : Reader.Before ⟨h, source'⟩ h (records (entries.flatMap Entry.samples)) :=
      ⟨rfl, rest, ends _ whole⟩
    obtain ⟨folded, behind⟩ := here.fold_records (f := fun samples s => s :: samples) loggable []
    refine ⟨⟨h, source'⟩, opened, rfl, ?_, ?_⟩
    · show Except.map _ _ = _
      rw [folded]
      simp only [Except.map, List.foldl_flip_cons_eq_append, List.map_id_fun', id_eq, List.append_nil,
        List.reverse_reverse]
    · intro n
      exact (behind.skip_end n).next_end.1

/-- A single sample, and a ring of two slots that has lost the first of three. -/
theorem read_written_log_wrapped :
    let h : Header := {
      name := "tau", release := .aperiodic, statsDisabled := false, wcet := .ofSecs 1, period := .zero
      deadline := .ofSecs 2, t0 := .ofSecs 7, offset := .zero, overheads := .none }
    let entries : List Entry := [.sample ⟨.ofSecs 7, .ofSecs 8⟩,
      .ring 2 .overwrite [⟨.ofSecs 1, .ofSecs 2⟩, ⟨.ofSecs 2, .ofSecs 3⟩, ⟨.ofSecs 3, .ofSecs 3⟩]]
    ∃ w, Writer.new h = .ok w ∧ (∀ e ∈ entries, e.Fits) ∧
      ∃ r, Reader.new (.ofBytes (w.enterAll entries).2.bytes) = .ok r ∧ r.header = h ∧
        r.takeAll.1 = .ok [⟨.ofSecs 7, .ofSecs 8⟩, ⟨.ofSecs 2, .ofSecs 3⟩, ⟨.ofSecs 3, .ofSecs 3⟩] := by
  intro h entries
  have short : h.nameBytes.length ≤ maxNameLength := by
    rw [Header.nameBytes, toList_eq_data]
    decide
  obtain ⟨bytes, encoded⟩ := h.encode_accepts short (by decide)
  have made : Writer.new h = .ok { bytes, samples := 0 } := by rw [Writer.new, encoded]; rfl
  have fit : ∀ e ∈ entries, e.Fits := by decide
  obtain ⟨r, opened, header, all, -⟩ :=
    (read_written_log made fit).2 (.ofBytes _) (Source.rest_ofBytes _) (Source.ends_ofBytes _)
  exact ⟨_, made, fit, r, opened, header, all⟩

end TaskTiming.Log
