import TaskTiming.Proofs.Log.Accepted
import TaskTiming.Proofs.Log.SummaryOfReleases

/-!
# Logs of samples out of order

Writing a sample asks for less than reading it: it has a record whether or not it finishes before it
starts, and only the reader refuses it then (`decodeSample_of_encoded`). So a log whose every step was
taken is read back as a whole exactly if no sample in it is out of order, and else the reading ends with
the first one that is (`log_is_read_unless_out_of_order`).
-/

namespace TaskTiming.Log
set_option autoImplicit false

/-- A record is made of a sample that fits, and of no other. -/
theorem encodeSample_eq_ok {s : Sample} {row : List UInt8} (written : encodeSample s = .ok row) :
    s.FitsNative ∧ row = recordBytes s := by
  by_cases fits : s.FitsNative
  · rw [encodeSample_of_fits fits] at written
    cases written
    exact ⟨fits, rfl⟩
  · rw [encodeSample_of_not_fits fits] at written
    cases written

/-- The reader looks for the order of start and finish, which the writer does not. -/
theorem decodeSample_of_encoded {s : Sample} {row : List UInt8} (written : encodeSample s = .ok row) :
    decodeSample row = if s.start ≤ s.finish then .ok s else .error (.corruptLog .sampleOrder) := by
  obtain ⟨fits, rfl⟩ := encodeSample_eq_ok written
  by_cases ordered : s.start ≤ s.finish
  · rw [if_pos ordered, decodeSample_recordBytes ⟨ordered, fits⟩]
  · have late : s.finish < s.start := by
      rw [Time.le_iff_toNanos] at ordered
      rw [Time.lt_iff_toNanos]
      omega
    have front : (recordBytes s).take 16 = instantBytes s.start := List.take_left' (length_instantBytes _)
    have back : (recordBytes s).drop 16 = instantBytes s.finish := List.drop_left' (length_instantBytes _)
    rw [if_neg ordered, decodeSample, front, back, decodeInstant_instantBytes fits.1,
      decodeInstant_instantBytes fits.2]
    exact if_pos late

/-! ## Reading -/

namespace Reader

variable {r : Reader} {h : Header}

/-- Records are folded up to the first whose sample is out of order. -/
theorem Before.fold_of_fits {α : Type} {f : α → Sample → α} {samples : List Sample}
    (fits : ∀ s ∈ samples, s.FitsNative) (here : r.Before h (records samples)) (a : α) :
    (r.fold f a).1 = if ∀ s ∈ samples, s.start ≤ s.finish then .ok (samples.foldl f a)
      else .error (.corruptLog .sampleOrder) := by
  induction samples generalizing r a with
  | nil =>
    rw [if_pos (List.forall_mem_nil _)]
    exact (here.fold_records (List.forall_mem_nil _) a).1
  | cons s rest ih =>
    have native := fits s List.mem_cons_self
    obtain ⟨answer, next⟩ := here.next_record (length_recordBytes s)
    rw [decodeSample_of_encoded (encodeSample_of_fits native)] at answer
    rw [fold_of_next, ← Prod.eta r.next, answer]
    simp only [List.forall_mem_cons]
    by_cases ordered : s.start ≤ s.finish
    · rw [if_pos ordered]
      show (r.next.2.fold f (f a s)).1 = _
      rw [ih (fun t mem => fits t (List.mem_cons_of_mem s mem)) next, List.foldl_cons]
      simp only [ordered, true_and]
    · rw [if_neg ordered, if_neg fun all => ordered all.1]
      rfl

theorem Before.takeAll_of_fits {samples : List Sample} (fits : ∀ s ∈ samples, s.FitsNative)
    (here : r.Before h (records samples)) :
    r.takeAll.1 = if ∀ s ∈ samples, s.start ≤ s.finish then .ok samples
      else .error (.corruptLog .sampleOrder) := by
  show Except.map List.reverse (r.fold (fun samples s => s :: samples) []).1 = _
  rw [here.fold_of_fits fits]
  by_cases ordered : ∀ s ∈ samples, s.start ≤ s.finish
  · rw [if_pos ordered, if_pos ordered]
    simp [Except.map]
  · rw [if_neg ordered, if_neg ordered]
    rfl

/-- The bytes of a header and of some records are opened before those records. -/
theorem opened_before {header : List UInt8} (encoded : h.encode = .ok header) {samples : List Sample}
    {source : Source} (written : source.rest = header ++ records samples) (ends : source.Ends .eof) :
    ∃ r, Reader.new source = .ok r ∧ r.Before h (records samples) := by
  obtain ⟨source', decoded, rest, ends'⟩ := Header.decode_encode encoded source _ written
  refine ⟨⟨h, source'⟩, ?_, rfl, rest, ends' _ ends⟩
  rw [Reader.new, decoded]
  rfl

end Reader

/-! ## Writing -/

namespace Writer

/-- Steps that were all taken have added all their samples, each with a record. -/
theorem enterAll_of_taken {w : Writer} {entries : List Entry}
    (taken : ∀ outcome ∈ (w.enterAll entries).1, outcome = .ok ()) :
    (w.enterAll entries).2 = w.grown (entries.flatMap Entry.samples) ∧
    ∀ s ∈ entries.flatMap Entry.samples, s.FitsNative := by
  rw [enterAll_eq] at taken ⊢
  have fits : ∀ e ∈ entries, ∀ s ∈ e.samples, s.FitsNative := by
    intro e mem
    have done := taken e.outcome (List.mem_map_of_mem mem)
    unfold Entry.outcome at done
    split at done
    · cases done
    · split at done
      · assumption
      · cases done
  have whole : entries.flatMap Entry.accepted = entries.flatMap Entry.samples := by
    rw [List.flatMap_def, List.flatMap_def]
    congr 1
    exact List.map_congr_left fun e mem => accepted_of_fits (fits e mem)
  refine ⟨by rw [whole], ?_⟩
  intro s mem
  obtain ⟨e, inEntries, inEntry⟩ := List.mem_flatMap.1 mem
  exact fits e inEntries s inEntry

theorem new_eq_ok {h : Header} {w : Writer} (made : new h = .ok w) :
    ∃ header, h.encode = .ok header ∧ w = { bytes := header, samples := 0 } := by
  unfold new at made
  cases encoded : h.encode with
  | error e => rw [encoded] at made; cases made
  | ok header => rw [encoded] at made; cases made; exact ⟨header, rfl, rfl⟩

end Writer

/-- **Logs are read back unless a sample is out of order.** What the writer takes, the reader takes back
exactly if it starts no later than it finishes; so steps that were all taken leave a log that is read
completely, or not for the first sample out of order. -/
theorem log_is_read_unless_out_of_order {h : Header} {w : Writer} (made : Writer.new h = .ok w)
    {entries : List Entry} (taken : ∀ outcome ∈ (w.enterAll entries).1, outcome = .ok ()) {source : Source}
    (written : source.rest = (w.enterAll entries).2.bytes) (ends : source.Ends .eof) :
    (∀ s row, encodeSample s = .ok row →
      decodeSample row = if s.start ≤ s.finish then .ok s else .error (.corruptLog .sampleOrder)) ∧
    ∃ r, Reader.new source = .ok r ∧ r.header = h ∧
      r.takeAll.1 = if ∀ s ∈ entries.flatMap Entry.samples, s.start ≤ s.finish
        then .ok (entries.flatMap Entry.samples) else .error (.corruptLog .sampleOrder) := by
  constructor
  · intro s row encoded
    exact decodeSample_of_encoded encoded
  · obtain ⟨header, encoded, rfl⟩ := Writer.new_eq_ok made
    obtain ⟨grown, fits⟩ := Writer.enterAll_of_taken taken
    rw [grown] at written
    obtain ⟨r, opened, here⟩ := Reader.opened_before encoded written ends
    exact ⟨r, opened, here.header, here.takeAll_of_fits fits⟩

/-- A ring of two slots that has lost the only sample out of order. -/
theorem log_is_read_unless_out_of_order_lost :
    let entries : List Entry := [.sample ⟨.ofSecs 7, .ofSecs 8⟩,
      .ring 2 .overwrite [⟨.ofSecs 3, .ofSecs 2⟩, ⟨.ofSecs 2, .ofSecs 3⟩, ⟨.ofSecs 3, .ofSecs 3⟩]]
    ∃ w, Writer.new tau = .ok w ∧ (w.enterAll entries).1 = [.ok (), .ok ()] ∧
      ∃ r, Reader.new (.ofBytes (w.enterAll entries).2.bytes) = .ok r ∧
        r.takeAll.1 = .ok [⟨.ofSecs 7, .ofSecs 8⟩, ⟨.ofSecs 2, .ofSecs 3⟩, ⟨.ofSecs 3, .ofSecs 3⟩] := by
  intro entries
  obtain ⟨bytes, encoded⟩ := encode_tau
  have made := Writer.new_of_encoded encoded
  have answers : (Writer.enterAll { bytes, samples := 0 } entries).1 = [.ok (), .ok ()] := by
    rw [Writer.enterAll_eq]
    rfl
  have taken : ∀ outcome ∈ (Writer.enterAll { bytes, samples := 0 } entries).1, outcome = .ok () := by
    rw [answers]
    simp
  obtain ⟨-, r, opened, -, all⟩ := log_is_read_unless_out_of_order made taken (Source.rest_ofBytes _)
    (Source.ends_ofBytes _)
  exact ⟨_, made, answers, r, opened, all⟩

/-- A sample that finishes before it starts is written, and then nobody can read the log. -/
theorem log_with_sample_out_of_order :
    let s : Sample := ⟨.ofSecs 2, .ofSecs 1⟩
    ∃ w, Writer.new tau = .ok w ∧ (w.enterAll [.sample s]).1 = [.ok ()] ∧
      ∃ r, Reader.new (.ofBytes (w.enterAll [.sample s]).2.bytes) = .ok r ∧
        r.takeAll.1 = .error (.corruptLog .sampleOrder) := by
  intro s
  obtain ⟨bytes, encoded⟩ := encode_tau
  have fits : ∀ t ∈ [s], t.FitsNative := by decide
  have entered : Writer.enterAll { bytes, samples := 0 } [.sample s] =
      ([.ok ()], Writer.grown { bytes, samples := 0 } [s]) := by
    rw [Writer.enterAll_eq]
    rfl
  obtain ⟨r, opened, here⟩ : ∃ r, Reader.new (.ofBytes (bytes ++ records [s])) = .ok r ∧
      r.Before tau (records [s]) := Reader.opened_before encoded (Source.rest_ofBytes _)
        (Source.ends_ofBytes _)
  refine ⟨{ bytes, samples := 0 }, Writer.new_of_encoded encoded, ?_, r, ?_, here.takeAll_of_fits fits⟩
  · rw [entered]
  · rw [entered]
    exact opened

end TaskTiming.Log
