import TaskTiming.Proofs.Log.HeaderFormat
import TaskTiming.Proofs.Log.Pieces
import TaskTiming.Proofs.Log.ReadBack

/-!
# Records read call by call

Behind the header every call takes one record off the bytes, corrupt or not, so that the reader stands
before the next one (`Before.next`), and what the call after `k` others answers depends on the `k`-th
record alone (`Before.skip`). A record is corrupt for what its four numbers are (`Sound`), and a row of
bytes too short for a record is told apart from the end. All of it holds however a source delivers the
bytes (`log_is_read_in_pieces`).
-/

namespace TaskTiming
set_option autoImplicit false

namespace Time

/-- The numbers of a time: neither is negative, and the nanoseconds do not make a second. -/
structure Native.Valid (n : Native) : Prop where
  sec : 0 ≤ n.sec.toInt
  nsec : 0 ≤ n.nsec.toInt
  short : n.nsec.toInt < 1000000000

/-- A signed word that is not negative keeps its value as an unsigned one. -/
theorem toNat_toUInt64 {w : Int64} (h : 0 ≤ w.toInt) : (w.toUInt64.toNat : Int) = w.toInt := by
  have bound := w.toUInt64.toNat_lt
  rw [← Int64.toInt_toBitVec, BitVec.toInt_eq_toNat_cond] at h ⊢
  have value : w.toBitVec.toNat = w.toUInt64.toNat := rfl
  by_cases low : 2 * w.toBitVec.toNat < 2 ^ 64
  · rw [if_pos low, value]
  · rw [if_neg low] at h
    omega

theorem ofNative_of_valid {n : Native} (valid : n.Valid) :
    ∃ t, ofNative n = .ok t ∧ (t.toNanos : Int) = n.sec.toInt * 1000000000 + n.nsec.toInt := by
  have sec := toNat_toUInt64 valid.sec
  have nsec := toNat_toUInt64 valid.nsec
  have short := valid.short
  have signs : ¬(n.sec < 0 ∨ n.nsec < 0) := by
    rw [Int64.lt_iff_toInt_lt, Int64.lt_iff_toInt_lt, Int64.toInt_zero]
    have := valid.sec
    have := valid.nsec
    omega
  have fits : n.nsec.toUInt64.toNat < 1000000000 := by omega
  unfold ofNative
  rw [if_neg signs, dif_pos fits]
  refine ⟨_, rfl, ?_⟩
  simp only [toNanos, nanosPerSec, UInt32.toNat_ofNatLT]
  omega

theorem ofNative_of_not_valid {n : Native} (wrong : ¬n.Valid) : ∃ e, ofNative n = .error e := by
  unfold ofNative
  by_cases signs : n.sec < 0 ∨ n.nsec < 0
  · exact ⟨_, if_pos signs⟩
  rw [if_neg signs]
  rw [Int64.lt_iff_toInt_lt, Int64.lt_iff_toInt_lt, Int64.toInt_zero, not_or] at signs
  have sec : 0 ≤ n.sec.toInt := by omega
  have nsec : 0 ≤ n.nsec.toInt := by omega
  have value := toNat_toUInt64 nsec
  have long : ¬n.nsec.toUInt64.toNat < 1000000000 := fun fits => wrong ⟨sec, nsec, by omega⟩
  exact ⟨_, dif_neg long⟩

end Time

namespace Log

/-! ## The numbers of a record -/

/-- One of the four numbers: the seconds and the nanoseconds of the start, and those of the finish. -/
def field (record : List UInt8) (i : Nat) : Int := (Bytes.int64 ((record.drop (8 * i)).take 8)).toInt

/-- The numbers of a record that a sample can have. -/
structure Sound (record : List UInt8) : Prop where
  nonneg : ∀ i < 4, 0 ≤ field record i
  short : field record 1 < 1000000000 ∧ field record 3 < 1000000000
  ordered : field record 0 * 1000000000 + field record 1 ≤ field record 2 * 1000000000 + field record 3

instance (record : List UInt8) : Decidable (Sound record) :=
  decidable_of_iff ((∀ i < 4, 0 ≤ field record i) ∧
      (field record 1 < 1000000000 ∧ field record 3 < 1000000000) ∧
      field record 0 * 1000000000 + field record 1 ≤ field record 2 * 1000000000 + field record 3)
    ⟨fun h => ⟨h.1, h.2.1, h.2.2⟩, fun h => ⟨h.nonneg, h.short, h.ordered⟩⟩

/-- An instant has two numbers of its record. -/
def native (record : List UInt8) (i : Nat) : Time.Native :=
  ⟨Bytes.int64 ((record.drop (8 * i)).take 8), Bytes.int64 ((record.drop (8 * (i + 1))).take 8)⟩

/-- What the decoding of a record answers. -/
structure Decoded (record : List UInt8) (answer : Result (Option Sample)) : Prop where
  sample : Sound record → ∃ s : Sample, answer = .ok (some s) ∧
    s.start.toNanos = field record 0 * 1000000000 + field record 1 ∧
    s.finish.toNanos = field record 2 * 1000000000 + field record 3
  corrupt : ¬Sound record → ∃ fault, answer = .error (.corruptLog fault)

variable {record : List UInt8}

/-- Sixteen bytes of a record are read as one of its instants. -/
theorem decodeInstant_native {bytes : List UInt8} {i : Nat}
    (here : (⟨Bytes.int64 (bytes.take 8), Bytes.int64 (bytes.drop 8)⟩ : Time.Native) = native record i) :
    ((native record i).Valid → ∃ t, decodeInstant bytes = .ok t ∧
      (t.toNanos : Int) = field record i * 1000000000 + field record (i + 1)) ∧
    (¬(native record i).Valid → ∃ fault, decodeInstant bytes = .error (.corruptLog fault)) := by
  unfold decodeInstant
  rw [here]
  constructor
  · intro valid
    obtain ⟨t, made, nanos⟩ := Time.ofNative_of_valid valid
    rw [made]
    exact ⟨t, rfl, nanos⟩
  · intro wrong
    obtain ⟨e, failed⟩ := Time.ofNative_of_not_valid wrong
    rw [failed]
    exact ⟨_, rfl⟩

/-- The numbers are those of two instants, one not before the other. -/
theorem sound_iff : Sound record ↔ (native record 0).Valid ∧ (native record 2).Valid ∧
    field record 0 * 1000000000 + field record 1 ≤ field record 2 * 1000000000 + field record 3 := by
  constructor
  · intro sound
    refine ⟨⟨sound.nonneg 0 ?_, sound.nonneg 1 ?_, sound.short.1⟩,
      ⟨sound.nonneg 2 ?_, sound.nonneg 3 ?_, sound.short.2⟩, sound.ordered⟩ <;> decide
  · rintro ⟨start, finish, ordered⟩
    refine ⟨?_, ⟨start.short, finish.short⟩, ordered⟩
    intro i lt
    match i, lt with
    | 0, _ => exact start.sec
    | 1, _ => exact start.nsec
    | 2, _ => exact finish.sec
    | 3, _ => exact finish.nsec

/-- **A record is decoded as what its numbers say.** -/
theorem decoded_record (whole : record.length = recordSize) :
    Decoded record ((decodeSample record).map some) := by
  have start : (⟨Bytes.int64 ((record.take 16).take 8), Bytes.int64 ((record.take 16).drop 8)⟩ : Time.Native) =
      native record 0 := by
    rw [native, List.take_take, List.drop_take]
    rfl
  have finish : (⟨Bytes.int64 ((record.drop 16).take 8), Bytes.int64 ((record.drop 16).drop 8)⟩ : Time.Native) =
      native record 2 := by
    have last : (record.drop 24).take 8 = record.drop 24 := by
      apply List.take_of_length_le
      rw [List.length_drop, whole]
      decide
    rw [native, List.drop_drop, last]
  obtain ⟨startReads, startFails⟩ := decodeInstant_native start
  obtain ⟨finishReads, finishFails⟩ := decodeInstant_native finish
  unfold decodeSample
  by_cases startValid : (native record 0).Valid
  case neg =>
    obtain ⟨fault, failed⟩ := startFails startValid
    rw [failed]
    exact ⟨fun sound => (startValid (sound_iff.1 sound).1).elim, fun _ => ⟨fault, rfl⟩⟩
  obtain ⟨s, startOk, startNanos⟩ := startReads startValid
  rw [startOk]
  by_cases finishValid : (native record 2).Valid
  case neg =>
    obtain ⟨fault, failed⟩ := finishFails finishValid
    rw [failed]
    exact ⟨fun sound => (finishValid (sound_iff.1 sound).2.1).elim, fun _ => ⟨fault, rfl⟩⟩
  obtain ⟨f, finishOk, finishNanos⟩ := finishReads finishValid
  rw [finishOk]
  have early : f < s ↔ ¬field record 0 * 1000000000 + field record 1 ≤
      field record 2 * 1000000000 + field record 3 := by
    rw [Time.lt_iff_toNanos, ← startNanos, ← finishNanos]
    omega
  show Decoded record (Except.map some (if f < s then _ else _))
  by_cases before : f < s
  · rw [if_pos before]
    exact ⟨fun sound => (early.1 before sound.ordered).elim, fun _ => ⟨_, rfl⟩⟩
  · rw [if_neg before]
    refine ⟨fun _ => ⟨_, rfl, startNanos, finishNanos⟩, fun unsound => (unsound ?_).elim⟩
    exact sound_iff.2 ⟨startValid, finishValid, Decidable.not_not.1 (mt early.2 before)⟩

/-! ## Calls -/

/-- What a call answers with these bytes before it. -/
structure Answers (left : List UInt8) (answer : Result (Option Sample)) : Prop where
  record : recordSize ≤ left.length → Decoded (left.take recordSize) answer
  rest : left ≠ [] → left.length < recordSize →
    answer = .error (.corruptLog (.partialRecord left.length))
  ended : left = [] → answer = .ok none

/-- What all calls answer with these bytes before the first of them. -/
structure AnswersInTurn (left : List UInt8) (answer : Nat → Result (Option Sample)) : Prop where
  /-- One record after the other, -/
  record : ∀ k < left.length / 32, Decoded ((left.drop (32 * k)).take 32) (answer k)
  /-- then what is left of the bytes, -/
  rest : left.length % 32 ≠ 0 →
    answer (left.length / 32) = .error (.corruptLog (.partialRecord (left.length % 32)))
  /-- and then the end. -/
  ended : ∀ k, left.length ≤ 32 * k → answer k = .ok none

namespace Reader

variable {r : Reader} {h : Header} {left : List UInt8}

/-- Too few bytes for a record are taken off as well, and refused. -/
theorem Before.next_rest (here : r.Before h left) (some : left ≠ []) (short : left.length < recordSize) :
    r.next.1 = .error (.corruptLog (.partialRecord left.length)) ∧ r.next.2.Before h [] := by
  have few : ¬recordSize ≤ r.source.rest.length := by
    rw [here.rest]
    omega
  have taken := here.ends.take_eq recordSize
  have behind := here.ends.take_rest recordSize
  have ends := here.ends.take recordSize
  rw [if_neg few, here.rest] at taken
  rw [here.rest, List.drop_of_length_le (by omega)] at behind
  unfold next
  generalize r.source.take recordSize = answer at taken behind ends
  obtain ⟨result, source⟩ := answer
  obtain rfl : result = _ := taken
  obtain ⟨b, bytes, rfl⟩ := List.exists_cons_of_ne_nil some
  exact ⟨if_neg (by omega), here.header, behind, ends⟩

/-- **A call takes one record**, or what is left of the bytes, and answers as they say. -/
theorem Before.next (here : r.Before h left) :
    Answers left r.next.1 ∧ r.next.2.Before h (left.drop recordSize) := by
  by_cases whole : recordSize ≤ left.length
  · have length : (left.take recordSize).length = recordSize := List.length_take_of_le whole
    rw [← List.take_append_drop recordSize left] at here
    obtain ⟨answer, behind⟩ := here.next_record length
    refine ⟨⟨?_, ?_, ?_⟩, behind⟩
    · intro _
      rw [answer]
      exact decoded_record length
    · intro _ short
      omega
    · rintro rfl
      exact absurd whole (by decide)
  · rw [List.drop_of_length_le (by omega)]
    by_cases none : left = []
    · subst none
      obtain ⟨answer, behind⟩ := here.next_end
      exact ⟨⟨fun some => absurd some whole, fun some => absurd rfl some, fun _ => answer⟩, behind⟩
    · obtain ⟨answer, behind⟩ := here.next_rest none (by omega)
      exact ⟨⟨fun some => absurd some whole, fun _ _ => answer, fun nil => absurd nil none⟩, behind⟩

/-- So the reader is in line with the records, whatever they were. -/
theorem Before.skip (here : r.Before h left) (k : Nat) : (r.skip k).Before h (left.drop (recordSize * k)) := by
  induction k generalizing r left with
  | zero => exact here
  | succ k ih =>
    have later := ih here.next.2
    rwa [List.drop_drop, Nat.add_comm, ← Nat.mul_succ] at later

/-- The calls answer record by record. -/
theorem Before.answers (here : r.Before h left) : AnswersInTurn left r.answer := by
  have answers (k : Nat) : Answers (left.drop (32 * k)) (r.answer k) := (here.skip k).next.1
  have length (k : Nat) : (left.drop (32 * k)).length = left.length - 32 * k := List.length_drop
  refine ⟨?_, ?_, ?_⟩
  · intro k lt
    apply (answers k).record
    rw [length, recordSize]
    omega
  · intro some
    have last := length (left.length / 32)
    have remains : (left.drop (32 * (left.length / 32))).length = left.length % 32 := by omega
    rw [← remains]
    apply (answers _).rest
    · intro nil
      rw [nil] at remains
      exact some remains.symm
    · rw [remains, recordSize]
      omega
  · intro k all
    exact (answers k).ended (List.drop_of_length_le all)

end Reader

/-! ## Logs -/

/-- What reading these bytes from a source comes to. -/
structure ReadsInPieces (source : Source) (bytes : List UInt8) : Prop where
  /-- Whatever has been taken, a loop of calls fills a buffer with what is taken next. -/
  loops : ∀ (takes : List Nat) (n : Nat),
    (source.takes takes).fill n [] = (source.takes takes).take n
  /-- The header, or the error, and all answers are those for the bytes in one piece. -/
  whole : (Reader.new source).map Reader.told = (Reader.new (.ofBytes bytes)).map Reader.told
  /-- Behind the bytes of a header the calls answer record by record. -/
  records : ∀ (l : Layout) (left : List UInt8), bytes = l.bytes ++ left →
    ∃ r, Reader.new source = .ok r ∧ r.header = l.header ∧ AnswersInTurn left r.answer
  /-- There is no other header. -/
  opens : ∀ r, Reader.new source = .ok r → ∃ l : Layout, l.bytes <+: bytes

/-- **Logs are read alike in all pieces.** -/
theorem log_is_read_in_pieces {source : Source} {bytes : List UInt8} (rest : source.rest = bytes)
    (ends : source.Ends .eof) : ReadsInPieces source bytes := by
  refine ⟨?_, ?_, ?_, ?_⟩
  · intro takes n
    exact (source.takes takes).fill_eq_take n
  · exact Reader.told_new ⟨rest.trans (Source.rest_ofBytes bytes).symm, .eof, ends, Source.ends_ofBytes bytes⟩
  · intro l left here
    obtain ⟨source', decoded, behind, ends'⟩ := Header.decode_decides.reads l source left (rest.trans here)
    have opened : Reader.new source = .ok ⟨l.header, source'⟩ := by
      rw [Reader.new, decoded]
      rfl
    have before : Reader.Before ⟨l.header, source'⟩ l.header left := ⟨rfl, behind, ends' _ ends⟩
    exact ⟨_, opened, rfl, before.answers⟩
  · intro r opened
    cases decoded : Header.decode source with
    | error e =>
      rw [Reader.new, decoded] at opened
      cases opened
    | ok read =>
      obtain ⟨l, -, here, -⟩ := Header.decode_decides.of_ok ends decoded
      rw [rest] at here
      exact ⟨l, read.2.rest, here.symm⟩

/-- A header without a name that comes cut in its first word, a corrupt record that comes cut after an
interruption, a sample, and three bytes. -/
theorem log_is_read_in_pieces_cut :
    let zero : Words := ⟨0, 0, by decide⟩
    let l : Layout := {
      periodic := 2, statsDisabled := 0, wcet := zero, period := ⟨1, 0, by decide⟩, deadline := zero
      t0 := zero, offset := zero, jobStats := zero, finishToStart := zero
      name := [], short := by decide, text := ⟨[], rfl⟩ }
    let left := List.replicate 32 0xFF ++ recordBytes ⟨.ofSecs 7, .ofSecs 8⟩ ++ [1, 2, 3]
    let bytes := l.bytes ++ left
    let source : Source := {
      deliveries := [.bytes (bytes.take 3), .interrupted, .bytes ((bytes.drop 3).take 90), .interrupted,
        .interrupted, .bytes (bytes.drop 93)]
      ending := .eof }
    source.rest = bytes ∧ source.Ends .eof ∧
      ∃ r, Reader.new source = .ok r ∧ r.header = l.header ∧
        (∃ fault, r.answer 0 = .error (.corruptLog fault)) ∧
        (∃ s, r.answer 1 = .ok (some s) ∧ s.start = .ofSecs 7 ∧ s.finish = .ofSecs 8) ∧
        r.answer 2 = .error (.corruptLog (.partialRecord 3)) ∧ ∀ k, 3 ≤ k → r.answer k = .ok none := by
  intro zero l left bytes source
  have length : left.length = 67 := by
    simp only [left, List.length_append, List.length_replicate, length_recordBytes]
    rfl
  have ends : source.Ends .eof := by decide +kernel
  have rest : source.rest = bytes := by
    show bytes.take 3 ++ ((bytes.drop 3).take 90 ++ (bytes.drop 93 ++ [])) = bytes
    have last : bytes.drop 93 = (bytes.drop 3).drop 90 := by rw [List.drop_drop]
    rw [List.append_nil, last, List.take_append_drop, List.take_append_drop]
  obtain ⟨r, opened, header, answers⟩ := (log_is_read_in_pieces rest ends).records l left rfl
  have corrupt := answers.record 0 (by rw [length]; decide)
  have sample := answers.record 1 (by rw [length]; decide)
  have last := answers.rest (by rw [length]; decide)
  rw [length] at last
  refine ⟨rest, ends, r, opened, header, corrupt.corrupt (by decide +kernel), ?_, last, ?_⟩
  · obtain ⟨s, answer, start, finish⟩ := sample.sample (by decide +kernel)
    have numbers : field ((left.drop 32).take 32) 0 = 7 ∧ field ((left.drop 32).take 32) 1 = 0 ∧
        field ((left.drop 32).take 32) 2 = 8 ∧ field ((left.drop 32).take 32) 3 = 0 := by decide +kernel
    obtain ⟨zeroth, first, second, third⟩ := numbers
    refine ⟨s, answer, Time.ext_toNanos ?_, Time.ext_toNanos ?_⟩
    · rw [zeroth, first] at start
      exact Int.ofNat.inj start
    · rw [second, third] at finish
      exact Int.ofNat.inj finish
  · intro k behind
    apply answers.ended
    omega

end Log

end TaskTiming
