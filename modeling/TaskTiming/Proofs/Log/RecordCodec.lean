import Mathlib.Algebra.Group.Nat.Defs
import TaskTiming.Log.Record

/-!
# Records read back

An instant has a record's bytes exactly if its seconds are a signed word, and it is read back from them.
A sample that can be written is read back unless it finishes before it starts, which only the reader
minds.
-/

namespace TaskTiming
set_option autoImplicit false

/-- The seconds are a signed 64-bit word, as the system counts them. -/
def Time.FitsNative (t : Time) : Prop := t.sec.toNat < 2 ^ 63

instance (t : Time) : Decidable t.FitsNative := inferInstanceAs (Decidable (_ < _))

/-- A word below the sign bit keeps its value as a signed one. -/
theorem toInt_toInt64 {w : UInt64} (h : w.toNat < 2 ^ 63) : w.toInt64.toInt = w.toNat := by
  have half : 2 * w.toBitVec.toNat < 2 ^ 64 := by
    rw [UInt64.toNat_toBitVec]
    omega
  rw [← Int64.toInt_toBitVec, UInt64.toBitVec_toInt64, BitVec.toInt_eq_toNat_of_lt half,
    UInt64.toNat_toBitVec]

theorem not_toInt64_neg {w : UInt64} (h : w.toNat < 2 ^ 63) : ¬w.toInt64 < 0 := by
  rw [Int64.lt_iff_toInt_lt, toInt_toInt64 h, Int64.toInt_zero]
  omega

/-- Going to the system's form of a time and back changes nothing. -/
theorem Time.ofNative_toNative {t : Time} (h : t.FitsNative) :
    Time.ofNative ⟨t.sec.toInt64, t.nsec.toUInt64.toInt64⟩ = .ok t := by
  have nsec : t.nsec.toUInt64.toNat = t.nsec.toNat := UInt32.toNat_toUInt64 t.nsec
  have bound := t.nsec_lt
  have signs : ¬(t.sec.toInt64 < 0 ∨ t.nsec.toUInt64.toInt64 < 0) :=
    not_or.2 ⟨not_toInt64_neg h, not_toInt64_neg (by omega)⟩
  unfold Time.ofNative
  rw [if_neg signs, dif_pos (by rw [UInt64.toUInt64_toInt64, nsec]; exact bound)]
  congr 1

theorem Time.toNative_of_fits {t : Time} (h : t.FitsNative) :
    t.toNative = .ok ⟨t.sec.toInt64, t.nsec.toUInt64.toInt64⟩ := if_pos h

namespace Log

/-- The bytes of an instant that has some. -/
def instantBytes (t : Time) : List UInt8 := Bytes.ofNat 8 t.sec.toNat ++ Bytes.ofNat 8 t.nsec.toNat

theorem length_instantBytes (t : Time) : (instantBytes t).length = 16 := by
  rw [instantBytes, List.length_append, Bytes.length_ofNat, Bytes.length_ofNat]

theorem encodeInstant_of_fits {t : Time} (h : t.FitsNative) : encodeInstant t = .ok (instantBytes t) := by
  rw [encodeInstant, Time.toNative_of_fits h]
  simp only [Bytes.ofInt64, UInt64.toUInt64_toInt64, UInt32.toNat_toUInt64]
  rfl

theorem int64_ofNat (w : UInt64) : Bytes.int64 (Bytes.ofNat 8 w.toNat) = w.toInt64 := by
  rw [Bytes.int64, Bytes.value_ofNat w.toNat_lt, UInt64.ofNat_toNat]

theorem decodeInstant_instantBytes {t : Time} (h : t.FitsNative) : decodeInstant (instantBytes t) = .ok t := by
  have front : (instantBytes t).take 8 = Bytes.ofNat 8 t.sec.toNat :=
    List.take_left' (Bytes.length_ofNat 8 _)
  have back : (instantBytes t).drop 8 = Bytes.ofNat 8 t.nsec.toUInt64.toNat := by
    rw [UInt32.toNat_toUInt64]
    exact List.drop_left' (Bytes.length_ofNat 8 _)
  rw [decodeInstant, front, back, int64_ofNat, int64_ofNat, Time.ofNative_toNative h]

/-- The bytes of a record. -/
def recordBytes (s : Sample) : List UInt8 := instantBytes s.start ++ instantBytes s.finish

theorem length_recordBytes (s : Sample) : (recordBytes s).length = recordSize := by
  rw [recordBytes, List.length_append, length_instantBytes, length_instantBytes]
  rfl

end Log

/-- Both instants of a sample can be written. -/
def Sample.FitsNative (s : Sample) : Prop := s.start.FitsNative ∧ s.finish.FitsNative

instance (s : Sample) : Decidable s.FitsNative := inferInstanceAs (Decidable (_ ∧ _))

/-- A sample can be written, and it does not finish before it starts. -/
structure Sample.Loggable (s : Sample) : Prop where
  start_le_finish : s.start ≤ s.finish
  fits : s.FitsNative

instance (s : Sample) : Decidable s.Loggable :=
  decidable_of_iff (s.start ≤ s.finish ∧ s.FitsNative) ⟨fun h => ⟨h.1, h.2⟩, fun h => ⟨h.1, h.2⟩⟩

namespace Log

theorem encodeSample_of_fits {s : Sample} (h : s.FitsNative) : encodeSample s = .ok (recordBytes s) := by
  rw [encodeSample, encodeInstant_of_fits h.1, encodeInstant_of_fits h.2]
  rfl

/-- **Records are read back**, unless the finish lies before the start. -/
theorem decodeSample_recordBytes {s : Sample} (h : s.Loggable) : decodeSample (recordBytes s) = .ok s := by
  have front : (recordBytes s).take 16 = instantBytes s.start := List.take_left' (length_instantBytes _)
  have back : (recordBytes s).drop 16 = instantBytes s.finish := List.drop_left' (length_instantBytes _)
  have order : ¬s.finish < s.start := by
    have := h.start_le_finish
    rw [Time.le_iff_toNanos] at this
    rw [Time.lt_iff_toNanos]
    omega
  rw [decodeSample, front, back, decodeInstant_instantBytes h.fits.1, decodeInstant_instantBytes h.fits.2]
  show (if s.finish < s.start then _ else _) = _
  rw [if_neg order]

end Log

end TaskTiming
