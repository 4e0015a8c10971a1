import TaskTiming.Time
import TaskTiming.Bytes

/-!
# Times as pairs of words

The pairs that other parts of a system use for a time: two 32-bit words in log headers, two signed
64-bit words at the system interface and in log records, whole seconds and a fraction for thread
sleeps, and twelve bytes for compact storage.
-/

namespace TaskTiming.Time
set_option autoImplicit false

-- The bounds are powers of the core library, also where others are in sight.
attribute [local instance (2000)] instPowNat

/-- Seconds and nanoseconds as 32-bit words, if the seconds fit. -/
def toWords32 (t : Time) : Except TimeError (UInt32 × UInt32) :=
  if h : t.sec.toNat < 2 ^ (32 : Nat) then .ok (UInt32.ofNatLT t.sec.toNat h, t.nsec) else .error .overflow

def ofWords32 (sec nsec : UInt32) : Except TimeError Time :=
  if h : nsec.toNat < 1000000000 then .ok { sec := sec.toUInt64, nsec, nsec_lt := h }
  else .error (.malformed .nanosecondsOutOfRange)

theorem ofWords32_toWords32 {t : Time} {p : UInt32 × UInt32} (h : t.toWords32 = .ok p) :
    ofWords32 p.1 p.2 = .ok t := by
  have hn := t.nsec_lt
  unfold toWords32 at h
  split at h
  · cases h
    simp only [ofWords32, hn, dif_pos]
    congr 1
  · cases h

/-- A time as the system interface has it: signed seconds and nanoseconds. -/
structure Native where
  sec : Int64
  nsec : Int64
deriving DecidableEq

/-- Fails with `overflow` when the seconds are no signed word. -/
def toNative (t : Time) : Except TimeError Native :=
  if t.sec.toNat < 2 ^ (63 : Nat) then .ok ⟨t.sec.toInt64, t.nsec.toUInt64.toInt64⟩ else .error .overflow

/-- Fails with `underflow` when a word is negative, and with `overflow` when the nanoseconds make a
second or more. -/
def ofNative (n : Native) : Except TimeError Time :=
  if n.sec < 0 ∨ n.nsec < 0 then .error .underflow
  else if h : n.nsec.toUInt64.toNat < 1000000000 then
    .ok {
      sec := n.sec.toUInt64
      nsec := UInt32.ofNatLT n.nsec.toUInt64.toNat (lt_size32 h)
      nsec_lt := by simpa using h }
  else .error .overflow

/-- Whole seconds and a fraction, as thread sleeps take them. -/
structure Span where
  secs : UInt64
  nanos : Fin 1000000000
deriving DecidableEq

def toSpan (t : Time) : Span := ⟨t.sec, ⟨t.nsec.toNat, t.nsec_lt⟩⟩

def ofSpan (s : Span) : Time where
  sec := s.secs
  nsec := UInt32.ofNatLT s.nanos.val (lt_size32 s.nanos.isLt)
  nsec_lt := by simp

theorem ofSpan_toSpan (t : Time) : ofSpan t.toSpan = t := by
  apply ext_toNanos
  simp [ofSpan, toSpan, toNanos]

/-- Eight bytes of seconds and four of nanoseconds. -/
def toBytes (t : Time) : List UInt8 := Bytes.ofNat 8 t.sec.toNat ++ Bytes.ofNat 4 t.nsec.toNat

/-- Why bytes are not a time. -/
inductive PackedFault
  | truncated
  | nanosecondsOutOfRange
  | trailing
deriving DecidableEq

/-- Takes a time off the front of a stream of bytes, and answers the bytes behind it. -/
def takeBytes (bytes : List UInt8) : Except PackedFault (Time × List UInt8) :=
  if bytes.length < 12 then .error .truncated
  else
    let sec := UInt64.ofNat (Bytes.value (bytes.take 8))
    let nsec := UInt32.ofNat (Bytes.value ((bytes.drop 8).take 4))
    if h : nsec.toNat < 1000000000 then .ok ({ sec, nsec, nsec_lt := h }, bytes.drop 12)
    else .error .nanosecondsOutOfRange

/-- The time that the bytes are, with none left over. -/
def ofBytes (bytes : List UInt8) : Except PackedFault Time :=
  match takeBytes bytes with
  | .ok (t, []) => .ok t
  | .ok (_, _ :: _) => .error .trailing
  | .error fault => .error fault

end TaskTiming.Time
