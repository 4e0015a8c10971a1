import Mathlib.Algebra.Group.Nat.Defs
import TaskTiming.Log.Reader

/-!
# Headers read back

Reading a part of a header takes a definite row of bytes off the source and depends on nothing behind
them (`Reads`). Parts in sequence read the rows one after the other, so the header codec is proved part
by part: what `encode` writes is exactly the row that `decode` reads the same header from
(`decode_encode`).
-/

namespace TaskTiming.Log
set_option autoImplicit false

/-- Whatever follows them, these bytes are read as `a` and taken off the source. -/
def Reads {α : Type} (m : HeaderReader α) (bytes : List UInt8) (a : α) : Prop :=
  ∀ (source : Source) (after : List UInt8), source.rest = bytes ++ after →
    ∃ source', m source = .ok (a, source') ∧ source'.rest = after ∧ ∀ e, source.Ends e → source'.Ends e

section Reads

variable {α β : Type} {m : HeaderReader α} {f : α → HeaderReader β} {a : α} {b : β}

theorem Reads.pure (a : α) : Reads (Pure.pure a) [] a :=
  fun source _ here => ⟨source, rfl, here, fun _ ends => ends⟩

theorem Reads.bind {first second : List UInt8} (hm : Reads m first a) (hf : Reads (f a) second b) :
    Reads (m >>= f) (first ++ second) b := by
  intro source after here
  rw [List.append_assoc] at here
  obtain ⟨middle, run, rest, ends⟩ := hm source (second ++ after) here
  obtain ⟨source', run', rest', ends'⟩ := hf middle after rest
  refine ⟨source', ?_, rest', fun e whole => ends' e (ends e whole)⟩
  show (m source >>= fun p => f p.1 p.2) = _
  rw [run]
  exact run'

/-- The last part needs no more bytes. -/
theorem Reads.map {first : List UInt8} (hm : Reads m first a) (hf : f a = Pure.pure b) :
    Reads (m >>= f) first b := by
  have ends := hm.bind (hf ▸ Reads.pure b : Reads (f a) [] b)
  rwa [List.append_nil] at ends

end Reads

/-- A part of the right length is taken as it is. -/
theorem takePart_reads (part : HeaderPart) (bytes : List UInt8) :
    Reads (takePart part bytes.length) bytes bytes := by
  intro source after here
  have fits : bytes.length ≤ source.rest.length := by rw [here, List.length_append]; omega
  obtain ⟨taken, left⟩ := Source.take_of_le fits
  rw [here, List.take_left] at taken
  rw [here, List.drop_left] at left
  refine ⟨(source.take bytes.length).2, ?_, left, fun e ends => ends.take bytes.length⟩
  unfold takePart
  rw [← Prod.eta (source.take bytes.length), taken]
  exact if_pos rfl

theorem takeNumber_reads (part : HeaderPart) (width n : Nat) :
    Reads (takePart part width) (Bytes.ofNat width n) (Bytes.ofNat width n) := by
  have row := takePart_reads part (Bytes.ofNat width n)
  rwa [Bytes.length_ofNat] at row

/-- A time that has two words is read back from their bytes. -/
theorem takeTime_reads {t : Time} {bytes : List UInt8} (h : encodeTime t = .ok bytes) :
    Reads takeTime bytes t := by
  unfold encodeTime at h
  cases words : t.toWords32 with
  | error e => rw [words] at h; cases h
  | ok p =>
    obtain ⟨sec, nsec⟩ := p
    rw [words] at h
    cases h
    have back : Time.ofWords32 sec nsec = .ok t := Time.ofWords32_toWords32 words
    have hs : sec.toNat < 256 ^ 4 := sec.toNat_lt
    have hn : nsec.toNat < 256 ^ 4 := nsec.toNat_lt
    unfold takeTime
    refine (takeNumber_reads .time 4 sec.toNat).bind ((takeNumber_reads .time 4 nsec.toNat).map ?_)
    simp only [Bytes.value_ofNat hs, Bytes.value_ofNat hn, UInt32.ofNat_toNat, back]

theorem encodeTimes_cons_eq_ok {t : Time} {rest : List Time} {bytes : List UInt8}
    (h : encodeTimes (t :: rest) = .ok bytes) :
    ∃ first second, encodeTime t = .ok first ∧ encodeTimes rest = .ok second ∧ bytes = first ++ second := by
  unfold encodeTimes at h
  cases ht : encodeTime t with
  | error e => rw [ht] at h; cases h
  | ok first =>
    cases hr : encodeTimes rest with
    | error e => rw [ht, hr] at h; cases h
    | ok second =>
      rw [ht, hr] at h
      cases h
      exact ⟨first, second, rfl, rfl, rfl⟩

theorem value_flagByte (b : Bool) : Bytes.value [flagByte b] ≠ 0 ↔ b = true := by
  cases b <;> decide

/-- The bytes up to the times say what the two flags are. -/
theorem takePreamble_reads (h : Header) :
    Reads takePreamble h.preamble (decide (h.release = .periodic), h.statsDisabled) := by
  have rows : h.preamble = magic ++ ([version] ++ (Bytes.ofNat 4 byteOrderTag ++
      ([UInt8.ofNat secWidth, UInt8.ofNat nsecWidth] ++
        [flagByte (h.release = .periodic), flagByte h.statsDisabled]))) := by
    simp only [Header.preamble, List.append_assoc]
    rfl
  rw [rows]
  unfold takePreamble
  refine (takePart_reads .magic magic).bind ?_
  rw [if_neg (not_not_intro rfl)]
  refine (takePart_reads .version [version]).bind ?_
  rw [if_neg (by decide)]
  refine (takeNumber_reads .byteOrder 4 byteOrderTag).bind ?_
  rw [if_neg (by decide)]
  refine (takePart_reads .timestampSizes [UInt8.ofNat secWidth, UInt8.ofNat nsecWidth]).bind ?_
  rw [if_neg (by decide)]
  refine (takePart_reads .flags [flagByte (h.release = .periodic), flagByte h.statsDisabled]).map ?_
  simp only [List.take, List.drop, value_flagByte, Bool.decide_eq_true]

/-- The bytes from an index on are listed behind those before it. -/
theorem toList_loop_eq (b : ByteArray) (i : Nat) (before : List UInt8) :
    ByteArray.toList.loop b i before = before.reverse ++ b.data.toList.drop i := by
  fun_induction ByteArray.toList.loop b i before with
  | case1 i before inside ih =>
    have bound : i < b.data.toList.length := inside
    have byte : b.get! i = b.data.toList[i] := getElem!_pos b.data i inside
    rw [ih, List.drop_eq_getElem_cons bound, byte, List.reverse_cons, List.append_assoc, List.singleton_append]
  | case2 i before outside =>
    have bound : b.data.toList.length ≤ i := Nat.not_lt.1 outside
    rw [List.drop_of_length_le bound, List.append_nil]

theorem toList_eq_data (b : ByteArray) : b.toList = b.data.toList := toList_loop_eq b 0 []

/-- A text is what its bytes decode to. -/
theorem fromUTF8?_toUTF8 (name : String) : String.fromUTF8? ⟨name.toUTF8.toList.toArray⟩ = some name := by
  have whole : (⟨name.toUTF8.toList.toArray⟩ : ByteArray) = name.toUTF8 := by rw [toList_eq_data]
  rw [whole, String.toUTF8_eq_toByteArray]
  exact dif_pos name.isValidUTF8

/-- A name that is not too long is read with its length in front. -/
theorem takeName_reads {bytes : List UInt8} {name : String} (fits : bytes.length ≤ maxNameLength)
    (text : String.fromUTF8? ⟨bytes.toArray⟩ = some name) :
    Reads takeName (Bytes.ofNat 4 bytes.length ++ bytes) name := by
  have word : bytes.length < 256 ^ 4 := Nat.lt_of_le_of_lt fits (by decide)
  unfold takeName
  refine (takeNumber_reads .nameLength 4 bytes.length).bind ?_
  simp only [Bytes.value_ofNat word]
  rw [if_neg (Nat.not_lt.2 fits)]
  refine (takePart_reads .name bytes).map ?_
  rw [text]

/-- What an accepted header is encoded to. -/
theorem Header.encode_eq_ok {h : Header} {bytes : List UInt8} (ok : h.encode = .ok bytes) :
    h.nameBytes.length ≤ maxNameLength ∧ ∃ times, encodeTimes h.times = .ok times ∧
      bytes = h.preamble ++ (times ++ (Bytes.ofNat 4 h.nameBytes.length ++ h.nameBytes)) := by
  unfold Header.encode at ok
  split at ok
  · cases ok
  · rename_i fits
    cases written : encodeTimes h.times with
    | error e => rw [written] at ok; cases ok
    | ok times =>
      rw [written] at ok
      cases ok
      refine ⟨Nat.not_lt.1 fits, times, rfl, ?_⟩
      simp only [List.append_assoc]

theorem encodeTime_of_lt {t : Time} (fits : t.sec.toNat < 2 ^ 32) :
    encodeTime t = .ok (Bytes.ofNat 4 t.sec.toNat ++ Bytes.ofNat 4 t.nsec.toNat) := by
  rw [encodeTime, Time.toWords32, dif_pos fits]
  simp only [UInt32.toNat_ofNatLT]

theorem encodeTimes_accepts {times : List Time} (fit : ∀ t ∈ times, t.sec.toNat < 2 ^ 32) :
    ∃ bytes, encodeTimes times = .ok bytes := by
  induction times with
  | nil => exact ⟨[], rfl⟩
  | cons t rest ih =>
    obtain ⟨second, restOk⟩ := ih fun u mem => fit u (List.mem_cons_of_mem t mem)
    rw [encodeTimes, encodeTime_of_lt (fit t List.mem_cons_self), restOk]
    exact ⟨_, rfl⟩

/-- A header is accepted if its name is short and the seconds of its times are 32-bit words. -/
theorem Header.encode_accepts {h : Header} (short : h.nameBytes.length ≤ maxNameLength)
    (fit : ∀ t ∈ h.times, t.sec.toNat < 2 ^ 32) : ∃ bytes, h.encode = .ok bytes := by
  obtain ⟨times, written⟩ := encodeTimes_accepts fit
  rw [Header.encode, if_neg (Nat.not_lt.2 short), written]
  exact ⟨_, rfl⟩

/-- **Headers are read back.** The bytes of a header are read as that header, and nothing more is taken. -/
theorem Header.decode_encode {h : Header} {bytes : List UInt8} (ok : h.encode = .ok bytes) :
    Reads Header.decode bytes h := by
  obtain ⟨fits, times, all, rfl⟩ := Header.encode_eq_ok ok
  obtain ⟨wcet, _, hw, fromPeriod, rfl⟩ := encodeTimes_cons_eq_ok all
  obtain ⟨period, _, hp, fromDeadline, rfl⟩ := encodeTimes_cons_eq_ok fromPeriod
  obtain ⟨deadline, _, hd, fromT0, rfl⟩ := encodeTimes_cons_eq_ok fromDeadline
  obtain ⟨t0, _, ht, fromOffset, rfl⟩ := encodeTimes_cons_eq_ok fromT0
  obtain ⟨offset, _, ho, fromJobStats, rfl⟩ := encodeTimes_cons_eq_ok fromOffset
  obtain ⟨jobStats, _, hj, fromFinish, rfl⟩ := encodeTimes_cons_eq_ok fromJobStats
  obtain ⟨finishToStart, _, hf, last, rfl⟩ := encodeTimes_cons_eq_ok fromFinish
  cases last
  simp only [List.append_assoc, List.nil_append]
  unfold Header.decode
  refine (takePreamble_reads h).bind ?_
  refine (takeTime_reads hw).bind ((takeTime_reads hp).bind ((takeTime_reads hd).bind ?_))
  refine (takeTime_reads ht).bind ((takeTime_reads ho).bind ((takeTime_reads hj).bind ?_))
  refine (takeTime_reads hf).bind ((takeName_reads fits (fromUTF8?_toUTF8 h.name)).map ?_)
  obtain ⟨name, release, statsDisabled, wcet, period, deadline, t0, offset, overheads⟩ := h
  cases release <;> rfl

end TaskTiming.Log
