import TaskTiming.Proofs.Log.HeaderCodec

/-!
# The format of headers

The bytes that make a header are laid out part by part (`Layout`): fixed bytes, two flags, seven pairs of
words, and a name behind its length. A reader of a part takes exactly the rows of that part off the source
and refuses as corrupt whatever begins with none of them (`Decides`); readers in sequence do the same with
their rows in sequence. So a header is read from the bytes of a layout and from no others, and written
again they are the same but for the flags (`header_codec_is_exact`).
-/

namespace TaskTiming.Log
set_option autoImplicit false

/-! ## The format -/

/-- A time as the two words of a header. -/
structure Words where
  sec : UInt32
  nsec : UInt32
  nsec_lt : nsec.toNat < 1000000000

namespace Words

def bytes (w : Words) : List UInt8 := Bytes.ofNat 4 w.sec.toNat ++ Bytes.ofNat 4 w.nsec.toNat

def time (w : Words) : Time := { sec := w.sec.toUInt64, nsec := w.nsec, nsec_lt := w.nsec_lt }

@[simp] theorem length_bytes (w : Words) : w.bytes.length = 8 := by simp [bytes]

/-- The words of a time are the words that it was made from. -/
theorem encodeTime_time (w : Words) : encodeTime w.time = .ok w.bytes := by
  have sec : w.time.sec.toNat = w.sec.toNat := UInt32.toNat_toUInt64 w.sec
  have fits : w.time.sec.toNat < 2 ^ 32 := by
    rw [sec]
    exact w.sec.toNat_lt
  rw [encodeTime_of_lt fits, sec]
  rfl

end Words

/-- What the format of a header leaves open. -/
structure Layout where
  periodic : UInt8
  statsDisabled : UInt8
  wcet : Words
  period : Words
  deadline : Words
  t0 : Words
  offset : Words
  jobStats : Words
  finishToStart : Words
  name : List UInt8
  short : name.length ≤ 4096
  text : (⟨name.toArray⟩ : ByteArray).IsValidUTF8

namespace Layout

def times (l : Layout) : List Words :=
  [l.wcet, l.period, l.deadline, l.t0, l.offset, l.jobStats, l.finishToStart]

/-- The letters `RTJS`, the version, the byte order, the two widths, the flags, the times, and the name
with its length in front. -/
def bytes (l : Layout) : List UInt8 :=
  [0x52, 0x54, 0x4A, 0x53, 1, 4, 3, 2, 1, 8, 8, l.periodic, l.statsDisabled]
    ++ l.times.flatMap Words.bytes ++ Bytes.ofNat 4 l.name.length ++ l.name

theorem length_bytes (l : Layout) : l.bytes.length = 73 + l.name.length := by
  simp [bytes, times]
  omega

/-- A flag that is set is written as one. -/
def plain (l : Layout) : Layout :=
  { l with
    periodic := if l.periodic = 0 then 0 else 1
    statsDisabled := if l.statsDisabled = 0 then 0 else 1 }

/-- The header that the bytes stand for. -/
def header (l : Layout) : Header where
  name := .fromUTF8 ⟨l.name.toArray⟩ l.text
  release := if l.periodic ≠ 0 then .periodic else .aperiodic
  statsDisabled := l.statsDisabled ≠ 0
  wcet := l.wcet.time
  period := l.period.time
  deadline := l.deadline.time
  t0 := l.t0.time
  offset := l.offset.time
  overheads := { jobStats := l.jobStats.time, finishToStart := l.finishToStart.time }

theorem nameBytes_header (l : Layout) : l.header.nameBytes = l.name := by
  rw [Header.nameBytes, String.toUTF8_eq_toByteArray, toList_eq_data]
  rfl

theorem encodeTimes_times (ws : List Words) :
    encodeTimes (ws.map Words.time) = .ok (ws.flatMap Words.bytes) := by
  induction ws with
  | nil => rfl
  | cons w rest ih =>
    rw [List.map_cons, encodeTimes, w.encodeTime_time, ih]
    rfl

theorem flagByte_ne_zero (b : UInt8) : flagByte (b ≠ 0) = if b = 0 then 0 else 1 := by
  by_cases zero : b = 0 <;> simp [flagByte, zero]

/-- Written again, the bytes are the same but for flags. -/
theorem encode_header (l : Layout) : l.header.encode = .ok l.plain.bytes := by
  have times : encodeTimes l.header.times = .ok (l.times.flatMap Words.bytes) := encodeTimes_times l.times
  have periodic : decide (l.header.release = .periodic) = decide (l.periodic ≠ 0) := by
    simp only [header]
    split <;> simp_all
  rw [Header.encode, if_neg (Nat.not_lt.2 (by rw [nameBytes_header]; exact l.short)), times,
    nameBytes_header, Header.preamble, periodic, flagByte_ne_zero]
  show Except.ok _ = _
  congr 1
  simp only [header, flagByte_ne_zero]
  rfl

end Layout

/-! ## Readers of a format -/

/-- A reader takes the rows of a format, each for its value, and refuses as corrupt what begins with none
of them. -/
structure Decides {ι α : Type} (m : HeaderReader α) (row : ι → List UInt8) (value : ι → α) : Prop where
  reads : ∀ i, Reads m (row i) (value i)
  refuses : ∀ source : Source, source.Ends .eof → (∀ i, ¬row i <+: source.rest) →
    ∃ fault, m source = .error (.corruptLog fault)

section Decides

variable {ι κ α β : Type} {m : HeaderReader α} {f : α → HeaderReader β}

theorem bind_of_ok {source source' : Source} {a : α} (run : m source = .ok (a, source')) :
    (m >>= f) source = f a source' := by
  show (m source >>= fun p => f p.1 p.2) = _
  rw [run]
  rfl

theorem bind_of_error {source : Source} {e : Error} (run : m source = .error e) :
    (m >>= f) source = .error e := by
  show (m source >>= fun p => f p.1 p.2) = _
  rw [run]
  rfl

variable {row : ι → List UInt8} {value : ι → α}

/-- The rows of two readers in sequence are those of the one followed by those of the other. -/
theorem Decides.bind {row' : κ → List UInt8} {value' : ι → κ → β} (first : Decides m row value)
    (second : ∀ i, Decides (f (value i)) row' (value' i)) :
    Decides (m >>= f) (fun p : ι × κ => row p.1 ++ row' p.2) (fun p => value' p.1 p.2) where
  reads p := (first.reads p.1).bind ((second p.1).reads p.2)
  refuses source ends none := by
    by_cases begun : ∃ i, row i <+: source.rest
    · obtain ⟨i, after, here⟩ := begun
      obtain ⟨source', run, rest, ends'⟩ := first.reads i source after here.symm
      have none' : ∀ k, ¬row' k <+: source'.rest := by
        rintro k ⟨behind, there⟩
        apply none (i, k)
        refine ⟨behind, ?_⟩
        rw [List.append_assoc, there, rest, here]
      obtain ⟨fault, refused⟩ := (second i).refuses source' (ends' _ ends) none'
      exact ⟨fault, (bind_of_ok run).trans refused⟩
    · obtain ⟨fault, refused⟩ := first.refuses source ends fun i starts => begun ⟨i, starts⟩
      exact ⟨fault, bind_of_error refused⟩

/-- The last part of a header takes no more bytes. -/
theorem Decides.map {value' : ι → β} (first : Decides m row value)
    (last : ∀ i, f (value i) = pure (value' i)) : Decides (m >>= f) row value' where
  reads i := (first.reads i).map (last i)
  refuses source ends none := by
    obtain ⟨fault, refused⟩ := first.refuses source ends none
    exact ⟨fault, bind_of_error refused⟩

/-- The same format told otherwise. -/
theorem Decides.retell {row' : κ → List UInt8} {value' : κ → α} (decides : Decides m row value) (e : κ → ι)
    (all : ∀ i, ∃ k, e k = i) (rows : ∀ k, row (e k) = row' k) (values : ∀ k, value (e k) = value' k) :
    Decides m row' value' where
  reads k := by
    rw [← rows, ← values]
    exact decides.reads (e k)
  refuses source ends none := by
    apply decides.refuses source ends
    intro i
    obtain ⟨k, rfl⟩ := all i
    rw [rows]
    exact none k

/-- A part is there whole, or the bytes end in it. -/
theorem takePart_cases (part : HeaderPart) (n : Nat) {source : Source} (ends : source.Ends .eof) :
    (source.rest.length < n ∧ takePart part n source = .error (.corruptLog (.truncated part))) ∨
    ∃ taken after source', source.rest = taken ++ after ∧ taken.length = n ∧
      takePart part n source = .ok (taken, source') ∧ source'.rest = after ∧ source'.Ends .eof := by
  by_cases fits : n ≤ source.rest.length
  · right
    have whole : (source.rest.take n).length = n := List.length_take_of_le fits
    have here : source.rest = source.rest.take n ++ source.rest.drop n := (List.take_append_drop n _).symm
    obtain ⟨source', run, rest, ends'⟩ := takePart_reads part (source.rest.take n) source _ here
    rw [whole] at run
    exact ⟨_, _, source', here, whole, run, rest, ends' _ ends⟩
  · left
    have taken := ends.take_eq n
    rw [if_neg fits] at taken
    refine ⟨Nat.not_le.1 fits, ?_⟩
    unfold takePart
    rw [← Prod.eta (source.take n), taken]
    exact if_neg (by omega)

theorem takePart_decides (part : HeaderPart) (n : Nat) :
    Decides (takePart part n) (fun bytes : { bytes : List UInt8 // bytes.length = n } => bytes.val) (·.val) where
  reads bytes := by
    have reads := takePart_reads part bytes.val
    rwa [bytes.property] at reads
  refuses source ends none := by
    rcases takePart_cases part n ends with ⟨-, short⟩ | ⟨taken, after, -, here, whole, -⟩
    · exact ⟨_, short⟩
    · exact (none ⟨taken, whole⟩ ⟨after, here.symm⟩).elim

/-- A part that can have one value alone. -/
theorem Decides.fixed {part : HeaderPart} (bytes : List UInt8) {g : List UInt8 → HeaderReader α}
    (next : Decides (g bytes) row value)
    (others : ∀ taken, taken.length = bytes.length → taken ≠ bytes → ∃ fault, g taken = corrupt fault) :
    Decides (takePart part bytes.length >>= g) (fun i => bytes ++ row i) value where
  reads i := (takePart_reads part bytes).bind (next.reads i)
  refuses source ends none := by
    rcases takePart_cases part bytes.length ends with ⟨-, short⟩ | ⟨taken, after, source', here, whole, run,
      rest, ends'⟩
    · exact ⟨_, bind_of_error short⟩
    · by_cases same : taken = bytes
      · subst same
        have none' : ∀ i, ¬row i <+: source'.rest := by
          rintro i ⟨behind, there⟩
          exact none i ⟨behind, by rw [List.append_assoc, there, rest, here]⟩
        obtain ⟨fault, refused⟩ := next.refuses source' ends' none'
        exact ⟨fault, (bind_of_ok run).trans refused⟩
      · obtain ⟨fault, refused⟩ := others taken whole same
        refine ⟨fault, (bind_of_ok run).trans ?_⟩
        rw [refused]
        rfl

/-- What a reader has taken is a row of its format. -/
theorem Decides.of_ok (decides : Decides m row value) {source source' : Source} {a : α}
    (ends : source.Ends .eof) (run : m source = .ok (a, source')) :
    ∃ i, value i = a ∧ source.rest = row i ++ source'.rest ∧ source'.Ends .eof := by
  by_cases begun : ∃ i, row i <+: source.rest
  · obtain ⟨i, after, here⟩ := begun
    obtain ⟨behind, run', rest, ends'⟩ := decides.reads i source after here.symm
    rw [run] at run'
    cases run'
    exact ⟨i, rfl, by rw [rest, here], ends' _ ends⟩
  · obtain ⟨fault, refused⟩ := decides.refuses source ends fun i starts => begun ⟨i, starts⟩
    rw [run] at refused
    cases refused

end Decides

/-! ## The parts of a header -/

/-- A row of bytes of that width stands for a number if it is the row made from it. -/
theorem eq_ofNat_of_value {bytes : List UInt8} {width n : Nat} (whole : bytes.length = width)
    (value : Bytes.value bytes = n) : bytes = Bytes.ofNat width n := by
  rw [← value, ← whole, Bytes.ofNat_value]

/-- Two bytes are told apart from two others by their numbers. -/
theorem pair_eq {bytes : List UInt8} (two : bytes.length = 2) {a b : UInt8}
    (first : Bytes.value (bytes.take 1) = a.toNat) (second : Bytes.value (bytes.drop 1) = b.toNat) :
    bytes = [a, b] := by
  match bytes, two with
  | [c, d], _ =>
    simp only [List.take, List.drop, Bytes.value, Nat.mul_zero, Nat.add_zero, UInt8.toNat_inj] at first second
    rw [first, second]

theorem value_ne_zero (b : UInt8) : decide (Bytes.value [b] ≠ 0) = decide (b ≠ 0) := by
  rw [decide_eq_decide]
  simp [Bytes.value, ← UInt8.toNat_inj]

/-- The flags may be any two bytes. -/
theorem flags_decide :
    Decides (takePart .flags 2 >>= fun flags =>
        pure (decide (Bytes.value (flags.take 1) ≠ 0), decide (Bytes.value (flags.drop 1) ≠ 0)))
      (fun flags : UInt8 × UInt8 => [flags.1, flags.2])
      (fun flags : UInt8 × UInt8 => (decide (flags.1 ≠ 0), decide (flags.2 ≠ 0))) := by
  have read := (takePart_decides .flags 2).map (f := fun flags =>
    pure (decide (Bytes.value (flags.take 1) ≠ 0), decide (Bytes.value (flags.drop 1) ≠ 0))) fun _ => rfl
  refine read.retell (fun flags : UInt8 × UInt8 => ⟨[flags.1, flags.2], rfl⟩) ?_ (fun _ => rfl) ?_
  · rintro ⟨bytes, whole⟩
    match bytes, whole with
    | [a, b], _ => exact ⟨(a, b), rfl⟩
  · rintro ⟨a, b⟩
    exact Prod.ext (value_ne_zero a) (value_ne_zero b)

/-- Up to the times only the flags are open. -/
theorem takePreamble_decides :
    Decides takePreamble
      (fun flags : UInt8 × UInt8 => magic ++ ([version] ++ (Bytes.ofNat 4 byteOrderTag ++
        ([UInt8.ofNat secWidth, UInt8.ofNat nsecWidth] ++ [flags.1, flags.2]))))
      (fun flags => (decide (flags.1 ≠ 0), decide (flags.2 ≠ 0))) := by
  unfold takePreamble
  refine .fixed magic ?_ ?_
  · rw [if_neg (not_not_intro rfl)]
    refine .fixed [version] ?_ ?_
    · rw [if_neg (by decide)]
      refine .fixed (Bytes.ofNat 4 byteOrderTag) ?_ ?_
      · rw [if_neg (by decide)]
        refine .fixed [UInt8.ofNat secWidth, UInt8.ofNat nsecWidth] ?_ ?_
        · rw [if_neg (by decide)]
          exact flags_decide
        · intro taken whole other
          refine ⟨_, if_pos (Classical.not_and_iff_not_or_not.1 ?_)⟩
          rintro ⟨sec, nsec⟩
          exact other (pair_eq whole sec nsec)
      · intro taken whole other
        exact ⟨_, if_pos fun value => other (eq_ofNat_of_value whole value)⟩
    · intro taken whole other
      refine ⟨_, if_pos fun value => other ?_⟩
      exact eq_ofNat_of_value whole value
  · intro taken _ other
    exact ⟨_, if_pos other⟩

theorem takeTime_decides : Decides takeTime Words.bytes Words.time where
  reads w := takeTime_reads w.encodeTime_time
  refuses source ends none := by
    unfold takeTime
    rcases takePart_cases .time 4 ends with ⟨-, short⟩ | ⟨first, behind, source', here, four, run, rest, ends'⟩
    · exact ⟨_, bind_of_error short⟩
    rw [bind_of_ok run]
    rcases takePart_cases .time 4 ends' with ⟨-, short⟩ | ⟨second, after, source'', here', four', run', -⟩
    · exact ⟨_, bind_of_error short⟩
    rw [bind_of_ok run']
    by_cases lt : (UInt32.ofNat (Bytes.value second)).toNat < 1000000000
    · -- Then the words make a time, and its row was there.
      have sound {bytes : List UInt8} (four : bytes.length = 4) :
          Bytes.ofNat 4 (UInt32.ofNat (Bytes.value bytes)).toNat = bytes := by
        have word := Bytes.value_lt bytes
        rw [four] at word
        rw [UInt32.toNat_ofNat_of_lt' word]
        exact (eq_ofNat_of_value four rfl).symm
      refine (none ⟨UInt32.ofNat (Bytes.value first), _, lt⟩ ⟨after, ?_⟩).elim
      rw [Words.bytes, sound four, sound four', here, ← rest, here', List.append_assoc]
    · have malformed : Time.ofWords32 (UInt32.ofNat (Bytes.value first)) (UInt32.ofNat (Bytes.value second)) =
          .error (.malformed .nanosecondsOutOfRange) := dif_neg lt
      rw [malformed]
      exact ⟨_, rfl⟩

/-- The bytes of a name that a header has room for. -/
abbrev Naming : Type :=
  { name : List UInt8 // name.length ≤ maxNameLength ∧ (⟨name.toArray⟩ : ByteArray).IsValidUTF8 }

theorem takeName_decides :
    Decides takeName (fun name : Naming => Bytes.ofNat 4 name.val.length ++ name.val)
      (fun name => .fromUTF8 ⟨name.val.toArray⟩ name.property.2) where
  reads name := takeName_reads name.property.1 (dif_pos name.property.2)
  refuses source ends none := by
    unfold takeName
    rcases takePart_cases .nameLength 4 ends with
      ⟨-, short⟩ | ⟨front, behind, source', here, four, run, rest, ends'⟩
    · exact ⟨_, bind_of_error short⟩
    rw [bind_of_ok run]
    by_cases long : maxNameLength < Bytes.value front
    · exact ⟨_, congrFun (if_pos long) source'⟩
    dsimp only
    rw [if_neg long]
    rcases takePart_cases .name (Bytes.value front) ends' with
      ⟨-, short⟩ | ⟨name, after, source'', here', whole, run', -⟩
    · exact ⟨_, bind_of_error short⟩
    rw [bind_of_ok run']
    by_cases text : (⟨name.toArray⟩ : ByteArray).IsValidUTF8
    · refine (none ⟨name, by omega, text⟩ ⟨after, ?_⟩).elim
      show Bytes.ofNat 4 name.length ++ name ++ after = _
      rw [whole, ← eq_ofNat_of_value four rfl, here, ← rest, here', List.append_assoc]
    · have garbled : String.fromUTF8? ⟨name.toArray⟩ = .none := dif_neg text
      rw [garbled]
      exact ⟨_, rfl⟩

/-- The bytes of a layout, part by part. -/
theorem Layout.bytes_eq (l : Layout) : l.bytes =
    magic ++ ([version] ++ (Bytes.ofNat 4 byteOrderTag ++
      ([UInt8.ofNat secWidth, UInt8.ofNat nsecWidth] ++ [l.periodic, l.statsDisabled]))) ++
    (l.wcet.bytes ++ (l.period.bytes ++ (l.deadline.bytes ++ (l.t0.bytes ++ (l.offset.bytes ++
      (l.jobStats.bytes ++ (l.finishToStart.bytes ++ (Bytes.ofNat 4 l.name.length ++ l.name)))))))) := by
  have tag : Bytes.ofNat 4 byteOrderTag = [4, 3, 2, 1] := by decide
  simp only [Layout.bytes, Layout.times, List.flatMap_cons, List.flatMap_nil, List.append_assoc,
    List.nil_append, tag]
  rfl

/-- **Headers have a format.** A header is read from the bytes of a layout and from no others. -/
theorem Header.decode_decides : Decides Header.decode Layout.bytes Layout.header := by
  unfold Header.decode
  refine Decides.retell (takePreamble_decides.bind fun _ =>
    takeTime_decides.bind fun _ => takeTime_decides.bind fun _ => takeTime_decides.bind fun _ =>
    takeTime_decides.bind fun _ => takeTime_decides.bind fun _ => takeTime_decides.bind fun _ =>
    takeTime_decides.bind fun _ => takeName_decides.map fun _ => rfl)
    (fun l => ((l.periodic, l.statsDisabled), l.wcet, l.period, l.deadline, l.t0, l.offset, l.jobStats,
      l.finishToStart, ⟨l.name, l.short, l.text⟩)) ?_ ?_ ?_
  · rintro ⟨flags, wcet, period, deadline, t0, offset, jobStats, finishToStart, name⟩
    exact ⟨{
      periodic := flags.1, statsDisabled := flags.2, wcet, period, deadline, t0, offset, jobStats
      finishToStart, name := name.val, short := name.property.1, text := name.property.2 }, rfl⟩
  · intro l
    exact l.bytes_eq.symm
  · intro l
    simp only [Layout.header, decide_eq_true_eq]

theorem lt_of_encodeTime {t : Time} {bytes : List UInt8} (ok : encodeTime t = .ok bytes) :
    t.sec.toNat < 2 ^ 32 := by
  by_cases fits : t.sec.toNat < 2 ^ 32
  · exact fits
  · have overflows : t.toWords32 = .error .overflow := dif_neg fits
    rw [encodeTime, overflows] at ok
    cases ok

theorem lt_of_encodeTimes {times : List Time} {bytes : List UInt8} (ok : encodeTimes times = .ok bytes) :
    ∀ t ∈ times, t.sec.toNat < 2 ^ 32 := by
  induction times generalizing bytes with
  | nil =>
    intro t mem
    cases mem
  | cons u rest ih =>
    obtain ⟨first, second, firstOk, restOk, -⟩ := encodeTimes_cons_eq_ok ok
    intro t mem
    rcases List.mem_cons.1 mem with rfl | later
    · exact lt_of_encodeTime firstOk
    · exact ih restOk t later

/-- What reading a header from these bytes comes to. -/
structure DecodesExactly (bytes : List UInt8) : Prop where
  /-- Accepted is what begins with the bytes of a layout. -/
  accepts : (∃ read, Header.decode (.ofBytes bytes) = .ok read) ↔ ∃ l : Layout, l.bytes <+: bytes
  /-- All else is corrupt. -/
  refuses : ∀ e, Header.decode (.ofBytes bytes) = .error e → ∃ fault, e = .corruptLog fault
  /-- Just the bytes of the layout are taken. What was read has the same bytes, but for the flags. -/
  takes : ∀ h source, Header.decode (.ofBytes bytes) = .ok (h, source) →
    ∃ l : Layout, h = l.header ∧ bytes = l.bytes ++ source.rest ∧ l.bytes.length = 73 + l.name.length ∧
      h.encode = .ok l.plain.bytes

/-- What writing a header comes to. -/
structure EncodesExactly (h : Header) : Prop where
  /-- Accepted is a header with a name that is not too long and times whose seconds are 32-bit words. -/
  accepts : (∃ bytes, h.encode = .ok bytes) ↔
    h.nameBytes.length ≤ 4096 ∧ ∀ t ∈ h.times, t.sec.toNat < 2 ^ 32
  /-- It is read back from its bytes. -/
  readBack : ∀ bytes, h.encode = .ok bytes →
    ∃ source, Header.decode (.ofBytes bytes) = .ok (h, source) ∧ source.rest = []

/-- **Headers are read and written in exactly their format.** -/
theorem header_codec_is_exact (bytes : List UInt8) (h : Header) : DecodesExactly bytes ∧ EncodesExactly h := by
  have whole (bytes : List UInt8) : (Source.ofBytes bytes).rest = bytes := Source.rest_ofBytes bytes
  have ends : (Source.ofBytes bytes).Ends .eof := Source.ends_ofBytes bytes
  refine ⟨⟨?_, ?_, ?_⟩, ⟨?_, ?_⟩⟩
  · constructor
    · rintro ⟨⟨_, source⟩, run⟩
      obtain ⟨l, -, here, -⟩ := Header.decode_decides.of_ok ends run
      rw [whole] at here
      exact ⟨l, source.rest, here.symm⟩
    · rintro ⟨l, after, rfl⟩
      obtain ⟨source, run, -⟩ := Header.decode_decides.reads l (.ofBytes _) after (whole _)
      exact ⟨_, run⟩
  · intro e failed
    by_cases begun : ∃ l : Layout, l.bytes <+: bytes
    · obtain ⟨l, after, rfl⟩ := begun
      obtain ⟨source, run, -⟩ := Header.decode_decides.reads l (.ofBytes _) after (whole _)
      rw [run] at failed
      cases failed
    · obtain ⟨fault, refused⟩ := Header.decode_decides.refuses (.ofBytes bytes) ends fun l starts =>
        begun ⟨l, by rwa [whole] at starts⟩
      rw [refused] at failed
      cases failed
      exact ⟨fault, rfl⟩
  · intro h source run
    obtain ⟨l, rfl, here, -⟩ := Header.decode_decides.of_ok ends run
    rw [whole] at here
    exact ⟨l, rfl, here, l.length_bytes, l.encode_header⟩
  · constructor
    · rintro ⟨bytes, ok⟩
      obtain ⟨short, times, written, -⟩ := Header.encode_eq_ok ok
      exact ⟨short, lt_of_encodeTimes written⟩
    · rintro ⟨short, fit⟩
      exact Header.encode_accepts short fit
  · intro bytes ok
    obtain ⟨source, run, rest, -⟩ := Header.decode_encode ok (.ofBytes bytes) [] (by simp [whole])
    exact ⟨source, run, rest⟩

end TaskTiming.Log
