import TaskTiming.Proofs.Log.RecordStream
import TaskTiming.Proofs.Log.WaysOfReading

/-!
# Sources that fail

A header is read by a plan, so there is a place up to which it asks for bytes (`Plan.asked`), and a source of
which fewer come tells its ending (`Plan.run_of_short`), while one of which enough come is read as any other
that begins with the same bytes (`Plan.run_of_enough`). The records behind ask for as many bytes each. Where
bytes are asked for that do not come, a failing source is told as a failure, and the end of the bytes as a
corrupt log, but for an end between records (`failures_are_told_apart`). In the header alone a source that
says of itself that it ended too early is taken at its word (`header_is_truncated_by_failure`).
-/

namespace TaskTiming.Log
set_option autoImplicit false

/-- The bytes that stay end before a part is whole. -/
def Ending.inside (part : HeaderPart) : Ending → Error
  | .eof => .corruptLog (.truncated part)
  | .fails cause => partFailure part cause

/-! ## Enough bytes, or too few -/

namespace Plan

variable {α : Type}

/-- How many bytes are asked for where these are to come. -/
def asked : Plan α → List UInt8 → Nat
  | done _, _ => 0
  | refuse _, _ => 0
  | part _ length next, bytes =>
    if length ≤ bytes.length then length + (next (bytes.take length)).asked (bytes.drop length)
    else length

end Plan

theorem takePart_of_le (part : HeaderPart) {n : Nat} {s : Source} (fits : n ≤ s.rest.length) :
    ∃ s', takePart part n s = .ok (s.rest.take n, s') ∧ s'.rest = s.rest.drop n ∧ ∀ e, s.Ends e → s'.Ends e := by
  have reads := takePart_reads part (s.rest.take n) s (s.rest.drop n) (List.take_append_drop n _).symm
  rwa [List.length_take_of_le fits] at reads

theorem takePart_of_lt (part : HeaderPart) {n : Nat} {s : Source} {e : Ending} (ends : s.Ends e)
    (short : s.rest.length < n) : takePart part n s = .error (e.inside part) := by
  have taken := ends.take_eq n
  rw [if_neg (Nat.not_le.2 short)] at taken
  unfold takePart
  rw [← Prod.eta (s.take n), taken]
  cases e with
  | eof => exact if_neg (by omega)
  | fails cause => rfl

/-- Bytes that begin another row of bytes begin with the same. -/
theorem take_eq_of_prefix {l l' : List UInt8} (begins : l <+: l') {n : Nat} (fits : n ≤ l.length) :
    l'.take n = l.take n := by
  obtain ⟨more, rfl⟩ := begins
  exact List.take_append_of_le_length fits

theorem prefix_drop {l l' : List UInt8} (begins : l <+: l') {n : Nat} (fits : n ≤ l.length) :
    l.drop n <+: l'.drop n := by
  obtain ⟨more, rfl⟩ := begins
  exact ⟨more, (List.drop_append_of_le_length fits).symm⟩

/-- The same refusal, or the same value and as many bytes taken off. -/
inductive Onwards {α : Type} (n : Nat) (s t : Source) : Result (α × Source) → Result (α × Source) → Prop
  | error (e : Error) : Onwards n s t (.error e) (.error e)
  | ok (a : α) {s' t' : Source} (rest : s'.rest = s.rest.drop n) (ends : ∀ e, s.Ends e → s'.Ends e)
      (rest' : t'.rest = t.rest.drop n) (ends' : ∀ e, t.Ends e → t'.Ends e) :
      Onwards n s t (.ok (a, s')) (.ok (a, t'))

namespace Plan

variable {α : Type} {s t : Source}

/-- **Where too few bytes come, the ending is told.** -/
theorem run_of_short (plan : Plan α) {e : Ending} (ends : s.Ends e) {bytes : List UInt8}
    (begins : s.rest <+: bytes) (short : s.rest.length < plan.asked bytes) :
    ∃ part, plan.run s = .error (e.inside part) := by
  induction plan generalizing s bytes with
  | done a => exact absurd short (Nat.not_lt_zero _)
  | refuse fault => exact absurd short (Nat.not_lt_zero _)
  | part p length next ih =>
    by_cases fits : length ≤ s.rest.length
    · obtain ⟨s', taken, rest, ends'⟩ := takePart_of_le p fits
      have same := take_eq_of_prefix begins fits
      rw [asked, if_pos (Nat.le_trans fits begins.length_le), same] at short
      have begins' : s'.rest <+: bytes.drop length := by
        rw [rest]
        exact prefix_drop begins fits
      obtain ⟨q, fails⟩ := ih (s.rest.take length) (ends' e ends) begins' (by rw [rest, List.length_drop]; omega)
      exact ⟨q, (bind_of_ok taken).trans fails⟩
    · exact ⟨p, bind_of_error (takePart_of_lt p ends (Nat.not_le.1 fits))⟩

/-- **Where enough bytes come, nothing else is looked at.** -/
theorem run_of_enough (plan : Plan α) (begins : s.rest <+: t.rest)
    (enough : plan.asked t.rest ≤ s.rest.length) :
    Onwards (plan.asked t.rest) s t (plan.run s) (plan.run t) := by
  induction plan generalizing s t with
  | done a => exact .ok a rfl (fun _ ends => ends) rfl (fun _ ends => ends)
  | refuse fault => exact .error _
  | part p length next ih =>
    by_cases fits : length ≤ t.rest.length
    · rw [asked, if_pos fits] at enough ⊢
      have fits' : length ≤ s.rest.length := by omega
      obtain ⟨s', taken, rest, ends⟩ := takePart_of_le p fits'
      obtain ⟨t', taken', rest', ends'⟩ := takePart_of_le p fits
      have same := take_eq_of_prefix begins fits'
      rw [same] at taken' enough ⊢
      rw [run, bind_of_ok taken, bind_of_ok taken']
      have later := ih (s.rest.take length) (s := s') (t := t')
        (by rw [rest, rest']; exact prefix_drop begins fits')
        (by rw [rest, rest', List.length_drop]; omega)
      rw [← rest']
      generalize (next (s.rest.take length)).run s' = result at later ⊢
      generalize (next (s.rest.take length)).run t' = result' at later ⊢
      cases later with
      | error e => exact .error e
      | ok a left later left' later' =>
        refine .ok a ?_ (fun e whole => later e (ends e whole)) ?_ (fun e whole => later' e (ends' e whole))
        · rw [left, rest, List.drop_drop]
        · rw [left', rest', List.drop_drop, ← rest']
    · rw [asked, if_neg fits] at enough
      have := begins.length_le
      omega

end Plan

/-! ## Records -/

namespace Reader

variable {r : Reader} {e : Ending}

theorem source_next (r : Reader) : r.next.2.source = (r.source.take recordSize).2 := by
  unfold next
  split <;> rename_i taken <;> rw [taken]

/-- Every call takes a record's bytes off, whatever it answers. -/
theorem rest_skip (ends : r.source.Ends e) (k : Nat) :
    (r.skip k).source.Ends e ∧ (r.skip k).source.rest = r.source.rest.drop (recordSize * k) := by
  induction k generalizing r with
  | zero => exact ⟨ends, rfl⟩
  | succ k ih =>
    have left := ends.take recordSize
    have rest := ends.take_rest recordSize
    rw [← source_next] at left rest
    have later := ih left
    rwa [rest, List.drop_drop, Nat.add_comm, ← Nat.mul_succ] at later

/-- A record that comes whole is decoded. -/
theorem next_of_le (fits : recordSize ≤ r.source.rest.length) :
    r.next.1 = (decodeSample (r.source.rest.take recordSize)).map some := by
  have whole := List.length_take_of_le fits
  have taken := (Source.take_of_le fits).1
  unfold next
  generalize r.source.rest.take recordSize = record at whole taken ⊢
  generalize r.source.take recordSize = answer at taken ⊢
  obtain ⟨result, source⟩ := answer
  obtain rfl : result = .ok record := taken
  cases record with
  | nil => exact absurd whole (by decide)
  | cons b bytes => exact if_pos whole

/-- One that does not fails with the source. -/
theorem next_of_fails {cause : IoError} (short : r.source.rest.length < recordSize)
    (fails : r.source.Ends (.fails cause)) : r.next.1 = .error (.io cause) := by
  have taken := fails.take_eq recordSize
  rw [if_neg (Nat.not_le.2 short), Ending.settle] at taken
  unfold next
  rw [← Prod.eta (r.source.take recordSize), taken]

theorem answer_of_le (ends : r.source.Ends e) {k : Nat} (fits : recordSize * (k + 1) ≤ r.source.rest.length) :
    r.answer k = (decodeSample ((r.source.rest.drop (recordSize * k)).take recordSize)).map some := by
  obtain ⟨-, rest⟩ := rest_skip ends k
  rw [answer, next_of_le, rest]
  rw [rest, List.length_drop]
  rw [Nat.mul_succ] at fits
  omega

theorem answer_of_fails {k : Nat} {cause : IoError} (short : r.source.rest.length < recordSize * (k + 1))
    (fails : r.source.Ends (.fails cause)) : r.answer k = .error (.io cause) := by
  obtain ⟨ends, rest⟩ := rest_skip fails k
  apply next_of_fails _ ends
  rw [rest, List.length_drop]
  rw [Nat.mul_succ] at short
  have : 0 < recordSize := by decide
  omega

/-- A record that comes from two sources is the same for both. -/
theorem answer_eq_of_prefix {q : Reader} {e' : Ending} (ends : r.source.Ends e) (ends' : q.source.Ends e')
    (begins : q.source.rest <+: r.source.rest) {k : Nat}
    (fits : recordSize * (k + 1) ≤ q.source.rest.length) : q.answer k = r.answer k := by
  have fits' := Nat.le_trans fits begins.length_le
  have before : recordSize * k ≤ q.source.rest.length := by
    rw [Nat.mul_succ] at fits
    omega
  have room : recordSize ≤ (q.source.rest.drop (recordSize * k)).length := by
    rw [List.length_drop]
    rw [Nat.mul_succ] at fits
    omega
  rw [answer_of_le ends' fits, answer_of_le ends fits', take_eq_of_prefix (prefix_drop begins before) room]

end Reader

/-! ## Records of a log that is cut -/

section Cut

variable {left : List UInt8} {answer : Nat → Result (Option Sample)}

/-- Every call answers a sample, or a fault of the log, or the end behind all bytes. -/
theorem AnswersInTurn.cases (answers : AnswersInTurn left answer) (k : Nat) :
    (∃ s, answer k = .ok (some s)) ∨ (∃ fault, answer k = .error (.corruptLog fault)) ∨
      (left.length ≤ 32 * k ∧ answer k = .ok none) := by
  by_cases inside : k < left.length / 32
  · have decoded := answers.record k inside
    by_cases sound : Sound ((left.drop (32 * k)).take 32)
    · obtain ⟨s, read, -⟩ := decoded.sample sound
      exact .inl ⟨s, read⟩
    · exact .inr (.inl (decoded.corrupt sound))
  · by_cases behind : left.length ≤ 32 * k
    · exact .inr (.inr ⟨behind, answers.ended k behind⟩)
    · obtain rfl : k = left.length / 32 := by omega
      exact .inr (.inl ⟨_, answers.rest (by omega)⟩)

theorem AnswersInTurn.ne_io (answers : AnswersInTurn left answer) (k : Nat) (cause : IoError) :
    answer k ≠ .error (.io cause) := by
  obtain ⟨s, told⟩ | ⟨fault, told⟩ | ⟨-, told⟩ := answers.cases k <;> rw [told] <;> simp

theorem AnswersInTurn.length_le (answers : AnswersInTurn left answer) {k : Nat} (ended : answer k = .ok none) :
    left.length ≤ 32 * k := by
  obtain ⟨s, told⟩ | ⟨fault, told⟩ | ⟨behind, -⟩ := answers.cases k
  · rw [told] at ended
    cases ended
  · rw [told] at ended
    cases ended
  · exact behind

/-- What is read of a log of which only `length` bytes of its records come. -/
structure CutRecords (length : Nat) (r cut : Reader) : Prop where
  header : cut.header = r.header
  /-- The records that come whole are answered as in the whole log, -/
  complete : ∀ k < length / 32, cut.answer k = r.answer k
  /-- what comes of the next one is a corrupt log, -/
  inside : length % 32 ≠ 0 → cut.answer (length / 32) = .error (.corruptLog (.partialRecord (length % 32)))
  /-- and then comes the end. -/
  ended : ∀ k, length ≤ 32 * k → cut.answer k = .ok none
  noFailure : ∀ (k : Nat) (cause : IoError), cut.answer k ≠ .error (.io cause)
  /-- Of samples that can all be read those before the cut are read, and then the log is corrupt. -/
  samples : length % 32 ≠ 0 → ∀ samples, r.readAll = .ok samples →
    cut.Yields (samples.take (length / 32)) (some (.corruptLog (.partialRecord (length % 32))))

/-- **A cut loses the records behind it** and no other. -/
theorem cutRecords_of_prefix {r cut : Reader} {length : Nat} (header : cut.header = r.header)
    (ends : r.source.Ends .eof) (ends' : cut.source.Ends .eof)
    (begins : cut.source.rest <+: r.source.rest) (here : cut.source.rest.length = length) :
    CutRecords length r cut := by
  subst here
  have whole : AnswersInTurn r.source.rest r.answer := Reader.Before.answers ⟨rfl, rfl, ends⟩
  have answers : AnswersInTurn cut.source.rest cut.answer := Reader.Before.answers ⟨rfl, rfl, ends'⟩
  have complete : ∀ k < cut.source.rest.length / 32, cut.answer k = r.answer k := by
    intro k inside
    apply Reader.answer_eq_of_prefix ends ends' begins
    rw [recordSize]
    omega
  refine ⟨header, complete, answers.rest, answers.ended, answers.ne_io, ?_⟩
  intro some samples all
  obtain ⟨each, behind⟩ := Reader.yields_iff.1 (Reader.readAll_eq_ok_iff.1 all)
  have few : cut.source.rest.length / 32 ≤ samples.length := by
    have long := whole.length_le behind
    have := begins.length_le
    omega
  rw [Reader.yields_iff, List.length_take_of_le few]
  refine ⟨fun k s here => ?_, answers.rest some⟩
  rw [List.getElem?_take] at here
  by_cases inside : k < cut.source.rest.length / 32
  · rw [if_pos inside] at here
    rw [complete k inside]
    exact each k s here
  · rw [if_neg inside] at here
    cases here

end Cut

/-! ## Failures and cuts -/

/-- What comes of a source of which `q` bytes come before it fails, where another goes on. The header asks
for that many bytes. -/
structure ToldFailing (asked q : Nat) (cause : IoError) (whole failing : Result Reader) : Prop where
  header : q < asked → cause.isUnexpectedEof = false → failing = .error (.io cause)
  /-- A source that says of itself that it ended too early is believed. -/
  truncated : q < asked → cause.isUnexpectedEof = true →
    ∃ part, failing = .error (.corruptLog (.truncated part))
  refused : asked ≤ q → ∀ e, whole = .error e → failing = .error e
  /-- Behind a header that is read each call answers alike if its record comes, and fails if not. -/
  records : asked ≤ q → ∀ r, whole = .ok r → ∃ r', failing = .ok r' ∧ r'.header = r.header ∧
    ∀ k, r'.answer k = if asked + 32 * (k + 1) ≤ q then r.answer k else .error (.io cause)

/-- What comes of a log behind whose first `q` bytes there are no more. -/
structure ToldCut (asked q : Nat) (r : Reader) (cut : Result Reader) : Prop where
  asked_eq : asked = 73 + r.header.nameBytes.length
  header : q < asked → ∃ part, cut = .error (.corruptLog (.truncated part))
  records : asked ≤ q → ∃ r', cut = .ok r' ∧ CutRecords (q - asked) r r'

/-- A reader that stands `n` bytes behind where a source stood. -/
structure Reader.Behind (r : Reader) (s : Source) (n : Nat) : Prop where
  rest : r.source.rest = s.rest.drop n
  ends : ∀ e, s.Ends e → r.source.Ends e

/-- The same refusal, or readers behind the same header. -/
inductive OpenedAlike (n : Nat) (s t : Source) : Result Reader → Result Reader → Prop
  | refused (e : Error) : OpenedAlike n s t (.error e) (.error e)
  | read {r r' : Reader} (header : r.header = r'.header) (behind : r.Behind s n) (behind' : r'.Behind t n) :
    OpenedAlike n s t (.ok r) (.ok r')

theorem Reader.new_eq (s : Source) :
    Reader.new s = (Header.decode s).map fun read => { header := read.1, source := read.2 } := by
  unfold new
  cases Header.decode s <;> rfl

section Opening

variable {plan : Plan Header} {s t : Source}

theorem new_of_short (planned : plan.run = Header.decode) {e : Ending} (ends : s.Ends e) {bytes : List UInt8}
    (begins : s.rest <+: bytes) (short : s.rest.length < plan.asked bytes) :
    ∃ part, Reader.new s = .error (e.inside part) := by
  obtain ⟨part, refused⟩ := plan.run_of_short ends begins short
  refine ⟨part, ?_⟩
  rw [Reader.new_eq, ← planned, refused]
  rfl

theorem new_of_enough (planned : plan.run = Header.decode) (begins : s.rest <+: t.rest)
    (enough : plan.asked t.rest ≤ s.rest.length) :
    OpenedAlike (plan.asked t.rest) s t (Reader.new s) (Reader.new t) := by
  have onwards := plan.run_of_enough begins enough
  rw [Reader.new_eq, Reader.new_eq, ← planned]
  generalize plan.run s = result at onwards ⊢
  generalize plan.run t = result' at onwards ⊢
  cases onwards with
  | error e => exact .refused e
  | ok h rest ends rest' ends' => exact .read rfl ⟨rest, ends⟩ ⟨rest', ends'⟩

/-- The place that a header asks up to is its length, if it is read. -/
theorem asked_of_new (planned : plan.run = Header.decode) (ends : t.Ends .eof) {r : Reader}
    (read : Reader.new t = .ok r) : plan.asked t.rest = 73 + r.header.nameBytes.length := by
  have enough : plan.asked t.rest ≤ t.rest.length := by
    refine Nat.le_of_not_lt fun short => ?_
    obtain ⟨part, refused⟩ := new_of_short planned ends (List.prefix_refl _) short
    rw [read] at refused
    cases refused
  have alike := new_of_enough planned (List.prefix_refl _) enough
  rw [read] at alike
  cases alike with
  | read _ behind _ =>
    cases decoded : Header.decode t with
    | error e =>
      rw [Reader.new_eq, decoded] at read
      cases read
    | ok value =>
      rw [Reader.new_eq, decoded] at read
      cases read
      obtain ⟨l, header, bytes, -⟩ := Header.decode_decides.of_ok ends decoded
      have whole := congrArg List.length bytes
      have left := congrArg List.length behind.rest
      rw [List.length_append, l.length_bytes] at whole
      rw [List.length_drop] at left
      dsimp only at left ⊢
      rw [← header, l.nameBytes_header]
      omega

end Opening

/-- **Failures and ends are told apart**, but for a source that says inside a header that it ended too early. -/
theorem failures_are_told_apart {plan : Plan Header} (planned : plan.run = Header.decode)
    {whole short : Source} (ends : whole.Ends .eof) {q : Nat} (inside : q ≤ whole.rest.length)
    (begins : short.rest = whole.rest.take q) :
    (∀ cause, short.Ends (.fails cause) →
      ToldFailing (plan.asked whole.rest) q cause (Reader.new whole) (Reader.new short)) ∧
    (short.Ends .eof → ∀ r, Reader.new whole = .ok r →
      ToldCut (plan.asked whole.rest) q r (Reader.new short)) := by
  obtain rfl : short.rest.length = q := by rw [begins, List.length_take_of_le inside]
  have starts : short.rest <+: whole.rest := by
    rw [begins]
    exact List.take_prefix _ _
  have tooFew {e : Ending} (stops : short.Ends e) (few : short.rest.length < plan.asked whole.rest) :=
    new_of_short planned stops starts few
  have onwards (enough : plan.asked whole.rest ≤ short.rest.length) := new_of_enough planned starts enough
  generalize asks : plan.asked whole.rest = asked at tooFew onwards ⊢
  constructor
  · intro cause fails
    refine ⟨fun few failure => ?_, fun few early => ?_, fun enough e refused => ?_, fun enough r read => ?_⟩
    · obtain ⟨part, told⟩ := tooFew fails few
      rwa [Ending.inside, partFailure, failure] at told
    · obtain ⟨part, told⟩ := tooFew fails few
      rw [Ending.inside, partFailure, early] at told
      exact ⟨part, told⟩
    · have alike := onwards enough
      rw [refused] at alike
      generalize Reader.new short = result at alike ⊢
      cases alike
      rfl
    · have alike := onwards enough
      rw [read] at alike
      generalize Reader.new short = result at alike ⊢
      cases alike with
      | @read r' _ header behind behind' =>
        have left := congrArg List.length behind.rest
        rw [List.length_drop] at left
        refine ⟨r', rfl, header, fun k => ?_⟩
        by_cases comes : asked + 32 * (k + 1) ≤ short.rest.length
        · rw [if_pos comes]
          apply Reader.answer_eq_of_prefix (behind'.ends _ ends) (behind.ends _ fails)
          · rw [behind.rest, behind'.rest]
            exact prefix_drop starts enough
          · rw [left, recordSize]
            omega
        · rw [if_neg comes]
          apply Reader.answer_of_fails _ (behind.ends _ fails)
          rw [left, recordSize]
          omega
  · intro cut r read
    refine ⟨asks ▸ asked_of_new planned ends read, tooFew cut, fun enough => ?_⟩
    have alike := onwards enough
    rw [read] at alike
    generalize Reader.new short = result at alike ⊢
    cases alike with
    | @read r' _ header behind behind' =>
      refine ⟨r', rfl, cutRecords_of_prefix header (behind'.ends _ ends) (behind.ends _ cut) ?_ ?_⟩
      · rw [behind.rest, behind'.rest]
        exact prefix_drop starts enough
      · rw [behind.rest, List.length_drop]

/-- A source that fails with the word that it ended too early is not told as a failure in the header, where two
of the first four bytes come, though it is behind the header. -/
theorem header_is_truncated_by_failure :
    let cause : IoError := .unexpectedEof "stream was cut"
    let source : Source := { deliveries := [.bytes [0x52, 0x54]], ending := .fails cause }
    source.Ends (.fails cause) ∧ source.rest = [0x52, 0x54] ∧
      Reader.new source = .error (.corruptLog (.truncated .magic)) ∧ (∀ e, Reader.new source ≠ .error (.io e)) ∧
      ∀ header, (Reader.next { header, source }).1 = .error (.io cause) := by
  intro cause source
  have opened : Reader.new source = .error (.corruptLog (.truncated .magic)) := rfl
  refine ⟨by decide, rfl, opened, fun e told => ?_, fun _ => rfl⟩
  rw [opened] at told
  cases told

/-- A log of two samples, of which a source brings the header, the first record and five bytes more. -/
theorem failures_are_told_apart_in_record :
    let zero : Words := ⟨0, 0, by decide⟩
    let l : Layout := {
      periodic := 1, statsDisabled := 0, wcet := zero, period := ⟨1, 0, by decide⟩, deadline := zero
      t0 := zero, offset := zero, jobStats := zero, finishToStart := zero
      name := [], short := by decide, text := ⟨[], rfl⟩ }
    let left := records [⟨.ofSecs 7, .ofSecs 8⟩, ⟨.ofSecs 9, .ofSecs 10⟩]
    let bytes := l.bytes ++ left
    let broken : Source := {
      deliveries := [.bytes ((bytes.take 110).take 3), .interrupted, .bytes ((bytes.take 110).drop 3)]
      ending := .fails .noSpace }
    let cut : Source := { broken with ending := .eof }
    broken.rest = bytes.take 110 ∧ ∃ r failing ending, Reader.new (.ofBytes bytes) = .ok r ∧
      Reader.new broken = .ok failing ∧ Reader.new cut = .ok ending ∧
      failing.answer 0 = r.answer 0 ∧ failing.answer 1 = .error (.io .noSpace) ∧
      ending.answer 0 = r.answer 0 ∧ ending.answer 1 = .error (.corruptLog (.partialRecord 5)) := by
  intro zero l left bytes broken cut
  have rest : broken.rest = bytes.take 110 := by
    show (bytes.take 110).take 3 ++ ((bytes.take 110).drop 3 ++ []) = bytes.take 110
    rw [List.append_nil, List.take_append_drop]
  have length : bytes.length = 137 := by
    show (l.bytes ++ left).length = 137
    rw [List.length_append, l.length_bytes]
    decide +kernel
  have here : (Source.ofBytes bytes).rest = bytes := Source.rest_ofBytes bytes
  obtain ⟨source, decoded, -⟩ := Header.decode_decides.reads l (.ofBytes bytes) left here
  have read : Reader.new (.ofBytes bytes) = .ok ⟨l.header, source⟩ := by
    rw [Reader.new_eq, decoded]
    rfl
  obtain ⟨plan, planned⟩ := Header.decode_planned
  have inside : 110 ≤ (Source.ofBytes bytes).rest.length := by
    rw [here, length]
    decide
  have begins : broken.rest = (Source.ofBytes bytes).rest.take 110 := by rw [here, rest]
  have begins' : cut.rest = (Source.ofBytes bytes).rest.take 110 := begins
  have ends : (Source.ofBytes bytes).Ends .eof := Source.ends_ofBytes bytes
  have stops : broken.Ends (.fails .noSpace) := by decide +kernel
  have stops' : cut.Ends .eof := by decide +kernel
  have fails := (failures_are_told_apart planned ends inside begins).1 _ stops
  have cuts := (failures_are_told_apart planned ends inside begins').2 stops' _ read
  have asked : plan.asked (Source.ofBytes bytes).rest = 73 := by
    rw [cuts.asked_eq, l.nameBytes_header]
    rfl
  rw [asked] at fails cuts
  obtain ⟨failing, opened, -, answers⟩ := fails.records (by decide) _ read
  obtain ⟨ending, opened', records⟩ := cuts.records (by decide)
  exact ⟨rest, _, failing, ending, read, opened, opened', answers 0, answers 1, records.complete 0 (by decide),
    records.inside (by decide)⟩

end TaskTiming.Log
