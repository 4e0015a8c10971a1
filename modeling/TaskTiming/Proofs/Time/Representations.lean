import TaskTiming.Time.Packed
import TaskTiming.Proofs.Json.Decoding
import TaskTiming.Proofs.Log.RecordStream

/-!
# The forms of a time

A time has a text, a JSON string, twelve bytes and a span whatever it is, and two pairs of words if its
seconds fit. It is read back from each form it has (`Represented`). The other way round, what is accepted as
a time is what the time is written as again (`Accepted`), but for texts, of which a time has many and writes
one (`Rewritten`).
-/

namespace TaskTiming.Time
set_option autoImplicit false

variable {t : Time}

/-! ## Back from a form -/

/-- A conversion that is undone by another one where it is possible, and fails with `overflow` elsewhere. -/
structure Undone {F : Type} (converted : Except TimeError F) (back : F → Except TimeError Time) (t : Time)
    (possible : Prop) : Prop where
  undone : possible → ∃ f, converted = .ok f ∧ back f = .ok t
  refused : ¬possible → converted = .error .overflow

/-- A time is read back from its text between quotes. -/
theorem time_quoted (t : Time) : Json.Decoder.time.text (Json.ofTime t).compact = .ok t := by
  have scanned : Json.Token.scan (Json.ofTime t).compact.toList = (Json.ofTime t).tokens := by
    rw [Json.compact, String.toList_ofList, Json.ofTime, Json.tokens]
    have quoted := Json.scanFrom_quote t.parts.flatten []
    rw [List.append_nil] at quoted
    exact quoted
  rw [Json.Decoder.text, scanned]
  exact (Json.Decoder.takes_time t).all

theorem length_toBytes (t : Time) : t.toBytes.length = 12 := by
  rw [toBytes, List.length_append, Bytes.length_ofNat, Bytes.length_ofNat]

/-- A time is taken off the front of a stream, and what follows it stays. -/
theorem takeBytes_toBytes (t : Time) (after : List UInt8) :
    takeBytes (t.toBytes ++ after) = .ok (t, after) := by
  have short := t.nsec_lt
  have parts : t.toBytes ++ after =
      Bytes.ofNat 8 t.sec.toNat ++ (Bytes.ofNat 4 t.nsec.toNat ++ after) := List.append_assoc ..
  have front : (t.toBytes ++ after).take 8 = Bytes.ofNat 8 t.sec.toNat := by
    rw [parts]
    exact List.take_left' (Bytes.length_ofNat 8 _)
  have back : ((t.toBytes ++ after).drop 8).take 4 = Bytes.ofNat 4 t.nsec.toNat := by
    rw [parts, List.drop_left' (Bytes.length_ofNat 8 _)]
    exact List.take_left' (Bytes.length_ofNat 4 _)
  have behind : (t.toBytes ++ after).drop 12 = after := List.drop_left' (length_toBytes t)
  have sec : UInt64.ofNat (Bytes.value ((t.toBytes ++ after).take 8)) = t.sec := by
    rw [front, Bytes.value_ofNat t.sec.toNat_lt, UInt64.ofNat_toNat]
  have nsec : UInt32.ofNat (Bytes.value (((t.toBytes ++ after).drop 8).take 4)) = t.nsec := by
    rw [back, Bytes.value_ofNat t.nsec.toNat_lt, UInt32.ofNat_toNat]
  have enough : ¬(t.toBytes ++ after).length < 12 := by
    rw [List.length_append, length_toBytes]
    omega
  unfold takeBytes
  simp only [if_neg enough, sec, nsec, dif_pos short, behind]

/-- A time is read back from its bytes. -/
theorem ofBytes_toBytes (t : Time) : ofBytes t.toBytes = .ok t := by
  have taken := takeBytes_toBytes t []
  rw [List.append_nil] at taken
  rw [ofBytes, taken]

/-- A time has the system's form while its seconds are a signed word. -/
theorem undone_toNative (t : Time) : Undone t.toNative ofNative t (t.sec.toNat ≤ 2 ^ 63 - 1) where
  undone := by
    intro possible
    have fits : t.FitsNative := Nat.lt_of_le_pred (by decide) possible
    exact ⟨_, toNative_of_fits fits, ofNative_toNative fits⟩
  refused := by
    intro large
    rw [toNative, if_neg]
    omega

/-- A time has a pair of short words while its seconds are one. -/
theorem undone_toWords32 (t : Time) :
    Undone t.toWords32 (fun words => ofWords32 words.1 words.2) t (t.sec.toNat < 2 ^ 32) where
  undone := by
    intro possible
    have made : t.toWords32 = .ok (UInt32.ofNatLT t.sec.toNat possible, t.nsec) := dif_pos possible
    exact ⟨_, made, ofWords32_toWords32 made⟩
  refused := by
    intro large
    exact dif_neg large

/-- A time is read back from each of its forms. -/
structure Represented (t : Time) : Prop where
  text : ofText? t.text = .ok t
  json : Json.Decoder.time.text (Json.ofTime t).compact = .ok t
  bytes : t.toBytes.length = 12 ∧ ofBytes t.toBytes = .ok t
  span : ofSpan t.toSpan = t
  native : Undone t.toNative ofNative t (t.sec.toNat ≤ 2 ^ 63 - 1)
  words : Undone t.toWords32 (fun words => ofWords32 words.1 words.2) t (t.sec.toNat < 2 ^ 32)

theorem represented (t : Time) : Represented t where
  text := ofText?_text t
  json := time_quoted t
  bytes := ⟨length_toBytes t, ofBytes_toBytes t⟩
  span := ofSpan_toSpan t
  native := undone_toNative t
  words := undone_toWords32 t

/-! ## Back to a form -/

/-- A form is accepted exactly where it is valid, and then as a time that has this form. -/
structure Accepted {ε : Type} (read : Except ε Time) (valid : Prop) (has : Time → Prop) : Prop where
  accepted : valid → ∃ t, read = .ok t ∧ has t
  refused : ¬valid → ∃ fault, read = .error fault

theorem toSpan_ofSpan (s : Span) : (ofSpan s).toSpan = s := rfl

/-- What the system's form is accepted as has this form. -/
theorem toNative_of_ofNative {n : Native} (read : ofNative n = .ok t) : t.toNative = .ok n := by
  unfold ofNative at read
  split at read
  · cases read
  rename_i signs
  split at read
  · rename_i short
    cases read
    rw [not_or, Int64.lt_iff_toInt_lt, Int64.lt_iff_toInt_lt, Int64.toInt_zero] at signs
    have value := toNat_toUInt64 (w := n.sec) (by omega)
    have bound := n.sec.toInt_lt
    have fits : n.sec.toUInt64.toNat < 2 ^ 63 := by omega
    have nsec : (UInt32.ofNatLT n.nsec.toUInt64.toNat (lt_size32 short)).toUInt64 = n.nsec.toUInt64 := by
      rw [← UInt64.toNat_inj, UInt32.toNat_toUInt64, UInt32.toNat_ofNatLT]
    rw [toNative, if_pos fits, nsec, Int64.toInt64_toUInt64, Int64.toInt64_toUInt64]
  · cases read

theorem accepted_native (n : Native) : Accepted (ofNative n) n.Valid fun t => t.toNative = .ok n where
  accepted := by
    intro valid
    obtain ⟨t, read, -⟩ := ofNative_of_valid valid
    exact ⟨t, read, toNative_of_ofNative read⟩
  refused := ofNative_of_not_valid

theorem accepted_words32 (sec nsec : UInt32) :
    Accepted (ofWords32 sec nsec) (nsec.toNat < 1000000000) fun t => t.toWords32 = .ok (sec, nsec) where
  accepted := by
    intro short
    have fits : sec.toUInt64.toNat < 2 ^ 32 := by
      rw [UInt32.toNat_toUInt64]
      exact sec.toNat_lt
    refine ⟨_, dif_pos short, ?_⟩
    rw [toWords32, dif_pos fits]
    congr
  refused := by
    intro long
    exact ⟨_, dif_neg long⟩

/-- Twelve bytes stand for seconds and nanoseconds, the nanoseconds less than a second. -/
def ValidBytes (bytes : List UInt8) : Prop :=
  bytes.length = 12 ∧ Bytes.value (bytes.drop 8) < 1000000000

/-- Bytes stand for the time that they are the bytes of. -/
theorem toBytes_of_value {bytes : List UInt8} (length : bytes.length = 12)
    (sec : t.sec.toNat = Bytes.value (bytes.take 8)) (nsec : t.nsec.toNat = Bytes.value (bytes.drop 8)) :
    t.toBytes = bytes := by
  have front : (bytes.take 8).length = 8 := by
    rw [List.length_take]
    omega
  have back : (bytes.drop 8).length = 4 := by
    rw [List.length_drop]
    omega
  have first := Bytes.ofNat_value (bytes.take 8)
  have second := Bytes.ofNat_value (bytes.drop 8)
  rw [front] at first
  rw [back] at second
  rw [toBytes, sec, nsec, first, second, List.take_append_drop]

/-- What is taken off the front of a stream is its first twelve bytes. -/
theorem toBytes_of_takeBytes {bytes after : List UInt8} (taken : takeBytes bytes = .ok (t, after)) :
    bytes = t.toBytes ++ after ∧ Bytes.value ((bytes.drop 8).take 4) < 1000000000 := by
  unfold takeBytes at taken
  split at taken
  · cases taken
  rename_i enough
  simp only at taken
  split at taken
  · rename_i short
    cases taken
    have front : Bytes.value (bytes.take 8) < 256 ^ 8 := Bytes.value_take_lt bytes 8
    have back : Bytes.value ((bytes.drop 8).take 4) < 256 ^ 4 := Bytes.value_take_lt (bytes.drop 8) 4
    have middle : (bytes.drop 8).take 4 = (bytes.take 12).drop 8 := List.take_drop ..
    have length : (bytes.take 12).length = 12 := by
      rw [List.length_take]
      omega
    rw [UInt32.toNat_ofNat_of_lt' back] at short
    refine ⟨?_, short⟩
    rw [toBytes_of_value length, List.take_append_drop]
    · rw [List.take_take]
      exact UInt64.toNat_ofNat_of_lt' front
    · rw [← middle]
      exact UInt32.toNat_ofNat_of_lt' back
  · cases taken

theorem accepted_bytes (bytes : List UInt8) :
    Accepted (ofBytes bytes) (ValidBytes bytes) fun t => t.toBytes = bytes where
  accepted := by
    rintro ⟨length, short⟩
    have back : (bytes.drop 8).take 4 = bytes.drop 8 := by
      apply List.take_of_length_le
      rw [List.length_drop]
      omega
    have small : Bytes.value (bytes.drop 8) < 256 ^ 4 := by omega
    have fits : (UInt32.ofNat (Bytes.value (bytes.drop 8))).toNat < 1000000000 := by
      rw [UInt32.toNat_ofNat_of_lt' small]
      exact short
    have few : ¬bytes.length < 12 := by omega
    have rest : bytes.drop 12 = [] := List.drop_of_length_le length.le
    obtain ⟨t, taken⟩ : ∃ t, takeBytes bytes = .ok (t, []) := by
      unfold takeBytes
      simp only [if_neg few, back, rest, dif_pos fits]
      exact ⟨_, rfl⟩
    refine ⟨t, by rw [ofBytes, taken], ?_⟩
    have whole := (toBytes_of_takeBytes taken).1
    rw [List.append_nil] at whole
    exact whole.symm
  refused := by
    intro wrong
    unfold ofBytes
    split
    · rename_i t taken
      obtain ⟨whole, short⟩ := toBytes_of_takeBytes taken
      rw [List.append_nil] at whole
      have length : bytes.length = 12 := by rw [whole, length_toBytes]
      have back : (bytes.drop 8).take 4 = bytes.drop 8 := by
        apply List.take_of_length_le
        rw [List.length_drop]
        omega
      rw [back] at short
      exact absurd ⟨length, short⟩ wrong
    · exact ⟨_, rfl⟩
    · exact ⟨_, rfl⟩

/-- A text that is accepted is written anew with nine digits behind the point, and that text stands for the
same time. -/
structure Rewritten (s : String) : Prop where
  nine_digits : ∀ t, ofText? s = .ok t → ∃ whole fraction,
    t.text.toList = whole ++ '.' :: fraction ∧ Digits whole fraction ∧ fraction.length = 9
  same : ∀ t, ofText? s = .ok t → ofText? t.text = .ok t

theorem rewritten (s : String) : Rewritten s where
  nine_digits := by
    intro t _
    refine ⟨_, _, ?_, digits_text t, length_fraction t⟩
    rw [text, String.toList_ofList]
    rfl
  same := by
    intro t _
    exact ofText?_text t

/-- **Every form of a time goes there and back.** A time is read from each form that it has, and it has the
pairs of words exactly while its seconds fit; a span, a pair of words or bytes are accepted exactly where
they are valid, as the time that is written so; and a text that is accepted is written anew with nine
digits behind the point. -/
theorem forms_go_there_and_back (t : Time) (span : Span) (n : Native) (sec nsec : UInt32) (bytes : List UInt8)
    (s : String) :
    Represented t ∧ (ofSpan span).toSpan = span ∧
      Accepted (ofNative n) n.Valid (fun t => t.toNative = .ok n) ∧
      Accepted (ofWords32 sec nsec) (nsec.toNat < 1000000000) (fun t => t.toWords32 = .ok (sec, nsec)) ∧
      Accepted (ofBytes bytes) (ValidBytes bytes) (fun t => t.toBytes = bytes) ∧ Rewritten s :=
  ⟨represented t, toSpan_ofSpan span, accepted_native n, accepted_words32 sec nsec, accepted_bytes bytes,
    rewritten s⟩

end TaskTiming.Time
