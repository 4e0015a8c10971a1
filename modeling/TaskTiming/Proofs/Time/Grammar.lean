import TaskTiming.Time.Text
import TaskTiming.Proofs.Time.Exactness

/-!
# The grammar of times

A text is read as a time by the rules that `Time.Shape` states: behind the blanks a row of digits, and if
there is a point, at most nine digits more. Texts of another shape are malformed, and of those with the shape
just the ones with too many seconds overflow (`text_is_read_by_grammar`). Digit by digit in 32-bit words the
fraction comes to the same nanoseconds (`fractionWords?_eq`). The text of a time has that shape and is read
back (`ofText?_text`).
-/

namespace TaskTiming
set_option autoImplicit false

/-! ## Blanks around a text -/

namespace Text

/-- The text without the blanks at its ends. -/
structure Trimmed (s body : List Char) : Prop where
  around : ∃ front back, s = front ++ body ++ back ∧ front.all isBlank = true ∧ back.all isBlank = true
  first : ∀ c ∈ body.head?, isBlank c = false
  last : ∀ c ∈ body.getLast?, isBlank c = false

theorem trimStart_eq (s : List Char) : ∃ front, s = front ++ trimStart s ∧ front.all isBlank = true :=
  ⟨s.takeWhile isBlank, List.takeWhile_append_dropWhile.symm, List.all_takeWhile⟩

theorem first_trimStart (s : List Char) : ∀ c ∈ (trimStart s).head?, isBlank c = false := by
  intro c first
  have stops := List.head?_dropWhile_not isBlank s
  rw [Option.mem_def] at first
  rw [trimStart] at first
  simpa [first] using stops

theorem trimmed_trim (s : List Char) : Trimmed s (trim s) := by
  obtain ⟨front, start, blanks⟩ := trimStart_eq s
  obtain ⟨back, ending, blanksBehind⟩ := trimStart_eq (trimStart s).reverse
  have body : trimStart s = trim s ++ back.reverse := by
    rw [← List.reverse_reverse (trimStart s), ending, List.reverse_append]
    rfl
  refine ⟨⟨front, back.reverse, ?_, blanks, ?_⟩, ?_, ?_⟩
  · rw [List.append_assoc, ← body]
    exact start
  · rw [List.all_reverse]
    exact blanksBehind
  · intro c first
    apply first_trimStart s
    rw [body, List.head?_append]
    simp only [Option.mem_def] at first ⊢
    rw [first]
    rfl
  · intro c last
    apply first_trimStart (trimStart s).reverse
    rw [trim, List.getLast?_reverse] at last
    exact last

/-- A digit is no blank. -/
theorem isBlank_of_isDigit {c : Char} (digit : Decimal.isDigit c = true) : isBlank c = false := by
  simp only [Decimal.isDigit, Bool.and_eq_true, decide_eq_true_eq] at digit
  apply List.any_eq_false.2
  simp only [blankRanges, List.forall_mem_cons, Bool.and_eq_true, decide_eq_true_eq]
  refine ⟨?_, ?_, ?_, ?_, ?_, ?_, ?_, ?_, ?_, ?_, List.forall_mem_nil _⟩ <;> omega

end Text

namespace Time

/-! ## Texts with the shape of a time -/

/-- Rows of digits that can stand before and behind the point. -/
structure Digits (whole fraction : List Char) : Prop where
  some_digit : whole ≠ []
  whole_digits : whole.all Decimal.isDigit = true
  fraction_digits : fraction.all Decimal.isDigit = true
  short : fraction.length ≤ 9

/-- One digit or more, and behind a point, if there is one, at most nine. -/
structure Shape (text whole fraction : List Char) : Prop where
  layout : text = whole ∧ fraction = [] ∨ text = whole ++ '.' :: fraction
  digits : Digits whole fraction

/-- What stands before and behind the first point. -/
def cut (text : List Char) : List Char × List Char := (Text.splitOnce '.' text).getD (text, [])

theorem Digits.no_point {whole fraction : List Char} (digits : Digits whole fraction) : '.' ∉ whole := by
  intro point
  have digit := List.all_eq_true.1 digits.whole_digits '.' point
  exact absurd digit (by decide)

/-- A text has the shape of a time if what it is cut into are digits. -/
theorem shape_iff {text whole fraction : List Char} :
    Shape text whole fraction ↔ cut text = (whole, fraction) ∧ Digits whole fraction := by
  unfold cut
  constructor
  · rintro ⟨layout, digits⟩
    refine ⟨?_, digits⟩
    have free := digits.no_point
    rcases layout with ⟨rfl, rfl⟩ | rfl
    · cases split : Text.splitOnce '.' text with
      | none => rfl
      | some parts =>
        obtain ⟨joined, -⟩ := Text.splitOnce_eq_some.1 split
        exact absurd (by rw [joined]; simp) free
    · rw [Text.splitOnce_eq_some.2 ⟨rfl, free⟩]
      rfl
  · rintro ⟨parts, digits⟩
    refine ⟨?_, digits⟩
    cases split : Text.splitOnce '.' text with
    | none =>
      rw [split] at parts
      cases parts
      exact .inl ⟨rfl, rfl⟩
    | some found =>
      rw [split] at parts
      cases parts
      exact .inr (Text.splitOnce_eq_some.1 split).1

theorem ofText?_eq (s : String) :
    ofText? s = ofParts? (cut (Text.trim s.toList)).1 (cut (Text.trim s.toList)).2 := by
  unfold ofText? ofChars? cut
  dsimp only
  cases Text.splitOnce '.' (Text.trim s.toList) <;> rfl

section Parts

variable {whole fraction : List Char}

/-- Digits are a time, unless they are too many seconds. -/
theorem ofParts?_of_digits (digits : Digits whole fraction) :
    (∃ t, ofParts? whole fraction = .ok t ∧ t.sec.toNat = Decimal.value whole ∧
      t.nsec.toNat = fractionNanos fraction) ∧ Decimal.value whole < 2 ^ 64 ∨
    ofParts? whole fraction = .error .overflow ∧ 2 ^ 64 ≤ Decimal.value whole := by
  have isWhole : ¬(whole.isEmpty || !whole.all Decimal.isDigit) = true := by
    simp [digits.some_digit, digits.whole_digits]
  unfold ofParts?
  rw [if_neg isWhole, dif_pos ⟨digits.short, digits.fraction_digits⟩]
  cases word : Word.ofNat? (Decimal.value whole) with
  | none => exact .inr ⟨rfl, Word.ofNat?_eq_none.1 word⟩
  | some sec =>
    have same := Word.ofNat?_eq_some.1 word
    exact .inl ⟨⟨_, rfl, same, UInt32.toNat_ofNatLT ..⟩, same ▸ sec.toNat_lt⟩

/-- What is not digits is malformed, before or behind the point. -/
theorem ofParts?_of_not_digits (wrong : ¬Digits whole fraction) :
    ∃ fault, ofParts? whole fraction = .error (.malformed fault) := by
  unfold ofParts?
  split
  · exact ⟨_, rfl⟩
  · rename_i isWhole
    rw [dif_neg]
    · exact ⟨_, rfl⟩
    · rintro ⟨short, digits⟩
      simp only [Bool.or_eq_true, Bool.not_eq_true', not_or, Bool.not_eq_true, Bool.not_eq_false,
        List.isEmpty_eq_false_iff] at isWhole
      exact wrong ⟨isWhole.1, isWhole.2, digits, short⟩

end Parts

/-! ## Fractions digit by digit -/

/-- The nanoseconds that the digits behind the point stand for, in words: a digit at place `i` counts
`10 ^ (8 - i)`, and what the digits in front of it came to is added. -/
def fractionWords? (place nsec : Nat) : List Char → Option Nat
  | [] => some nsec
  | c :: rest => do
    let digit ← minus? c.toNat 48
    let power ← minus? 8 place
    let weight ← inWord 32 (10 ^ power)
    let part ← inWord 32 (digit * weight)
    let nsec ← inWord 32 (nsec + part)
    fractionWords? (place + 1) nsec rest

/-- One digit counts ten steps less than the digit in front of it, and stays in its words. -/
theorem fractionWords?_cons {c : Char} {place nsec : Nat} (digit : Decimal.isDigit c = true)
    (before : place ≤ 8) (room : nsec + 10 * 10 ^ (8 - place) ≤ 1000000000) (rest : List Char) :
    fractionWords? place nsec (c :: rest) =
      fractionWords? (place + 1) (nsec + Decimal.digitValue c * 10 ^ (8 - place)) rest := by
  have small := Decimal.digitValue_lt digit
  have least : 48 ≤ c.toNat := by
    simp only [Decimal.isDigit, Bool.and_eq_true, decide_eq_true_eq] at digit
    exact digit.1
  have part : Decimal.digitValue c * 10 ^ (8 - place) ≤ 9 * 10 ^ (8 - place) :=
    Nat.mul_le_mul_right _ (Nat.le_of_lt_succ small)
  rw [fractionWords?, minus?_of_le least, minus?_of_le before]
  simp only [Option.bind_eq_bind, Option.bind_some]
  rw [inWord_of_lt (by omega), Option.bind_some, ← Decimal.digitValue, inWord_of_lt (by omega),
    Option.bind_some, inWord_of_lt (by omega), Option.bind_some]

/-- The digits from some place on add their nanoseconds. There is room for them because what came in front
leaves less than `10 ^ (9 - place)` open, and they stay below that. -/
theorem fractionWords?_from (rest : List Char) (place nsec : Nat) (digits : rest.all Decimal.isDigit = true)
    (short : place + rest.length ≤ 9) (room : nsec + 10 ^ (9 - place) ≤ 1000000000) :
    fractionWords? place nsec rest = some (nsec + Decimal.value rest * 10 ^ (9 - place - rest.length)) := by
  induction rest generalizing place nsec with
  | nil => simp [fractionWords?, Decimal.value]
  | cons c rest ih =>
    simp only [List.all_cons, Bool.and_eq_true] at digits
    simp only [List.length_cons] at short ⊢
    have step : 9 - place = 8 - place + 1 := by omega
    have behind : 9 - (place + 1) = 8 - place := by omega
    have weight : 10 ^ rest.length * 10 ^ (8 - place - rest.length) = 10 ^ (8 - place) := by
      rw [← Nat.pow_add, Nat.add_sub_cancel' (by omega)]
    have part : Decimal.digitValue c * 10 ^ (8 - place) ≤ 9 * 10 ^ (8 - place) :=
      Nat.mul_le_mul_right _ (Nat.le_of_lt_succ (Decimal.digitValue_lt digits.1))
    rw [step, Nat.pow_succ'] at room
    rw [fractionWords?_cons digits.1 (by omega) room, ih _ _ digits.2 (by omega) (by rw [behind]; omega),
      behind, show 9 - place - (rest.length + 1) = 8 - place - rest.length by omega, Decimal.value_cons,
      Nat.add_mul, Nat.mul_assoc, weight, Nat.add_assoc]

/-- A fraction comes to the same digit by digit. -/
theorem fractionWords?_eq {fraction : List Char} (digits : fraction.all Decimal.isDigit = true)
    (short : fraction.length ≤ 9) : fractionWords? 0 0 fraction = some (fractionNanos fraction) := by
  rw [fractionWords?_from fraction 0 0 digits (by omega) (by decide), fractionNanos, Nat.zero_add]

/-- A fraction stands for as many billionths as its nanoseconds say. -/
theorem fractionNanos_exact {fraction : List Char} (short : fraction.length ≤ 9) :
    fractionNanos fraction * 10 ^ fraction.length = Decimal.value fraction * 10 ^ 9 := by
  rw [fractionNanos, Nat.mul_assoc, ← Nat.pow_add, Nat.sub_add_cancel short]

/-! ## Reading -/

section Reading

variable {s : String}

theorem ofText?_of_shape {whole fraction : List Char} (shape : Shape (Text.trim s.toList) whole fraction) :
    (∃ t, ofText? s = .ok t ∧ t.sec.toNat = Decimal.value whole ∧ t.nsec.toNat = fractionNanos fraction) ∧
      Decimal.value whole < 2 ^ 64 ∨
    ofText? s = .error .overflow ∧ 2 ^ 64 ≤ Decimal.value whole := by
  obtain ⟨parts, digits⟩ := shape_iff.1 shape
  rw [ofText?_eq, parts]
  exact ofParts?_of_digits digits

theorem ofText?_of_no_shape (none : ¬∃ whole fraction, Shape (Text.trim s.toList) whole fraction) :
    ∃ fault, ofText? s = .error (.malformed fault) := by
  rw [ofText?_eq]
  apply ofParts?_of_not_digits
  intro digits
  exact none ⟨_, _, shape_iff.2 ⟨rfl, digits⟩⟩

/-- A text that is not malformed has the shape of a time. -/
theorem shape_of_read (read : ∀ fault, ofText? s ≠ .error (.malformed fault)) :
    ∃ whole fraction, Shape (Text.trim s.toList) whole fraction := by
  apply Classical.byContradiction
  intro none
  obtain ⟨fault, malformed⟩ := ofText?_of_no_shape none
  exact read fault malformed

theorem accepts_iff : (∃ t, ofText? s = .ok t) ↔
    ∃ whole fraction, Shape (Text.trim s.toList) whole fraction ∧ Decimal.value whole < 2 ^ 64 := by
  constructor
  · rintro ⟨t, read⟩
    obtain ⟨whole, fraction, shape⟩ : ∃ whole fraction, Shape (Text.trim s.toList) whole fraction :=
      shape_of_read (by rw [read]; nofun)
    rcases ofText?_of_shape shape with ⟨-, small⟩ | ⟨overflow, -⟩
    · exact ⟨whole, fraction, shape, small⟩
    · rw [read] at overflow
      cases overflow
  · rintro ⟨whole, fraction, shape, small⟩
    rcases ofText?_of_shape shape with ⟨⟨t, read, -⟩, -⟩ | ⟨-, large⟩
    · exact ⟨t, read⟩
    · omega

theorem overflows_iff : ofText? s = .error .overflow ↔
    ∃ whole fraction, Shape (Text.trim s.toList) whole fraction ∧ 2 ^ 64 ≤ Decimal.value whole := by
  constructor
  · intro overflow
    obtain ⟨whole, fraction, shape⟩ : ∃ whole fraction, Shape (Text.trim s.toList) whole fraction :=
      shape_of_read (by rw [overflow]; nofun)
    rcases ofText?_of_shape shape with ⟨⟨t, read, -⟩, -⟩ | ⟨-, large⟩
    · rw [overflow] at read
      cases read
    · exact ⟨whole, fraction, shape, large⟩
  · rintro ⟨whole, fraction, shape, large⟩
    rcases ofText?_of_shape shape with ⟨-, small⟩ | ⟨overflow, -⟩
    · omega
    · exact overflow

theorem refuses_iff : (∃ fault, ofText? s = .error (.malformed fault)) ↔
    ¬∃ whole fraction, Shape (Text.trim s.toList) whole fraction := by
  constructor
  · rintro ⟨fault, malformed⟩ ⟨whole, fraction, shape⟩
    rcases ofText?_of_shape shape with ⟨⟨t, read, -⟩, -⟩ | ⟨overflow, -⟩
    · rw [malformed] at read
      cases read
    · rw [malformed] at overflow
      cases overflow
  · exact ofText?_of_no_shape

/-- The time that was read has the seconds and the nanoseconds of the digits. -/
theorem read_digits {t : Time} {whole fraction : List Char} (read : ofText? s = .ok t)
    (shape : Shape (Text.trim s.toList) whole fraction) :
    t.sec.toNat = Decimal.value whole ∧ t.nsec.toNat = fractionNanos fraction := by
  rcases ofText?_of_shape shape with ⟨⟨u, found, sec, nsec⟩, -⟩ | ⟨overflow, -⟩
  · rw [read] at found
    cases found
    exact ⟨sec, nsec⟩
  · rw [read] at overflow
    cases overflow

end Reading

/-! ## Writing -/

/-- Nine digits are written behind the point. -/
theorem length_fraction (t : Time) : (Decimal.padded 9 t.nsec.toNat).length = 9 :=
  Decimal.length_padded (by decide) t.nsec_lt

theorem digits_text (t : Time) : Digits (Decimal.digits t.sec.toNat) (Decimal.padded 9 t.nsec.toNat) where
  some_digit := Decimal.digits_ne_nil _
  whole_digits := Decimal.all_digits _
  fraction_digits := Decimal.all_padded _ _
  short := Nat.le_of_eq (length_fraction t)

/-- A time is written without blanks. -/
theorem trim_chars (t : Time) : Text.trim t.chars = t.chars := by
  have digits := t.digits_text
  apply Text.trim_eq_self
  · intro c first
    apply Text.isBlank_of_isDigit
    apply List.all_eq_true.1 digits.whole_digits
    rw [chars, List.head?_append] at first
    cases here : (Decimal.digits t.sec.toNat).head? with
    | none => exact absurd (List.head?_eq_none_iff.1 here) digits.some_digit
    | some d =>
      rw [here] at first
      cases first
      exact List.mem_of_head? here
  · intro c last
    apply Text.isBlank_of_isDigit
    apply List.all_eq_true.1 digits.fraction_digits
    rw [chars, List.getLast?_append, List.getLast?_cons] at last
    cases here : (Decimal.padded 9 t.nsec.toNat).getLast? with
    | none =>
      have nine := t.length_fraction
      rw [List.getLast?_eq_none_iff.1 here] at nine
      cases nine
    | some d =>
      rw [here] at last
      cases last
      exact List.mem_of_getLast? here

theorem shape_text (t : Time) :
    Shape (Text.trim t.text.toList) (Decimal.digits t.sec.toNat) (Decimal.padded 9 t.nsec.toNat) where
  layout := by
    rw [text, String.toList_ofList, trim_chars]
    exact .inr rfl
  digits := t.digits_text

/-- **A time is read back from its text.** -/
theorem ofText?_text (t : Time) : ofText? t.text = .ok t := by
  have nanos : fractionNanos (Decimal.padded 9 t.nsec.toNat) = t.nsec.toNat := by
    rw [fractionNanos, length_fraction, Decimal.value_padded]
    exact Nat.mul_one _
  have fits := t.sec.toNat_lt
  rcases ofText?_of_shape t.shape_text with ⟨⟨u, read, sec, nsec⟩, -⟩ | ⟨-, large⟩
  · rw [read]
    congr 1
    apply ext_toNanos
    rw [toNanos, toNanos, sec, nsec, nanos, Decimal.value_digits]
  · rw [Decimal.value_digits] at large
    omega

/-- What reading a text comes to, by the shape of the text without the blanks around it. -/
structure ReadByGrammar (s : String) : Prop where
  trimmed : Text.Trimmed s.toList (Text.trim s.toList)
  accepts : (∃ t, ofText? s = .ok t) ↔
    ∃ whole fraction, Shape (Text.trim s.toList) whole fraction ∧ Decimal.value whole < 2 ^ 64
  /-- The seconds are the number in front of the point, and the nanoseconds the fraction behind it. -/
  exact : ∀ t whole fraction, ofText? s = .ok t → Shape (Text.trim s.toList) whole fraction →
    t.sec.toNat = Decimal.value whole ∧
      t.nsec.toNat * 10 ^ fraction.length = Decimal.value fraction * 10 ^ 9
  overflows : ofText? s = .error .overflow ↔
    ∃ whole fraction, Shape (Text.trim s.toList) whole fraction ∧ 2 ^ 64 ≤ Decimal.value whole
  refuses : (∃ fault, ofText? s = .error (.malformed fault)) ↔
    ¬∃ whole fraction, Shape (Text.trim s.toList) whole fraction
  /-- Added up digit by digit the nanoseconds are the same, and stay in their words. -/
  words : ∀ t whole fraction, ofText? s = .ok t → Shape (Text.trim s.toList) whole fraction →
    fractionWords? 0 0 fraction = some t.nsec.toNat

/-- **Texts are read by the grammar of times**, each with the value of its digits; what overflows has the
shape of a time, and all else is malformed. -/
theorem text_is_read_by_grammar (s : String) : ReadByGrammar s where
  trimmed := Text.trimmed_trim s.toList
  accepts := accepts_iff
  exact t whole fraction read shape := by
    obtain ⟨sec, nsec⟩ := read_digits read shape
    rw [nsec]
    exact ⟨sec, fractionNanos_exact shape.digits.short⟩
  overflows := overflows_iff
  refuses := refuses_iff
  words t whole fraction read shape := by
    rw [(read_digits read shape).2]
    exact fractionWords?_eq shape.digits.fraction_digits shape.digits.short

/-- A point without digits behind it is read, and one without digits in front of it is not. -/
example : ofText? "\t007. " = .ok (.ofSecs 7) ∧ ofText? ".5" = .error (.malformed .secondsNotDecimal) ∧
    ofText? "18446744073709551616.x" = .error (.malformed .fractionNotDecimal) :=
  ⟨rfl, rfl, rfl⟩

end Time

end TaskTiming
