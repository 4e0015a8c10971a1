import Mathlib.Data.List.SplitBy
import Mathlib.Data.List.TakeWhile
import TaskTiming.Json

/-!
# Scanning what is written

The text of a value is cut into the tokens that the value has, in whatever way it is laid out: a string is
one token up to its closing quote, whatever its characters are escaped to (`scanFrom_quote`), a number ends
where a mark or a line break follows it (`scanFrom_digits`), and blanks and line breaks between tokens are
none. Values on lines of their own are scanned as a whole (`Natural.scan_pretty`).
-/

namespace TaskTiming.Json
set_option autoImplicit false
open Token

/-! ## Quoted rows -/

/-- What stands for a character between quotes: an escape with a letter or with the number of a control
character, or the character itself. -/
theorem escapeChar_cases (c : Char) :
    (∃ letter, escapeChar c = ['\\', letter] ∧ letter ≠ 'u' ∧ (shortEscape? letter).isSome ∧
      ¬letter.toNat < 32) ∨
    (escapeChar c = ['\\', 'u', '0', '0', Text.hexDigit (c.toNat / 16), Text.hexDigit (c.toNat % 16)] ∧
      c.toNat < 32) ∨
    (escapeChar c = [c] ∧ c ≠ '"' ∧ c ≠ '\\' ∧ ¬c.toNat < 32) := by
  unfold escapeChar
  split
  · exact .inl ⟨_, rfl, by decide⟩
  split
  · exact .inl ⟨_, rfl, by decide⟩
  split
  · exact .inl ⟨_, rfl, by decide⟩
  split
  · exact .inl ⟨_, rfl, by decide⟩
  split
  · exact .inl ⟨_, rfl, by decide⟩
  split
  · exact .inl ⟨_, rfl, by decide⟩
  split
  · exact .inl ⟨_, rfl, by decide⟩
  split
  · rename_i control
    exact .inr (.inl ⟨rfl, control⟩)
  · rename_i quote slash _ _ _ _ _ visible
    exact .inr (.inr ⟨rfl, quote, slash, visible⟩)

/-- A hexadecimal digit is an ordinary character. -/
theorem ordinary_hexDigit {n : Nat} (small : n < 16) :
    Text.hexDigit n ≠ '"' ∧ Text.hexDigit n ≠ '\\' ∧ ¬(Text.hexDigit n).toNat < 32 := by
  have all : ∀ n, n < 16 →
    Text.hexDigit n ≠ '"' ∧ Text.hexDigit n ≠ '\\' ∧ ¬(Text.hexDigit n).toNat < 32 := by decide
  exact all n small

/-- An ordinary character between quotes is kept. -/
theorem scanFrom_ordinary {c : Char} (ordinary : c ≠ '"' ∧ c ≠ '\\' ∧ ¬c.toNat < 32)
    (row rest : List Char) : scanFrom (.quoted row) (c :: rest) = scanFrom (.quoted (c :: row)) rest := by
  obtain ⟨quote, slash, visible⟩ := ordinary
  rw [scanFrom, if_neg quote, if_neg slash, if_neg visible]

/-- So is a character behind a backslash. -/
theorem scanFrom_escaped {c : Char} (visible : ¬c.toNat < 32) (row rest : List Char) :
    scanFrom (.quoted row) ('\\' :: c :: rest) = scanFrom (.quoted (c :: '\\' :: row)) rest := by
  rw [scanFrom, if_neg (by decide), if_pos rfl, scanFrom, if_neg visible]

theorem scanFrom_escapeChar (c : Char) (row rest : List Char) :
    scanFrom (.quoted row) (escapeChar c ++ rest) =
      scanFrom (.quoted ((escapeChar c).reverse ++ row)) rest := by
  rcases escapeChar_cases c with ⟨letter, here, -, -, visible⟩ | ⟨here, control⟩ | ⟨here, ordinary⟩
  · rw [here]
    exact scanFrom_escaped visible row rest
  · have high := ordinary_hexDigit (n := c.toNat / 16) (by omega)
    have low := ordinary_hexDigit (n := c.toNat % 16) (by omega)
    rw [here]
    simp only [List.cons_append, List.nil_append]
    rw [scanFrom_escaped (by decide), scanFrom_ordinary (by decide), scanFrom_ordinary (by decide),
      scanFrom_ordinary high, scanFrom_ordinary low]
    rfl
  · rw [here]
    exact scanFrom_ordinary ordinary row rest

theorem scanFrom_escape (s row rest : List Char) :
    scanFrom (.quoted row) (escape s ++ rest) = scanFrom (.quoted ((escape s).reverse ++ row)) rest := by
  induction s generalizing row with
  | nil => rfl
  | cons c s ih =>
    have cut : escape (c :: s) = escapeChar c ++ escape s := rfl
    rw [cut, List.append_assoc, scanFrom_escapeChar, ih, List.reverse_append, List.append_assoc]

theorem wellFormed_escapeChar (c : Char) (rest : List Char) :
    wellFormed (escapeChar c ++ rest) = wellFormed rest := by
  rcases escapeChar_cases c with ⟨letter, here, noNumber, short, -⟩ | ⟨here, control⟩ | ⟨here, -, slash, -⟩
  · rw [here]
    simp only [List.cons_append, List.nil_append]
    rw [wellFormed]
    · rw [short, Bool.true_and]
    · intro a b c d rest' same
      exact absurd same noNumber
  · rw [here]
    simp only [List.cons_append, List.nil_append, wellFormed, hex4?_control control]
    rfl
  · rw [here]
    simp only [List.cons_append, List.nil_append]
    rw [wellFormed]
    · simp [slash]
    · intro a b c' d rest' same
      exact absurd same slash
    · intro c' rest' same
      exact absurd same slash

theorem wellFormed_escape (s : List Char) : wellFormed (escape s) = true := by
  induction s with
  | nil => rfl
  | cons c s ih =>
    show wellFormed (escapeChar c ++ escape s) = true
    rw [wellFormed_escapeChar, ih]

/-- A text between quotes is one token. -/
theorem scanFrom_quote (s rest : List Char) :
    scanFrom .between (quote s ++ rest) = .string (escape s) :: scanFrom .between rest := by
  have opened : scanFrom .between (quote s ++ rest) = scanFrom (.quoted []) (escape s ++ '"' :: rest) := by
    simp [quote, scanFrom, start, isSpace]
  rw [opened, scanFrom_escape, scanFrom, if_pos rfl, List.append_nil, List.reverse_reverse, ofQuoted,
    if_pos (wellFormed_escape _)]

/-- However a text is cut into pieces, they are the text between quotes. -/
theorem flatten_fragments (s : List Char) : (fragments s).flatten = escape s := by
  rw [fragments, ← List.flatMap_def]
  have escapes (rows : List (List Char)) : rows.flatMap escape = escape rows.flatten := by
    rw [escape, List.flatten_eq_flatMap, List.flatMap_assoc]
    rfl
  rw [escapes, List.flatten_splitBy]

theorem flatten_quotePieces (parts : List (List Char)) : (quotePieces parts).flatten = quote parts.flatten := by
  have inside : (parts.flatMap fragments).flatten = escape parts.flatten := by
    induction parts with
    | nil => rfl
    | cons part parts ih =>
      rw [List.flatMap_cons, List.flatten_append, flatten_fragments, ih, List.flatten_cons, escape, escape, escape,
        List.flatMap_append]
  simp [quotePieces, quote, inside]

/-! ## Bare rows -/

/-- A number or a word ends in front of the text. -/
def Stops (text : List Char) : Prop := ∀ c ∈ text.head?, isBare c = false

theorem start_of_bare {c : Char} (bare : isBare c = true) : start c = ([], .bare [c]) := by
  have noSpace : ¬isSpace c = true := by
    intro space
    simp only [isSpace, Bool.or_eq_true, decide_eq_true_eq] at space
    rcases space with ((rfl | rfl) | rfl) | rfl <;> cases bare
  rw [start, if_neg noSpace, if_pos bare]
  all_goals
    rintro rfl
    cases bare

theorem scanFrom_bare {row : List Char} (bare : row.all isBare = true) (before rest : List Char) :
    scanFrom (.bare before) (row ++ rest) = scanFrom (.bare (row.reverse ++ before)) rest := by
  induction row generalizing before with
  | nil => rfl
  | cons c row ih =>
    simp only [List.all_cons, Bool.and_eq_true] at bare
    rw [List.cons_append, scanFrom, if_pos bare.1, ih bare.2, List.reverse_cons, List.append_assoc]
    rfl

theorem scanFrom_stops {rest : List Char} (stops : Stops rest) (row : List Char) :
    scanFrom (.bare row) rest = ofBare row.reverse :: scanFrom .between rest := by
  cases rest with
  | nil => rfl
  | cons c rest =>
    have noBare : ¬isBare c = true := by
      rw [stops c rfl]
      decide
    show (if isBare c then _ else _) = _
    rw [if_neg noBare]
    rfl

/-- A bare row is one token. -/
theorem scanFrom_row {row rest : List Char} (some : row ≠ []) (bare : row.all isBare = true)
    (stops : Stops rest) : scanFrom .between (row ++ rest) = ofBare row :: scanFrom .between rest := by
  cases row with
  | nil => exact absurd rfl some
  | cons c row =>
    have all := bare
    simp only [List.all_cons, Bool.and_eq_true] at bare
    rw [List.cons_append, scanFrom, start_of_bare bare.1]
    simp only [List.nil_append]
    rw [scanFrom_bare bare.2, scanFrom_stops stops]
    simp

theorem isBare_of_isDigit {c : Char} (digit : Decimal.isDigit c = true) : isBare c = true := by
  have number : c.isDigit = true := by
    simp only [Decimal.isDigit, Bool.and_eq_true, decide_eq_true_eq] at digit
    simp only [Char.isDigit, Bool.and_eq_true, decide_eq_true_eq, UInt32.le_iff_toNat_le, ge_iff_le]
    exact digit
  simp [isBare, Char.isAlphanum, number]

namespace Number

theorem chars_ofNat (n : Nat) : (ofNat n).chars = Decimal.digits n := by
  simp [chars, ofNat]

/-- A natural number is read as it is written. -/
theorem ofChars?_digits (n : Nat) : ofChars? (Decimal.digits n) = some (ofNat n) := by
  have digits := Decimal.all_digits n
  have noSign : ∀ rest, Decimal.digits n ≠ '-' :: rest := by
    intro rest same
    rw [same] at digits
    simp [Decimal.isDigit] at digits
  have row : (Decimal.digits n).takeWhile Decimal.isDigit = Decimal.digits n :=
    by
    simpa using digits
  have behind : (Decimal.digits n).dropWhile Decimal.isDigit = [] :=
    by
    simpa using digits
  have whole : ¬((Decimal.digits n).isEmpty ||
      (decide ((Decimal.digits n).head? = some '0') && decide ((Decimal.digits n).length ≠ 1))) = true := by
    simp only [Bool.or_eq_true, Bool.and_eq_true, decide_eq_true_eq, List.isEmpty_iff, not_or, not_and]
    refine ⟨Decimal.digits_ne_nil n, ?_⟩
    intro zero
    rw [Decimal.eq_zero_of_head_digits zero, Decimal.digits]
    decide
  unfold ofChars?
  split
  rename_i negative body cut
  split at cut
  · exact absurd ‹_› (noSign _)
  · cases cut
    rw [row, behind, if_neg whole, Decimal.value_digits]
    rfl

end Number

/-- A row of digits is the token of its number. -/
theorem ofBare_digits (n : Nat) : ofBare (Decimal.digits n) = .number (.ofNat n) := by
  have digits := Decimal.all_digits n
  have noWord : ∀ word : List Char, word.all Decimal.isDigit = false → Decimal.digits n ≠ word := by
    intro word wrong same
    rw [← same, digits] at wrong
    cases wrong
  rw [ofBare, if_neg (noWord _ (by decide)), if_neg (noWord _ (by decide)), if_neg (noWord _ (by decide)),
    Number.ofChars?_digits]

theorem scanFrom_digits {rest : List Char} (stops : Stops rest) (n : Nat) :
    scanFrom .between (Decimal.digits n ++ rest) = .number (.ofNat n) :: scanFrom .between rest := by
  have bare : (Decimal.digits n).all isBare = true := by
    apply List.all_eq_true.2
    intro c mem
    exact isBare_of_isDigit (List.all_eq_true.1 (Decimal.all_digits n) c mem)
  rw [scanFrom_row (Decimal.digits_ne_nil n) bare stops, ofBare_digits]

/-! ## Values -/

/-- The numbers in a value are natural numbers. -/
inductive Natural : Json → Prop
  | null : Natural .null
  | bool (b : Bool) : Natural (.bool b)
  | number (n : Nat) : Natural (.ofNat n)
  | string (s : String) : Natural (.string s)
  | spelled (parts : List (List Char)) : Natural (.spelled parts)
  | array {items : List Json} (all : ∀ j ∈ items, Natural j) : Natural (.array items)
  | object {members : List (String × Json)} (all : ∀ m ∈ members, Natural m.2) : Natural (.object members)

/-- Wherever a value stands, its lines are scanned as its tokens. -/
def Scans (j : Json) : Prop := ∀ depth rest, Stops rest →
  scanFrom .between ((j.prettyPieces depth).flatten ++ rest) = j.tokens ++ scanFrom .between rest

/-- A mark of structure is a token of its own, and what is in front of it stops there. -/
theorem stops_cons {c : Char} (noBare : isBare c = false) (rest : List Char) : Stops (c :: rest) := by
  intro d first
  cases first
  exact noBare

theorem scanFrom_blanks (depth : Nat) (rest : List Char) :
    scanFrom .between ((List.replicate depth [' ', ' ']).flatten ++ rest) = scanFrom .between rest := by
  induction depth with
  | zero => rfl
  | succ depth ih => exact ih

theorem scanFrom_lineBreak (depth : Nat) (rest : List Char) :
    scanFrom .between ((lineBreak depth).flatten ++ rest) = scanFrom .between rest :=
  scanFrom_blanks depth rest

theorem scanFrom_nextLine (depth : Nat) (rest : List Char) :
    scanFrom .between ((nextLine depth).flatten ++ rest) = .comma :: scanFrom .between rest :=
  congrArg _ (scanFrom_blanks depth rest)

theorem stops_lineBreak (depth : Nat) (rest : List Char) : Stops ((lineBreak depth).flatten ++ rest) :=
  stops_cons (by decide) _

theorem stops_nextLine (depth : Nat) (rest : List Char) : Stops ((nextLine depth).flatten ++ rest) :=
  stops_cons (by decide) _

section Containers

variable {rest : List Char}

theorem scanFrom_items {items : List Json} (all : ∀ j ∈ items, j.Scans) (depth : Nat) (stops : Stops rest) :
    scanFrom .between ((prettyItems depth items).flatten ++ rest) =
      itemTokens items ++ scanFrom .between rest := by
  induction items with
  | nil => rfl
  | cons j items ih =>
    have here := all j List.mem_cons_self
    cases items with
    | nil => exact here depth rest stops
    | cons next items =>
      rw [prettyItems, List.flatten_append, List.flatten_append, List.append_assoc, List.append_assoc,
        here depth _ (stops_nextLine _ _), scanFrom_nextLine, ih fun j mem => all j (List.mem_cons_of_mem _ mem)]
      · simp [itemTokens]
      · nofun

/-- The key of a member in front of its value. -/
theorem scanFrom_member {j : Json} (here : j.Scans) (key : String) (depth : Nat) (stops : Stops rest) :
    scanFrom .between ((quotePieces [key.toList] ++ [':', ' '] :: j.prettyPieces depth).flatten ++ rest) =
      .string (escape key.toList) :: .colon :: j.tokens ++ scanFrom .between rest := by
  have cut : (quotePieces [key.toList] ++ [':', ' '] :: j.prettyPieces depth).flatten ++ rest =
      quote key.toList ++ ':' :: ' ' :: ((j.prettyPieces depth).flatten ++ rest) := by
    simp [flatten_quotePieces]
  have colon : scanFrom .between (':' :: ' ' :: ((j.prettyPieces depth).flatten ++ rest)) =
      .colon :: scanFrom .between ((j.prettyPieces depth).flatten ++ rest) := rfl
  rw [cut, scanFrom_quote, colon, here depth rest stops]
  rfl

theorem scanFrom_members {members : List (String × Json)} (all : ∀ m ∈ members, m.2.Scans) (depth : Nat)
    (stops : Stops rest) :
    scanFrom .between ((prettyMembers depth members).flatten ++ rest) =
      memberTokens members ++ scanFrom .between rest := by
  induction members with
  | nil => rfl
  | cons m members ih =>
    obtain ⟨key, j⟩ := m
    have here := all _ List.mem_cons_self
    cases members with
    | nil => exact scanFrom_member here key depth stops
    | cons next members =>
      have cut : prettyMembers depth ((key, j) :: next :: members) =
          (quotePieces [key.toList] ++ [':', ' '] :: j.prettyPieces depth) ++
            (nextLine depth ++ prettyMembers depth (next :: members)) := by
        simp [prettyMembers]
      rw [cut, List.flatten_append, List.append_assoc, scanFrom_member here]
      · rw [List.flatten_append, List.append_assoc, scanFrom_nextLine,
          ih fun m mem => all m (List.mem_cons_of_mem _ mem)]
        simp [memberTokens]
      · rw [List.flatten_append, List.append_assoc]
        exact stops_nextLine _ _

/-- What stands between two brackets, on lines of its own. -/
theorem scanFrom_framed {opening closing : Char} {first last : Token} {pieces : List (List Char)}
    {inside : List Token}
    (opens : ∀ rest, scanFrom .between (opening :: rest) = first :: scanFrom .between rest)
    (closes : ∀ rest, scanFrom .between (closing :: rest) = last :: scanFrom .between rest)
    (scans : ∀ rest, Stops rest →
      scanFrom .between (pieces.flatten ++ rest) = inside ++ scanFrom .between rest) (depth : Nat) :
    scanFrom .between (([opening] :: lineBreak (depth + 1) ++ pieces ++ lineBreak depth ++ [[closing]]).flatten
      ++ rest) = (first :: inside ++ [last]) ++ scanFrom .between rest := by
  have cut : ([opening] :: lineBreak (depth + 1) ++ pieces ++ lineBreak depth ++ [[closing]]).flatten ++ rest =
      opening :: ((lineBreak (depth + 1)).flatten ++ (pieces.flatten ++
        ((lineBreak depth).flatten ++ closing :: rest))) := by
    simp
  rw [cut, opens, scanFrom_lineBreak, scans _ (stops_lineBreak _ _), scanFrom_lineBreak, closes]
  simp

end Containers

/-- **What is written line by line is scanned as the tokens of the value.** -/
theorem Natural.scans {j : Json} (natural : j.Natural) : j.Scans := by
  induction natural with
  | null =>
    intro depth rest stops
    show scanFrom .between ("null".toList ++ rest) = _
    exact scanFrom_row (by decide) (by decide) stops
  | bool b =>
    intro depth rest stops
    cases b with
    | false =>
      show scanFrom .between ("false".toList ++ rest) = _
      exact scanFrom_row (by decide) (by decide) stops
    | true =>
      show scanFrom .between ("true".toList ++ rest) = _
      exact scanFrom_row (by decide) (by decide) stops
  | number n =>
    intro depth rest stops
    show scanFrom .between (([(Number.ofNat n).chars] : List (List Char)).flatten ++ rest) = _
    rw [List.flatten_singleton, Number.chars_ofNat, scanFrom_digits stops]
    rfl
  | string s =>
    intro depth rest stops
    show scanFrom .between ((quotePieces [s.toList]).flatten ++ rest) = _
    rw [flatten_quotePieces, List.flatten_singleton, scanFrom_quote]
    rfl
  | spelled parts =>
    intro depth rest stops
    show scanFrom .between ((quotePieces parts).flatten ++ rest) = _
    rw [flatten_quotePieces, scanFrom_quote]
    rfl
  | @array items all ih =>
    intro depth rest stops
    cases items with
    | nil => rfl
    | cons first items =>
      exact scanFrom_framed (fun _ => rfl) (fun _ => rfl)
        (fun rest stops => scanFrom_items ih (depth + 1) stops) depth
  | @object members all ih =>
    intro depth rest stops
    cases members with
    | nil => rfl
    | cons first members =>
      exact scanFrom_framed (fun _ => rfl) (fun _ => rfl)
        (fun rest stops => scanFrom_members ih (depth + 1) stops) depth

theorem Natural.scan_pretty {j : Json} (natural : j.Natural) : scan (j.prettyPieces 0).flatten = j.tokens := by
  have all := natural.scans 0 [] nofun
  rw [List.append_nil] at all
  rw [scan, all]
  exact List.append_nil _

end TaskTiming.Json
