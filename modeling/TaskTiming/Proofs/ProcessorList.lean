import TaskTiming.Cpu.Frequency

/-!
# Processors in a list

A list of processors is read line by line: a line that names a processor begins a block, and the frequency of a
processor is the one that the first line in a block of its own tells (`FirstTold`). The lines are read with the
processor named last in mind (`currentAfter`), so no line of another block has a say: such blocks may come and
go (`OfOthers.findFrom_append`).
-/

namespace TaskTiming.Frequency
set_option autoImplicit false

variable {cpu hz : UInt64} {current index : Option UInt64} {line value : List Char}
  {before rest lines : List (List Char)}

/-! ## Lines -/

/-- A line with a key and a value: the key stands before the first colon, blanks around it or not. -/
def HasProperty (line key value : List Char) : Prop :=
  ∃ front, line = front ++ ':' :: value ∧ ':' ∉ front ∧ Text.trim front = key

/-- A line that begins the block of a processor; the number may be none. -/
def BeginsBlock (line : List Char) (index : Option UInt64) : Prop :=
  ∃ value, HasProperty line "processor".toList value ∧ word? (Text.trim value) = index

/-- A line with a frequency. -/
def HasSpeed (line value : List Char) : Prop := HasProperty line "cpu MHz".toList value

theorem property?_eq_some {key : List Char} : property? line = some (key, value) ↔ HasProperty line key value := by
  simp only [property?, Option.map_eq_some_iff, Prod.exists, Prod.mk.injEq]
  constructor
  · rintro ⟨front, _, cut, trimmed, rfl⟩
    obtain ⟨whole, free⟩ := Text.splitOnce_eq_some.1 cut
    exact ⟨front, whole, free, trimmed⟩
  · rintro ⟨front, whole, free, trimmed⟩
    exact ⟨front, value, Text.splitOnce_eq_some.2 ⟨whole, free⟩, trimmed, rfl⟩

/-- The processor that a line names, if it begins a block. -/
def blockIndex? (line : List Char) : Option (Option UInt64) :=
  match property? line with
  | none => none
  | some (key, value) => if key = "processor".toList then some (word? (Text.trim value)) else none

theorem blockIndex?_eq_some : blockIndex? line = some index ↔ BeginsBlock line index := by
  simp only [BeginsBlock, ← property?_eq_some, blockIndex?]
  cases found : property? line with
  | none => exact ⟨nofun, fun ⟨_, missing, _⟩ => nomatch missing⟩
  | some pair =>
    obtain ⟨key, text⟩ := pair
    show (if key = "processor".toList then some (word? (Text.trim text)) else none) = some index ↔ _
    by_cases named : key = "processor".toList
    · rw [if_pos named, named]
      exact ⟨fun same => ⟨text, rfl, Option.some.inj same⟩, fun ⟨_, same, parsed⟩ => by cases same; rw [parsed]⟩
    · rw [if_neg named]
      exact ⟨nofun, fun ⟨_, same, _⟩ => (named (Prod.mk.inj (Option.some.inj same)).1).elim⟩

instance (line : List Char) (index : Option UInt64) : Decidable (BeginsBlock line index) :=
  decidable_of_iff _ blockIndex?_eq_some

theorem blockIndex?_eq_none : blockIndex? line = none ↔ ∀ index, ¬BeginsBlock line index := by
  simp only [← blockIndex?_eq_some]
  exact Option.eq_none_iff_forall_ne_some

/-! ## One line -/

theorem findFrom_block (begins : BeginsBlock line index) :
    findFrom cpu current (line :: rest) = findFrom cpu index rest := by
  obtain ⟨value, named, rfl⟩ := begins
  simp only [findFrom, property?_eq_some.2 named, if_true]

theorem findFrom_told (told : HasSpeed line value) :
    findFrom cpu (some cpu) (line :: rest) = ofMegahertz value := by
  have other : ¬"cpu MHz".toList = "processor".toList := by decide
  simp only [findFrom, property?_eq_some.2 told, if_neg other, and_self, if_true]

/-- All other lines are passed over. -/
theorem findFrom_skip (inside : ∀ index, ¬BeginsBlock line index)
    (silent : ∀ value, HasSpeed line value → current ≠ some cpu) :
    findFrom cpu current (line :: rest) = findFrom cpu current rest := by
  rw [findFrom]
  cases found : property? line with
  | none => rfl
  | some pair =>
    obtain ⟨key, value⟩ := pair
    have unnamed : ¬key = "processor".toList := by
      rintro rfl
      exact inside _ ⟨value, property?_eq_some.1 found, rfl⟩
    have untold : ¬(key = "cpu MHz".toList ∧ current = some cpu) := by
      rintro ⟨rfl, same⟩
      exact silent value (property?_eq_some.1 found) same
    simp only [if_neg unnamed, if_neg untold]

/-! ## The first line that tells -/

/-- Behind these lines, the block is one of this processor: of the lines that begin a block the last one names
it. -/
def InBlockOf (cpu : UInt64) (before : List (List Char)) : Prop :=
  ∃ earlier line between, before = earlier ++ line :: between ∧ BeginsBlock line (some cpu) ∧
    ∀ l ∈ between, ∀ index, ¬BeginsBlock l index

/-- A line that tells the frequency of a processor. -/
def Tells (cpu : UInt64) (before : List (List Char)) (line value : List Char) : Prop :=
  HasSpeed line value ∧ InBlockOf cpu before

/-- No line tells the frequency of a processor. -/
def Quiet (cpu : UInt64) (lines : List (List Char)) : Prop :=
  ∀ before line after value, lines = before ++ line :: after → ¬Tells cpu before line value

/-- The value on the first line that tells the frequency of a processor. -/
def FirstTold (cpu : UInt64) (lines : List (List Char)) (value : List Char) : Prop :=
  ∃ before line after, lines = before ++ line :: after ∧ Tells cpu before line value ∧ Quiet cpu before

/-- The processor named last, behind some lines. -/
def currentAfter (current : Option UInt64) : List (List Char) → Option UInt64
  | [] => current
  | line :: rest => currentAfter ((blockIndex? line).getD current) rest

theorem inBlockOf_cons : InBlockOf cpu (line :: rest) ↔
    InBlockOf cpu rest ∨ BeginsBlock line (some cpu) ∧ ∀ l ∈ rest, ∀ index, ¬BeginsBlock l index := by
  constructor
  · rintro ⟨earlier, named, between, whole, begins, none⟩
    cases earlier with
    | nil =>
      obtain ⟨rfl, rfl⟩ := List.cons.inj whole
      exact .inr ⟨begins, none⟩
    | cons first earlier => exact .inl ⟨earlier, named, between, (List.cons.inj whole).2, begins, none⟩
  · rintro (⟨earlier, named, between, rfl, begins, none⟩ | ⟨begins, none⟩)
    · exact ⟨line :: earlier, named, between, rfl, begins, none⟩
    · exact ⟨[], line, rest, rfl, begins, none⟩

theorem currentAfter_eq_iff : currentAfter current before = some cpu ↔
    InBlockOf cpu before ∨ current = some cpu ∧ ∀ l ∈ before, ∀ index, ¬BeginsBlock l index := by
  induction before generalizing current with
  | nil =>
    have outside : ¬InBlockOf cpu [] := fun ⟨earlier, _, _, whole, _⟩ => by cases earlier <;> cases whole
    simp [currentAfter, outside]
  | cons line rest ih =>
    rw [currentAfter, ih, inBlockOf_cons, or_assoc, List.forall_mem_cons]
    cases block : blockIndex? line with
    | none =>
      have inside := blockIndex?_eq_none.1 block
      have unnamed : ¬BeginsBlock line (some cpu) := inside _
      simp only [Option.getD_none, unnamed, false_and, false_or]
      exact or_congr_right (and_congr_right fun _ => (and_iff_right inside).symm)
    | some index =>
      have named : index = some cpu ↔ BeginsBlock line (some cpu) := by
        rw [← blockIndex?_eq_some, block, Option.some_inj]
      have begun : ¬∀ index, ¬BeginsBlock line index := fun none => none _ (blockIndex?_eq_some.1 block)
      simp only [Option.getD_some, named, begun, false_and, and_false, or_false]

/-- The block that a line is in is that of the processor named last. -/
theorem currentAfter_eq_some : currentAfter none before = some cpu ↔ InBlockOf cpu before := by
  rw [currentAfter_eq_iff]
  exact or_iff_left fun wrong => nomatch wrong.1

instance (cpu : UInt64) (before : List (List Char)) : Decidable (InBlockOf cpu before) :=
  decidable_of_iff _ currentAfter_eq_some

/-- Lines none of which tell are read to their end, and the processor that they name last stays in mind. -/
theorem findFrom_append (silent : ∀ b line a value, before = b ++ line :: a → HasSpeed line value →
    currentAfter current b ≠ some cpu) :
    findFrom cpu current (before ++ rest) = findFrom cpu (currentAfter current before) rest := by
  induction before generalizing current with
  | nil => rfl
  | cons line more ih =>
    rw [List.cons_append, currentAfter]
    have later : ∀ b l a value, more = b ++ l :: a → HasSpeed l value →
        currentAfter ((blockIndex? line).getD current) b ≠ some cpu := by
      rintro b l a value rfl speed
      exact silent (line :: b) l a value rfl speed
    cases block : blockIndex? line with
    | none =>
      have first : ∀ value, HasSpeed line value → current ≠ some cpu := fun value =>
        silent [] line more value rfl
      rw [findFrom_skip (blockIndex?_eq_none.1 block) first]
      rw [block] at later
      exact ih later
    | some index =>
      rw [findFrom_block (blockIndex?_eq_some.1 block)]
      rw [block] at later
      exact ih later

theorem Quiet.findFrom_append (quiet : Quiet cpu before) :
    findFrom cpu none (before ++ rest) = findFrom cpu (currentAfter none before) rest :=
  Frequency.findFrom_append fun b line a value whole speed named =>
    quiet b line a value whole ⟨speed, currentAfter_eq_some.1 named⟩

theorem Quiet.snoc (quiet : Quiet cpu before) (silent : ∀ value, ¬Tells cpu before line value) :
    Quiet cpu (before ++ [line]) := by
  intro b l a value whole
  rcases List.eq_nil_or_concat a with rfl | ⟨a, last, rfl⟩
  · obtain ⟨rfl, same⟩ := List.append_inj' whole rfl
    obtain ⟨rfl, -⟩ := List.cons.inj same
    exact silent value
  · rw [List.concat_eq_append, ← List.cons_append, ← List.append_assoc] at whole
    exact quiet b l a value (List.append_inj' whole rfl).1

/-- Some line is the first that tells, or none does. -/
theorem firstTold_or_quiet (quiet : Quiet cpu before) (rest : List (List Char)) :
    (∃ value, FirstTold cpu (before ++ rest) value) ∨ Quiet cpu (before ++ rest) := by
  induction rest generalizing before with
  | nil =>
    rw [List.append_nil]
    exact .inr quiet
  | cons line rest ih =>
    by_cases told : ∃ value, Tells cpu before line value
    · obtain ⟨value, tells⟩ := told
      exact .inl ⟨value, before, line, rest, rfl, tells, quiet⟩
    · have whole : before ++ line :: rest = before ++ [line] ++ rest := by
        rw [List.append_assoc, List.singleton_append]
      rw [whole]
      exact ih (quiet.snoc fun value tells => told ⟨value, tells⟩)

theorem quiet_nil : Quiet cpu [] := by
  rintro b line a value whole
  cases b <;> cases whole

theorem FirstTold.findFrom_eq (first : FirstTold cpu lines value) : findFrom cpu none lines = ofMegahertz value := by
  obtain ⟨before, line, after, rfl, ⟨speed, inBlock⟩, quiet⟩ := first
  rw [quiet.findFrom_append, currentAfter_eq_some.2 inBlock, findFrom_told speed]

theorem Quiet.findFrom_eq_none (quiet : Quiet cpu lines) : findFrom cpu none lines = none := by
  have read : findFrom cpu none (lines ++ []) = none := quiet.findFrom_append
  rwa [List.append_nil] at read

/-! ## Blocks of others -/

/-- The first line, if there is one, begins a block. -/
def StartsBlock (lines : List (List Char)) : Prop := ∀ line ∈ lines.head?, ∃ index, BeginsBlock line index

/-- Blocks from their first line on, none of which is one of this processor. -/
structure OfOthers (cpu : UInt64) (lines : List (List Char)) : Prop where
  starts : StartsBlock lines
  others : ∀ line ∈ lines, ¬BeginsBlock line (some cpu)

/-- Where a block begins, nothing is left of what was named before. -/
theorem StartsBlock.findFrom_eq (starts : StartsBlock rest) (current other : Option UInt64) :
    findFrom cpu current rest = findFrom cpu other rest := by
  cases rest with
  | nil => rfl
  | cons line rest =>
    obtain ⟨index, begins⟩ := starts line rfl
    rw [findFrom_block begins, findFrom_block begins]

/-- **Blocks of other processors are passed over**, from the beginning of one to the beginning of another. -/
theorem OfOthers.findFrom_append (blocks : OfOthers cpu before) (starts : StartsBlock rest) :
    findFrom cpu current (before ++ rest) = findFrom cpu current rest := by
  cases before with
  | nil => rfl
  | cons line more =>
    obtain ⟨index, begins⟩ := blocks.starts line rfl
    obtain ⟨unnamed, others⟩ := List.forall_mem_cons.1 blocks.others
    have silent : ∀ b l a value, more = b ++ l :: a → HasSpeed l value → currentAfter index b ≠ some cpu := by
      rintro b l a value rfl - named
      rcases currentAfter_eq_iff.1 named with ⟨earlier, own, between, rfl, begun, -⟩ | ⟨rfl, -⟩
      · exact others own (by simp) begun
      · exact unnamed begins
    rw [List.cons_append, findFrom_block begins, Frequency.findFrom_append silent]
    exact starts.findFrom_eq _ current

/-- Lines in front do not tell apart what is read alike behind them. -/
theorem findFrom_congr {one other : List (List Char)}
    (alike : ∀ current, findFrom cpu current one = findFrom cpu current other) :
    findFrom cpu current (before ++ one) = findFrom cpu current (before ++ other) := by
  induction before generalizing current with
  | nil => exact alike current
  | cons line more ih =>
    simp only [List.cons_append, findFrom, ih]

/-- **The frequency of a processor is told in a block of its own.** It is the value on the first line with the
key for frequencies such that the last line before it that names a processor names this one; without such a
line there is none. So blocks of other processors can be taken out of a text, put in where a block begins or
the text ends, and replaced by others, and the frequency stays the same. -/
theorem frequency_is_told_in_own_block (s : List Char) (cpu : UInt64) :
    (∀ value, FirstTold cpu (Text.lines s) value → ofProcessorList s cpu = ofMegahertz value) ∧
    ((¬∃ value, FirstTold cpu (Text.lines s) value) → ofProcessorList s cpu = none) ∧
    ∀ front old new behind, s = front ++ old ++ behind → Text.WholeLines front →
      OfOthers cpu (Text.lines old) → OfOthers cpu (Text.lines new) → StartsBlock (Text.lines behind) →
      (Text.WholeLines old ∧ Text.WholeLines new ∨ behind = []) →
      ofProcessorList (front ++ new ++ behind) cpu = ofProcessorList s cpu := by
  refine ⟨fun value first => first.findFrom_eq, fun never => ?_, ?_⟩
  · have quiet := (firstTold_or_quiet quiet_nil (Text.lines s)).resolve_left never
    exact quiet.findFrom_eq_none
  · rintro front old new behind rfl whole oldOthers newOthers starts ending
    have cut : ∀ blocks, OfOthers cpu (Text.lines blocks) → Text.WholeLines blocks ∨ behind = [] →
        ofProcessorList (front ++ blocks ++ behind) cpu =
          findFrom cpu none (Text.lines front ++ Text.lines behind) := by
      intro blocks others ending
      have lines : Text.lines (blocks ++ behind) = Text.lines blocks ++ Text.lines behind := by
        rcases ending with ended | rfl
        · exact Text.lines_append ended behind
        · rw [List.append_nil]
          exact (List.append_nil _).symm
      rw [ofProcessorList, List.append_assoc, Text.lines_append whole, lines]
      exact findFrom_congr fun _ => others.findFrom_append starts
    rw [cut new newOthers (ending.imp_left And.right), cut old oldOthers (ending.imp_left And.left)]

/-! ## Two processors -/

namespace TwoProcessors

def zeroth : List Char := "processor\t: 0\ncpu MHz\t\t: 2699.998\n\n".toList

def first : List Char := "processor\t: 1\ncpu MHz\t\t: 1200.000\n".toList

theorem lines_eq : Text.lines (zeroth ++ first) =
    ["processor\t: 0".toList, "cpu MHz\t\t: 2699.998".toList, [], "processor\t: 1".toList] ++
      ["cpu MHz\t\t: 1200.000".toList] := by decide

/-- A line without a frequency tells none. -/
theorem not_tells_of_key (other : ∀ pair ∈ property? line, pair.1 ≠ "cpu MHz".toList) (cpu : UInt64)
    (before : List (List Char)) (value : List Char) : ¬Tells cpu before line value :=
  fun tells => other _ (property?_eq_some.2 tells.1) rfl

/-- What the first processor has to tell comes last. -/
theorem quiet_before : Quiet 1
    ["processor\t: 0".toList, "cpu MHz\t\t: 2699.998".toList, [], "processor\t: 1".toList] := by
  have named : Quiet 1 ["processor\t: 0".toList] := quiet_nil.snoc (not_tells_of_key (by decide) 1 _)
  have told : Quiet 1 ["processor\t: 0".toList, "cpu MHz\t\t: 2699.998".toList] :=
    named.snoc fun _ tells => absurd tells.2 (by decide)
  have ended : Quiet 1 ["processor\t: 0".toList, "cpu MHz\t\t: 2699.998".toList, []] :=
    told.snoc (not_tells_of_key (by decide) 1 _)
  exact ended.snoc (not_tells_of_key (by decide) 1 _)

theorem firstTold : FirstTold 1 (Text.lines (zeroth ++ first)) " 1200.000".toList :=
  ⟨_, _, [], lines_eq, ⟨property?_eq_some.1 (by decide), by decide⟩, quiet_before⟩

theorem ofOthers_zeroth : OfOthers 1 (Text.lines zeroth) where
  starts line there := by
    cases there
    exact ⟨some 0, by decide⟩
  others := by decide

theorem startsBlock_first : StartsBlock (Text.lines first) := by
  intro line there
  cases there
  exact ⟨some 1, by decide⟩

end TwoProcessors

open TwoProcessors in
/-- The second of two processors has the second frequency, and the block of the first can be taken out. -/
theorem frequency_is_told_in_own_block_second :
    FirstTold 1 (Text.lines (zeroth ++ first)) " 1200.000".toList ∧
    ofProcessorList (zeroth ++ first) 1 = ofMegahertz " 1200.000".toList ∧
    Text.WholeLines zeroth ∧ Text.WholeLines [] ∧ OfOthers 1 (Text.lines zeroth) ∧
    StartsBlock (Text.lines first) ∧
    ofProcessorList first 1 = ofProcessorList (zeroth ++ first) 1 := by
  obtain ⟨told, -, edited⟩ := frequency_is_told_in_own_block (zeroth ++ first) 1
  have whole : Text.WholeLines zeroth := by decide
  have empty : Text.WholeLines [] := by decide
  have none : OfOthers 1 (Text.lines []) := ⟨nofun, nofun⟩
  exact ⟨firstTold, told _ firstTold, whole, empty, ofOthers_zeroth, startsBlock_first,
    edited [] zeroth [] first rfl empty ofOthers_zeroth none startsBlock_first (.inl ⟨whole, empty⟩)⟩

end TaskTiming.Frequency
