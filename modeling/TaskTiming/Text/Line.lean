/-!
# Cutting texts

A text cut at the first occurrence of a character, and a text cut into its lines. A line ends with a
line feed, and a carriage return before that line feed belongs to the ending; a last line without an
ending counts unless it is empty.
-/

namespace TaskTiming.Text
set_option autoImplicit false

/-- What stands before and after the first `mark`, or nothing if there is none. -/
def splitOnce (mark : Char) : List Char → Option (List Char × List Char)
  | [] => none
  | c :: rest =>
    if c = mark then some ([], rest)
    else (splitOnce mark rest).map fun (before, after) => (c :: before, after)

/-- The parts around the first mark make up the text, and the first part has no mark. -/
theorem splitOnce_eq_some {mark : Char} {s before after : List Char} :
    splitOnce mark s = some (before, after) ↔ s = before ++ mark :: after ∧ mark ∉ before := by
  induction s generalizing before with
  | nil => simp [splitOnce]
  | cons c rest ih =>
    by_cases h : c = mark
    · subst h
      cases before with
      | nil => simp [splitOnce, eq_comm]
      | cons d before => simp [splitOnce]; intro e; subst e; simp
    · simp only [splitOnce, h, if_false, Option.map_eq_some_iff, Prod.exists, Prod.mk.injEq]
      constructor
      · rintro ⟨b, a, hb, rfl, rfl⟩
        obtain ⟨rfl, hm⟩ := ih.1 hb
        exact ⟨rfl, by simp [hm, Ne.symm h]⟩
      · rintro ⟨e, hm⟩
        cases before with
        | nil => exact absurd (List.cons.inj e).1 h
        | cons d before =>
          obtain ⟨rfl, tail⟩ := List.cons.inj e
          simp only [List.mem_cons, not_or] at hm
          exact ⟨before, after, ih.2 ⟨tail, hm.2⟩, rfl, rfl⟩

/-- The line without a carriage return at its end. -/
def dropReturn (line : List Char) : List Char :=
  if line.getLast? = some '\r' then line.dropLast else line

/-- The lines of a text whose current line starts with `line`. -/
def linesFrom (line : List Char) : List Char → List (List Char)
  | [] => if line.isEmpty then [] else [line]
  | c :: rest =>
    if c = '\n' then dropReturn line :: linesFrom [] rest else linesFrom (line ++ [c]) rest

/-- The lines of a text, without their endings. -/
def lines (s : List Char) : List (List Char) := linesFrom [] s

/-- Behind a line feed, a new line starts. -/
theorem linesFrom_append {front : List Char} (ended : front.getLast? = some '\n') (line rest : List Char) :
    linesFrom line (front ++ rest) = linesFrom line front ++ lines rest := by
  induction front generalizing line with
  | nil => cases ended
  | cons c more ih =>
    rw [List.cons_append, linesFrom, linesFrom]
    cases more with
    | nil =>
      have feed : c = '\n' := Option.some.inj ended
      rw [if_pos feed, if_pos feed]
      rfl
    | cons d more =>
      have ended : (d :: more).getLast? = some '\n' := by rwa [List.getLast?_cons_cons] at ended
      split
      · rw [ih ended, List.cons_append]
      · exact ih ended _

/-- A text of whole lines: nothing stands behind the last line feed. -/
def WholeLines (s : List Char) : Prop := s = [] ∨ s.getLast? = some '\n'

instance (s : List Char) : Decidable (WholeLines s) := inferInstanceAs (Decidable (_ ∨ _))

theorem lines_append {front : List Char} (whole : WholeLines front) (rest : List Char) :
    lines (front ++ rest) = lines front ++ lines rest := by
  rcases whole with rfl | ended
  · rfl
  · exact linesFrom_append ended [] rest

end TaskTiming.Text
