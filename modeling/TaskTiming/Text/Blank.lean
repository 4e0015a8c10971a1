/-!
# Blanks

The characters with the Unicode property `White_Space`, and texts without the blanks at their ends.
-/

namespace TaskTiming.Text
set_option autoImplicit false

/-- The code points with the property `White_Space`, as closed ranges. -/
def blankRanges : List (Nat × Nat) :=
  [(0x09, 0x0D), (0x20, 0x20), (0x85, 0x85), (0xA0, 0xA0), (0x1680, 0x1680), (0x2000, 0x200A),
    (0x2028, 0x2029), (0x202F, 0x202F), (0x205F, 0x205F), (0x3000, 0x3000)]

/-- The character is white space. -/
def isBlank (c : Char) : Bool :=
  blankRanges.any fun r => decide (r.1 ≤ c.toNat) && decide (c.toNat ≤ r.2)

/-- The text without the blanks in front of it. -/
def trimStart (s : List Char) : List Char := s.dropWhile isBlank

/-- The text without the blanks at either end. -/
def trim (s : List Char) : List Char := (trimStart (trimStart s).reverse).reverse

/-- A text that neither starts nor ends with a blank is its own trimmed form. -/
theorem trim_eq_self {s : List Char} (first : ∀ c ∈ s.head?, isBlank c = false)
    (last : ∀ c ∈ s.getLast?, isBlank c = false) : trim s = s := by
  have start : ∀ t : List Char, (∀ c ∈ t.head?, isBlank c = false) → trimStart t = t := by
    intro t h
    cases t with
    | nil => rfl
    | cons c r => simp [trimStart, h c (by simp)]
  rw [trim, start s first, start s.reverse (by simpa using last), List.reverse_reverse]

end TaskTiming.Text
