import TaskTiming.Text.Hex

/-!
# The inside of a JSON string

Characters between the quotes of a JSON string: written by `escape`, read by `unescape`. Main
statement: what is written is read back (`unescape_escape`).
-/

namespace TaskTiming.Json
set_option autoImplicit false
open Text (hexDigit hexValue? hexValue?_hexDigit)

/-- Four hexadecimal digits as a number. -/
def hex4? (a b c d : Char) : Option Nat := do
  return 4096 * (← hexValue? a) + 256 * (← hexValue? b) + 16 * (← hexValue? c) + (← hexValue? d)

/-- The characters of an escape that stands for itself or for a control character. -/
def shortEscape? (c : Char) : Option Char :=
  match c with
  | '"' => some '"'
  | '\\' => some '\\'
  | '/' => some '/'
  | 'b' => some '\x08'
  | 'f' => some '\x0c'
  | 'n' => some '\n'
  | 'r' => some '\r'
  | 't' => some '\t'
  | _ => none

/-- The characters that a quoted row stands for. An escape that is no escape has no reading, nor has
half of a surrogate pair. -/
def unescape : List Char → Option (List Char)
  | [] => some []
  | '\\' :: 'u' :: a :: b :: c :: d :: rest =>
    match hex4? a b c d with
    | none => none
    | some high =>
      if 0xD800 ≤ high ∧ high < 0xDC00 then
        match rest with
        | '\\' :: 'u' :: e :: f :: g :: h :: rest =>
          match hex4? e f g h with
          | none => none
          | some low =>
            if 0xDC00 ≤ low ∧ low < 0xE000 then
              let point := 0x10000 + 0x400 * (high - 0xD800) + (low - 0xDC00)
              (unescape rest).map (Char.ofNat point :: ·)
            else none
        | _ => none
      else if 0xDC00 ≤ high ∧ high < 0xE000 then none
      else (unescape rest).map (Char.ofNat high :: ·)
  | '\\' :: c :: rest =>
    match shortEscape? c with
    | none => none
    | some char => (unescape rest).map (char :: ·)
  | c :: rest => if c = '\\' then none else (unescape rest).map (c :: ·)

/-- Every escape is one by its shape; a half of a surrogate pair passes. -/
def wellFormed : List Char → Bool
  | [] => true
  | '\\' :: 'u' :: a :: b :: c :: d :: rest => (hex4? a b c d).isSome && wellFormed rest
  | '\\' :: c :: rest => (shortEscape? c).isSome && wellFormed rest
  | c :: rest => c ≠ '\\' && wellFormed rest

/-- The characters for one character between quotes. -/
def escapeChar (c : Char) : List Char :=
  if c = '"' then ['\\', '"']
  else if c = '\\' then ['\\', '\\']
  else if c = '\x08' then ['\\', 'b']
  else if c = '\x0c' then ['\\', 'f']
  else if c = '\n' then ['\\', 'n']
  else if c = '\r' then ['\\', 'r']
  else if c = '\t' then ['\\', 't']
  else if c.toNat < 32 then
    ['\\', 'u', '0', '0', hexDigit (c.toNat / 16), hexDigit (c.toNat % 16)]
  else [c]

/-- A text as it stands between quotes. -/
def escape (s : List Char) : List Char := s.flatMap escapeChar

theorem hex4?_control {n : Nat} (h : n < 32) :
    hex4? '0' '0' (hexDigit (n / 16)) (hexDigit (n % 16)) = some n := by
  have zero : hexValue? '0' = some 0 := by decide
  simp only [hex4?, zero, hexValue?_hexDigit (show n / 16 < 16 by omega),
    hexValue?_hexDigit (show n % 16 < 16 by omega), bind, Option.bind, pure, Option.some.injEq]
  omega

theorem unescape_plain {c : Char} (h : c ≠ '\\') (rest : List Char) :
    unescape (c :: rest) = (unescape rest).map (c :: ·) := by
  rw [unescape]
  · rw [if_neg h]
  · intro a b c' d rest' e
    exact absurd e h
  · intro c' rest' e
    exact absurd e h

theorem unescape_escapeChar (c : Char) (rest : List Char) :
    unescape (escapeChar c ++ rest) = (unescape rest).map (c :: ·) := by
  unfold escapeChar
  split
  · subst c; simp [unescape, shortEscape?]
  split
  · subst c; simp [unescape, shortEscape?]
  split
  · subst c; simp [unescape, shortEscape?]
  split
  · subst c; simp [unescape, shortEscape?]
  split
  · subst c; simp [unescape, shortEscape?]
  split
  · subst c; simp [unescape, shortEscape?]
  split
  · subst c; simp [unescape, shortEscape?]
  split
  · rename_i h
    simp only [List.cons_append, List.nil_append, unescape, hex4?_control h]
    rw [if_neg (by omega), if_neg (by omega), Char.ofNat_toNat]
  · rename_i h _ _ _ _ _ _
    exact unescape_plain h rest

/-- What is written between quotes is read back. -/
theorem unescape_escape (s : List Char) : unescape (escape s) = some s := by
  induction s with
  | nil => rfl
  | cons c s ih =>
    show unescape (escapeChar c ++ escape s) = _
    rw [unescape_escapeChar, ih]
    rfl

end TaskTiming.Json
