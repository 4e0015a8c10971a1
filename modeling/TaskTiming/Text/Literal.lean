import TaskTiming.Text.Unseen
import TaskTiming.Text.Hex

/-!
# Texts as literals

A text between double quotes in which every character can be seen: quotes, backslashes and line breaks
are escaped, and a character without a glyph is written as its code point.
-/

namespace TaskTiming.Text
set_option autoImplicit false

/-- The hexadecimal digits of a number without leading zeros. -/
def shortHex (n : Nat) : List Char :=
  let row := (hexDigits 6 n).dropWhile (· = '0')
  if row.isEmpty then ['0'] else row

/-- A character as it stands in a literal. -/
def literalChar (c : Char) : List Char :=
  if c = '\x00' then ['\\', '0']
  else if c = '\t' then ['\\', 't']
  else if c = '\r' then ['\\', 'r']
  else if c = '\n' then ['\\', 'n']
  else if c = '\\' ∨ c = '"' ∨ c = '\'' then ['\\', c]
  else if isUnseen c then ['\\', 'u', '{'] ++ shortHex c.toNat ++ ['}']
  else [c]

/-- A text as a literal. -/
def literal (s : String) : String :=
  String.ofList ('"' :: s.toList.flatMap literalChar ++ ['"'])

end TaskTiming.Text
