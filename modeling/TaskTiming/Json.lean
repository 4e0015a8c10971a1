import TaskTiming.Json.Token

/-!
# JSON values

The values of JSON, with the members of an object in the order in which they are written, and their
two written forms: without any blank, and with one member to a line, two blanks deeper in each
container. The second one is given piece by piece, as a writer is handed it.
-/

namespace TaskTiming
set_option autoImplicit false

/-- A JSON value. -/
inductive Json
  | null
  | bool (b : Bool)
  | number (n : Json.Number)
  | string (s : String)
  /-- A text that is written part by part. -/
  | spelled (parts : List (List Char))
  | array (items : List Json)
  | object (members : List (String × Json))
deriving Inhabited

namespace Json

def ofNat (n : Nat) : Json := .number (.ofNat n)

def ofInt (n : Int) : Json := .number (.ofInt n)

/-- The value, or `null` where there is none. -/
def ofOption {α : Type} (write : α → Json) : Option α → Json
  | none => .null
  | some a => write a

/-- The member of that name; of several the last. -/
def member? (name : String) : Json → Option Json
  | .object members => (members.reverse.find? (·.1 = name)).map (·.2)
  | _ => none

/-- A text between quotes. -/
def quote (s : List Char) : List Char := '"' :: escape s ++ ['"']

mutual

/-- The tokens of a value. -/
def tokens : Json → List Token
  | .null => [.null]
  | .bool b => [.bool b]
  | .number n => [.number n]
  | .string s => [.string (escape s.toList)]
  | .spelled parts => [.string (escape parts.flatten)]
  | .array items => .openArray :: itemTokens items ++ [.closeArray]
  | .object members => .openObject :: memberTokens members ++ [.closeObject]

/-- The tokens of the items of an array, commas between them. -/
def itemTokens : List Json → List Token
  | [] => []
  | [j] => tokens j
  | j :: rest => tokens j ++ .comma :: itemTokens rest

/-- The tokens of the members of an object, commas between them. -/
def memberTokens : List (String × Json) → List Token
  | [] => []
  | [(k, j)] => .string (escape k.toList) :: .colon :: tokens j
  | (k, j) :: rest => .string (escape k.toList) :: .colon :: tokens j ++ .comma :: memberTokens rest

end

mutual

/-- The text of a value without blanks. -/
def compactChars : Json → List Char
  | .null => "null".toList
  | .bool b => if b then "true".toList else "false".toList
  | .number n => n.chars
  | .string s => quote s.toList
  | .spelled parts => quote parts.flatten
  | .array items => '[' :: compactItems items ++ [']']
  | .object members => '{' :: compactMembers members ++ ['}']

def compactItems : List Json → List Char
  | [] => []
  | [j] => compactChars j
  | j :: rest => compactChars j ++ ',' :: compactItems rest

def compactMembers : List (String × Json) → List Char
  | [] => []
  | [(k, j)] => quote k.toList ++ ':' :: compactChars j
  | (k, j) :: rest => quote k.toList ++ ':' :: compactChars j ++ ',' :: compactMembers rest

end

/-- The pieces of a line break, and of two blanks for each container around. -/
def lineBreak (depth : Nat) : List (List Char) := ['\n'] :: List.replicate depth [' ', ' ']

/-- The pieces of a comma with a line break behind it. -/
def nextLine (depth : Nat) : List (List Char) := [',', '\n'] :: List.replicate depth [' ', ' ']

/-- The character stands for itself between quotes. -/
def isPlain (c : Char) : Bool := escapeChar c = [c]

/-- The pieces of a text without its quotes: each escape, and each row of characters between two of them. -/
def fragments (s : List Char) : List (List Char) :=
  (s.splitBy fun a b => isPlain a && isPlain b).map escape

/-- The pieces of a text between quotes that is written part by part. -/
def quotePieces (parts : List (List Char)) : List (List Char) := ['"'] :: parts.flatMap fragments ++ [['"']]

mutual

/-- The text of a value with one item or member to a line, piece by piece; an empty container stays on
its line. -/
def prettyPieces (depth : Nat) : Json → List (List Char)
  | .null => ["null".toList]
  | .bool b => [if b then "true".toList else "false".toList]
  | .number n => [n.chars]
  | .string s => quotePieces [s.toList]
  | .spelled parts => quotePieces parts
  | .array items =>
    if items.isEmpty then [['['], [']']]
    else ['['] :: lineBreak (depth + 1) ++ prettyItems (depth + 1) items ++ lineBreak depth ++ [[']']]
  | .object members =>
    if members.isEmpty then [['{'], ['}']]
    else
      ['{'] :: lineBreak (depth + 1) ++ prettyMembers (depth + 1) members ++ lineBreak depth ++ [['}']]

def prettyItems (depth : Nat) : List Json → List (List Char)
  | [] => []
  | [j] => prettyPieces depth j
  | j :: rest => prettyPieces depth j ++ nextLine depth ++ prettyItems depth rest

def prettyMembers (depth : Nat) : List (String × Json) → List (List Char)
  | [] => []
  | [(k, j)] => quotePieces [k.toList] ++ [':', ' '] :: prettyPieces depth j
  | (k, j) :: rest =>
    quotePieces [k.toList] ++ [':', ' '] :: prettyPieces depth j ++ nextLine depth ++ prettyMembers depth rest

end

def compact (j : Json) : String := String.ofList j.compactChars

def pretty (j : Json) : String := String.ofList (j.prettyPieces 0).flatten

end Json

end TaskTiming
