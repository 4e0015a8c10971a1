import TaskTiming.Json.Reader
import TaskTiming.Time.Text

/-!
# Decoding tokens

A decoder takes the tokens of one value off a row and says what the value is. It works from left to
right, so the first fault in the text is the one that is reported.
-/

namespace TaskTiming.Json
set_option autoImplicit false

/-- A time, which prints itself part by part. -/
def ofTime (t : Time) : Json := .spelled t.parts

/-- Reads a value from the front of a row of tokens. -/
abbrev Decoder (α : Type) := StateT (List Token) (Except Fault) α

namespace Decoder

variable {α β σ : Type}

def fail (fault : Fault) : Decoder α := fun _ => .error fault

def malformed : Decoder α := fail .malformed

/-- Takes the next token. -/
def next : Decoder Token
  | [] => .error .malformed
  | t :: rest => .ok (t, rest)

/-- The next token stays in its place. -/
def peek : Decoder (Option Token) := fun tokens => .ok (tokens.head?, tokens)

/-- Takes a token that must be the one given. -/
def expect (t : Token) : Decoder Unit := do
  if (← next) = t then pure () else malformed

/-- Runs a decoder on a whole row of tokens. -/
def all (d : Decoder α) (tokens : List Token) : Except Fault α :=
  match d tokens with
  | .ok (a, []) => .ok a
  | .ok _ => .error .malformed
  | .error fault => .error fault

/-- Runs a decoder on a whole text. -/
def text (d : Decoder α) (s : String) : Except Fault α := d.all (Token.scan s.toList)

/-- Takes a value of any kind, as a whole. -/
def value (rules : Rules) : Decoder Json := fun tokens => rules.read (.value []) tokens

/-- Takes a value of any kind and forgets it. -/
def skip : Decoder Unit := do
  let _ ← value .lax

def bool : Decoder Bool := do
  match ← next with
  | .bool b => pure b
  | _ => malformed

def string : Decoder String := do
  match ← next with
  | .string row =>
    match unescape row with
    | some s => pure (String.ofList s)
    | none => malformed
  | _ => malformed

/-- A natural number below a bound. -/
def natBelow (bound : Nat) : Decoder Nat := do
  match ← next with
  | .number n =>
    match n.toNat? with
    | some k => if k < bound then pure k else malformed
    | none => malformed
  | _ => malformed

def uint64 : Decoder UInt64 := do
  return UInt64.ofNat (← natBelow UInt64.size)

def int32 : Decoder Int32 := do
  match ← next with
  | .number n =>
    match n.toInt? with
    | some k => if -2147483648 ≤ k ∧ k ≤ 2147483647 then pure (Int32.ofInt k) else malformed
    | none => malformed
  | _ => malformed

/-- A time, written as a string. -/
def time : Decoder Time := do
  match Time.ofText? (← string) with
  | .ok t => pure t
  | .error e => fail (.time e)

/-- `null`, or a value. -/
def nullable (d : Decoder α) : Decoder (Option α) := do
  match ← peek with
  | some .null => do
    let _ ← next
    pure none
  | _ => some <$> d

/-- One of two words, written as a string or as the only key of an object that holds `null`. Where
the value was read as a whole before (`whole`), an empty object may stand for the `null`. -/
def oneOf (whole : Bool) (first second : String × α) : Decoder α := do
  let pick (word : String) : Decoder α :=
    if word = first.1 then pure first.2
    else if word = second.1 then pure second.2
    else fail (.unknownVariant word first.1 second.1)
  match ← peek with
  | some .openObject =>
    if whole then
      match ← value .lax with
      | .object [(word, content)] =>
        let a ← pick word
        match content with
        | .null => pure a
        | .object [] => pure a
        | _ => malformed
      | _ => malformed
    else
      let _ ← next
      let a ← pick (← string)
      expect .colon
      expect .null
      expect .closeObject
      pure a
  | _ => pick (← string)

/-- The members of an object after its first brace and at a key, each handled by `step`, which takes
the value. -/
def membersFrom (step : σ → List Char → Decoder σ) : Nat → σ → Decoder σ
  | 0, _ => malformed
  | fuel + 1, s => do
    match ← next with
    | .string key =>
      expect .colon
      let s ← step s key
      match ← next with
      | .comma => membersFrom step fuel s
      | .closeObject => pure s
      | _ => malformed
    | _ => malformed

/-- An object, its members handled in their order. -/
def members (step : σ → List Char → Decoder σ) (s : σ) : Decoder σ := fun tokens =>
  (do
    expect .openObject
    match ← peek with
    | some .closeObject => do
      let _ ← next
      pure s
    | _ => membersFrom step tokens.length s : Decoder σ) tokens

/-- The items of an array after its first bracket. -/
def itemsFrom (d : Decoder α) : Nat → Decoder (List α)
  | 0 => malformed
  | fuel + 1 => do
    let a ← d
    match ← next with
    | .comma => return a :: (← itemsFrom d fuel)
    | .closeArray => return [a]
    | _ => malformed

def array (d : Decoder α) : Decoder (List α) := fun tokens =>
  (do
    expect .openArray
    match ← peek with
    | some .closeArray => do
      let _ ← next
      pure []
    | _ => itemsFrom d tokens.length : Decoder (List α)) tokens

end Decoder

end TaskTiming.Json
