import TaskTiming.Json
import TaskTiming.Json.Fault

/-!
# Reading JSON values

Tokens are read into a value with the open containers kept on a stack, one step for each token. A
checked reading bounds the nesting, wants every string to have characters and every number to be in
the range of doubles; a lax reading looks at the shape only, which is enough for what is skipped.
-/

namespace TaskTiming.Json
set_option autoImplicit false

/-- How a value is read. -/
structure Rules where
  /-- Strings must have characters and numbers be in range. -/
  checked : Bool
  /-- How many containers may lie within each other, if that is bounded. -/
  levels : Option Nat

/-- Everything is checked, in at most `levels` containers. -/
def Rules.checkedWithin (levels : Nat) : Rules := { checked := true, levels := some levels }

/-- Only the shape counts. -/
def Rules.lax : Rules := { checked := false, levels := none }

/-- A container that is not closed yet, with what it holds so far, the last item first. -/
inductive Frame
  | array (items : List Json)
  | object (members : List (String × Json)) (key : String)

/-- Where the reading stands between two tokens. -/
inductive Spot
  /-- A value must come. -/
  | value (stack : List Frame)
  /-- An array has just been opened. -/
  | firstItem (stack : List Frame)
  /-- A key must come, or the object that has just been opened ends. -/
  | key (first : Bool) (members : List (String × Json)) (stack : List Frame)
  /-- A key has been read. -/
  | colon (key : String) (members : List (String × Json)) (stack : List Frame)
  /-- A value is complete; without a container around it, so is the reading. -/
  | after (j : Json) (stack : List Frame)

namespace Rules

/-- The characters of a string; of a string without a reading, nothing, unless that is a fault. -/
def text? (rules : Rules) (row : List Char) : Option String :=
  match unescape row with
  | some s => some (String.ofList s)
  | none => if rules.checked then none else some ""

/-- One more container may be opened inside `depth` others. -/
def allows (rules : Rules) (depth : Nat) : Bool :=
  match rules.levels with
  | none => true
  | some levels => decide (depth < levels)

/-- Begins a value with its first token. -/
def begin (rules : Rules) (stack : List Frame) : Token → Except Fault Spot
  | .openArray => if rules.allows stack.length then .ok (.firstItem stack) else .error .malformed
  | .openObject => if rules.allows stack.length then .ok (.key true [] stack) else .error .malformed
  | .null => .ok (.after .null stack)
  | .bool b => .ok (.after (.bool b) stack)
  | .number n =>
    if rules.checked && !n.inRange then .error .malformed else .ok (.after (.number n) stack)
  | .string row =>
    match rules.text? row with
    | some s => .ok (.after (.string s) stack)
    | none => .error .malformed
  | _ => .error .malformed

/-- What one token does. -/
def step (rules : Rules) : Spot → Token → Except Fault Spot
  | .value stack, t => rules.begin stack t
  | .firstItem stack, .closeArray => .ok (.after (.array []) stack)
  | .firstItem stack, t => rules.begin (.array [] :: stack) t
  | .key true _ stack, .closeObject => .ok (.after (.object []) stack)
  | .key _ members stack, .string row =>
    match rules.text? row with
    | some key => .ok (.colon key members stack)
    | none => .error .malformed
  | .colon key members stack, .colon => .ok (.value (.object members key :: stack))
  | .after j (.array items :: stack), .comma => .ok (.value (.array (j :: items) :: stack))
  | .after j (.array items :: stack), .closeArray => .ok (.after (.array (j :: items).reverse) stack)
  | .after j (.object members key :: stack), .comma => .ok (.key false ((key, j) :: members) stack)
  | .after j (.object members key :: stack), .closeObject =>
    .ok (.after (.object ((key, j) :: members).reverse) stack)
  | _, _ => .error .malformed

/-- Reads to the end of the outermost value. -/
def read (rules : Rules) (spot : Spot) : List Token → Except Fault (Json × List Token)
  | [] => .error .malformed
  | t :: rest =>
    match rules.step spot t with
    | .error fault => .error fault
    | .ok (.after j []) => .ok (j, rest)
    | .ok spot => rules.read spot rest

end Rules

/-- How many containers may lie within each other in a text. -/
def maxLevels : Nat := 127

/-- Reads a text that holds one value and nothing else. -/
def ofChars? (s : List Char) : Except Fault Json :=
  match (Rules.checkedWithin maxLevels).read (.value []) (Token.scan s) with
  | .ok (j, []) => .ok j
  | .ok _ => .error .malformed
  | .error fault => .error fault

def ofText? (s : String) : Except Fault Json := ofChars? s.toList

end TaskTiming.Json
