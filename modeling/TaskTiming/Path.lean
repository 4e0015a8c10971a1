import TaskTiming.Text.Literal

/-!
# Paths

A path is a text whose names are divided by slashes. Two paths are the same when their parts are: empty
names do not count, nor does a single point unless a relative path begins with it, while two points
always do.
-/

namespace TaskTiming
set_option autoImplicit false

structure Path where
  text : String
deriving DecidableEq, Repr

namespace Path

/-- What a path is made of. -/
inductive Part
  /-- The root, at the front. -/
  | root
  /-- The directory itself, at the front. -/
  | here
  /-- The directory around. -/
  | up
  | name (s : String)
deriving DecidableEq, Repr

/-- The pieces between slashes of the rest of a text whose current piece starts with `piece`. -/
def piecesFrom (piece : List Char) : List Char → List String
  | [] => [String.ofList piece]
  | c :: rest =>
    if c = '/' then String.ofList piece :: piecesFrom [] rest else piecesFrom (piece ++ [c]) rest

/-- The pieces between slashes, empty ones included. -/
def pieces (p : Path) : List String := piecesFrom [] p.text.toList

def isAbsolute (p : Path) : Bool := p.text.toList.head? = some '/'

/-- The part that a piece stands for, if it is one behind the front. -/
def part? (piece : String) : Option Part :=
  if piece = "" ∨ piece = "." then none else if piece = ".." then some .up else some (.name piece)

/-- The parts of a path. -/
def parts (p : Path) : List Part :=
  let front := if p.isAbsolute then [.root] else if p.pieces.head? = some "." then [.here] else []
  front ++ p.pieces.filterMap part?

/-- Two paths are the same, part by part. -/
def same (p q : Path) : Bool := p.parts = q.parts

/-- A path below a directory; an absolute one stays what it is. -/
def join (dir p : Path) : Path :=
  if p.isAbsolute then p
  else
    match dir.text.toList.getLast? with
    | none => p
    | some c => if c = '/' then ⟨dir.text ++ p.text⟩ else ⟨dir.text ++ "/" ++ p.text⟩

def Part.text : Part → String
  | .root => ""
  | .here => "."
  | .up => ".."
  | .name s => s

/-- The path of some parts. -/
def ofParts (parts : List Part) : Path :=
  if parts = [.root] then ⟨"/"⟩ else ⟨"/".intercalate (parts.map Part.text)⟩

/-- A path, the one around it, and so on to the outermost. -/
def ancestors (p : Path) : List Path :=
  let parts := p.parts
  let inner := (List.range (parts.length + 1)).reverse.map fun n => ofParts (parts.take n)
  if p.isAbsolute then inner.dropLast else inner

/-- The path as a literal. -/
def literal (p : Path) : String := Text.literal p.text

/-- A NUL character, which no system call takes. -/
def hasNul (p : Path) : Bool := p.text.toList.contains '\x00'

end Path

end TaskTiming
