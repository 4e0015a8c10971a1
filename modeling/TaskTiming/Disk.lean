import TaskTiming.Path
import TaskTiming.Os.IoError

/-!
# Disks

A tree of directories and files, seen from a working directory, with the failures that a system reports
for each access. A path is followed name by name, so every directory on its way must exist. A disk may
have room for a limited number of further bytes only; what is written beyond it is lost, and the writing
fails. Some files are the system's own: they can be opened like others, but have room for no byte, and are
not removed.
-/

namespace TaskTiming
set_option autoImplicit false

/-- What a name in a directory stands for. -/
inductive Node
  | directory
  | file (bytes : List UInt8)
deriving DecidableEq

/-- Where a node lies: the names on the way from the root. -/
abbrev Place := List String

structure Disk where
  /-- The nodes below the root. -/
  nodes : List (Place × Node)
  /-- The working directory. -/
  here : Place
  /-- How many more bytes can be written, if that is limited. -/
  room : Option Nat
  /-- Where the files of the system's own are, and what it says to bytes for them. -/
  kept : List (Place × IoError) := []

namespace Disk

/-- The most bytes in a name. -/
def maxName : Nat := 255

/-- The most bytes in a path. -/
def maxPath : Nat := 4095

def empty : Disk := { nodes := [], here := [], room := none }

/-- The node at a place; the root is a directory. -/
def node? (d : Disk) (place : Place) : Option Node :=
  if place = [] then some .directory else (d.nodes.find? (·.1 = place)).map (·.2)

/-- Takes away what is at a place. -/
def without (d : Disk) (place : Place) : Disk := { d with nodes := d.nodes.filter (·.1 ≠ place) }

/-- Puts a node at a place. -/
def put (d : Disk) (place : Place) (node : Node) : Disk :=
  { d with nodes := (d.without place).nodes ++ [(place, node)] }

theorem find?_without_self (d : Disk) (place : Place) : (d.without place).nodes.find? (·.1 = place) = none := by
  rw [List.find?_eq_none]
  intro entry mem
  simpa using (List.mem_filter.1 mem).2

theorem find?_without_of_ne (d : Disk) {place other : Place} (h : other ≠ place) :
    (d.without place).nodes.find? (·.1 = other) = d.nodes.find? (·.1 = other) := by
  rw [without, List.find?_filter]
  congr 1
  funext entry
  by_cases e : entry.1 = other <;> simp [e, h]

/-- What was taken away is not there. -/
theorem node?_without_self (d : Disk) {place : Place} (h : place ≠ []) : (d.without place).node? place = none := by
  rw [node?, if_neg h, find?_without_self]
  rfl

/-- All other places stay as they were. -/
theorem node?_without_of_ne (d : Disk) {place other : Place} (h : other ≠ place) :
    (d.without place).node? other = d.node? other := by
  rw [node?, d.find?_without_of_ne h, ← node?]

/-- What was put is there. -/
theorem node?_put_self (d : Disk) {place : Place} (h : place ≠ []) (node : Node) :
    (d.put place node).node? place = some node := by
  simp only [node?, put, if_neg h, List.find?_append, find?_without_self]
  simp

/-- All other places stay as they were. -/
theorem node?_put_of_ne (d : Disk) {place other : Place} (h : other ≠ place) (node : Node) :
    (d.put place node).node? other = d.node? other := by
  simp only [node?, put, List.find?_append, d.find?_without_of_ne h]
  have miss : ¬place = other := fun e => h e.symm
  simp [miss]

/-- What the system says to bytes for a file of its own. -/
def refusal? (d : Disk) (place : Place) : Option IoError := (d.kept.find? (·.1 = place)).map (·.2)

/-- How many more bytes a place takes, if that is limited. -/
def roomAt (d : Disk) (place : Place) : Option Nat :=
  if (d.refusal? place).isSome then some 0 else d.room

/-- What is said to bytes that a place has no room for. -/
def refusalAt (d : Disk) (place : Place) : IoError := (d.refusal? place).getD .noSpace

/-- Follows the pieces of a path, each of which must be a directory. -/
def follow (d : Disk) (place : Place) : List String → Except IoError Place
  | [] => .ok place
  | piece :: rest =>
    if piece = "." then d.follow place rest
    else if piece = ".." then d.follow place.dropLast rest
    else if maxName < piece.utf8ByteSize then .error .nameTooLong
    else
      match d.node? (place ++ [piece]) with
      | some .directory => d.follow (place ++ [piece]) rest
      | some (.file _) => .error .notDirectory
      | none => .error .notFound

/-- What the end of a path names. -/
inductive Target
  /-- A directory that is there, and can only be one. -/
  | directory (place : Place)
  /-- A name in a directory that is there; behind a slash at the end only a directory can be. -/
  | entry (place : Place) (slash : Bool)

/-- Finds what a path names. -/
def locate (d : Disk) (p : Path) : Except IoError Target := do
  if p.hasNul then throw .nulInPath
  if p.text = "" then throw .notFound
  if maxPath < p.text.utf8ByteSize then throw .nameTooLong
  let names := p.pieces.filter (· ≠ "")
  let start := if p.isAbsolute then [] else d.here
  match names.getLast? with
  | none => return .directory []
  | some last =>
    let around ← d.follow start names.dropLast
    if last = "." then return .directory around
    if last = ".." then return .directory around.dropLast
    if maxName < last.utf8ByteSize then throw .nameTooLong
    return .entry (around ++ [last]) (p.text.toList.getLast? = some '/')

/-- The node that a path names. -/
def look (d : Disk) (p : Path) : Except IoError Node := do
  match ← d.locate p with
  | .directory _ => return .directory
  | .entry place slash =>
    match d.node? place with
    | some .directory => return .directory
    | some (.file bytes) => if slash then throw .notDirectory else return .file bytes
    | none => throw .notFound

def holds (d : Disk) (p : Path) : Bool := (d.look p).toBool

def isDirectory (d : Disk) (p : Path) : Bool := d.look p matches .ok .directory

/-- Opens a file for reading. A directory can be opened, but not read. -/
def read (d : Disk) (p : Path) : Except IoError (Except IoError (List UInt8)) :=
  (d.look p).map fun
    | .directory => .error .isDirectory
    | .file bytes => .ok bytes

/-- Makes an empty file, or empties the one that is there. -/
def create (d : Disk) (p : Path) : Except IoError Unit × Disk :=
  match d.locate p with
  | .error cause => (.error cause, d)
  | .ok (.directory _) => (.error .isDirectory, d)
  | .ok (.entry place slash) =>
    if slash then (.error .isDirectory, d)
    else
      match d.node? place with
      | some .directory => (.error .isDirectory, d)
      | _ => (.ok (), d.put place (.file []))

/-- Bytes with others written over them from an offset on; a gap is filled with zeros. -/
def overlay (old : List UInt8) (offset : Nat) (new : List UInt8) : List UInt8 :=
  old.take offset ++ List.replicate (offset - old.length) 0 ++ new ++ old.drop (offset + new.length)

/-- Writes into a file from an offset on, as far as there is room. -/
def write (d : Disk) (p : Path) (offset : Nat) (bytes : List UInt8) : Except IoError Unit × Disk :=
  match d.locate p with
  | .error cause => (.error cause, d)
  | .ok (.directory _) => (.error .isDirectory, d)
  | .ok (.entry place _) =>
    match d.node? place with
    | some (.file old) =>
      let fitting := match d.roomAt place with
        | none => bytes
        | some room => bytes.take room
      let after := d.put place (.file (overlay old offset fitting))
      (if fitting.length = bytes.length then .ok () else .error (d.refusalAt place),
        { after with room := d.room.map (· - fitting.length) })
    | some .directory => (.error .isDirectory, d)
    | none => (.error .notFound, d)

/-- Removes a file. -/
def remove (d : Disk) (p : Path) : Except IoError Unit × Disk :=
  match d.locate p with
  | .error cause => (.error cause, d)
  | .ok (.directory _) => (.error .isDirectory, d)
  | .ok (.entry place slash) =>
    match d.node? place with
    | some (.file _) =>
      if slash then (.error .notDirectory, d)
      else if (d.refusal? place).isSome then (.error .notPermitted, d)
      else (.ok (), d.without place)
    | some .directory => (.error .isDirectory, d)
    | none => (.error .notFound, d)

/-- Makes a file that starts with the given bytes, or takes it back if it can be removed. -/
def createWith (d : Disk) (p : Path) (bytes : List UInt8) : Except IoError Unit × Disk :=
  match d.create p with
  | (.error cause, d) => (.error cause, d)
  | (.ok (), d) =>
    match d.write p 0 bytes with
    | (.ok (), d) => (.ok (), d)
    | (.error cause, d) => (.error cause, (d.remove p).2)

/-- Why a file that was refused its first bytes stays, if it does. -/
def leftover? (d : Disk) (p : Path) (bytes : List UInt8) : Option IoError :=
  match d.create p with
  | (.error _, _) => none
  | (.ok (), d) =>
    match d.write p 0 bytes with
    | (.ok (), _) => none
    | (.error _, d) =>
      match (d.remove p).1 with
      | .ok () => none
      | .error cause => some cause

/-- Makes one directory in another one that is there. -/
def createDirectory (d : Disk) (p : Path) : Except IoError Unit × Disk :=
  match d.locate p with
  | .error cause => (.error cause, d)
  | .ok (.directory _) => (.error .alreadyExists, d)
  | .ok (.entry place _) =>
    match d.node? place with
    | some _ => (.error .alreadyExists, d)
    | none => (.ok (), d.put place .directory)

/-- Makes the first of some directories, each of which lies in the next. -/
def createInnermost (d : Disk) : List Path → Except IoError Unit × Disk
  | [] => (.error (.other "failed to create whole tree"), d)
  | p :: around =>
    if p.text = "" then (.ok (), d)
    else
      match d.createDirectory p with
      | (.ok (), d) => (.ok (), d)
      | (.error cause, d) =>
        if cause = .notFound then
          match d.createInnermost around with
          | (.error cause, d) => (.error cause, d)
          | (.ok (), d) =>
            match d.createDirectory p with
            | (.ok (), d) => (.ok (), d)
            | (.error cause, d) => (if d.isDirectory p then .ok () else .error cause, d)
        else (if d.isDirectory p then .ok () else .error cause, d)

/-- Makes a directory and all those around it that are missing. -/
def createDirectories (d : Disk) (p : Path) : Except IoError Unit × Disk :=
  match p.ancestors with
  | [] => d.createInnermost []
  | _ :: around => d.createInnermost (p :: around)

/-- The files below the working directory by their paths from there, in order. -/
def files (d : Disk) : List String :=
  let found := d.nodes.filterMap fun (place, node) =>
    match node with
    | .file _ => if d.here.isPrefixOf place then some (place.drop d.here.length) else none
    | .directory => none
  (found.map "/".intercalate).mergeSort fun a b => !(b < a)

end Disk

end TaskTiming
