import TaskTiming.Disk

/-!
# Where paths lead

A path says by its names alone which place it leads to: from the working directory or the root on, name by
name, and one name back for two points. A disk finds what a path names at that place and nowhere else
(`locate_entry`), so two paths that come to the same without a disk name the same file on every disk
(`place_eq_of_resolve`). Paths without two points that come to the same are made of the same parts, but for
the point at the front of a relative one (`parts_eq_of_resolve`).
-/

namespace TaskTiming
set_option autoImplicit false

namespace Path

/-! ## Places -/

/-- Where a part leads from a place. -/
def move (place : Place) : Part → Place
  | .root => []
  | .here => place
  | .up => place.dropLast
  | .name s => place ++ [s]

/-- Where a path leads, seen from a working directory. -/
def place (here : Place) (p : Path) : Place := p.parts.foldl move here

/-- The part at the front that is not one of the names. -/
def front (p : Path) : List Part :=
  if p.isAbsolute then [.root] else if p.pieces.head? = some "." then [.here] else []

/-- The parts behind it. -/
def behind (p : Path) : List Part := p.pieces.filterMap part?

theorem parts_eq (p : Path) : p.parts = p.front ++ p.behind := rfl

/-- Where a piece leads from a place. -/
def movePiece (place : Place) (piece : String) : Place :=
  if piece = "." then place else if piece = ".." then place.dropLast else place ++ [piece]

theorem foldl_part? (pieces : List String) (place : Place) :
    (pieces.filterMap part?).foldl move place = (pieces.filter (· ≠ "")).foldl movePiece place := by
  induction pieces generalizing place with
  | nil => rfl
  | cons piece rest ih =>
    by_cases empty : piece = ""
    · subst empty
      exact ih place
    have kept : (piece :: rest).filter (· ≠ "") = piece :: rest.filter (· ≠ "") := by
      rw [List.filter_cons, if_pos (by simpa using empty)]
    rw [kept, List.foldl_cons, movePiece, List.filterMap_cons, part?]
    by_cases here : piece = "."
    · rw [if_pos (.inr here), if_pos here]
      exact ih place
    rw [if_neg (not_or.2 ⟨empty, here⟩), if_neg here]
    by_cases up : piece = ".."
    · rw [if_pos up, if_pos up]
      exact ih place.dropLast
    · rw [if_neg up, if_neg up]
      exact ih (place ++ [piece])

/-- The front decides where the names start. -/
theorem foldl_front (p : Path) (here : Place) :
    p.front.foldl move here = if p.isAbsolute then [] else here := by
  rw [front]
  split
  · rfl
  · split <;> rfl

theorem place_eq (p : Path) (here : Place) : p.place here =
    (p.pieces.filter (· ≠ "")).foldl movePiece (if p.isAbsolute then [] else here) := by
  rw [place, parts_eq, List.foldl_append, foldl_front, behind, foldl_part?]

end Path

namespace Disk

variable {d : Disk}

/-- Names that can be followed lead where they say. -/
theorem follow_eq {place around : Place} {names : List String}
    (followed : d.follow place names = .ok around) : around = names.foldl Path.movePiece place := by
  induction names generalizing place with
  | nil =>
    cases followed
    rfl
  | cons piece rest ih =>
    rw [follow] at followed
    rw [List.foldl_cons, Path.movePiece]
    by_cases here : piece = "."
    · rw [if_pos here] at followed ⊢
      exact ih followed
    rw [if_neg here] at followed ⊢
    by_cases up : piece = ".."
    · rw [if_pos up] at followed ⊢
      exact ih followed
    rw [if_neg up] at followed ⊢
    split at followed
    · cases followed
    split at followed
    · exact ih followed
    · cases followed
    · cases followed

/-- An entry is the last name of a path, in the directory that the others lead to. -/
theorem exists_of_locate {p : Path} {place : Place} {slash : Bool}
    (located : d.locate p = .ok (.entry place slash)) : ∃ around last,
      (p.pieces.filter (· ≠ "")).getLast? = some last ∧
      d.follow (if p.isAbsolute then [] else d.here) (p.pieces.filter (· ≠ "")).dropLast = .ok around ∧
      last ≠ "." ∧ last ≠ ".." ∧ place = around ++ [last] := by
  unfold locate at located
  dsimp only at located
  split at located
  · cases located
  split at located
  · cases located
  split at located
  · cases located
  split at located
  · cases located
  rename_i last named
  cases followed : d.follow (if p.isAbsolute then [] else d.here) (p.pieces.filter (· ≠ "")).dropLast with
  | error cause =>
    rw [followed] at located
    cases located
  | ok around =>
    rw [followed] at located
    refine ⟨around, last, named, rfl, ?_⟩
    change (if last = "." then Except.ok (Target.directory around) else
      if last = ".." then .ok (.directory around.dropLast) else
      if maxName < last.utf8ByteSize then .error IoError.nameTooLong else
        .ok (.entry (around ++ [last]) _)) = _ at located
    split at located
    · cases located
    rename_i here
    split at located
    · cases located
    rename_i up
    split at located
    · cases located
    · cases located
      exact ⟨here, up, rfl⟩

/-- **What a path names lies where the path leads.** -/
theorem locate_entry {p : Path} {place : Place} {slash : Bool}
    (located : d.locate p = .ok (.entry place slash)) : place = p.place d.here := by
  obtain ⟨around, last, named, followed, here, up, rfl⟩ := exists_of_locate located
  rw [Path.place_eq]
  generalize p.pieces.filter (· ≠ "") = names at named followed ⊢
  obtain ⟨others, rfl⟩ := List.getLast?_eq_some_iff.1 named
  rw [List.dropLast_concat] at followed
  rw [follow_eq followed, List.foldl_append, List.foldl_cons, List.foldl_nil, Path.movePiece, if_neg here,
    if_neg up]

end Disk

namespace Path

/-! ## Resolving -/

/-- What a path comes to without a disk: where it starts, how many directories it goes back from there,
and the names that follow. -/
structure Resolved where
  absolute : Bool
  ups : Nat
  names : List String
deriving DecidableEq

namespace Resolved

/-- A path goes back one name, or, if there is none, one directory. The root lies in itself. -/
def move (r : Resolved) : Part → Resolved
  | .root => { absolute := true, ups := 0, names := [] }
  | .here => r
  | .up =>
    if r.names ≠ [] then { r with names := r.names.dropLast }
    else if r.absolute then r
    else { r with ups := r.ups + 1 }
  | .name s => { r with names := r.names ++ [s] }

/-- The place that is meant, seen from a working directory. -/
def place (here : Place) (r : Resolved) : Place :=
  (if r.absolute then [] else here.take (here.length - r.ups)) ++ r.names

theorem place_move (here : Place) (r : Resolved) (part : Part) :
    (r.move part).place here = Path.move (r.place here) part := by
  cases part with
  | root => rfl
  | here => rfl
  | name s => exact (List.append_assoc _ _ _).symm
  | up =>
    rw [move, Path.move, place, place]
    by_cases some : r.names = []
    · rw [if_neg (not_not_intro some), some, List.append_nil]
      cases absolute : r.absolute with
      | true =>
        rw [if_pos rfl, if_pos rfl, some, absolute]
        rfl
      | false =>
        show here.take (here.length - (r.ups + 1)) ++ [] = (here.take (here.length - r.ups)).dropLast
        rw [List.append_nil, List.dropLast_eq_take, List.take_take, List.length_take]
        congr 1
        omega
    · rw [if_pos some]
      exact (List.dropLast_append_of_ne_nil some).symm

end Resolved

/-- The points of a path resolved. -/
def resolve (p : Path) : Resolved := p.parts.foldl Resolved.move { absolute := false, ups := 0, names := [] }

theorem place_resolve (p : Path) (here : Place) : p.resolve.place here = p.place here := by
  have along (parts : List Part) (r : Resolved) :
      (parts.foldl Resolved.move r).place here = parts.foldl move (r.place here) := by
    induction parts generalizing r with
    | nil => rfl
    | cons part rest ih => rw [List.foldl_cons, List.foldl_cons, ih, r.place_move]
  rw [resolve, along, Path.place]
  congr 1
  show here.take (here.length - 0) ++ [] = here
  rw [Nat.sub_zero, List.take_length, List.append_nil]

variable {p q : Path}

/-- **Paths that come to the same name the same place**, wherever they are seen from. -/
theorem place_eq_of_resolve (same : p.resolve = q.resolve) (here : Place) : p.place here = q.place here := by
  rw [← place_resolve, ← place_resolve, same]

/-! ## Paths without two points -/

/-- Behind the front there are names and two points alone. -/
theorem exists_names (plain : .up ∉ p.parts) : ∃ names : List String, p.behind = names.map .name := by
  have each : ∀ part ∈ p.behind, ∃ s, part = .name s := by
    intro part mem
    obtain ⟨piece, -, here⟩ := List.mem_filterMap.1 mem
    unfold part? at here
    split at here
    · cases here
    split at here
    · cases here
      exact absurd (List.mem_append_right _ mem) plain
    · cases here
      exact ⟨piece, rfl⟩
  generalize p.behind = parts at each ⊢
  induction parts with
  | nil => exact ⟨[], rfl⟩
  | cons part rest ih =>
    obtain ⟨s, rfl⟩ := each part List.mem_cons_self
    obtain ⟨names, rfl⟩ := ih fun part mem => each part (List.mem_cons_of_mem _ mem)
    exact ⟨s :: names, rfl⟩

theorem foldl_names (names : List String) (r : Resolved) :
    (names.map Part.name).foldl Resolved.move r = { r with names := r.names ++ names } := by
  induction names generalizing r with
  | nil =>
    rw [List.append_nil]
    rfl
  | cons s rest ih =>
    rw [List.map_cons, List.foldl_cons, ih]
    simp only [Resolved.move, List.append_assoc, List.singleton_append]

/-- Then the path comes to what it says. -/
theorem resolve_of_names {names : List String} (here : p.behind = names.map .name) :
    p.resolve = { absolute := p.isAbsolute, ups := 0, names } := by
  have start : p.front.foldl Resolved.move { absolute := false, ups := 0, names := [] } =
      { absolute := p.isAbsolute, ups := 0, names := [] } := by
    rw [front]
    cases p.isAbsolute with
    | true => rfl
    | false =>
      rw [if_neg Bool.false_ne_true]
      split <;> rfl
  rw [resolve, parts_eq, List.foldl_append, start, here, foldl_names, List.nil_append]

/-- **Paths that come to the same without two points differ in their fronts alone.** -/
theorem behind_eq_of_resolve (plain : .up ∉ p.parts) (plain' : .up ∉ q.parts)
    (same : p.resolve = q.resolve) : p.isAbsolute = q.isAbsolute ∧ p.behind = q.behind := by
  obtain ⟨names, here⟩ := exists_names plain
  obtain ⟨names', here'⟩ := exists_names plain'
  rw [resolve_of_names here, resolve_of_names here'] at same
  injection same with absolute _ names
  rw [here, here', names]
  exact ⟨absolute, rfl⟩

/-- Seen from one working directory such paths that start alike lead to one place only if they come to the
same. -/
theorem resolve_eq_of_place (plain : .up ∉ p.parts) (plain' : .up ∉ q.parts)
    (start : p.isAbsolute = q.isAbsolute) {here : Place} (same : p.place here = q.place here) :
    p.resolve = q.resolve := by
  obtain ⟨names, behind⟩ := exists_names plain
  obtain ⟨names', behind'⟩ := exists_names plain'
  rw [← place_resolve, ← place_resolve, resolve_of_names behind, resolve_of_names behind', start] at same
  have names : names = names' := List.append_cancel_left same
  rw [resolve_of_names behind, resolve_of_names behind', start, names]

/-! ## Paths below a directory -/

theorem front_of_absolute (absolute : p.isAbsolute = true) : p.front = [.root] := if_pos absolute

theorem front_of_relative (relative : p.isAbsolute = false) : p.front = [.here] ∨ p.front = [] := by
  rw [front, relative, if_neg Bool.false_ne_true]
  split
  · exact .inl rfl
  · exact .inr rfl

theorem piecesFrom_ne_nil (piece l : List Char) : piecesFrom piece l ≠ [] := by
  induction l generalizing piece with
  | nil => exact List.cons_ne_nil _ _
  | cons c rest ih =>
    rw [piecesFrom]
    split
    · exact List.cons_ne_nil _ _
    · exact ih _

theorem piecesFrom_append (piece l rest : List Char) :
    piecesFrom piece (l ++ '/' :: rest) = piecesFrom piece l ++ piecesFrom [] rest := by
  induction l generalizing piece with
  | nil => exact if_pos rfl
  | cons c l ih =>
    rw [List.cons_append, piecesFrom, piecesFrom]
    split
    · rw [ih, List.cons_append]
    · exact ih _

/-- The front shows in what stands before a slash. -/
theorem front_of_text {dir : Path} {l rest : List Char} (below : p.text.toList = l ++ '/' :: rest)
    (here : dir.text.toList = l ∧ l ≠ [] ∨ dir.text.toList = l ++ ['/']) : p.front = dir.front := by
  have pieces (rest : List Char) : (piecesFrom [] (l ++ '/' :: rest)).head? = (piecesFrom [] l).head? := by
    rw [piecesFrom_append]
    rw [List.head?_append]
    cases first : piecesFrom [] l with
    | nil => exact absurd first (piecesFrom_ne_nil _ _)
    | cons => rfl
  rw [front, front, isAbsolute, isAbsolute, Path.pieces, Path.pieces, below, pieces]
  obtain ⟨same, some⟩ | slash := here
  · rw [same]
    cases l with
    | nil => exact absurd rfl some
    | cons c l => rfl
  · rw [slash, pieces]
    cases l <;> rfl

/-- A path below a directory has the front of the directory. -/
theorem front_join {dir : Path} (some : dir.text ≠ "") (relative : p.isAbsolute = false) :
    (dir.join p).front = dir.front := by
  have inside : dir.text.toList ≠ [] := fun none => some (String.toList_eq_nil_iff.1 none)
  rw [join, relative, if_neg Bool.false_ne_true, List.getLast?_eq_some_getLast inside]
  dsimp only
  split
  · rename_i slash
    have whole : dir.text.toList = dir.text.toList.dropLast ++ ['/'] := by
      rw [← slash, List.dropLast_concat_getLast]
    have below : (dir.text ++ p.text).toList = dir.text.toList.dropLast ++ '/' :: p.text.toList := by
      rw [String.toList_append, whole, List.dropLast_concat, List.append_assoc]
      rfl
    exact front_of_text below (.inr whole)
  · have below : (dir.text ++ "/" ++ p.text).toList = dir.text.toList ++ '/' :: p.text.toList := by
      rw [String.toList_append, String.toList_append, List.append_assoc]
      rfl
    exact front_of_text below (.inl ⟨rfl, inside⟩)

/-- An absolute path stays what it is. -/
theorem join_absolute {dir : Path} (absolute : p.isAbsolute = true) : dir.join p = p := if_pos absolute

end Path

end TaskTiming
