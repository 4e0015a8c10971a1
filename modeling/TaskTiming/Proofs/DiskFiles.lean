import TaskTiming.Disk

/-!
# Files on a disk

A file that a path leads to stays where it is when files are made or written, because following a path
only asks which places are directories (`locate_of_directories`). What was written is therefore what is
read back through the same path (`read_write`, `read_createWith`).
-/

namespace TaskTiming.Disk
set_option autoImplicit false

variable {d d' : Disk} {p : Path}

/-- The directories of one disk are also directories of another, seen from the same working directory. -/
structure DirectoriesIn (d d' : Disk) : Prop where
  here : d'.here = d.here
  directory : ∀ place, d.node? place = some .directory → d'.node? place = some .directory

/-- A path that can be followed leads through directories alone. -/
theorem DirectoriesIn.follow (keeps : d.DirectoriesIn d') {place around : Place} {names : List String}
    (followed : d.follow place names = .ok around) : d'.follow place names = .ok around := by
  induction names generalizing place with
  | nil => exact followed
  | cons piece rest ih =>
    rw [Disk.follow] at followed ⊢
    by_cases here : piece = "."
    · rw [if_pos here] at followed ⊢
      exact ih followed
    rw [if_neg here] at followed ⊢
    by_cases up : piece = ".."
    · rw [if_pos up] at followed ⊢
      exact ih followed
    rw [if_neg up] at followed ⊢
    by_cases long : maxName < piece.utf8ByteSize
    · rw [if_pos long] at followed
      cases followed
    rw [if_neg long] at followed ⊢
    split at followed
    · rename_i through
      rw [keeps.directory _ through]
      exact ih followed
    · cases followed
    · cases followed

/-- What a path names is told by the directories on its way. -/
theorem DirectoriesIn.locate (keeps : d.DirectoriesIn d') {target : Target}
    (located : d.locate p = .ok target) : d'.locate p = .ok target := by
  unfold Disk.locate at located ⊢
  rw [keeps.here]
  generalize (if p.isAbsolute = true then [] else d.here) = start at located ⊢
  cases last : (p.pieces.filter (· ≠ "")).getLast? with
  | none =>
    simp only [last] at located ⊢
    exact located
  | some name =>
    simp only [last] at located ⊢
    cases around : d.follow start (p.pieces.filter (· ≠ "")).dropLast with
    | ok place => rw [keeps.follow around]; rw [around] at located; exact located
    | error cause =>
      rw [around] at located
      split at located <;> try cases located
      split at located <;> try cases located
      split at located <;> cases located

/-- A file in the place of no directory changes no way. -/
theorem directoriesIn_put_file {place : Place} (free : d.node? place ≠ some .directory) (bytes : List UInt8)
    (room : Option Nat) : d.DirectoriesIn { d.put place (.file bytes) with room } where
  here := rfl
  directory other through := by
    have apart : other ≠ place := by
      rintro rfl
      exact free through
    exact (d.node?_put_of_ne apart _).trans through

/-- The root is a directory. -/
theorem ne_root {place : Place} (free : d.node? place ≠ some .directory) : place ≠ [] := by
  rintro rfl
  exact free (if_pos rfl)

/-- The node at the end of a path. -/
theorem look_entry {place : Place} {slash : Bool} (located : d.locate p = .ok (.entry place slash)) :
    d.look p = match d.node? place with
      | some .directory => .ok .directory
      | some (.file bytes) => if slash then .error .notDirectory else .ok (.file bytes)
      | none => .error .notFound := by
  rw [Disk.look, located]
  rfl

/-- A file is found where it was put. -/
theorem look_put_file {place : Place} (located : d.locate p = .ok (.entry place false))
    (free : d.node? place ≠ some .directory) (bytes : List UInt8) (room : Option Nat) :
    Disk.look { d.put place (.file bytes) with room } p = .ok (.file bytes) := by
  have stays := (directoriesIn_put_file free bytes room).locate located
  have node : Disk.node? { d.put place (.file bytes) with room } place = some (.file bytes) :=
    d.node?_put_self (ne_root free) _
  rw [look_entry stays, node]
  rfl

/-- A file that can be read lies where its path leads to. -/
theorem entry_of_read {bytes : List UInt8} (h : d.read p = .ok (.ok bytes)) :
    ∃ place, d.locate p = .ok (.entry place false) ∧ d.node? place = some (.file bytes) := by
  cases located : d.locate p with
  | error cause => rw [Disk.read, Disk.look, located] at h; cases h
  | ok target =>
    cases target with
    | directory place => rw [Disk.read, Disk.look, located] at h; cases h
    | entry place slash =>
      rw [Disk.read, look_entry located] at h
      cases node : d.node? place with
      | none => rw [node] at h; cases h
      | some found =>
        rw [node] at h
        cases found with
        | directory => cases h
        | file found =>
          cases slash with
          | true => cases h
          | false => cases h; exact ⟨place, rfl, node⟩

theorem read_of_look {bytes : List UInt8} (h : d.look p = .ok (.file bytes)) :
    d.read p = .ok (.ok bytes) := by
  rw [Disk.read, h]
  rfl

/-- What fits the room is written as a whole. -/
theorem write_entry {place : Place} {slash : Bool} (located : d.locate p = .ok (.entry place slash))
    {old : List UInt8} (node : d.node? place = some (.file old)) {offset : Nat} {bytes : List UInt8}
    (written : (d.write p offset bytes).1 = .ok ()) :
    ∃ room, (d.write p offset bytes).2 = { d.put place (.file (overlay old offset bytes)) with room } := by
  unfold Disk.write at written ⊢
  simp only [located, node] at written ⊢
  cases room : d.roomAt place with
  | none => exact ⟨_, rfl⟩
  | some n =>
    simp only [room] at written ⊢
    split at written
    · rename_i whole
      have all : bytes.take n = bytes := by
        rw [List.length_take] at whole
        exact List.take_of_length_le (by omega)
      rw [all]
      exact ⟨_, rfl⟩
    · cases written

/-- **Written bytes are read back**, over the old ones from the offset on. -/
theorem read_write {old : List UInt8} (before : d.read p = .ok (.ok old)) {offset : Nat} {bytes : List UInt8}
    (written : (d.write p offset bytes).1 = .ok ()) :
    (d.write p offset bytes).2.read p = .ok (.ok (overlay old offset bytes)) := by
  obtain ⟨place, located, node⟩ := entry_of_read before
  obtain ⟨room, after⟩ := write_entry located node written
  have free : d.node? place ≠ some .directory := by
    rw [node]
    intro same
    cases same
  rw [after]
  exact read_of_look (look_put_file located free _ _)

/-- A file that was created is empty. -/
theorem read_create (created : (d.create p).1 = .ok ()) : (d.create p).2.read p = .ok (.ok []) := by
  unfold Disk.create at created ⊢
  cases located : d.locate p with
  | error cause => rw [located] at created; cases created
  | ok target =>
    rw [located] at created
    cases target with
    | directory place => cases created
    | entry place slash =>
      cases slash with
      | true => cases created
      | false =>
        simp only [Bool.false_eq_true, if_false] at created ⊢
        split at created
        · cases created
        · rename_i free
          exact read_of_look (look_put_file located free [] d.room)

/-- At the end of a file, nothing is written over. -/
theorem overlay_length (old bytes : List UInt8) : overlay old old.length bytes = old ++ bytes := by
  rw [overlay, List.take_length, Nat.sub_self, List.drop_eq_nil_of_le (Nat.le_add_right _ _),
    List.replicate_zero, List.append_nil, List.append_nil]

/-- A file that was made with its first bytes holds those. -/
theorem read_createWith {bytes : List UInt8} (made : d.createWith p bytes = (.ok (), d')) :
    d'.read p = .ok (.ok bytes) := by
  unfold Disk.createWith at made
  split at made
  · cases made
  · rename_i d₁ created
    have empty : d₁.read p = .ok (.ok []) := by
      have done : (d.create p).1 = .ok () := by rw [created]
      have found := read_create done
      rw [created] at found
      exact found
    split at made
    · rename_i d₂ written
      cases made
      have done : (d₁.write p ([] : List UInt8).length bytes).1 = .ok () := by
        rw [List.length_nil, written]
      have found := read_write empty done
      rw [overlay_length, List.length_nil, written] at found
      exact found
    · cases made

/-- An empty file changes nothing about who has room for how much. -/
theorem room_create (d : Disk) (p : Path) :
    (d.create p).2.room = d.room ∧ (d.create p).2.kept = d.kept ∧ (d.create p).2.here = d.here := by
  unfold Disk.create
  split
  · exact ⟨rfl, rfl, rfl⟩
  · exact ⟨rfl, rfl, rfl⟩
  · split
    · exact ⟨rfl, rfl, rfl⟩
    · split <;> exact ⟨rfl, rfl, rfl⟩

/-- A place has the same room on disks with as much of it and the same files of the system's own. -/
theorem roomAt_congr (room : d'.room = d.room) (kept : d'.kept = d.kept) (place : Place) :
    d'.roomAt place = d.roomAt place := by
  rw [roomAt, roomAt, refusal?, refusal?, room, kept]

/-- Where room is not limited, a file that can be made takes any first bytes. -/
theorem createWith_of_unlimited (created : (d.create p).1 = .ok ()) (unlimited : ∀ place, d.roomAt place = none)
    (bytes : List UInt8) : (d.createWith p bytes).1 = .ok () := by
  obtain ⟨room, kept, -⟩ := d.room_create p
  obtain ⟨place, located, node⟩ := entry_of_read (read_create created)
  have free := (roomAt_congr room kept place).trans (unlimited place)
  have whole : d.create p = (.ok (), (d.create p).2) := Prod.ext created rfl
  have written : ((d.create p).2.write p 0 bytes).1 = .ok () := by
    simp only [Disk.write, located, node, free, if_true]
  rw [Disk.createWith, whole]
  simp only
  rw [← Prod.eta ((d.create p).2.write p 0 bytes), written]

end TaskTiming.Disk
