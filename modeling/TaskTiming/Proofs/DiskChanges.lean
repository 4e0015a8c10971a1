import TaskTiming.Proofs.DiskFiles
import TaskTiming.Proofs.Paths

/-!
# What changes on a disk

Making a file, writing into it and removing it change the disk in the place of that file alone
(`ChangesAt`), and making directories changes no file at all. So whoever reads through a path that leads to
another place reads what he read before (`ChangesAt.read`).
-/

namespace TaskTiming.Disk
set_option autoImplicit false

variable {d d' d'' : Disk} {p : Path} {place : Place}

/-- The bytes of the file in a place, if there is one. -/
def file? (d : Disk) (place : Place) : Option (List UInt8) :=
  match d.node? place with
  | some (.file bytes) => some bytes
  | _ => none

theorem DirectoriesIn.refl (d : Disk) : d.DirectoriesIn d := ⟨rfl, fun _ => id⟩

theorem DirectoriesIn.trans (first : d.DirectoriesIn d') (second : d'.DirectoriesIn d'') :
    d.DirectoriesIn d'' where
  here := second.here.trans first.here
  directory other through := second.directory other (first.directory other through)

/-- One disk is another but for one place, which is no directory of the first. -/
structure ChangesAt (d d' : Disk) (place : Place) : Prop where
  keeps : d.DirectoriesIn d'
  others : ∀ other, other ≠ place → d'.node? other = d.node? other

namespace ChangesAt

theorem refl (d : Disk) (place : Place) : d.ChangesAt d place := ⟨.refl d, fun _ _ => rfl⟩

theorem trans (first : d.ChangesAt d' place) (second : d'.ChangesAt d'' place) : d.ChangesAt d'' place where
  keeps := first.keeps.trans second.keeps
  others other apart := (second.others other apart).trans (first.others other apart)

theorem file? {other : Place} (changes : d.ChangesAt d' place) (apart : other ≠ place) :
    d'.file? other = d.file? other := by
  rw [Disk.file?, changes.others other apart, ← Disk.file?]

/-- What can be read elsewhere is what could be read there before. -/
theorem read {bytes : List UInt8} (changes : d.ChangesAt d' place) (apart : p.place d.here ≠ place)
    (before : d.read p = .ok (.ok bytes)) : d'.read p = .ok (.ok bytes) := by
  obtain ⟨there, located, node⟩ := entry_of_read before
  have same := locate_entry located
  subst same
  have node' := (changes.others _ apart).trans node
  refine read_of_look ?_
  rw [look_entry (changes.keeps.locate located), node']
  rfl

/-- A file that is put where there is no directory. -/
theorem of_put_file (free : d.node? place ≠ some .directory) (bytes : List UInt8) (room : Option Nat) :
    d.ChangesAt { d.put place (.file bytes) with room } place where
  keeps := directoriesIn_put_file free bytes room
  others _ apart := d.node?_put_of_ne apart _

end ChangesAt

/-! ## Files -/

theorem changesAt_create (d : Disk) (p : Path) : d.ChangesAt (d.create p).2 (p.place d.here) := by
  unfold create
  split
  · exact .refl _ _
  · exact .refl _ _
  · rename_i place slash located
    have there := locate_entry located
    subst there
    split
    · exact .refl _ _
    · split
      · exact .refl _ _
      · rename_i free
        exact .of_put_file free [] d.room

theorem changesAt_write (d : Disk) (p : Path) (offset : Nat) (bytes : List UInt8) :
    d.ChangesAt (d.write p offset bytes).2 (p.place d.here) := by
  unfold write
  split
  · exact .refl _ _
  · exact .refl _ _
  · rename_i place slash located
    have there := locate_entry located
    subst there
    split
    · rename_i old node
      refine .of_put_file ?_ _ _
      rw [node]
      exact nofun
    · exact .refl _ _
    · exact .refl _ _

/-- A file is removed from its place. -/
theorem changesAt_remove (d : Disk) (p : Path) : d.ChangesAt (d.remove p).2 (p.place d.here) := by
  unfold remove
  split
  · exact .refl _ _
  · exact .refl _ _
  · rename_i place slash located
    have there := locate_entry located
    subst there
    split
    · rename_i bytes file
      split
      · exact .refl _ _
      split
      · exact .refl _ _
      refine ⟨⟨rfl, fun other through => ?_⟩, fun other apart => d.node?_without_of_ne apart⟩
      have apart : other ≠ p.place d.here := by
        rintro rfl
        cases file.symm.trans through
      exact (d.node?_without_of_ne apart).trans through
    · exact .refl _ _
    · exact .refl _ _

/-- What is removed is no longer there. -/
theorem node?_remove {slash : Bool} (located : d.locate p = .ok (.entry place slash))
    (removed : (d.remove p).1 = .ok ()) : (d.remove p).2.node? place = none := by
  unfold remove at removed ⊢
  simp only [located] at removed ⊢
  split at removed
  · rename_i bytes file
    have inside : place ≠ [] := ne_root (by rw [file]; exact nofun)
    split at removed
    · cases removed
    rename_i plain
    split at removed
    · cases removed
    rename_i free
    rw [if_neg plain, if_neg free]
    exact d.node?_without_self inside
  · cases removed
  · cases removed

/-- A file that cannot be had leaves the disk as it is. -/
theorem create_of_refused {cause : IoError} (refused : (d.create p).1 = .error cause) : (d.create p).2 = d := by
  unfold create at refused ⊢
  split
  · rfl
  · rfl
  · rename_i located
    simp only [located] at refused
    split
    · rfl
    · rename_i plain
      rw [if_neg plain] at refused
      split
      · rfl
      · rename_i free
        split at refused
        · rename_i directory
          exact (free directory).elim
        · cases refused

/-- A file that is written into is a file. -/
theorem node?_write {slash : Bool} (located : d.locate p = .ok (.entry place slash)) {old : List UInt8}
    (node : d.node? place = some (.file old)) (offset : Nat) (bytes : List UInt8) :
    ∃ new, (d.write p offset bytes).2.node? place = some (.file new) := by
  have inside : place ≠ [] := ne_root (by rw [node]; exact nofun)
  simp only [write, located, node]
  exact ⟨_, d.node?_put_self inside _⟩

/-- Making a file with its first bytes is one of three: there is none to be had, its bytes are refused and
it is taken back unless it is left over, or it is made. -/
theorem createWith_cases (d : Disk) (p : Path) (bytes : List UInt8) :
    (∃ cause, (d.create p).1 = .error cause ∧ d.createWith p bytes = (.error cause, d)) ∨
    (∃ cause d', (d.create p).1 = .ok () ∧ d.createWith p bytes = (.error cause, d') ∧
      (d.leftover? p bytes = none → d'.file? (p.place d.here) = none) ∧ d.ChangesAt d' (p.place d.here)) ∨
    ∃ d', d.createWith p bytes = (.ok (), d') ∧ d.ChangesAt d' (p.place d.here) := by
  have first := d.changesAt_create p
  have created : d.create p = ((d.create p).1, (d.create p).2) := rfl
  cases outcome : (d.create p).1 with
  | error cause =>
    refine .inl ⟨cause, rfl, ?_⟩
    rw [outcome, create_of_refused outcome] at created
    rw [createWith, created]
  | ok done =>
    obtain ⟨there, located, node⟩ := entry_of_read (read_create outcome)
    generalize (d.create p).2 = d₁ at first created located node
    rw [outcome] at created
    have here : p.place d₁.here = p.place d.here := by rw [first.keeps.here]
    have second := d₁.changesAt_write p 0 bytes
    rw [here] at second
    cases saved : d₁.write p 0 bytes with
    | mk answer d₂ =>
      rw [saved] at second
      cases answer with
      | ok done =>
        refine .inr (.inr ⟨d₂, ?_, first.trans second⟩)
        rw [createWith, created]
        simp only [saved]
      | error cause =>
        have still := second.keeps.locate located
        have same := (locate_entry located).trans here
        have third := d₂.changesAt_remove p
        rw [second.keeps.here, here] at third
        refine .inr (.inl ⟨cause, (d₂.remove p).2, rfl, ?_, fun none_left => ?_, (first.trans second).trans third⟩)
        · rw [createWith, created]
          simp only [saved]
        · rw [leftover?, created] at none_left
          simp only [saved] at none_left
          split at none_left
          · rename_i removed
            rw [Disk.file?, ← same, node?_remove still removed]
          · cases none_left

theorem changesAt_createWith (d : Disk) (p : Path) (bytes : List UInt8) :
    d.ChangesAt (d.createWith p bytes).2 (p.place d.here) := by
  rcases d.createWith_cases p bytes with ⟨_, -, made⟩ | ⟨_, _, -, made, -, changes⟩ | ⟨_, made, changes⟩
  · rw [made]
    exact .refl d _
  · rw [made]
    exact changes
  · rw [made]
    exact changes

/-! ## Directories -/

/-- No file of one disk is another one on the other disk, nor is one more there. -/
structure SameFiles (d d' : Disk) : Prop where
  here : d'.here = d.here
  file : ∀ place, d'.file? place = d.file? place

theorem SameFiles.refl (d : Disk) : d.SameFiles d := ⟨rfl, fun _ => rfl⟩

theorem SameFiles.trans (first : d.SameFiles d') (second : d'.SameFiles d'') : d.SameFiles d'' where
  here := second.here.trans first.here
  file place := (second.file place).trans (first.file place)

theorem sameFiles_createDirectory (d : Disk) (p : Path) : d.SameFiles (d.createDirectory p).2 := by
  unfold createDirectory
  split
  · exact .refl d
  · exact .refl d
  · rename_i place slash located
    split
    · exact .refl d
    · rename_i free
      refine ⟨rfl, fun other => ?_⟩
      have inside : place ≠ [] := ne_root (by rw [free]; exact nofun)
      by_cases same : other = place
      · subst same
        rw [Disk.file?, Disk.file?, d.node?_put_self inside, free]
      · rw [Disk.file?, d.node?_put_of_ne same, ← Disk.file?]

theorem sameFiles_createInnermost (d : Disk) (paths : List Path) : d.SameFiles (d.createInnermost paths).2 := by
  induction paths generalizing d with
  | nil => exact .refl d
  | cons p around ih =>
    rw [createInnermost]
    have first := d.sameFiles_createDirectory p
    split
    · exact .refl d
    split
    · rename_i made
      rw [made] at first
      exact first
    · rename_i made
      rw [made] at first
      split
      · rename_i d₁ _
        have second := ih d₁
        split
        · rename_i outer
          rw [outer] at second
          exact first.trans second
        · rename_i d₂ outer
          rw [outer] at second
          have third := d₂.sameFiles_createDirectory p
          split
          · rename_i inner
            rw [inner] at third
            exact (first.trans second).trans third
          · rename_i inner
            rw [inner] at third
            exact (first.trans second).trans third
      · exact first

/-- **Making directories makes and changes no file.** -/
theorem sameFiles_createDirectories (d : Disk) (p : Path) : d.SameFiles (d.createDirectories p).2 := by
  unfold createDirectories
  split
  · exact sameFiles_createInnermost d _
  · exact sameFiles_createInnermost d _

end TaskTiming.Disk
