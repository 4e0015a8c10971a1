import TaskTiming.Json.File
import TaskTiming.Proofs.DiskFiles
import TaskTiming.Proofs.Paths
import TaskTiming.Proofs.Json.Decoding
import TaskTiming.Proofs.Log.HeaderCodec

/-!
# Saving and reading again

However a buffer cuts the pieces of a text, the chunks put together are the text (`flatten_chunks`), and as
much of it as there is room for reaches the file (`run_save`). So a decoder that reads a value back from its
tokens finds it in the file that it was saved to, if there was room for all (`run_file_of_save`).
-/

namespace TaskTiming
set_option autoImplicit false

namespace Disk

variable {d : Disk} {p : Path}

/-- How many more bytes the file of a path takes, if that is limited. -/
def roomFor (d : Disk) (p : Path) : Option Nat := d.roomAt (p.place d.here)

/-- What is said to bytes that the file of a path has no room for. -/
def refusalFor (d : Disk) (p : Path) : IoError := d.refusalAt (p.place d.here)

/-- The file of a path takes so many more bytes. -/
def HasRoom (d : Disk) (p : Path) (size : Nat) : Prop := ∀ room, d.roomFor p = some room → size ≤ room

theorem HasRoom.mono {size more : Nat} (room : d.HasRoom p more) (less : size ≤ more) : d.HasRoom p size :=
  fun n limited => less.trans (room n limited)

instance (d : Disk) (p : Path) (size : Nat) : Decidable (d.HasRoom p size) :=
  inferInstanceAs (Decidable (∀ room ∈ d.roomFor p, size ≤ room))

/-- As many of some bytes as there is room for. -/
def fitting (d : Disk) (p : Path) (bytes : List UInt8) : List UInt8 := (d.roomFor p).elim bytes bytes.take

theorem fitting_of_hasRoom {bytes : List UInt8} (room : d.HasRoom p bytes.length) : d.fitting p bytes = bytes := by
  cases limited : d.roomFor p with
  | none => rw [fitting, limited, Option.elim_none]
  | some n => rw [fitting, limited, Option.elim_some, List.take_of_length_le (room n limited)]

theorem fitting_of_full (full : d.roomFor p = some 0) (bytes : List UInt8) : d.fitting p bytes = [] := by
  rw [fitting, full, Option.elim_some, List.take_zero]

theorem length_fitting_eq_iff {bytes : List UInt8} :
    (d.fitting p bytes).length = bytes.length ↔ d.HasRoom p bytes.length := by
  unfold fitting HasRoom
  cases d.roomFor p with
  | none => simp
  | some n =>
    simp only [Option.elim_some, List.length_take, Option.some.injEq, forall_eq']
    omega

/-- What did not all fit leaves no room. -/
theorem roomFor_of_not_hasRoom {size : Nat} (full : ¬d.HasRoom p size) :
    (d.roomFor p).map (· - size) = some 0 := by
  obtain ⟨n, limited, less⟩ : ∃ n, d.roomFor p = some n ∧ n < size := by simpa [HasRoom] using full
  rw [limited, Option.map_some, Nat.sub_eq_zero_of_le less.le]

/-- One disk is another after so many bytes for a file: it has room for that many less, and says the same to those
that it has no room for. -/
structure Took (d d' : Disk) (p : Path) (size : Nat) : Prop where
  room : d'.roomFor p = (d.roomFor p).map (· - size)
  refusal : d'.refusalFor p = d.refusalFor p

section Took

variable {d' d'' : Disk} {size : Nat}

theorem Took.trans {more : Nat} (first : d.Took d' p size) (second : d'.Took d'' p more) :
    d.Took d'' p (size + more) where
  room := by
    rw [second.room, first.room, Option.map_map]
    congr 1
    funext n
    exact Nat.sub_sub n _ _
  refusal := second.refusal.trans first.refusal

theorem took_nothing (room : d'.room = d.room) (kept : d'.kept = d.kept) (here : d'.here = d.here) :
    d.Took d' p 0 where
  room := by
    rw [roomFor, roomAt_congr room kept, here, ← roomFor]
    cases d.roomFor p <;> rfl
  refusal := by rw [refusalFor, refusalAt, refusal?, kept, here, ← refusal?, ← refusalAt, ← refusalFor]

theorem took_create (d : Disk) (p : Path) : d.Took (d.create p).2 p 0 :=
  have ⟨room, kept, here⟩ := d.room_create p
  took_nothing room kept here

/-- There is room for the one behind the other if there is some for the first and then still for the second. -/
theorem Took.hasRoom_add (took : d.Took d' p size) (more : Nat) :
    d.HasRoom p (size + more) ↔ d.HasRoom p size ∧ d'.HasRoom p more := by
  unfold HasRoom
  rw [took.room]
  cases d.roomFor p with
  | none => simp
  | some n =>
    simp only [Option.map_some, Option.some.injEq, forall_eq']
    omega

theorem Took.fitting_append {bytes : List UInt8} (took : d.Took d' p bytes.length) (more : List UInt8) :
    d.fitting p (bytes ++ more) = d.fitting p bytes ++ d'.fitting p more := by
  unfold fitting
  rw [took.room]
  cases d.roomFor p with
  | none => rfl
  | some n => exact List.take_append

/-- Room that nothing was taken from is the same. -/
theorem Took.roomFor_eq (took : d.Took d' p 0) : d'.roomFor p = d.roomFor p := by
  rw [took.room]
  cases d.roomFor p <;> rfl

theorem Took.hasRoom_iff (took : d.Took d' p 0) : d'.HasRoom p size ↔ d.HasRoom p size := by
  rw [HasRoom, took.roomFor_eq, ← HasRoom]

theorem Took.fitting_eq (took : d.Took d' p 0) (bytes : List UInt8) : d'.fitting p bytes = d.fitting p bytes := by
  rw [fitting, took.roomFor_eq, ← fitting]

/-- Where the bytes did not all fit, no more do. -/
theorem Took.fitting_of_not_hasRoom (took : d.Took d' p size) (full : ¬d.HasRoom p size) (bytes : List UInt8) :
    d'.fitting p bytes = [] :=
  fitting_of_full (took.room.trans (roomFor_of_not_hasRoom full)) bytes

end Took

/-- Bytes go to the end of a file as far as there is room, and it is told whether these are all. -/
theorem write_at_end {old : List UInt8} (before : d.read p = .ok (.ok old)) (bytes : List UInt8) :
    ∃ d', d.write p old.length bytes =
        (if d.HasRoom p bytes.length then .ok () else .error (d.refusalFor p), d') ∧
      d'.read p = .ok (.ok (old ++ d.fitting p bytes)) ∧ d.Took d' p bytes.length := by
  obtain ⟨place, located, node⟩ := entry_of_read before
  have there := locate_entry located
  subst there
  have free : d.node? (p.place d.here) ≠ some .directory := by
    rw [node]
    exact nofun
  have written : d.write p old.length bytes =
      (if (d.fitting p bytes).length = bytes.length then .ok () else .error (d.refusalFor p),
        { d.put (p.place d.here) (.file (overlay old old.length (d.fitting p bytes))) with
          room := d.room.map (· - (d.fitting p bytes).length) }) := by
    unfold fitting roomFor refusalFor
    simp only [Disk.write, located, node]
    cases d.roomAt (p.place d.here) <;> rfl
  rw [written]
  simp only [length_fitting_eq_iff]
  refine ⟨_, rfl, ?_, ⟨?_, rfl⟩⟩
  · rw [read_of_look (look_put_file located free _ _), overlay_length]
  · -- A file of the system's own takes no byte, any other one what there is room for on the disk.
    unfold roomFor fitting roomFor roomAt
    show (if (d.refusal? (p.place d.here)).isSome then _ else _) = _
    cases (d.refusal? (p.place d.here)).isSome with
    | true => simp only [if_true, Option.map_some, Nat.zero_sub]
    | false =>
      cases d.room with
      | none => rfl
      | some n =>
        simp only [Bool.false_eq_true, if_false, Option.map_some, Option.elim_some, List.length_take,
          Option.some.injEq]
        omega

end Disk

namespace Json

variable {d : Disk} {p : Path}

/-- What follows an access to the disk runs on the disk that is left. -/
theorem run_bind {α β : Type} {first : StateM Disk α} {later : α → StateM Disk β} {d' : Disk} {a : α}
    (done : first.run d = (a, d')) : (first >>= later).run d = (later a).run d' := by
  rw [StateT.run_bind, done]
  rfl

/-! ## The buffer -/

/-- **A buffer hands over what it was given**, in its order. -/
theorem flatten_chunks (held : List UInt8) (pieces : List (List UInt8)) :
    (chunks held pieces).1.flatten ++ (chunks held pieces).2 = held ++ pieces.flatten := by
  induction pieces generalizing held with
  | nil =>
    show [] ++ held = held ++ []
    rw [List.append_nil, List.nil_append]
  | cons piece rest ih =>
    unfold chunks
    by_cases fits : held.length + piece.length ≤ bufferSize
    · simp only [fits, decide_true, if_true, List.nil_append]
      split
      · -- A piece that fills the buffer fits into an empty one only.
        have empty : held = [] := List.length_eq_zero_iff.1 (by omega)
        rw [List.flatten_cons, List.append_assoc, ih held, empty, List.nil_append, List.nil_append,
          List.flatten_cons]
      · rw [ih, List.flatten_cons, List.append_assoc]
    · simp only [fits, decide_false, Bool.false_eq_true, if_false]
      split
      · simp only [List.cons_append, List.flatten_cons, List.nil_append, List.append_assoc]
        rw [ih, List.nil_append]
      · simp only [List.cons_append, List.flatten_cons, List.nil_append, List.append_assoc]
        rw [ih]

/-- What a buffer still holds when the last piece of a value was written. -/
def unflushed (j : Json) : List UInt8 := (chunks [] j.bytePieces).2

/-- Chunks are written one behind the other, until one of them does not fit. -/
theorem run_writeChunks (out : List (List UInt8)) {old : List UInt8} (before : d.read p = .ok (.ok old)) :
    ∃ d', (writeChunks p old.length out : StateM Disk _).run d =
        (if d.HasRoom p out.flatten.length then .ok () else .error (d.refusalFor p), d') ∧
      d'.read p = .ok (.ok (old ++ d.fitting p out.flatten)) ∧ d.Took d' p out.flatten.length := by
  induction out generalizing d old with
  | nil =>
    have nothing : d.HasRoom p ([] : List (List UInt8)).flatten.length := fun _ _ => Nat.zero_le _
    refine ⟨d, by rw [if_pos nothing]; rfl, ?_, Disk.took_nothing rfl rfl rfl⟩
    rw [Disk.fitting_of_hasRoom nothing, List.flatten_nil, List.append_nil]
    exact before
  | cons chunk rest ih =>
    obtain ⟨d₁, written, held, took⟩ := Disk.write_at_end before chunk
    have first : (Storage.write p old.length chunk : StateM Disk _).run d =
        (if d.HasRoom p chunk.length then .ok () else .error (d.refusalFor p), d₁) := written
    rw [writeChunks, run_bind first, List.flatten_cons, List.length_append]
    simp only [took.hasRoom_add, took.fitting_append]
    by_cases fits : d.HasRoom p chunk.length
    · rw [Disk.fitting_of_hasRoom fits] at held ⊢
      obtain ⟨d₂, later, whole, more⟩ := ih held
      rw [List.length_append, took.refusal] at later
      refine ⟨d₂, ?_, ?_, took.trans more⟩
      · simp only [fits, if_true, true_and]
        exact later
      · rw [whole, List.append_assoc]
    · -- The chunk leaves no room, so nothing more would go to the file.
      refine ⟨d₁, ?_, ?_, ?_, took.refusal⟩
      · rw [if_neg fits, if_neg fun both => fits both.1]
        rfl
      · rw [held, took.fitting_of_not_hasRoom fits, List.append_nil]
      · have both : ¬d.HasRoom p (chunk.length + rest.flatten.length) := fun room =>
          fits ((took.hasRoom_add _).1 room).1
        rw [took.room, Disk.roomFor_of_not_hasRoom fits, Disk.roomFor_of_not_hasRoom both]

/-! ## Files -/

/-- The bytes of a value as it is written. -/
def textBytes (j : Json) : List UInt8 := j.pretty.toUTF8.toList

theorem flatten_bytePieces (j : Json) : j.bytePieces.flatten = j.textBytes := by
  have pieces : ∀ rows : List (List Char),
      (rows.map fun row => (String.ofList row).toUTF8.toList).flatten = (String.ofList rows.flatten).toUTF8.toList := by
    intro rows
    induction rows with
    | nil =>
      rw [List.map_nil, List.flatten_nil, List.flatten_nil, String.toUTF8_eq_toByteArray, Log.toList_eq_data]
      rfl
    | cons row rest ih =>
      rw [List.map_cons, List.flatten_cons, ih, List.flatten_cons]
      simp only [String.toUTF8_eq_toByteArray, String.toByteArray_ofList, List.utf8Encode_append,
        Log.toList_eq_data, ByteArray.toList_data_append]
  exact pieces _

/-- **A value is saved as far as there is room** where its file can be made. It is told that there was too little
only if the buffer handed the rest over before its last part. -/
theorem run_save {j : Json} (created : (d.create p).1 = .ok ()) :
    ∃ d', (j.save p : StateM Disk _).run d =
        (if d.HasRoom p (j.textBytes.length - j.unflushed.length) then .ok ()
          else .error (.json (.unreadable (d.refusalFor p))), d') ∧
      d'.read p = .ok (.ok (d.fitting p j.textBytes)) := by
  cases cut : chunks [] j.bytePieces with
  | mk out held =>
    have whole : out.flatten ++ held = j.textBytes := by
      have pieces := flatten_chunks [] j.bytePieces
      rwa [cut, List.nil_append, flatten_bytePieces] at pieces
    have handed : j.textBytes.length - j.unflushed.length = out.flatten.length := by
      rw [unflushed, cut, ← whole, List.length_append, Nat.add_sub_cancel]
    have first : (Storage.create p : StateM Disk _).run d = (.ok (), (d.create p).2) := Prod.ext created rfl
    obtain ⟨d₁, second, early, later⟩ := run_writeChunks out (Disk.read_create created)
    have empty := d.took_create p
    have took := empty.trans later
    rw [Nat.zero_add] at took
    rw [empty.fitting_eq, List.nil_append] at early
    simp only [empty.hasRoom_iff, empty.refusal] at second
    rw [handed, ← whole, took.fitting_append]
    unfold save
    rw [cut, run_bind first]
    by_cases fits : d.HasRoom p out.flatten.length
    · rw [if_pos fits] at second ⊢
      rw [Disk.fitting_of_hasRoom fits] at early ⊢
      obtain ⟨d₂, last, late, -⟩ := Disk.write_at_end early held
      have third : (Storage.write p out.flatten.length held : StateM Disk _).run d₁ = _ := last
      refine ⟨d₂, ?_, late⟩
      refine (run_bind second).trans ?_
      refine (run_bind third).trans ?_
      rfl
    · rw [if_neg fits] at second ⊢
      refine ⟨d₁, (run_bind second).trans rfl, ?_⟩
      rw [early, took.fitting_of_not_hasRoom fits, List.append_nil]

/-- What is read from a file has what its decoder gives. -/
theorem gives_file {α : Type} {decoder : Decoder α} {P : α → Prop} (gives : decoder.Gives P) {d' : Disk} {a : α}
    (loaded : (decoder.file p : StateM Disk _).run d = (.ok a, d')) : P a := by
  have read : (Storage.read p : StateM Disk _).run d = (d.read p, d) := rfl
  rw [Decoder.file, run_bind read] at loaded
  cases opened : d.read p with
  | error cause =>
    rw [opened] at loaded
    cases loaded
  | ok content =>
    rw [opened] at loaded
    have decoded : (decoder.content content).mapError .json = (.ok a : Result α) := congrArg Prod.fst loaded
    unfold Decoder.content at decoded
    split at decoded
    · cases decoded
    split at decoded
    · rename_i text _
      unfold Decoder.text Decoder.all at decoded
      split at decoded
      · rename_i taken
        cases decoded
        exact gives _ _ _ taken
      · cases decoded
      · cases decoded
    · cases decoded

/-- A file is read as its content, and the disk stays as it is. -/
theorem run_file {α : Type} {content : List UInt8} (held : d.read p = .ok (.ok content)) (decoder : Decoder α) :
    (decoder.file p : StateM Disk _).run d = ((decoder.content (.ok content)).mapError .json, d) := by
  have read : (Storage.read p : StateM Disk _).run d = (.ok (.ok content), d) := Prod.ext held rfl
  rw [Decoder.file, run_bind read]
  rfl

/-- **What was saved is read again.** -/
theorem run_file_of_save {α : Type} {j : Json} {decoder : Decoder α} {a : α} (reads : decoder.Reads j a)
    (created : (d.create p).1 = .ok ()) (room : d.HasRoom p j.textBytes.length) :
    ∃ d', (j.save p : StateM Disk _).run d = (.ok (), d') ∧
      (decoder.file p : StateM Disk _).run d' = (.ok a, d') := by
  obtain ⟨d', saved, held⟩ := run_save (j := j) created
  rw [if_pos (room.mono (Nat.sub_le _ _))] at saved
  rw [Disk.fitting_of_hasRoom room] at held
  have content : decoder.content (.ok j.textBytes) = .ok a := by
    rw [Decoder.content, textBytes, Log.fromUTF8?_toUTF8]
    show decoder.text j.pretty = .ok a
    rw [Decoder.text, pretty, String.toList_ofList, reads.natural.scan_pretty]
    exact reads.takes.all
  refine ⟨d', saved, ?_⟩
  rw [run_file held, content]
  rfl

end Json

end TaskTiming
