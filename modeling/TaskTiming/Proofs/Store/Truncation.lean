import TaskTiming.Proofs.Json.Saving
import TaskTiming.Store.File

/-!
# Files cut short

A disk with little room takes the first bytes of a text and refuses the rest. What the buffer hands over while a
value is written is looked at, so a refusal there is told; what it still holds then (`Json.unflushed`) is written
last, and whether that works is not looked at (`Json.run_save`). How much that is: something, and at most the
buffer (`Json.unflushed_object_ne_nil`, `Json.length_unflushed_le`). So a store that was saved is on the disk as a
whole unless the room ends within this last part (`Store.save_is_whole_unless_cut_in_last_part`).
-/

namespace TaskTiming
set_option autoImplicit false

namespace Json

/-- What a buffer hands over for some pieces and then for others. -/
theorem chunks_append (held : List UInt8) (pieces more : List (List UInt8)) :
    chunks held (pieces ++ more) =
      ((chunks held pieces).1 ++ (chunks (chunks held pieces).2 more).1,
        (chunks (chunks held pieces).2 more).2) := by
  induction pieces generalizing held with
  | nil => rfl
  | cons piece rest ih =>
    rw [List.cons_append, chunks, chunks]
    split <;> simp only [ih, List.append_assoc, List.cons_append]

/-- No more is held than the buffer has room for. -/
theorem length_chunks_le {held : List UInt8} (fits : held.length ≤ bufferSize) (pieces : List (List UInt8)) :
    (chunks held pieces).2.length ≤ bufferSize := by
  induction pieces generalizing held with
  | nil => exact fits
  | cons piece rest ih =>
    rw [chunks]
    by_cases room : held.length + piece.length ≤ bufferSize
    · simp only [room, decide_true, if_true]
      split
      · exact ih fits
      · exact ih (by rwa [List.length_append])
    · simp only [room, decide_false, Bool.false_eq_true, if_false]
      split
      · exact ih (Nat.zero_le _)
      · exact ih (by rw [List.nil_append]; omega)

/-- Pieces that fit the buffer together stay there. -/
theorem chunks_of_short {held : List UInt8} {pieces : List (List UInt8)}
    (short : held.length + pieces.flatten.length < bufferSize) : chunks held pieces = ([], held ++ pieces.flatten) := by
  induction pieces generalizing held with
  | nil => rw [chunks, List.flatten_nil, List.append_nil]
  | cons piece rest ih =>
    rw [List.flatten_cons, List.length_append] at short
    have fits : held.length + piece.length ≤ bufferSize := by omega
    have small : ¬bufferSize ≤ piece.length := by omega
    have later : (held ++ piece).length + rest.flatten.length < bufferSize := by
      rw [List.length_append]
      omega
    rw [chunks]
    simp only [fits, small, decide_true, if_true, if_false, ih later, List.nil_append, List.flatten_cons,
      List.append_assoc]

/-- What is held last is never more than the buffer. -/
theorem length_unflushed_le (j : Json) : j.unflushed.length ≤ bufferSize := length_chunks_le (Nat.zero_le _) _

/-- A text shorter than the buffer is held as a whole. -/
theorem unflushed_of_short {j : Json} (short : j.textBytes.length < bufferSize) : j.unflushed = j.textBytes := by
  rw [← flatten_bytePieces] at short ⊢
  rw [unflushed, chunks_of_short (by rwa [List.length_nil, Nat.zero_add])]
  rfl

/-- What is held last is the end of the text. -/
theorem unflushed_suffix (j : Json) : j.unflushed <:+ j.textBytes := by
  refine ⟨(chunks [] j.bytePieces).1.flatten, ?_⟩
  rw [unflushed, flatten_chunks, List.nil_append, flatten_bytePieces]

/-- The end of an object is one character, which the buffer holds last. -/
theorem unflushed_object_ne_nil {members : List (String × Json)} (nonempty : members ≠ []) :
    (Json.object members).unflushed ≠ [] := by
  have last : ∃ front, (Json.object members).bytePieces = front ++ [(String.ofList ['}']).toUTF8.toList] := by
    have some : ¬members.isEmpty = true := by rwa [List.isEmpty_iff]
    rw [bytePieces, prettyPieces, if_neg some, List.map_append]
    exact ⟨_, rfl⟩
  obtain ⟨front, pieces⟩ := last
  have brace : (String.ofList ['}']).toUTF8.toList = [125] := by
    rw [Log.toList_eq_data]
    decide
  rw [unflushed, pieces, chunks_append, brace]
  -- Whatever is held by then, handed over or not, the brace comes behind it.
  generalize (chunks [] front).2 = held
  have small : ¬bufferSize ≤ [(125 : UInt8)].length := by decide
  simp only [chunks, if_neg small]
  exact List.append_ne_nil_of_right_ne_nil _ (List.cons_ne_nil _ _)

end Json

namespace Store

/-- An empty store is an object with no CPUs in it. -/
theorem length_text_empty : empty.toJson.textBytes.length = 16 := by
  rw [Json.textBytes, Log.toList_eq_data]
  decide

theorem empty_is_short : empty.toJson.textBytes.length < Json.bufferSize := by
  rw [length_text_empty]
  decide

/-- **A store is on the disk as a whole when its saving succeeded, unless the room ended within its last part.**
What the file holds is what there was room for. A failure is told exactly if the room ended before the last part,
which is what the buffer still holds at the end: never nothing, never more than the buffer, and the whole text if
that is shorter than the buffer. -/
theorem save_is_whole_unless_cut_in_last_part (s : Store) {d : Disk} {p : Path} {n : Nat}
    (created : (d.create p).1 = .ok ()) (limited : d.roomFor p = some n) :
    ∃ outcome d', (s.save p : StateM Disk _).run d = (outcome, d') ∧
      d'.read p = .ok (.ok (s.toJson.textBytes.take n)) ∧
      (outcome = .ok () ∨ outcome = .error (.json (.unreadable (d.refusalFor p)))) ∧
      (outcome = .ok () ↔ s.toJson.textBytes.length ≤ n + s.toJson.unflushed.length) ∧
      ((outcome = .ok () → d'.read p = .ok (.ok s.toJson.textBytes)) ↔
        (s.toJson.textBytes.length ≤ n ∨ n + s.toJson.unflushed.length < s.toJson.textBytes.length)) ∧
      s.toJson.unflushed <:+ s.toJson.textBytes ∧ s.toJson.unflushed ≠ [] ∧
      s.toJson.unflushed.length ≤ Json.bufferSize ∧
      (s.toJson.textBytes.length < Json.bufferSize → s.toJson.unflushed = s.toJson.textBytes) := by
  obtain ⟨d', saved, held⟩ := Json.run_save (j := s.toJson) created
  rw [Disk.fitting, limited, Option.elim_some] at held
  simp only [Disk.HasRoom, limited, Option.some.injEq, forall_eq', Nat.sub_le_iff_le_add] at saved
  have told : (if s.toJson.textBytes.length ≤ n + s.toJson.unflushed.length then .ok ()
      else .error (.json (.unreadable (d.refusalFor p))) : Result Unit) = .ok () ↔
        s.toJson.textBytes.length ≤ n + s.toJson.unflushed.length := by
    split
    · rename_i early
      exact ⟨fun _ => early, fun _ => rfl⟩
    · rename_i late
      refine ⟨fun same => ?_, fun early => absurd early late⟩
      cases same
  have whole : d'.read p = .ok (.ok s.toJson.textBytes) ↔ s.toJson.textBytes.length ≤ n := by
    rw [held]
    constructor
    · intro same
      have lengths := congrArg List.length (Except.ok.inj (Except.ok.inj same))
      rw [List.length_take] at lengths
      omega
    · intro fits
      rw [List.take_of_length_le fits]
  refine ⟨_, d', saved, held, ?_, told, ?_, s.toJson.unflushed_suffix,
    Json.unflushed_object_ne_nil (List.cons_ne_nil _ _), s.toJson.length_unflushed_le, Json.unflushed_of_short⟩
  · split
    · exact .inl rfl
    · exact .inr rfl
  · rw [told, whole]
    omega

theorem save_is_whole_unless_cut_in_last_part_full :
    (Disk.create { Disk.empty with room := some 0 } ⟨"calibration.json"⟩).1 = .ok () ∧
    ∃ d', (empty.save ⟨"calibration.json"⟩ : StateM Disk _).run { Disk.empty with room := some 0 } = (.ok (), d') ∧
      d'.read ⟨"calibration.json"⟩ = .ok (.ok []) := by
  have created : (Disk.create { Disk.empty with room := some 0 } ⟨"calibration.json"⟩).1 = .ok () := rfl
  refine ⟨created, ?_⟩
  obtain ⟨outcome, d', saved, held, -, told, -, -, -, -, short⟩ :=
    save_is_whole_unless_cut_in_last_part empty created rfl
  have done : outcome = .ok () := told.2 (by rw [short empty_is_short, Nat.zero_add])
  exact ⟨d', by rw [saved, done], held⟩

/-- **A full disk is not told of**: an empty store is saved to it, and its file is empty. -/
theorem save_hides_full_disk :
    ∃ d', (empty.save ⟨"calibration.json"⟩ : StateM Disk _).run { Disk.empty with room := some 0 } = (.ok (), d') ∧
      d'.read ⟨"calibration.json"⟩ = .ok (.ok []) ∧ empty.toJson.textBytes ≠ [] := by
  obtain ⟨d', saved, held⟩ := Json.run_save (d := { Disk.empty with room := some 0 })
    (p := ⟨"calibration.json"⟩) (j := empty.toJson) rfl
  have early : Disk.HasRoom { Disk.empty with room := some 0 } ⟨"calibration.json"⟩ 0 := fun _ _ => Nat.zero_le _
  rw [Json.unflushed_of_short empty_is_short, Nat.sub_self, if_pos early] at saved
  refine ⟨d', saved, held, ?_⟩
  exact List.ne_nil_of_length_pos (by rw [length_text_empty]; decide)

end Store

end TaskTiming
