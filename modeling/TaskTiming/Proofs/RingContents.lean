import TaskTiming.Ring

/-!
# What a ring keeps

A ring is read through the list of all samples that were offered to it since it was made. While it
overwrites, the cursor and the wraps together count the samples (`Overwriting.place`), and the sample at
position `j` lies in slot `j % capacity` for as long as it is among the last `capacity` ones
(`Overwriting.slot`). While it rejects, the slots hold the first samples in order. Both invariants pass
through `record`, so every answer of a ring is known from that list (`ring_tally`).
-/

namespace TaskTiming
set_option autoImplicit false

namespace OverrunPolicy

/-- What is kept of all samples that were offered: the last ones, or the first ones. -/
def kept (policy : OverrunPolicy) (capacity : Nat) (offered : List Sample) : List Sample :=
  match policy with
  | .overwrite => offered.drop (offered.length - capacity)
  | .reject => offered.take capacity

/-- The slot for the sample at a position counted from zero. -/
def slotOf (policy : OverrunPolicy) (capacity position : Nat) : Option Nat :=
  match policy with
  | .overwrite => some (position % capacity)
  | .reject => if position < capacity then some position else none

theorem length_kept (policy : OverrunPolicy) (capacity : Nat) (offered : List Sample) :
    (policy.kept capacity offered).length = min offered.length capacity := by
  cases policy with
  | overwrite => simp only [kept, List.length_drop]; omega
  | reject => simp only [kept, List.length_take]; omega

/-- Nothing is kept that was not offered. -/
theorem mem_of_mem_kept {policy : OverrunPolicy} {capacity : Nat} {offered : List Sample} {s : Sample}
    (h : s ∈ policy.kept capacity offered) : s ∈ offered := by
  cases policy with
  | overwrite => exact List.mem_of_mem_drop h
  | reject => exact List.mem_of_mem_take h

end OverrunPolicy

namespace Ring

theorem size_write {slots : Array Sample} {slot : Nat} (h : slot ≤ slots.size) (s : Sample) :
    (write slots slot s).size = max slots.size (slot + 1) := by
  unfold write
  split
  · rw [Array.size_set]; omega
  · rw [Array.size_push]; omega

/-- Writing a slot leaves all others as they were. -/
theorem getElem?_write {slots : Array Sample} {slot : Nat} (h : slot ≤ slots.size) (s : Sample) (i : Nat) :
    (write slots slot s)[i]? = if i = slot then some s else slots[i]? := by
  unfold write
  split
  · rename_i inside
    rw [Array.getElem?_set]
    by_cases e : slot = i
    · rw [if_pos e, if_pos e.symm]
    · rw [if_neg e, if_neg fun h => e h.symm]
  · rename_i outside
    have : slot = slots.size := by omega
    rw [Array.getElem?_push, this]

/-- Two positions less than a round apart have slots of their own. -/
theorem mod_ne_mod {i j c : Nat} (lt : i < j) (near : j < i + c) : i % c ≠ j % c := by
  intro same
  have round : (j - i) % c = 0 := Nat.sub_mod_eq_zero_of_mod_eq same.symm
  rw [Nat.mod_eq_of_lt (by omega)] at round
  omega

/-- A ring that replaces its oldest samples, behind the samples that were offered to it. -/
structure Overwriting (r : Ring) (offered : List Sample) : Prop where
  policy : r.policy = .overwrite
  total : r.total = offered.length
  /-- The rounds that are over and the cursor in the present one count all samples. -/
  place : r.wraps * r.capacity + r.cursor = offered.length
  cursor_le : r.cursor ≤ r.capacity
  /-- The cursor goes back only with a sample to store. -/
  cursor_pos : 0 < r.wraps → 0 < r.cursor
  overrun : r.overrun = decide (0 < r.wraps)
  rejected : r.rejected = 0
  size : r.slots.size = min offered.length r.capacity
  /-- The last samples have not been replaced yet. -/
  slot : ∀ j (h : j < offered.length), offered.length ≤ j + r.capacity →
    r.slots[j % r.capacity]? = some offered[j]

/-- A ring that refuses samples once it is full, behind the samples that were offered to it. -/
structure Rejecting (r : Ring) (offered : List Sample) : Prop where
  policy : r.policy = .reject
  total : r.total = offered.length
  cursor : r.cursor = min offered.length r.capacity
  wraps : r.wraps = 0
  overrun : r.overrun = decide (r.capacity < offered.length)
  rejected : r.rejected = offered.length - r.capacity
  size : r.slots.size = min offered.length r.capacity
  slot : ∀ j (h : j < offered.length), j < r.capacity → r.slots[j]? = some offered[j]

/-- A full ring that overwrites starts over. -/
theorem record_starting_over {r : Ring} (full : r.cursor = r.capacity) (overwrites : r.policy = .overwrite)
    (s : Sample) : r.record s = ({ r with overrun := true, wraps := r.wraps + 1 }.store 0 s, some 0) := by
  rw [record, if_pos full, overwrites]

/-- A full ring that rejects only counts. -/
theorem record_refusing {r : Ring} (full : r.cursor = r.capacity) (rejects : r.policy = .reject) (s : Sample) :
    r.record s = ({ r with overrun := true, total := r.total + 1, rejected := r.rejected + 1 }, none) := by
  rw [record, if_pos full, rejects]

theorem record_storing {r : Ring} (room : r.cursor ≠ r.capacity) (s : Sample) :
    r.record s = (r.store r.cursor s, some r.cursor) := by
  rw [record, if_neg room]

section Overwriting

variable {r : Ring} {offered : List Sample}

/-- The cursor of a full ring stands behind a whole number of rounds. -/
theorem Overwriting.length_mod_of_full (h : r.Overwriting offered) (full : r.cursor = r.capacity) :
    offered.length % r.capacity = 0 := by
  have whole : offered.length = (r.wraps + 1) * r.capacity := by
    have := h.place
    rw [Nat.add_mul]
    omega
  rw [whole, Nat.mul_mod_left]

theorem Overwriting.length_mod_of_room (h : r.Overwriting offered) (room : r.cursor ≠ r.capacity) :
    offered.length % r.capacity = r.cursor := by
  have := h.cursor_le
  rw [← h.place, Nat.mul_add_mod_self_right, Nat.mod_eq_of_lt (by omega)]

/-- A new sample goes into the slot behind the last one, round and round. -/
theorem Overwriting.record_slot (h : r.Overwriting offered) (s : Sample) :
    (r.record s).2 = some (offered.length % r.capacity) := by
  by_cases full : r.cursor = r.capacity
  · rw [record_starting_over full h.policy, h.length_mod_of_full full]
  · rw [record_storing full, h.length_mod_of_room full]

theorem Overwriting.next_le_size (h : r.Overwriting offered) :
    offered.length % r.capacity ≤ r.slots.size := by
  have := Nat.mod_lt offered.length r.capacity_pos
  have := Nat.mod_le offered.length r.capacity
  rw [h.size]
  omega

theorem Overwriting.size_write_next (h : r.Overwriting offered) (s : Sample) :
    (write r.slots (offered.length % r.capacity) s).size = min (offered ++ [s]).length r.capacity := by
  have := Nat.mod_lt offered.length r.capacity_pos
  rw [size_write h.next_le_size, h.size, List.length_append, List.length_singleton]
  by_cases full : r.capacity ≤ offered.length
  · omega
  · rw [Nat.mod_eq_of_lt (by omega)]
    omega

/-- The slot that is written belonged to the one sample that is no longer among the last. -/
theorem Overwriting.slot_write_next (h : r.Overwriting offered) (s : Sample) (j : Nat)
    (hj : j < (offered ++ [s]).length) (near : (offered ++ [s]).length ≤ j + r.capacity) :
    (write r.slots (offered.length % r.capacity) s)[j % r.capacity]? = some (offered ++ [s])[j] := by
  have length : (offered ++ [s]).length = offered.length + 1 := List.length_append
  rw [getElem?_write h.next_le_size]
  by_cases last : j = offered.length
  · subst last
    rw [if_pos rfl, List.getElem_concat_length rfl]
  · have older : j < offered.length := by omega
    rw [if_neg (mod_ne_mod older (by omega)), h.slot j older (by omega), List.getElem_append_left older]

/-- An overwriting ring stays one. -/
theorem Overwriting.record (h : r.Overwriting offered) (s : Sample) :
    (r.record s).1.Overwriting (offered ++ [s]) := by
  have place := h.place
  have pos := r.capacity_pos
  have bound := h.cursor_le
  have size := h.size_write_next s
  have slot := h.slot_write_next s
  have length : (offered ++ [s]).length = offered.length + 1 := List.length_append
  have total : r.total + 1 = (offered ++ [s]).length := by rw [h.total, length]
  by_cases full : r.cursor = r.capacity
  · rw [h.length_mod_of_full full] at size slot
    rw [record_starting_over full h.policy]
    have place : (r.wraps + 1) * r.capacity + (0 + 1) = (offered ++ [s]).length := by
      rw [Nat.add_mul]
      omega
    exact {
      policy := h.policy, total, place, cursor_le := pos, cursor_pos := fun _ => Nat.succ_pos 0
      overrun := (decide_eq_true (Nat.succ_pos r.wraps)).symm, rejected := h.rejected, size, slot }
  · rw [h.length_mod_of_room full] at size slot
    rw [record_storing full]
    have place : r.wraps * r.capacity + (r.cursor + 1) = (offered ++ [s]).length := by omega
    have cursor_le : r.cursor + 1 ≤ r.capacity := by omega
    exact {
      policy := h.policy, total, place, cursor_le, cursor_pos := fun _ => Nat.succ_pos r.cursor
      overrun := h.overrun, rejected := h.rejected, size, slot }

/-- The rounds that are over, without the one that the last sample may have filled. -/
theorem Overwriting.wraps_eq (h : r.Overwriting offered) : r.wraps = (offered.length - 1) / r.capacity := by
  have place := h.place
  have bound := h.cursor_le
  have pos := r.capacity_pos
  symm
  rcases Nat.eq_zero_or_pos r.wraps with none | some
  · rw [none, Nat.zero_mul] at place
    rw [none, Nat.div_eq_of_lt (by omega)]
  · have := h.cursor_pos some
    have split : offered.length - 1 = r.capacity * r.wraps + (r.cursor - 1) := by
      rw [Nat.mul_comm]
      omega
    rw [split, Nat.mul_add_div pos, Nat.div_eq_of_lt (by omega), Nat.add_zero]

/-- The cursor goes back when the first sample is replaced. -/
theorem Overwriting.wraps_pos_iff (h : r.Overwriting offered) :
    0 < r.wraps ↔ r.capacity < offered.length := by
  have pos := r.capacity_pos
  rw [h.wraps_eq, Nat.div_pos_iff]
  omega

theorem Overwriting.length_eq (h : r.Overwriting offered) : r.length = min offered.length r.capacity := by
  have place := h.place
  have bound := h.cursor_le
  have wrapped := h.wraps_pos_iff
  unfold length
  split
  · omega
  · have none : r.wraps = 0 := by omega
    rw [none, Nat.zero_mul] at place
    omega

/-- Reading starts at the slot of the first sample that is still there. -/
theorem Overwriting.oldestSlot_add_mod (h : r.Overwriting offered) (i : Nat) :
    (r.oldestSlot + i) % r.capacity = (offered.length - r.capacity + i) % r.capacity := by
  have place := h.place
  have wrapped := h.wraps_pos_iff
  unfold oldestSlot
  split
  · have round : offered.length - r.capacity + i + r.capacity = offered.length + i := by omega
    rw [← Nat.add_mod_right (offered.length - r.capacity + i), round, ← place, Nat.add_assoc,
      Nat.mul_add_mod_self_right, Nat.mod_add_mod]
  · have none : offered.length - r.capacity = 0 := by omega
    rw [none]

theorem Overwriting.samples_eq (h : r.Overwriting offered) :
    r.samples = OverrunPolicy.overwrite.kept r.capacity offered := by
  have length := h.length_eq
  apply List.ext_getElem
  · simp only [samples, List.length_map, List.length_range, OverrunPolicy.length_kept, length]
  · intro i hi _
    simp only [samples, List.length_map, List.length_range] at hi
    have inside : offered.length - r.capacity + i < offered.length := by omega
    simp only [samples, List.getElem_map, List.getElem_range, OverrunPolicy.kept, List.getElem_drop]
    rw [h.oldestSlot_add_mod, h.slot _ inside (by omega), Option.getD_some]

theorem Overwriting.lost_eq (h : r.Overwriting offered) : r.lost = offered.length - r.capacity := by
  have wrapped := h.wraps_pos_iff
  rw [lost, h.overrun, h.total]
  split
  · rfl
  · rename_i whole
    rw [decide_eq_true_iff] at whole
    omega

end Overwriting

section Rejecting

variable {r : Ring} {offered : List Sample}

theorem Rejecting.record_slot (h : r.Rejecting offered) (s : Sample) :
    (r.record s).2 = OverrunPolicy.reject.slotOf r.capacity offered.length := by
  have cursor := h.cursor
  by_cases full : r.cursor = r.capacity
  · rw [record_refusing full h.policy, OverrunPolicy.slotOf, if_neg (by omega)]
  · rw [record_storing full, OverrunPolicy.slotOf, if_pos (by omega), cursor, Nat.min_eq_left (by omega)]

/-- A rejecting ring stays one. -/
theorem Rejecting.record (h : r.Rejecting offered) (s : Sample) :
    (r.record s).1.Rejecting (offered ++ [s]) := by
  have cursor := h.cursor
  have length : (offered ++ [s]).length = offered.length + 1 := List.length_append
  have total : r.total + 1 = (offered ++ [s]).length := by rw [h.total, length]
  by_cases full : r.cursor = r.capacity
  · rw [record_refusing full h.policy]
    have beyond : r.capacity < (offered ++ [s]).length := by omega
    have slot (j : Nat) (hj : j < (offered ++ [s]).length) (first : j < r.capacity) :
        r.slots[j]? = some (offered ++ [s])[j] := by
      have older : j < offered.length := by omega
      rw [h.slot j older first, List.getElem_append_left older]
    have cursor : r.cursor = min (offered ++ [s]).length r.capacity := by omega
    have rejected : r.rejected + 1 = (offered ++ [s]).length - r.capacity := by rw [h.rejected]; omega
    have size : r.slots.size = min (offered ++ [s]).length r.capacity := by rw [h.size]; omega
    exact {
      policy := h.policy, total, cursor, wraps := h.wraps, overrun := (decide_eq_true beyond).symm, rejected
      size, slot }
  · rw [record_storing full]
    have next : r.cursor = offered.length := by omega
    have fits : r.cursor ≤ r.slots.size := by rw [h.size]; omega
    have slot (j : Nat) (hj : j < (offered ++ [s]).length) (first : j < r.capacity) :
        (write r.slots r.cursor s)[j]? = some (offered ++ [s])[j] := by
      rw [getElem?_write fits]
      by_cases last : j = offered.length
      · subst last
        rw [if_pos next.symm, List.getElem_concat_length rfl]
      · have older : j < offered.length := by omega
        rw [if_neg (by omega), h.slot j older first, List.getElem_append_left older]
    have whole : ¬r.capacity < (offered ++ [s]).length := by omega
    have overrun : r.overrun = decide (r.capacity < (offered ++ [s]).length) := by
      rw [h.overrun, decide_eq_false (by omega : ¬r.capacity < offered.length), decide_eq_false whole]
    have cursor : r.cursor + 1 = min (offered ++ [s]).length r.capacity := by omega
    have rejected : r.rejected = (offered ++ [s]).length - r.capacity := by rw [h.rejected]; omega
    have size : (write r.slots r.cursor s).size = min (offered ++ [s]).length r.capacity := by
      rw [size_write fits, h.size]
      omega
    exact { policy := h.policy, total, cursor, wraps := h.wraps, overrun, rejected, size, slot }

theorem Rejecting.length_eq (h : r.Rejecting offered) : r.length = min offered.length r.capacity := by
  rw [length, h.wraps, if_neg (Nat.lt_irrefl 0), h.cursor]

theorem Rejecting.samples_eq (h : r.Rejecting offered) :
    r.samples = OverrunPolicy.reject.kept r.capacity offered := by
  have length := h.length_eq
  have start : r.oldestSlot = 0 := by rw [oldestSlot, h.wraps, if_neg (Nat.lt_irrefl 0)]
  apply List.ext_getElem
  · simp only [samples, List.length_map, List.length_range, OverrunPolicy.length_kept, length]
  · intro i hi _
    simp only [samples, List.length_map, List.length_range] at hi
    have inside : i < offered.length := by omega
    simp only [samples, List.getElem_map, List.getElem_range, OverrunPolicy.kept, List.getElem_take, start,
      Nat.zero_add]
    rw [Nat.mod_eq_of_lt (by omega), h.slot i inside (by omega), Option.getD_some]

theorem Rejecting.lost_eq (h : r.Rejecting offered) : r.lost = offered.length - r.capacity := by
  rw [lost, h.overrun, h.total]
  split
  · rfl
  · rename_i whole
    rw [decide_eq_true_iff] at whole
    omega

end Rejecting

section RecordAll

variable {r : Ring} {offered : List Sample}

theorem Overwriting.recordAll (h : r.Overwriting offered) (more : List Sample) :
    (r.recordAll more).Overwriting (offered ++ more) := by
  induction more generalizing r offered with
  | nil => rwa [List.append_nil]
  | cons s rest ih =>
    have next := ih (h.record s)
    rwa [List.append_assoc] at next

theorem capacity_recordAll (r : Ring) (samples : List Sample) :
    (r.recordAll samples).capacity = r.capacity := by
  induction samples generalizing r with
  | nil => rfl
  | cons s rest ih => exact (ih (r.record s).1).trans (r.capacity_record s)

theorem Rejecting.recordAll (h : r.Rejecting offered) (more : List Sample) :
    (r.recordAll more).Rejecting (offered ++ more) := by
  induction more generalizing r offered with
  | nil => rwa [List.append_nil]
  | cons s rest ih =>
    have next := ih (h.record s)
    rwa [List.append_assoc] at next

end RecordAll

/-- A ring with nothing in it. -/
def blank (capacity : Nat) (policy : OverrunPolicy) (pos : 0 < capacity) : Ring :=
  { capacity, policy, slots := #[], cursor := 0, total := 0, wraps := 0, rejected := 0, overrun := false
    capacity_pos := pos }

theorem new_eq_ok {capacity : Nat} {policy : OverrunPolicy} (pos : 0 < capacity) :
    Ring.new capacity policy = .ok (blank capacity policy pos) := by
  rw [new, dif_pos pos]
  rfl

/-- The answers of a ring with the given capacity and policy behind all samples that were offered to it. -/
structure Tally (r : Ring) (capacity : Nat) (policy : OverrunPolicy) (offered : List Sample) : Prop where
  samples : r.samples = policy.kept capacity offered
  /-- What is kept reaches any other ring in the same order. -/
  flushed : ∀ target, r.flushInto target = target.recordAll (policy.kept capacity offered)
  length : r.length = min offered.length capacity
  total : r.total = offered.length
  /-- Every sample is kept or lost. -/
  lost : r.lost + r.length = offered.length
  overrun : r.overrun = true ↔ capacity < offered.length
  /-- The cursor goes back with the first sample of a round, not with the last one before it. -/
  wraps : r.wraps = if policy = .overwrite then (offered.length - 1) / capacity else 0
  rejected : r.rejected = if policy = .reject then offered.length - capacity else 0
  /-- The samples kept begin at the oldest position, counted from one. -/
  oldest : 0 < r.oldestPosition ∧ r.samples = (offered.drop (r.oldestPosition - 1)).take r.length
  oldest_of_nil : offered = [] → r.oldestPosition = 1

theorem Overwriting.tally {r : Ring} {offered : List Sample} (h : r.Overwriting offered) :
    r.Tally r.capacity .overwrite offered := by
  have length := h.length_eq
  have lost := h.lost_eq
  have wrapped := h.wraps_pos_iff
  have overrun : r.overrun = true ↔ r.capacity < offered.length := by
    rw [h.overrun, decide_eq_true_iff, wrapped]
  have oldest : r.oldestPosition = offered.length - r.capacity + 1 := by
    rw [oldestPosition, h.policy, h.total]
    cases full : r.overrun with
    | true => rfl
    | false =>
      have := mt overrun.2 (by rw [full]; exact Bool.false_ne_true)
      show 1 = _
      omega
  have whole : (offered.drop (offered.length - r.capacity)).take (min offered.length r.capacity)
      = offered.drop (offered.length - r.capacity) :=
    List.take_of_length_le (by rw [List.length_drop]; omega)
  exact {
    samples := h.samples_eq
    flushed := fun target => by rw [flushInto, h.samples_eq]
    length, total := h.total, lost := by omega, overrun, wraps := h.wraps_eq, rejected := h.rejected
    oldest := ⟨by omega, by rw [oldest, Nat.add_sub_cancel, length, whole, h.samples_eq]; rfl⟩
    oldest_of_nil := by rintro rfl; rw [oldest, List.length_nil, Nat.zero_sub] }

theorem Rejecting.tally {r : Ring} {offered : List Sample} (h : r.Rejecting offered) :
    r.Tally r.capacity .reject offered := by
  have length := h.length_eq
  have lost := h.lost_eq
  have overrun : r.overrun = true ↔ r.capacity < offered.length := by rw [h.overrun, decide_eq_true_iff]
  have oldest : r.oldestPosition = 1 := by rw [oldestPosition, h.policy]
  have first : (offered.drop (1 - 1)).take (min offered.length r.capacity) = offered.take r.capacity := by
    rw [List.drop_zero, Nat.min_comm, ← List.take_eq_take_min]
  exact {
    samples := h.samples_eq
    flushed := fun target => by rw [flushInto, h.samples_eq]
    length, total := h.total, lost := by omega, overrun, wraps := h.wraps, rejected := h.rejected
    oldest := ⟨by omega, by rw [oldest, length, first, h.samples_eq]; rfl⟩
    oldest_of_nil := fun _ => oldest }

theorem overwriting_blank {capacity : Nat} (pos : 0 < capacity) :
    (blank capacity .overwrite pos).Overwriting [] where
  policy := rfl
  total := rfl
  place := Nat.zero_mul capacity
  cursor_le := Nat.zero_le capacity
  cursor_pos := fun h => absurd h (Nat.lt_irrefl 0)
  overrun := rfl
  rejected := rfl
  size := (Nat.zero_min capacity).symm
  slot := fun j h => absurd h (Nat.not_lt_zero j)

theorem rejecting_blank {capacity : Nat} (pos : 0 < capacity) :
    (blank capacity .reject pos).Rejecting [] where
  policy := rfl
  total := rfl
  cursor := (Nat.zero_min capacity).symm
  wraps := rfl
  overrun := (decide_eq_false (Nat.not_lt_zero capacity)).symm
  rejected := (Nat.zero_sub capacity).symm
  size := (Nat.zero_min capacity).symm
  slot := fun j h => absurd h (Nat.not_lt_zero j)

/-- A ring tallies with whatever was offered to it since it was made. -/
theorem tally_recordAll {capacity : Nat} (pos : 0 < capacity) (policy : OverrunPolicy)
    (offered : List Sample) :
    ((blank capacity policy pos).recordAll offered).Tally capacity policy offered := by
  have same := capacity_recordAll (blank capacity policy pos) offered
  cases policy with
  | overwrite =>
    have tally := ((overwriting_blank pos).recordAll offered).tally
    rwa [same] at tally
  | reject =>
    have tally := ((rejecting_blank pos).recordAll offered).tally
    rwa [same] at tally

/-- The answer to one more sample is the slot for its position. -/
theorem record_recordAll_blank {capacity : Nat} (pos : 0 < capacity) (policy : OverrunPolicy)
    (offered : List Sample) (s : Sample) :
    (((blank capacity policy pos).recordAll offered).record s).2 = policy.slotOf capacity offered.length := by
  have same := capacity_recordAll (blank capacity policy pos) offered
  cases policy with
  | overwrite =>
    have slot := ((overwriting_blank pos).recordAll offered).record_slot s
    rwa [same] at slot
  | reject =>
    have slot := ((rejecting_blank pos).recordAll offered).record_slot s
    rwa [same] at slot

/-- **What a ring keeps.** A ring of at least one slot can be made, and whatever samples are then offered to
it, each is answered with the slot for its position, and all answers in the end tally with them. -/
theorem new_ring_tally {capacity : Nat} (pos : 0 < capacity) (policy : OverrunPolicy) :
    ∃ empty, Ring.new capacity policy = .ok empty ∧ ∀ offered : List Sample,
      (∀ k (h : k < offered.length),
        ((empty.recordAll (offered.take k)).record offered[k]).2 = policy.slotOf capacity k) ∧
      (empty.recordAll offered).Tally capacity policy offered := by
  refine ⟨blank capacity policy pos, new_eq_ok pos, ?_⟩
  intro offered
  constructor
  · intro k h
    rw [record_recordAll_blank pos, List.length_take, Nat.min_eq_left (Nat.le_of_lt h)]
  · exact tally_recordAll pos policy offered

/-- The third of three samples takes the first of two slots, whatever they are. -/
theorem new_ring_tally_wrapped : 0 < 2 ∧ ∃ empty, Ring.new 2 .overwrite = .ok empty ∧
    ∀ a b c : Sample, ((empty.recordAll [a, b]).record c).2 = some 0 ∧
      (empty.recordAll [a, b, c]).samples = [b, c] ∧ (empty.recordAll [a, b, c]).wraps = 1 := by
  obtain ⟨empty, made, all⟩ := new_ring_tally (by decide : 0 < 2) .overwrite
  refine ⟨by decide, empty, made, ?_⟩
  intro a b c
  obtain ⟨slots, tally⟩ := all [a, b, c]
  exact ⟨slots 2 (Nat.lt_add_one 2), tally.samples, by simp [tally.wraps]⟩

end Ring

end TaskTiming
