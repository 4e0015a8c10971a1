import TaskTiming.Os.IoError

/-!
# Byte sources

A source answers call by call: with a piece of its bytes, with none of them, with an interruption or with a
failure. It may go on behind any of these; when its answers are used up it ends or fails for good. What is
taken stops at the first answer that brings nothing, and does not depend on the pieces and interruptions
before it (`take_of_le`). A source may also bring all its bytes before it stops for good (`Ends`), and then
nothing else decides what is taken (`Ends.take_eq`).
-/

namespace TaskTiming.Log
set_option autoImplicit false

/-- One answer of a source. An empty piece says that there are no bytes. -/
inductive Delivery
  | bytes (piece : List UInt8)
  | interrupted
  | failed (cause : IoError)
deriving DecidableEq

/-- What a source says in place of bytes. -/
inductive Ending
  | eof
  | fails (cause : IoError)
deriving DecidableEq

structure Source where
  deliveries : List Delivery
  /-- What it says to all calls behind those. -/
  ending : Ending
deriving DecidableEq

namespace Delivery

/-- It brings a byte, or the call is to be made again. -/
def GoesOn : Delivery → Prop
  | .bytes piece => piece ≠ []
  | .interrupted => True
  | .failed _ => False

instance : DecidablePred GoesOn
  | .bytes piece => inferInstanceAs (Decidable (piece ≠ []))
  | .interrupted => inferInstanceAs (Decidable True)
  | .failed _ => inferInstanceAs (Decidable False)

/-- The bytes that it brings. -/
def brought : Delivery → List UInt8
  | .bytes piece => piece
  | .interrupted => []
  | .failed _ => []

end Delivery

/-- What comes of a request behind the bytes taken, if there are no more. -/
def Ending.settle (taken : List UInt8) : Ending → Except IoError (List UInt8)
  | .eof => .ok taken
  | .fails cause => .error cause

namespace Source

/-- Everything in one piece. -/
def ofBytes (bytes : List UInt8) : Source :=
  { deliveries := if bytes = [] then [] else [.bytes bytes], ending := .eof }

/-- The bytes that deliveries bring up to the first that does not go on. -/
def flatten : List Delivery → List UInt8
  | [] => []
  | .bytes [] :: _ => []
  | .bytes (b :: piece) :: ds => b :: piece ++ flatten ds
  | .interrupted :: ds => flatten ds
  | .failed _ :: _ => []

/-- The bytes still to come before the source first stops. -/
def rest (s : Source) : List UInt8 := flatten s.deliveries

/-- All bytes are still to come before the source first stops, and then it has stopped for good. -/
structure Ends (s : Source) (e : Ending) : Prop where
  goesOn : ∀ d ∈ s.deliveries, d.GoesOn
  ending : s.ending = e

instance (s : Source) (e : Ending) : Decidable (s.Ends e) :=
  decidable_of_iff ((∀ d ∈ s.deliveries, d.GoesOn) ∧ s.ending = e) ⟨fun h => ⟨h.1, h.2⟩, fun h => ⟨h.1, h.2⟩⟩

theorem rest_ofBytes (bytes : List UInt8) : (ofBytes bytes).rest = bytes := by
  cases bytes <;> simp [ofBytes, rest, flatten]

theorem ends_ofBytes (bytes : List UInt8) : (ofBytes bytes).Ends .eof := by
  refine ⟨?_, rfl⟩
  cases bytes <;> simp [ofBytes, Delivery.GoesOn]

/-- Up to `n` bytes behind those that were taken, and what stays. Interruptions are waited out, and a failure
forgets what was taken. -/
def gather (ending : Ending) : Nat → List UInt8 → List Delivery → Except IoError (List UInt8) × List Delivery
  | 0, taken, ds => (.ok taken, ds)
  | _ + 1, taken, [] => (ending.settle taken, [])
  | n + 1, taken, .interrupted :: ds => gather ending (n + 1) taken ds
  | _ + 1, _, .failed cause :: ds => (.error cause, ds)
  | _ + 1, taken, .bytes [] :: ds => (.ok taken, ds)
  | n + 1, taken, .bytes (b :: piece) :: ds =>
    if piece.length ≤ n then gather ending (n - piece.length) (taken ++ b :: piece) ds
    else (.ok (taken ++ b :: piece.take n), .bytes (piece.drop n) :: ds)

/-- Takes `n` bytes, or the fewer that come before the source stops. -/
def take (n : Nat) (s : Source) : Except IoError (List UInt8) × Source :=
  let (taken, deliveries) := gather s.ending n [] s.deliveries
  (taken, { s with deliveries })

variable {e : Ending} {n : Nat} {ds : List Delivery} {s : Source}

theorem gather_of_le (e : Ending) (taken : List UInt8) (enough : n ≤ (flatten ds).length) :
    (gather e n taken ds).1 = .ok (taken ++ (flatten ds).take n) ∧
      flatten (gather e n taken ds).2 = (flatten ds).drop n := by
  fun_induction gather e n taken ds with
  | case1 taken ds => simp
  | case2 n taken => simp [flatten] at enough
  | case3 n taken ds ih => exact ih enough
  | case4 n taken cause ds => simp [flatten] at enough
  | case5 n taken ds => simp [flatten] at enough
  | case6 n taken b piece ds fits ih =>
    simp only [flatten, List.cons_append, List.length_cons, List.length_append] at enough
    obtain ⟨first, left⟩ := ih (by omega)
    rw [first, left]
    simp only [flatten, List.cons_append, List.take_succ_cons, List.drop_succ_cons, List.take_append,
      List.drop_append, List.take_of_length_le fits, List.drop_of_length_le fits, List.append_assoc,
      List.nil_append, and_self]
  | case7 n taken b piece ds long =>
    have none : n - piece.length = 0 := by omega
    have some : piece.drop n ≠ [] := by
      rw [Ne, List.drop_eq_nil_iff]
      omega
    obtain ⟨c, cut, here⟩ := List.exists_cons_of_ne_nil some
    simp only [flatten, List.cons_append, List.take_succ_cons, List.drop_succ_cons, List.take_append,
      List.drop_append, none, here]
    simp

/-- Enough bytes are taken whatever the source does behind them. -/
theorem take_of_le (enough : n ≤ s.rest.length) :
    (s.take n).1 = .ok (s.rest.take n) ∧ (s.take n).2.rest = s.rest.drop n := by
  have gathered := gather_of_le s.ending [] enough
  rwa [List.nil_append] at gathered

theorem gather_of_goesOn (e : Ending) (n : Nat) (taken : List UInt8) (goesOn : ∀ d ∈ ds, d.GoesOn) :
    (∀ d ∈ (gather e n taken ds).2, d.GoesOn) ∧
      ((flatten ds).length < n → gather e n taken ds = (e.settle (taken ++ flatten ds), [])) := by
  fun_induction gather e n taken ds with
  | case1 taken ds => exact ⟨goesOn, fun few => absurd few (Nat.not_lt_zero _)⟩
  | case2 n taken => simp [flatten]
  | case3 n taken ds ih => exact ih fun d mem => goesOn d (List.mem_cons_of_mem _ mem)
  | case4 n taken cause ds => exact (goesOn _ List.mem_cons_self).elim
  | case5 n taken ds => exact (goesOn _ List.mem_cons_self rfl).elim
  | case6 n taken b piece ds fits ih =>
    obtain ⟨later, few⟩ := ih fun d mem => goesOn d (List.mem_cons_of_mem _ mem)
    refine ⟨later, fun short => ?_⟩
    simp only [flatten, List.cons_append, List.length_cons, List.length_append] at short
    rw [few (by omega)]
    simp [flatten]
  | case7 n taken b piece ds long =>
    refine ⟨List.forall_mem_cons.2 ⟨?_, fun d mem => goesOn d (List.mem_cons_of_mem _ mem)⟩, fun short => ?_⟩
    · show piece.drop n ≠ []
      rw [Ne, List.drop_eq_nil_iff]
      omega
    · simp only [flatten, List.cons_append, List.length_cons, List.length_append] at short
      omega

theorem Ends.take (ends : s.Ends e) (n : Nat) : (s.take n).2.Ends e :=
  ⟨(gather_of_goesOn s.ending n [] ends.goesOn).1, ends.ending⟩

/-- Only the bytes still to come and the ending decide what is taken. -/
theorem Ends.take_eq (ends : s.Ends e) (n : Nat) :
    (s.take n).1 = if n ≤ s.rest.length then .ok (s.rest.take n) else e.settle s.rest := by
  split
  · rename_i enough
    exact (take_of_le enough).1
  · rename_i few
    have short := (gather_of_goesOn s.ending n [] ends.goesOn).2 (Nat.not_le.1 few)
    rw [Source.take, short, ends.ending]
    rfl

theorem Ends.take_rest (ends : s.Ends e) (n : Nat) : (s.take n).2.rest = s.rest.drop n := by
  by_cases enough : n ≤ s.rest.length
  · exact (take_of_le enough).2
  · have short := (gather_of_goesOn s.ending n [] ends.goesOn).2 (Nat.not_le.1 enough)
    rw [Source.take, short, List.drop_of_length_le (Nat.le_of_not_le enough)]
    rfl

/-- How many bytes there are in all. -/
def size (s : Source) : Nat := (s.deliveries.flatMap Delivery.brought).length

theorem gather_size {taken bytes : List UInt8} {left : List Delivery} (ok : gather e n taken ds = (.ok bytes, left)) :
    (left.flatMap Delivery.brought).length + bytes.length ≤ (ds.flatMap Delivery.brought).length + taken.length := by
  fun_induction gather e n taken ds with
  | case1 taken ds => cases ok; exact Nat.le_refl _
  | case2 n taken =>
    cases e <;> cases ok
    exact Nat.le_refl _
  | case3 n taken ds ih =>
    have later := ih ok
    rwa [List.flatMap_cons, Delivery.brought, List.nil_append]
  | case4 n taken cause ds => cases ok
  | case5 n taken ds =>
    cases ok
    simp [Delivery.brought]
  | case6 n taken b piece ds fits ih =>
    have later := ih ok
    simp only [List.flatMap_cons, Delivery.brought, List.length_append, List.length_cons] at later ⊢
    omega
  | case7 n taken b piece ds long =>
    cases ok
    simp only [List.flatMap_cons, Delivery.brought, List.length_append, List.length_cons,
      List.length_take, List.length_drop]
    omega

/-- The bytes that are taken come off those of the source. -/
theorem take_size {bytes : List UInt8} {s' : Source} (ok : s.take n = (.ok bytes, s')) :
    s'.size + bytes.length ≤ s.size := by
  unfold take at ok
  generalize gathered : gather s.ending n [] s.deliveries = result at ok
  obtain ⟨said, left⟩ := result
  cases ok
  exact gather_size gathered

end Source

end TaskTiming.Log
