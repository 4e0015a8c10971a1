import TaskTiming.Proofs.Log.Plan

/-!
# Sources in pieces

A source is read call by call (`Source.read`): a call may bring fewer bytes than it has room for, or none, or
be interrupted. A buffer is filled by calls in a loop (`Source.fill`), and the loop brings what `Source.take`
does (`fill_eq_take`). Readers do not notice the pieces either: from two sources with the same bytes and the
same ending they get the same header, which is read by a plan (`Plan.uniform`), and then the same answers
(`told_new`).
-/

namespace TaskTiming.Log
set_option autoImplicit false

namespace Source

/-- A call with room for that many bytes. At the end it brings none. -/
def read (room : Nat) (s : Source) : Delivery × Source :=
  match s.deliveries with
  | [] =>
    match s.ending with
    | .eof => (.bytes [], s)
    | .fails cause => (.failed cause, s)
  | .bytes piece :: ds =>
    if piece.length ≤ room then (.bytes piece, { s with deliveries := ds })
    else (.bytes (piece.take room), { s with deliveries := .bytes (piece.drop room) :: ds })
  | .interrupted :: ds => (.interrupted, { s with deliveries := ds })
  | .failed cause :: ds => (.failed cause, { s with deliveries := ds })

/-- A call takes a delivery, or as many bytes as there is room for. -/
theorem length_deliveries_read {room : Nat} {s s' : Source} {answer : Delivery}
    (call : s.read room = (answer, s')) :
    s'.deliveries.length ≤ s.deliveries.length ∧
      (answer = .interrupted → s'.deliveries.length < s.deliveries.length) := by
  unfold read at call
  split at call
  · split at call <;> cases call <;> exact ⟨Nat.le_refl _, nofun⟩
  · rename_i here
    split at call <;> cases call <;> simp [here]
  · rename_i here
    cases call
    simp [here]
  · rename_i here
    cases call
    simp [here]

/-- A call brings no more bytes than there is room for. -/
theorem length_of_read {room : Nat} {s s' : Source} {piece : List UInt8}
    (call : s.read room = (.bytes piece, s')) : piece.length ≤ room := by
  unfold read at call
  split at call
  · split at call <;> cases call
    exact Nat.zero_le room
  · split at call
    · cases call
      assumption
    · cases call
      exact List.length_take_le room _
  · cases call
  · cases call

/-- Calls until `n` bytes are there, or until a call brings none. Interrupted calls are made again. -/
def fill (n : Nat) (filled : List UInt8) (s : Source) : Except IoError (List UInt8) × Source :=
  if filled.length < n then
    match _call : s.read (n - filled.length) with
    | (.bytes [], s') => (.ok filled, s')
    | (.bytes (b :: piece), s') => s'.fill n (filled ++ b :: piece)
    | (.interrupted, s') => s'.fill n filled
    | (.failed cause, s') => (.error cause, s')
  else (.ok filled, s)
termination_by n - filled.length + s.deliveries.length
decreasing_by
  · have fewer := (length_deliveries_read _call).1
    rw [List.length_append, List.length_cons]
    omega
  · have fewer := (length_deliveries_read _call).2 rfl
    omega

/-- Takes up to `n` bytes behind those taken before. -/
def takeMore (n : Nat) (taken : List UInt8) (s : Source) : Except IoError (List UInt8) × Source :=
  let (taken, deliveries) := gather s.ending n taken s.deliveries
  (taken, { s with deliveries })

variable {s : Source} {n : Nat} {taken : List UInt8}

theorem takeMore_zero (s : Source) (taken : List UInt8) : s.takeMore 0 taken = (.ok taken, s) := by
  simp only [takeMore, gather]

/-- What is taken behind a call that was made for `n` bytes. -/
def takeBehind (n : Nat) (taken : List UInt8) : Delivery × Source → Except IoError (List UInt8) × Source
  | (.bytes [], s) => (.ok taken, s)
  | (.bytes (b :: piece), s) => s.takeMore (n - (b :: piece).length) (taken ++ b :: piece)
  | (.interrupted, s) => s.takeMore n taken
  | (.failed cause, s) => (.error cause, s)

/-- What is taken is what a call brings, and then more. -/
theorem takeMore_eq_takeBehind (some : 0 < n) : s.takeMore n taken = takeBehind n taken (s.read n) := by
  obtain ⟨n, rfl⟩ := Nat.exists_eq_succ_of_ne_zero (Nat.ne_of_gt some)
  obtain ⟨deliveries, ending⟩ := s
  match deliveries with
  | [] => cases ending <;> rfl
  | .interrupted :: ds => rfl
  | .failed cause :: ds => rfl
  | .bytes [] :: ds => rfl
  | .bytes (b :: piece) :: ds =>
    by_cases fits : (b :: piece).length ≤ n + 1
    · have call : read (n + 1) ⟨.bytes (b :: piece) :: ds, ending⟩ = (.bytes (b :: piece), ⟨ds, ending⟩) :=
        if_pos fits
      have fits' : piece.length ≤ n := Nat.le_of_succ_le_succ fits
      rw [call]
      simp only [takeMore, takeBehind, gather, if_pos fits', List.length_cons, Nat.succ_eq_add_one,
        Nat.add_sub_add_right]
    · have call : read (n + 1) ⟨.bytes (b :: piece) :: ds, ending⟩ =
          (.bytes (b :: piece.take n), ⟨.bytes (piece.drop n) :: ds, ending⟩) := if_neg fits
      have long : ¬piece.length ≤ n := fun fits' => fits (Nat.succ_le_succ fits')
      have full : n + 1 - (b :: piece.take n).length = 0 := by
        rw [List.length_cons, List.length_take]
        omega
      rw [call, takeBehind, full, takeMore_zero]
      simp only [takeMore, gather, if_neg long]

/-- A loop takes what is missing. -/
theorem fill_eq_takeMore (room : taken.length ≤ n) : s.fill n taken = s.takeMore (n - taken.length) taken := by
  fun_induction fill n taken s with
  | case1 taken s less s' call =>
    rw [takeMore_eq_takeBehind (Nat.sub_pos_of_lt less), call]
    rfl
  | case2 taken s less b piece s' call ih =>
    have fits := length_of_read call
    have room' : (taken ++ b :: piece).length ≤ n := by
      rw [List.length_append]
      omega
    rw [takeMore_eq_takeBehind (Nat.sub_pos_of_lt less), call, ih room', takeBehind, List.length_append,
      Nat.sub_add_eq]
  | case3 taken s less s' call ih =>
    rw [takeMore_eq_takeBehind (Nat.sub_pos_of_lt less), call, ih room]
    rfl
  | case4 taken s less cause s' call =>
    rw [takeMore_eq_takeBehind (Nat.sub_pos_of_lt less), call]
    rfl
  | case5 taken s enough =>
    have none : n - taken.length = 0 := by omega
    rw [none, takeMore_zero]

/-- **A loop of calls brings what is taken**, whatever the source answers. -/
theorem fill_eq_take (s : Source) (n : Nat) : s.fill n [] = s.take n := fill_eq_takeMore (Nat.zero_le n)

/-- What stays after bytes were taken several times. -/
def takes (counts : List Nat) (s : Source) : Source := counts.foldl (fun s n => (s.take n).2) s

/-! ## Sources alike -/

/-- The same bytes are still to come, and then the same ending for good. -/
structure Alike (s t : Source) : Prop where
  rest : s.rest = t.rest
  ends : ∃ e, s.Ends e ∧ t.Ends e

variable {t : Source}

/-- The same is taken, and what stays is alike. -/
theorem Alike.take (alike : s.Alike t) (n : Nat) :
    (s.take n).1 = (t.take n).1 ∧ (s.take n).2.Alike (t.take n).2 := by
  obtain ⟨e, ends, ends'⟩ := alike.ends
  refine ⟨?_, ?_, e, ends.take n, ends'.take n⟩
  · rw [ends.take_eq, ends'.take_eq, alike.rest]
  · rw [ends.take_rest, ends'.take_rest, alike.rest]

end Source

/-- The same result, and sources left alike. -/
inductive Agree {α : Type} : Result (α × Source) → Result (α × Source) → Prop
  | error (e : Error) : Agree (.error e) (.error e)
  | ok (a : α) {s t : Source} (alike : s.Alike t) : Agree (.ok (a, s)) (.ok (a, t))

/-- Sources alike are read alike. -/
def Uniform {α : Type} (m : HeaderReader α) : Prop := ∀ ⦃s t : Source⦄, s.Alike t → Agree (m s) (m t)

section Uniform

variable {α β : Type} {m : HeaderReader α} {f : α → HeaderReader β}

theorem Uniform.pure (a : α) : Uniform (Pure.pure a) := fun _ _ alike => .ok a alike

theorem Uniform.corrupt (fault : LogFault) : Uniform (corrupt fault : HeaderReader α) :=
  fun _ _ _ => .error _

theorem Uniform.bind (first : Uniform m) (second : ∀ a, Uniform (f a)) : Uniform (m >>= f) := by
  intro s t alike
  show Agree (m s >>= fun p => f p.1 p.2) (m t >>= fun p => f p.1 p.2)
  have agree := first alike
  generalize m s = result at agree
  generalize m t = result' at agree
  cases agree with
  | error e => exact .error e
  | ok a alike' => exact second a alike'

theorem takePart_uniform (part : HeaderPart) (n : Nat) : Uniform (takePart part n) := by
  intro s t alike
  obtain ⟨same, left⟩ := alike.take n
  unfold takePart
  generalize s.take n = first at same left
  generalize t.take n = second at same left
  obtain ⟨result, s'⟩ := first
  obtain ⟨result', t'⟩ := second
  obtain rfl : result = result' := same
  cases result with
  | error cause => exact .error _
  | ok taken =>
    dsimp only
    split
    · exact .ok taken left
    · exact .error _

theorem Plan.uniform (plan : Plan α) : Uniform plan.run := by
  induction plan with
  | done a => exact .pure a
  | refuse fault => exact .corrupt fault
  | part p length next ih => exact (takePart_uniform p length).bind ih

theorem Header.decode_uniform : Uniform Header.decode := by
  obtain ⟨plan, planned⟩ := Header.decode_planned
  rw [← planned]
  exact plan.uniform

end Uniform

/-! ## Readers alike -/

namespace Reader

/-- The same header, and sources alike. -/
structure Alike (r q : Reader) : Prop where
  header : r.header = q.header
  source : r.source.Alike q.source

/-- What the call after `k` others answers. -/
def answer (r : Reader) (k : Nat) : Result (Option Sample) := (r.skip k).next.1

variable {r q : Reader}

/-- The answer is the same, and the readers stay alike. -/
theorem Alike.next (alike : r.Alike q) : r.next.1 = q.next.1 ∧ r.next.2.Alike q.next.2 := by
  obtain ⟨same, left⟩ := alike.source.take recordSize
  unfold Reader.next
  generalize r.source.take recordSize = first at same left
  generalize q.source.take recordSize = second at same left
  obtain ⟨result, s⟩ := first
  obtain ⟨result', t⟩ := second
  obtain rfl : result = result' := same
  match result with
  | .error cause => exact ⟨rfl, alike.header, left⟩
  | .ok [] => exact ⟨rfl, alike.header, left⟩
  | .ok (b :: bytes) => exact ⟨rfl, alike.header, left⟩

theorem Alike.skip (alike : r.Alike q) (k : Nat) : (r.skip k).Alike (q.skip k) := by
  induction k generalizing r q with
  | zero => exact alike
  | succ k ih => exact ih alike.next.2

theorem Alike.answer (alike : r.Alike q) : r.answer = q.answer := by
  funext k
  exact (alike.skip k).next.1

/-- What there is to learn of a reader: its header, and its answers call by call. -/
def told (r : Reader) : Header × (Nat → Result (Option Sample)) := (r.header, r.answer)

/-- **Readers do not notice pieces.** From sources alike they get the same header, or the same error, and
then the same answers. -/
theorem told_new {s t : Source} (alike : s.Alike t) : (new s).map told = (new t).map told := by
  have agree := Header.decode_uniform alike
  unfold new
  generalize Header.decode s = result at agree
  generalize Header.decode t = result' at agree
  cases agree with
  | error e => rfl
  | @ok h s' t' left =>
    have alike : Alike ⟨h, s'⟩ ⟨h, t'⟩ := ⟨rfl, left⟩
    show Except.ok (told _) = Except.ok (told _)
    rw [told, told, alike.answer]

end Reader

end TaskTiming.Log
