import Mathlib.Algebra.Group.Nat.Defs
import TaskTiming.Measure

/-!
# What running statistics tell

A measure knows of the values it was given how many they are, the least and the greatest of them, and
their total as far as that is a time (`Measure.Tells`). It does so value by value until it can count no
further (`recordAll_tells`), and in whatever order the values come
(`statistics_are_exact_in_any_order`).
-/

namespace TaskTiming.Measure
set_option autoImplicit false

/-- What a measure tells of values in nanoseconds. -/
structure Tells (m : Measure) (values : List Nat) : Prop where
  count : m.count.toNat = values.length
  least : values ≠ [] → m.least.toNanos ∈ values ∧ ∀ v ∈ values, m.least.toNanos ≤ v
  greatest : values ≠ [] → m.greatest.toNanos ∈ values ∧ ∀ v ∈ values, v ≤ m.greatest.toNanos
  total : m.total.toNanos = min (values.foldl (· + ·) 0) Time.max.toNanos

variable {m : Measure} {values : List Nat}

theorem tells_empty : Measure.empty.Tells [] where
  count := rfl
  least some := absurd rfl some
  greatest some := absurd rfl some
  total := rfl

theorem Tells.count_eq_zero (tells : m.Tells values) : m.count = 0 ↔ values = [] := by
  rw [← UInt64.toNat_inj, tells.count]
  exact List.length_eq_zero_iff

theorem Tells.count_eq_max (tells : m.Tells values) :
    m.count = Word.max64 ↔ values.length = Word.max64.toNat := by
  rw [← UInt64.toNat_inj, tells.count]

/-- One value alone. -/
theorem tells_first (none : m.count = 0) (value : Time) : (m.record value).Tells [value.toNanos] := by
  unfold record
  rw [if_pos none]
  have small := value.toNanos_le_max
  refine ⟨rfl, fun _ => ⟨List.mem_singleton_self _, ?_⟩, fun _ => ⟨List.mem_singleton_self _, ?_⟩, ?_⟩
  · intro v mem
    exact Nat.le_of_eq (List.mem_singleton.1 mem).symm
  · intro v mem
    exact Nat.le_of_eq (List.mem_singleton.1 mem)
  · rw [List.foldl_cons, List.foldl_nil, Nat.zero_add]
    exact (Nat.min_eq_left small).symm

/-- The extreme of values and one more is the extreme of the old one and the new value. -/
theorem extreme_snoc {r : Nat → Nat → Prop} (trans : ∀ {x y z}, r x y → r y z → r x z) {a b c : Nat}
    (extreme : a ∈ values ∧ ∀ v ∈ values, r a v) (one : c = a ∨ c = b) (old : r c a) (new : r c b) :
    c ∈ values ++ [b] ∧ ∀ v ∈ values ++ [b], r c v := by
  constructor
  · rcases one with rfl | rfl
    · exact List.mem_append_left _ extreme.1
    · exact List.mem_append_right _ (List.mem_singleton_self _)
  · intro v mem
    rcases List.mem_append.1 mem with before | last
    · exact trans old (extreme.2 v before)
    · rwa [List.mem_singleton.1 last]

/-- **One more value is told as well**, while there is room to count it. -/
theorem Tells.record (tells : m.Tells values) (room : values.length < Word.max64.toNat) (value : Time) :
    (m.record value).Tells (values ++ [value.toNanos]) := by
  by_cases none : m.count = 0
  · have nil := tells.count_eq_zero.1 none
    subst nil
    exact tells_first none value
  · have some : values ≠ [] := mt tells.count_eq_zero.2 none
    have short : m.count ≠ Word.max64 := mt tells.count_eq_max.1 (Nat.ne_of_lt room)
    unfold Measure.record
    rw [if_neg none, if_neg short]
    refine ⟨?_, fun _ => ?_, fun _ => ?_, ?_⟩
    · rw [Word.toNat_max64] at room
      simp only [UInt64.toNat_add, tells.count, List.length_append, List.length_singleton]
      exact Nat.mod_eq_of_lt (by simpa using by omega)
    · dsimp only
      rw [Time.toNanos_min]
      refine extreme_snoc (r := (· ≤ ·)) Nat.le_trans (tells.least some) ?_ (Nat.min_le_left _ _)
        (Nat.min_le_right _ _)
      omega
    · dsimp only
      rw [Time.toNanos_maxOf]
      refine extreme_snoc (r := (· ≥ ·)) (fun first second => Nat.le_trans second first)
        (tells.greatest some) ?_ (Nat.le_max_left _ _) (Nat.le_max_right _ _)
      show max _ _ = _ ∨ max _ _ = _
      omega
    · have total := tells.total
      dsimp only
      rw [Time.add_eq, Time.toNanos_ofNanosClamped, List.foldl_append, List.foldl_cons, List.foldl_nil]
      omega

/-- A full count takes no further value. -/
theorem Tells.record_of_full (tells : m.Tells values) (full : values.length = Word.max64.toNat) (value : Time) :
    m.record value = m := by
  have some : m.count ≠ 0 := by
    rw [tells.count_eq_max.2 full]
    decide
  unfold Measure.record
  rw [if_neg some, if_pos (tells.count_eq_max.2 full)]

theorem recordAll_snoc (m : Measure) (values : List Time) (value : Time) :
    m.recordAll (values ++ [value]) = (m.recordAll values).record value := by
  simp [recordAll]

theorem Tells.recordAll (tells : m.Tells values) (counted : values.length ≤ Word.max64.toNat)
    (more : List Time) :
    (m.recordAll more).Tells ((values ++ more.map Time.toNanos).take Word.max64.toNat) := by
  induction more generalizing m values with
  | nil =>
    rw [List.map_nil, List.append_nil, List.take_of_length_le counted]
    exact tells
  | cons value more ih =>
    rcases Nat.lt_or_eq_of_le counted with room | full
    · have later := ih (tells.record room value) (by rw [List.length_append]; exact room)
      rwa [List.append_assoc] at later
    · have same : m.recordAll (value :: more) = m.recordAll more := by
        show (m.record value).recordAll more = _
        rw [tells.record_of_full full]
      have later := ih tells counted
      rw [← full, List.take_left] at later
      rwa [same, ← full, List.take_left]

/-- **All values are told**, up to as many as can be counted. -/
theorem recordAll_tells (values : List Time) :
    (Measure.empty.recordAll values).Tells ((values.map Time.toNanos).take Word.max64.toNat) :=
  tells_empty.recordAll (Nat.zero_le _) values

/-! ## Any order -/

/-- The fields that are kept exactly, as the values have them. -/
structure Summarizes (m : Measure) (values : List Time) : Prop where
  count : m.count.toNat = values.length
  least : m.least ∈ values ∧ ∀ v ∈ values, m.least ≤ v
  greatest : m.greatest ∈ values ∧ ∀ v ∈ values, v ≤ m.greatest
  total : m.total.toNanos = min ((values.map Time.toNanos).foldl (· + ·) 0) Time.max.toNanos

theorem mem_of_toNanos_mem {t : Time} {values : List Time} (mem : t.toNanos ∈ values.map Time.toNanos) :
    t ∈ values := by
  obtain ⟨v, there, same⟩ := List.mem_map.1 mem
  rwa [← Time.ext_toNanos same]

theorem Tells.summarizes {values : List Time} (tells : m.Tells (values.map Time.toNanos)) (some : values ≠ []) :
    m.Summarizes values where
  count := by rw [tells.count, List.length_map]
  least := by
    obtain ⟨mem, below⟩ := tells.least (mt List.map_eq_nil_iff.1 some)
    exact ⟨mem_of_toNanos_mem mem, fun v there => Time.le_iff_toNanos.2 (below _ (List.mem_map_of_mem there))⟩
  greatest := by
    obtain ⟨mem, above⟩ := tells.greatest (mt List.map_eq_nil_iff.1 some)
    exact ⟨mem_of_toNanos_mem mem, fun v there => Time.le_iff_toNanos.2 (above _ (List.mem_map_of_mem there))⟩
  total := tells.total

theorem recordAll_summarizes {values : List Time} (some : values ≠ []) (counted : values.length < 2 ^ 64) :
    (Measure.empty.recordAll values).Summarizes values := by
  have tells := recordAll_tells values
  rw [List.take_of_length_le (by rw [List.length_map, Word.toNat_max64]; omega)] at tells
  exact tells.summarizes some

namespace Summarizes

variable {m' : Measure} {values others : List Time}

/-- The values may stand in any order. -/
theorem perm (summarizes : m.Summarizes values) (perm : values.Perm others) : m.Summarizes others where
  count := by rw [summarizes.count, perm.length_eq]
  least := ⟨perm.mem_iff.1 summarizes.least.1, fun v there => summarizes.least.2 v (perm.mem_iff.2 there)⟩
  greatest := ⟨perm.mem_iff.1 summarizes.greatest.1, fun v there => summarizes.greatest.2 v (perm.mem_iff.2 there)⟩
  total := by
    have same := (perm.map Time.toNanos).sum_nat
    rw [List.sum_eq_foldl_nat, List.sum_eq_foldl_nat] at same
    rw [summarizes.total, same]

/-- The values say what the fields are. -/
theorem unique (one : m.Summarizes values) (other : m'.Summarizes values) :
    m'.count = m.count ∧ m'.least = m.least ∧ m'.greatest = m.greatest ∧ m'.total = m.total := by
  have least := Time.le_iff_toNanos.1 (one.least.2 _ other.least.1)
  have least' := Time.le_iff_toNanos.1 (other.least.2 _ one.least.1)
  have greatest := Time.le_iff_toNanos.1 (one.greatest.2 _ other.greatest.1)
  have greatest' := Time.le_iff_toNanos.1 (other.greatest.2 _ one.greatest.1)
  refine ⟨UInt64.toNat_inj.1 ?_, Time.ext_toNanos ?_, Time.ext_toNanos ?_, Time.ext_toNanos ?_⟩
  · rw [other.count, one.count]
  · exact Nat.le_antisymm least' least
  · exact Nat.le_antisymm greatest greatest'
  · rw [other.total, one.total]

end Summarizes

/-- **Statistics are exact, whatever the order of the values.** Of any values, fewer than a word can count, a
measure that started empty holds the number, the least and the greatest one, and the smaller one of their exact
sum and the longest time, no matter when the total got there; in another order they leave the same four
fields. -/
theorem statistics_are_exact_in_any_order (values : List Time) (some : values ≠ [])
    (counted : values.length < 2 ^ 64) :
    (empty.recordAll values).Summarizes values ∧
    ∀ others, others.Perm values →
      (empty.recordAll others).count = (empty.recordAll values).count ∧
      (empty.recordAll others).least = (empty.recordAll values).least ∧
      (empty.recordAll others).greatest = (empty.recordAll values).greatest ∧
      (empty.recordAll others).total = (empty.recordAll values).total := by
  have summarizes := recordAll_summarizes some counted
  refine ⟨summarizes, fun others perm => ?_⟩
  have some' : others ≠ [] := fun nil => some (List.nil_perm.1 (nil ▸ perm))
  have counted' : others.length < 2 ^ 64 := by rwa [perm.length_eq]
  exact summarizes.unique ((recordAll_summarizes some' counted').perm perm)

/-- The total is the longest time from the second of three values on, and in another order at the last. -/
theorem statistics_are_exact_in_any_order_saturated :
    [Time.ofSecs 2, .max, .ofSecs 1] ≠ [] ∧ [Time.ofSecs 2, .max, .ofSecs 1].length < 2 ^ 64 ∧
    [Time.ofSecs 1, .ofSecs 2, .max].Perm [.ofSecs 2, .max, .ofSecs 1] ∧
    (empty.recordAll [.ofSecs 2, .max, .ofSecs 1]).count.toNat = 3 ∧
    (empty.recordAll [.ofSecs 2, .max, .ofSecs 1]).total = .max ∧
    (empty.recordAll [.ofSecs 1, .ofSecs 2, .max]).least =
      (empty.recordAll [.ofSecs 2, .max, .ofSecs 1]).least ∧
    (empty.recordAll [.ofSecs 1, .ofSecs 2, .max]).total = .max := by
  have some : [Time.ofSecs 2, .max, .ofSecs 1] ≠ [] := List.cons_ne_nil _ _
  have counted : [Time.ofSecs 2, .max, .ofSecs 1].length < 2 ^ 64 := by decide
  have perm : [Time.ofSecs 1, .ofSecs 2, .max].Perm [.ofSecs 2, .max, .ofSecs 1] := by decide
  obtain ⟨summarizes, same⟩ := statistics_are_exact_in_any_order _ some counted
  obtain ⟨-, least, -, total⟩ := same _ perm
  have longest : (empty.recordAll [.ofSecs 2, .max, .ofSecs 1]).total = .max :=
    Time.ext_toNanos summarizes.total
  exact ⟨some, counted, perm, summarizes.count, longest, least, total.trans longest⟩

end TaskTiming.Measure
