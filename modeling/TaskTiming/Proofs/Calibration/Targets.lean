import TaskTiming.Proofs.Calibration.SafeSearch

/-!
# The targets of calibrations

The checks of a request come to one interval of targets: from the shortest one that is measurable and above the
tolerance to the longest one that a calibration aims for and that leaves room for all passes
(`validate_accepts_one_interval`). Every error has one cause (`Request.Rejects`) and quotes a limit that no accepted
target is beyond. The limit itself is accepted but for one case: a target beyond all calibrations is told their
limit, even where the passes leave less (`quoted_limit_is_accepted_iff`).
-/

namespace TaskTiming.Calibration
set_option autoImplicit false

namespace Request

/-- The same request with another target. -/
def aimed (r : Request) (target : Time) : Request := { r with target }

/-- The shortest target above the tolerance, in nanoseconds. -/
def shortest (r : Request) : Nat := max 10000 (r.tolerance.toNanos + 1)

/-- What all the time leaves for each pass and one more, in nanoseconds. -/
def share (r : Request) : Nat := 600000000000 / (r.maxPasses.toNat + 1)

/-- The longest target with so many passes, in nanoseconds. -/
def longest (r : Request) : Nat := min 60000000000 r.share

/-- What is wrong with a request. -/
inductive Rejects (r : Request) : Error → Prop
  | noTolerance (zero : r.tolerance.toNanos = 0) : Rejects r (.argument .toleranceZero)
  | noPasses (tolerance : 0 < r.tolerance.toNanos) (zero : r.maxPasses.toNat = 0) :
      Rejects r (.argument .passesZero)
  | short {minimum : Time} (tolerance : 0 < r.tolerance.toNanos) (passes : 0 < r.maxPasses.toNat)
      (below : r.target.toNanos < r.shortest) (quoted : minimum.toNanos = min r.shortest Time.max.toNanos) :
      Rejects r (.tooShort r.target minimum)
  /-- No calibration aims for the target. -/
  | long (tolerance : 0 < r.tolerance.toNanos) (passes : 0 < r.maxPasses.toNat)
      (above : r.shortest ≤ r.target.toNanos) (beyond : 60000000000 < r.target.toNanos) :
      Rejects r (.tooLong r.target maxTarget)
  /-- So many passes at the target take too long. -/
  | many {maximum : Time} (tolerance : 0 < r.tolerance.toNanos) (passes : 0 < r.maxPasses.toNat)
      (above : r.shortest ≤ r.target.toNanos) (most : r.target.toNanos ≤ 60000000000)
      (beyond : r.share < r.target.toNanos) (quoted : maximum.toNanos = r.share) :
      Rejects r (.tooLong r.target maximum)

/-- A request that nothing is wrong with. -/
structure Accepted (r : Request) : Prop where
  tolerance : 0 < r.tolerance.toNanos
  passes : 0 < r.maxPasses.toNat
  above : r.shortest ≤ r.target.toNanos
  below : r.target.toNanos ≤ r.longest

variable {r : Request} {e : Error}

theorem exists_share (r : Request) : ∃ t : Time, t.toNanos = r.share :=
  Time.exists_toNanos (Nat.le_trans (Nat.div_le_self _ _) (by decide))

theorem exists_minimum (r : Request) : ∃ t : Time, t.toNanos = min r.shortest Time.max.toNanos :=
  Time.exists_toNanos (Nat.min_le_right _ _)

/-- A request is accepted unless something is wrong with it. -/
theorem accepted_or_rejected (r : Request) : r.Accepted ∨ ∃ e, r.Rejects e := by
  by_cases untold : r.tolerance.toNanos = 0
  · exact .inr ⟨_, .noTolerance untold⟩
  have tolerance := Nat.pos_of_ne_zero untold
  by_cases none : r.maxPasses.toNat = 0
  · exact .inr ⟨_, .noPasses tolerance none⟩
  have passes := Nat.pos_of_ne_zero none
  by_cases above : r.shortest ≤ r.target.toNanos
  · by_cases most : r.target.toNanos ≤ 60000000000
    · by_cases few : r.target.toNanos ≤ r.share
      · exact .inl ⟨tolerance, passes, above, Nat.le_min.2 ⟨most, few⟩⟩
      · obtain ⟨maximum, quoted⟩ := r.exists_share
        exact .inr ⟨_, .many tolerance passes above most (Nat.lt_of_not_le few) quoted⟩
    · exact .inr ⟨_, .long tolerance passes above (Nat.lt_of_not_le most)⟩
  · obtain ⟨minimum, quoted⟩ := r.exists_minimum
    exact .inr ⟨_, .short tolerance passes (Nat.lt_of_not_le above) quoted⟩

/-- The minimum that is quoted. No time is above a tolerance that is the longest one, and then that one is quoted. -/
theorem toNanos_minimum (r : Request) :
    (Max.max minTarget (r.tolerance + .ofNanos 1)).toNanos = min r.shortest Time.max.toNanos := by
  have least : minTarget.toNanos = 10000 := by decide
  have one : (Time.ofNanos 1).toNanos = 1 := by decide
  have room : 10000 ≤ Time.max.toNanos := by decide
  rw [Time.toNanos_maxOf, Time.add_eq, Time.toNanos_ofNanosClamped, least, one, shortest]
  change max 10000 (min (r.tolerance.toNanos + 1) Time.max.toNanos) = _
  omega

theorem below_shortest_iff :
    (r.target < minTarget ∨ r.target ≤ r.tolerance) ↔ r.target.toNanos < r.shortest := by
  have least : minTarget.toNanos = 10000 := by decide
  rw [Time.lt_iff_toNanos, Time.le_iff_toNanos, least, shortest]
  omega

theorem maxPasses_ne_zero (passes : 0 < r.maxPasses.toNat) : r.maxPasses ≠ 0 := by
  rintro zero
  rw [zero] at passes
  cases passes

/-- What the passes take together decides about a target that is neither too short nor beyond all calibrations. -/
theorem validate_of_most (tolerance : 0 < r.tolerance.toNanos) (passes : 0 < r.maxPasses.toNat)
    (above : r.shortest ≤ r.target.toNanos) (most : r.target.toNanos ≤ 60000000000) :
    ∃ limit, limit.toNanos = r.share ∧
      r.validate = if r.share < r.target.toNanos then .error (.tooLong r.target limit) else .ok () := by
  have inside : ¬maxTarget < r.target := fun beyond => Nat.not_lt.2 most (Time.lt_iff_toNanos.1 beyond)
  obtain ⟨total, product, sum⟩ := exists_total inside
  obtain ⟨limit, quotient, part⟩ := exists_ofTime_div maxTotal (r.maxPasses.toNat + 1)
  have long : maxTotal < total ↔ r.share < r.target.toNanos := by
    rw [Time.lt_iff_toNanos, product]
    exact (Nat.div_lt_iff_lt_mul (Nat.succ_pos _)).symm
  refine ⟨limit, quotient, ?_⟩
  rw [validate, if_neg (Time.not_isZero_iff_toNanos.2 tolerance), if_neg (maxPasses_ne_zero passes),
    if_neg (fun below => Nat.not_lt.2 above (below_shortest_iff.1 below)), if_neg inside, sum]
  dsimp only [bind, Except.bind]
  simp only [long, part]
  rfl

theorem Rejects.validate (rejects : r.Rejects e) : r.validate = .error e := by
  cases rejects with
  | noTolerance zero => rw [Request.validate, if_pos (Time.isZero_iff_toNanos.2 zero)]
  | noPasses tolerance zero =>
    have none : r.maxPasses = 0 := UInt32.toNat_inj.1 zero
    rw [Request.validate, if_neg (Time.not_isZero_iff_toNanos.2 tolerance), if_pos none]
  | short tolerance passes below quoted =>
    rw [← toNanos_minimum, Time.toNanos_inj] at quoted
    rw [Request.validate, if_neg (Time.not_isZero_iff_toNanos.2 tolerance), if_neg (maxPasses_ne_zero passes),
      if_pos (below_shortest_iff.2 below), quoted]
  | long tolerance passes above beyond =>
    have long : maxTarget < r.target := Time.lt_iff_toNanos.2 beyond
    rw [Request.validate, if_neg (Time.not_isZero_iff_toNanos.2 tolerance), if_neg (maxPasses_ne_zero passes),
      if_neg (fun below => Nat.not_lt.2 above (below_shortest_iff.1 below)), if_pos long]
  | many tolerance passes above most beyond quoted =>
    obtain ⟨limit, share, judged⟩ := validate_of_most tolerance passes above most
    rw [← share, Time.toNanos_inj] at quoted
    rw [judged, if_pos beyond, quoted]

theorem Accepted.validate (accepted : r.Accepted) : r.validate = .ok () := by
  obtain ⟨most, few⟩ := Nat.le_min.1 accepted.below
  obtain ⟨limit, -, judged⟩ := validate_of_most accepted.tolerance accepted.passes accepted.above most
  rw [judged, if_neg (Nat.not_lt.2 few)]

theorem validate_eq_ok_iff : r.validate = .ok () ↔ r.Accepted := by
  constructor
  · intro valid
    obtain accepted | ⟨e, rejects⟩ := r.accepted_or_rejected
    · exact accepted
    · rw [rejects.validate] at valid
      cases valid
  · exact Accepted.validate

theorem validate_eq_error_iff : r.validate = .error e ↔ r.Rejects e := by
  constructor
  · intro refused
    obtain accepted | ⟨e', rejects⟩ := r.accepted_or_rejected
    · rw [accepted.validate] at refused
      cases refused
    · rw [rejects.validate] at refused
      cases refused
      exact rejects
  · exact Rejects.validate

theorem tooShort_iff : (∃ minimum, r.validate = .error (.tooShort r.target minimum)) ↔
    0 < r.tolerance.toNanos ∧ 0 < r.maxPasses.toNat ∧ r.target.toNanos < r.shortest := by
  constructor
  · rintro ⟨minimum, refused⟩
    cases validate_eq_error_iff.1 refused with
    | short tolerance passes below quoted => exact ⟨tolerance, passes, below⟩
  · rintro ⟨tolerance, passes, below⟩
    obtain ⟨minimum, quoted⟩ := r.exists_minimum
    exact ⟨minimum, (Rejects.short tolerance passes below quoted).validate⟩

theorem tooLong_iff : (∃ maximum, r.validate = .error (.tooLong r.target maximum)) ↔
    0 < r.tolerance.toNanos ∧ 0 < r.maxPasses.toNat ∧ r.shortest ≤ r.target.toNanos ∧
      r.longest < r.target.toNanos := by
  constructor
  · rintro ⟨maximum, refused⟩
    cases validate_eq_error_iff.1 refused with
    | long tolerance passes above beyond =>
      exact ⟨tolerance, passes, above, Nat.lt_of_le_of_lt (Nat.min_le_left _ _) beyond⟩
    | many tolerance passes above most beyond quoted =>
      exact ⟨tolerance, passes, above, Nat.lt_of_le_of_lt (Nat.min_le_right _ _) beyond⟩
  · rintro ⟨tolerance, passes, above, below⟩
    by_cases most : r.target.toNanos ≤ 60000000000
    · obtain ⟨maximum, quoted⟩ := r.exists_share
      have beyond : r.share < r.target.toNanos := by
        unfold longest at below
        omega
      exact ⟨maximum, (Rejects.many tolerance passes above most beyond quoted).validate⟩
    · exact ⟨maxTarget, (Rejects.long tolerance passes above (Nat.lt_of_not_le most)).validate⟩

/-! ## The limits that are quoted -/

theorem longest_le_room (r : Request) : r.longest ≤ Time.max.toNanos :=
  Nat.le_trans (Nat.min_le_left _ _) (by decide)

/-- Some target is accepted where the interval is not empty. -/
theorem exists_aimed_iff : (∃ t, (r.aimed t).validate = .ok ()) ↔
    0 < r.tolerance.toNanos ∧ 0 < r.maxPasses.toNat ∧ r.shortest ≤ r.longest := by
  constructor
  · rintro ⟨t, valid⟩
    have accepted := validate_eq_ok_iff.1 valid
    exact ⟨accepted.tolerance, accepted.passes, Nat.le_trans accepted.above accepted.below⟩
  · rintro ⟨tolerance, passes, le⟩
    obtain ⟨t, least⟩ := Time.exists_toNanos (Nat.le_trans le r.longest_le_room)
    have accepted : (r.aimed t).Accepted := ⟨tolerance, passes, Nat.le_of_eq least.symm, least.symm ▸ le⟩
    exact ⟨t, accepted.validate⟩

/-- Where some target is accepted, another one is if it is in the interval. -/
theorem aimed_validate_iff (some : ∃ t, (r.aimed t).validate = .ok ()) {t : Time} :
    (r.aimed t).validate = .ok () ↔ r.shortest ≤ t.toNanos ∧ t.toNanos ≤ r.longest := by
  obtain ⟨tolerance, passes, -⟩ := exists_aimed_iff.1 some
  rw [validate_eq_ok_iff]
  constructor
  · rintro ⟨-, -, above, below⟩
    exact ⟨above, below⟩
  · rintro ⟨above, below⟩
    exact ⟨tolerance, passes, above, below⟩

/-- A minimum that is quoted is the shortest target. -/
theorem Rejects.minimum_accepted (some : ∃ t, (r.aimed t).validate = .ok ()) {t minimum : Time}
    (rejects : r.Rejects (.tooShort t minimum)) :
    (r.aimed minimum).validate = .ok () ∧ ∀ t', (r.aimed t').validate = .ok () → minimum ≤ t' := by
  obtain ⟨-, -, le⟩ := exists_aimed_iff.1 some
  have room := r.longest_le_room
  simp only [aimed_validate_iff some, Time.le_iff_toNanos]
  cases rejects with
  | short tolerance passes below quoted =>
    obtain quoted : minimum.toNanos = r.shortest := quoted.trans (Nat.min_eq_left (Nat.le_trans le room))
    rw [quoted]
    exact ⟨⟨Nat.le_refl _, le⟩, fun t' accepted => accepted.1⟩

/-- No accepted target is beyond a maximum that is quoted. -/
theorem Rejects.le_maximum (some : ∃ t, (r.aimed t).validate = .ok ()) {t maximum t' : Time}
    (rejects : r.Rejects (.tooLong t maximum)) (accepted : (r.aimed t').validate = .ok ()) : t' ≤ maximum := by
  obtain ⟨-, below⟩ := (aimed_validate_iff some).1 accepted
  obtain ⟨most, few⟩ := Nat.le_min.1 below
  rw [Time.le_iff_toNanos]
  cases rejects with
  | long => exact most
  | many tolerance passes above most beyond quoted => rwa [quoted]

/-- The maximum for so many passes is accepted. -/
theorem share_accepted (some : ∃ t, (r.aimed t).validate = .ok ()) {maximum : Time}
    (quoted : maximum.toNanos = r.share) (few : r.share ≤ 60000000000) : (r.aimed maximum).validate = .ok () := by
  obtain ⟨-, -, le⟩ := exists_aimed_iff.1 some
  have longest : r.longest = r.share := Nat.min_eq_right few
  rw [aimed_validate_iff some, quoted, ← longest]
  exact ⟨le, Nat.le_refl _⟩

/-- The longest target of all is accepted with 9 passes at most. -/
theorem maxTarget_accepted_iff (some : ∃ t, (r.aimed t).validate = .ok ()) :
    (r.aimed maxTarget).validate = .ok () ↔ r.maxPasses ≤ 9 := by
  obtain ⟨-, -, le⟩ := exists_aimed_iff.1 some
  have target : maxTarget.toNanos = 60000000000 := rfl
  have nine : (9 : UInt32).toNat = 9 := rfl
  have room : 60000000000 ≤ r.share ↔ 60000000000 * (r.maxPasses.toNat + 1) ≤ 600000000000 :=
    Nat.le_div_iff_mul_le (Nat.succ_pos _)
  rw [aimed_validate_iff some, target, UInt32.le_iff_toNat_le, nine]
  unfold longest at le ⊢
  omega

/-- Where it is not, what is quoted instead is. -/
theorem maxTarget_refused (some : ∃ t, (r.aimed t).validate = .ok ())
    (refused : (r.aimed maxTarget).validate ≠ .ok ()) :
    ∃ maximum, (r.aimed maxTarget).validate = .error (.tooLong maxTarget maximum) ∧
      (r.aimed maximum).validate = .ok () := by
  obtain ⟨tolerance, passes, le⟩ := exists_aimed_iff.1 some
  have target : maxTarget.toNanos = 60000000000 := rfl
  obtain ⟨maximum, quoted⟩ := r.exists_share
  rw [Ne, aimed_validate_iff some, target] at refused
  unfold longest at le refused
  have rejects : (r.aimed maxTarget).Rejects (.tooLong maxTarget maximum) :=
    .many tolerance passes (show r.shortest ≤ 60000000000 by omega) (Nat.le_refl _)
      (show r.share < 60000000000 by omega) quoted
  exact ⟨maximum, rejects.validate, share_accepted some quoted (by omega)⟩

end Request

/-- **The targets that are accepted form one interval.** What is below it is too short, what is above it too long,
and all else that is refused has no tolerance or no passes. -/
theorem validate_accepts_one_interval (r : Request) :
    (r.validate = .ok () ↔ 0 < r.tolerance.toNanos ∧ 0 < r.maxPasses.toNat ∧
      max 10000 (r.tolerance.toNanos + 1) ≤ r.target.toNanos ∧
      r.target.toNanos ≤ min 60000000000 (600000000000 / (r.maxPasses.toNat + 1))) ∧
    ((∃ minimum, r.validate = .error (.tooShort r.target minimum)) ↔
      0 < r.tolerance.toNanos ∧ 0 < r.maxPasses.toNat ∧
        r.target.toNanos < max 10000 (r.tolerance.toNanos + 1)) ∧
    ((∃ maximum, r.validate = .error (.tooLong r.target maximum)) ↔
      0 < r.tolerance.toNanos ∧ 0 < r.maxPasses.toNat ∧
        max 10000 (r.tolerance.toNanos + 1) ≤ r.target.toNanos ∧
        min 60000000000 (600000000000 / (r.maxPasses.toNat + 1)) < r.target.toNanos) ∧
    (r.validate = .error (.argument .toleranceZero) ↔ r.tolerance.toNanos = 0) ∧
    (r.validate = .error (.argument .passesZero) ↔ 0 < r.tolerance.toNanos ∧ r.maxPasses.toNat = 0) := by
  refine ⟨?_, Request.tooShort_iff, Request.tooLong_iff, ?_, ?_⟩
  · rw [Request.validate_eq_ok_iff]
    exact ⟨fun ⟨a, b, c, d⟩ => ⟨a, b, c, d⟩, fun ⟨a, b, c, d⟩ => ⟨a, b, c, d⟩⟩
  · rw [Request.validate_eq_error_iff]
    constructor
    · rintro ⟨zero⟩
      exact zero
    · exact .noTolerance
  · rw [Request.validate_eq_error_iff]
    constructor
    · intro rejects
      cases rejects with
      | noPasses tolerance zero => exact ⟨tolerance, zero⟩
    · rintro ⟨tolerance, zero⟩
      exact .noPasses tolerance zero

/-- **The limit that a refusal quotes can be used**, unless a target beyond all calibrations is refused where the
passes leave less: then the limit of all calibrations is quoted, and refused as well, with a limit that can be used. -/
theorem quoted_limit_is_accepted_iff (r : Request) (some : ∃ t, (r.aimed t).validate = .ok ()) :
    (∀ t minimum, r.validate = .error (.tooShort t minimum) →
      (r.aimed minimum).validate = .ok () ∧ ∀ t', (r.aimed t').validate = .ok () → minimum ≤ t') ∧
    (∀ t maximum, r.validate = .error (.tooLong t maximum) →
      ((r.aimed maximum).validate = .ok () ↔ r.target ≤ maxTarget ∨ r.maxPasses ≤ 9) ∧
      (∀ t', (r.aimed t').validate = .ok () → t' ≤ maximum) ∧
      ((r.aimed maximum).validate ≠ .ok () → ∃ limit,
        (r.aimed maximum).validate = .error (.tooLong maximum limit) ∧ (r.aimed limit).validate = .ok ())) := by
  refine ⟨?_, ?_⟩
  · intro t minimum refused
    exact (Request.validate_eq_error_iff.1 refused).minimum_accepted some
  · intro t maximum refused
    have rejects := Request.validate_eq_error_iff.1 refused
    have bound : ∀ t', (r.aimed t').validate = .ok () → t' ≤ maximum := fun t' => rejects.le_maximum some
    cases rejects with
    | long tolerance passes above beyond =>
      have far : ¬r.target ≤ maxTarget := fun le => Nat.not_lt.2 (Time.le_iff_toNanos.1 le) beyond
      refine ⟨?_, bound, Request.maxTarget_refused some⟩
      rw [or_iff_right far]
      exact Request.maxTarget_accepted_iff some
    | many tolerance passes above most beyond quoted =>
      have near : r.target ≤ maxTarget := Time.le_iff_toNanos.2 most
      have accepted := Request.share_accepted some quoted (by omega)
      exact ⟨iff_of_true accepted (.inl near), bound, fun refused => absurd accepted refused⟩

/-- 64 passes and one more leave 9.23 s for each: 20 s are too long for them, and the limit is the longest target. -/
theorem quoted_limit_is_accepted_iff_passes :
    let r : Request := { cpu := 0, target := .ofSecs 20, tolerance := .ofMillis 1, maxPasses := 64 }
    let limit : Time := .ofNanos 9230769230
    r.validate = .error (.tooLong r.target limit) ∧ (r.aimed (.ofSecs 1)).validate = .ok () ∧
      (r.aimed limit).validate = .ok () ∧ ∀ t, (r.aimed t).validate = .ok () → t ≤ limit := by
  intro r limit
  have refused : r.validate = .error (.tooLong r.target limit) := by decide
  have second : (r.aimed (.ofSecs 1)).validate = .ok () := by decide
  obtain ⟨-, long⟩ := quoted_limit_is_accepted_iff r ⟨_, second⟩
  obtain ⟨accepted, bound, -⟩ := long _ _ refused
  exact ⟨refused, second, accepted.2 (by decide), bound⟩

/-- With the same passes an hour is refused with 60 s for a limit, and so are the 60 s. -/
theorem quoted_limit_is_refused :
    let r : Request := { cpu := 0, target := .ofSecs 3600, tolerance := .ofMillis 1, maxPasses := 64 }
    (∃ t, (r.aimed t).validate = .ok ()) ∧ r.validate = .error (.tooLong r.target maxTarget) ∧
      (r.aimed maxTarget).validate = .error (.tooLong maxTarget (.ofNanos 9230769230)) :=
  ⟨⟨.ofSecs 1, by decide⟩, by decide, by decide⟩

end TaskTiming.Calibration
