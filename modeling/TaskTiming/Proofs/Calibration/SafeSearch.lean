import TaskTiming.Proofs.Calibration.SearchRun

/-!
# The arithmetic of the calibration search

A search multiplies counts by the target and divides by what was measured. Its products and quotients are set
apart here (`Arithmetic`), as something that may go wrong wherever a product is too large or a divisor is zero.
Whatever a request asks for and a meter answers, the search never gets there: with every arithmetic that is right
below 2^100 it is the same (`searchWith_eq`). So all its errors are its own or the meter's (`Request.Faults`);
behind the checks of the request they are about the measurements (`Request.Stalls`), or the passes lost the target
(`Losing`).
-/

namespace TaskTiming.Calibration
set_option autoImplicit false

/-! ## The errors of a search -/

/-- What a search can find wrong with a request, before it asks the meter or by its answers. -/
inductive Request.Faults (r : Request) : Error → Prop
  | noTolerance : Faults r (.argument .toleranceZero)
  | noPasses : Faults r (.argument .passesZero)
  | short (minimum : Time) : Faults r (.tooShort r.target minimum)
  | long (maximum : Time) : Faults r (.tooLong r.target maximum)
  | zeroElapsed : Faults r (.calibration .zeroElapsed)
  | tooFast (rounds : Nat) (elapsed : Time) : Faults r (.calibration (.tooFast rounds elapsed))
  | notConverged : Faults r (.calibration (.notConverged r.tolerance r.target r.maxPasses.toNat))

variable {σ : Type} {r : Request} {e : Error}

/-- A part of a time is a time. -/
theorem exists_ofTime_div (t : Time) (n : Nat) :
    ∃ part, part.toNanos = t.toNanos / n ∧ Result.ofTime (Time.ofNanos? (t.toNanos / n)) = .ok part := by
  obtain ⟨part, exactly⟩ := Time.exists_toNanos (Nat.le_trans (Nat.div_le_self _ n) t.toNanos_le_max)
  exact ⟨part, exactly, Result.ofTime_of_toNanos exactly⟩

/-- All passes and one more, at the target. -/
theorem Request.total_lt (most : ¬maxTarget < r.target) : r.target.toNanos * (r.maxPasses.toNat + 1) < 2 ^ 70 := by
  have le : r.target.toNanos ≤ 60000000000 := Nat.le_of_not_lt fun lt => most (Time.lt_iff_toNanos.2 lt)
  calc r.target.toNanos * (r.maxPasses.toNat + 1)
    _ ≤ 60000000000 * 2 ^ 32 := Nat.mul_le_mul le r.maxPasses.toNat_lt
    _ < 2 ^ 70 := by decide

/-- All passes together take a time that there is. -/
theorem Request.exists_total (most : ¬maxTarget < r.target) :
    ∃ total, total.toNanos = r.target.toNanos * (r.maxPasses.toNat + 1) ∧
      Result.ofTime (r.target.mul? (r.maxPasses.toUInt64 + 1)) = .ok total := by
  have le : r.target.toNanos * (r.maxPasses.toNat + 1) ≤ Time.max.toNanos :=
    Nat.le_trans (Nat.le_of_lt (total_lt most)) (by decide)
  obtain ⟨total, exactly⟩ := Time.exists_toNanos le
  refine ⟨total, exactly, ?_⟩
  rw [Time.mul?_eq, r.toNat_passes_succ, Result.ofTime_of_toNanos exactly]

theorem Request.faults_of_validate (refused : r.validate = .error e) : r.Faults e := by
  unfold validate at refused
  split at refused
  · cases refused
    exact .noTolerance
  split at refused
  · cases refused
    exact .noPasses
  split at refused
  · cases refused
    exact .short _
  split at refused
  · cases refused
    exact .long _
  rename_i most
  obtain ⟨total, -, sum⟩ := exists_total most
  obtain ⟨limit, -, share⟩ := exists_ofTime_div maxTotal (r.maxPasses.toNat + 1)
  rw [sum] at refused
  dsimp only [bind, Except.bind] at refused
  split at refused
  · rw [share] at refused
    cases refused
    exact .long limit
  · cases refused

/-- What a search of an accepted target finds wrong with its measurements, and not with the target. -/
inductive Request.Stalls (r : Request) : Error → Prop
  | zeroElapsed : Stalls r (.calibration .zeroElapsed)
  | tooFast (rounds : Nat) (elapsed : Time) : Stalls r (.calibration (.tooFast rounds elapsed))
  | notConverged : Stalls r (.calibration (.notConverged r.tolerance r.target r.maxPasses.toNat))

theorem Request.Stalls.faults (stalls : r.Stalls e) : r.Faults e := by
  cases stalls with
  | zeroElapsed => exact .zeroElapsed
  | tooFast rounds elapsed => exact .tooFast rounds elapsed
  | notConverged => exact .notConverged

/-- Passes from a count of rounds on that lose the target. The error is about the count in the end and quotes
what one round took in the last probe. -/
inductive Losing (r : Request) (one : Nat) : UInt64 → List Call → Error → Prop
  | noRound {n : UInt64} {minimum : Time} (zero : n.toNat = 0) (quoted : minimum.toNanos = one) :
      Losing r one n [] (.tooShort r.target minimum)
  | manyRounds {n : UInt64} {t : Time} (pos : 1 ≤ n.toNat) (measured : 0 < t.toNanos)
      (many : 2 ^ 64 ≤ r.scaled n t) : Losing r one n [(n, .ok t)] (.tooLong r.target maxTarget)
  | again {n next : UInt64} {t : Time} {rest : List Call} {e : Error} (pos : 1 ≤ n.toNat)
      (measured : 0 < t.toNanos) (count : next.toNat = r.scaled n t) (losing : Losing r one next rest e) :
      Losing r one n ((n, .ok t) :: rest) e

theorem Losing.faults {one : Nat} {n : UInt64} {calls : List Call} (losing : Losing r one n calls e) :
    r.Faults e := by
  induction losing with
  | noRound => exact .short _
  | manyRounds => exact .long _
  | again _ _ _ _ ih => exact ih

/-- What a count that cannot be rescaled is refused with. -/
theorem rescale_fault (sound : r.Sound) {n : UInt64} {t : Time}
    (fails : rescale n r.target t = .error e) :
    r.Stalls e ∨
      0 < t.toNanos ∧ 2 ^ 64 ≤ r.scaled n t ∧ e = .tooLong r.target maxTarget := by
  rcases Nat.eq_zero_or_pos t.toNanos with zero | pos
  · rw [rescale_of_zero zero] at fails
    cases fails
    exact .inl .zeroElapsed
  · have many := (rescale_eq_error sound fails).resolve_left (by omega)
    have fits : n.toNat * r.target.toNanos < 2 ^ 128 := Nat.lt_trans (sound.product_lt n) (by decide)
    rw [rescale_of_many pos fits many] at fails
    cases fails
    exact .inr ⟨pos, many, rfl⟩

/-- Probes end without a time because the meter fails, or their rounds are too fast. -/
theorem Probing.fault {p : Nat} {calls : List Call} (probing : Probing r p calls (.error e)) :
    (∃ n, (n, .error e) ∈ calls) ∨ r.Stalls e := by
  generalize ends : (Except.error e : Result (Nat × Time)) = outcome at probing
  induction probing with
  | failed count fault =>
    cases ends
    exact .inl ⟨_, List.mem_singleton_self _⟩
  | judged count long => cases ends
  | tooFast count short =>
    cases ends
    exact .inr (.tooFast _ _)
  | again count short left probing ih => exact (ih ends).imp_left (Exists.imp fun _ => List.mem_cons_of_mem _)

/-- Passes end without a count because the meter fails, because of their measurements, or because they lose the
target. -/
theorem passes_losing (sound : r.Sound) (doublings : Nat) (probed : Time) (left : Nat) (n : UInt64)
    (m : Meter σ) :
    ∃ calls, m.Asks calls (passes r doublings probed left n m).2 ∧
      ∀ e, (passes r doublings probed left n m).1 = .error e →
        (∃ k, (k, .error e) ∈ calls) ∨ r.Stalls e ∨
          Losing r (probed.toNanos / probeRounds doublings) n calls e := by
  fun_induction passes r doublings probed left n m with
  | case1 n m =>
    refine ⟨[], .nil m, ?_⟩
    rintro e ⟨⟩
    exact .inr (.inl .notConverged)
  | case2 left m =>
    obtain ⟨one, exactly, cost⟩ := exists_ofTime_div probed (probeRounds doublings)
    refine ⟨[], .nil m, ?_⟩
    rw [cost]
    rintro e ⟨⟩
    exact .inr (.inr (.noRound rfl exactly))
  | case3 left n m some fault m' asked =>
    refine ⟨_, .of_ask asked, ?_⟩
    rintro e ⟨⟩
    exact .inl ⟨n, List.mem_singleton_self _⟩
  | case4 left n m some t m' asked near =>
    refine ⟨_, .of_ask asked, ?_⟩
    rintro e ⟨⟩
  | case5 left n m some t m' asked far fault stuck =>
    refine ⟨_, .of_ask asked, ?_⟩
    rintro e ⟨⟩
    rcases rescale_fault sound stuck with other | ⟨measured, many, rfl⟩
    · exact .inr (.inl other)
    · exact .inr (.inr (.manyRounds (one_le_rounds some) measured many))
  | case6 left n m some t m' asked far next scaled ih =>
    obtain ⟨measured, count⟩ := (rescale_eq_ok_iff sound).1 scaled
    obtain ⟨calls, later, ends⟩ := ih
    refine ⟨_, (Meter.Asks.of_ask asked).append later, fun e failed => ?_⟩
    rcases ends e failed with ⟨k, mem⟩ | other | losing
    · exact .inl ⟨k, List.mem_append_right _ mem⟩
    · exact .inr (.inl other)
    · exact .inr (.inr (.again (one_le_rounds some) measured count losing))

theorem probeRounds_pos (doublings : Nat) : 0 < probeRounds doublings :=
  Nat.mul_pos (by decide) (Nat.two_pow_pos doublings)

/-- A search of an accepted target ends without a count because the meter fails, because of its measurements, or
because the passes behind its probes lose the target. -/
theorem search_losing (valid : r.validate = .ok ()) (m : Meter σ) :
    ∃ probes passes, m.Asks (probes ++ passes) (search r m).2 ∧ ∀ e, (search r m).1 = .error e →
      (∃ n, (n, .error e) ∈ probes ++ passes) ∨ r.Stalls e ∨
      ∃ k t n, probes.getLast? = some (k, .ok t) ∧ 0 < k.toNat ∧ n.toNat = r.scaled k t ∧
        Losing r (t.toNanos / k.toNat) n passes e := by
  have sound := Request.sound_of_validate valid
  obtain ⟨probes, run, probing⟩ := probe_probing r m 0 (by decide)
  have probed := probing.probed (by decide)
  rw [search, valid]
  dsimp only
  cases found : probe r m 0 with
  | mk outcome m' =>
    rw [found] at run probing probed
    cases outcome with
    | error fault =>
      refine ⟨probes, [], by rwa [List.append_nil], ?_⟩
      rintro e ⟨⟩
      rw [List.append_nil]
      exact probing.fault.imp_right .inl
    | ok judged =>
      obtain ⟨p, t⟩ := judged
      obtain ⟨long, inside, k, last, count⟩ := probed.found p t rfl
      obtain ⟨measured, small⟩ := scaled_of_judged sound inside count long
      have same : UInt64.ofNat (probeRounds p) = k := by rw [← count, UInt64.ofNat_toNat]
      dsimp only
      rw [same]
      cases scaled : rescale k r.target t with
      | error fault =>
        rcases rescale_eq_error sound scaled with still | large <;> omega
      | ok n =>
        have first := ((rescale_eq_ok_iff sound).1 scaled).2
        obtain ⟨passes, later, ends⟩ := passes_losing sound p t r.maxPasses.toNat n m'
        refine ⟨probes, passes, run.append later, fun e failed => ?_⟩
        rcases ends e failed with ⟨n', mem⟩ | other | losing
        · exact .inl ⟨n', List.mem_append_right _ mem⟩
        · exact .inr (.inl other)
        · have pos := probeRounds_pos p
          rw [← count] at losing pos
          exact .inr (.inr ⟨k, t, n, last, pos, first, losing⟩)

/-- The errors of a search. -/
theorem search_faults (r : Request) (measure : UInt64 → σ → Result Time × σ) (s : σ)
    (ends : (search r (.new measure s)).1 = .error e) :
    r.Faults e ∨ ∃ n, (n, .error e) ∈ (search r (.new measure s)).2.calls := by
  cases valid : r.validate with
  | error fault =>
    rw [search, valid] at ends
    cases ends
    exact .inl (Request.faults_of_validate valid)
  | ok _ =>
    obtain ⟨probes, passes, run, fails⟩ := search_losing valid (.new measure s)
    rw [run.calls]
    rcases fails e ends with meter | stalls | ⟨k, t, n, -, -, -, losing⟩
    · exact .inr meter
    · exact .inl stalls.faults
    · exact .inl losing.faults

/-! ## The products and quotients of a search -/

/-- Products and quotients that may go wrong. -/
structure Arithmetic where
  product : Nat → Nat → Result Nat
  quotient : Nat → Nat → Result Nat

/-- It is right where a product is below a bound and a divisor is not zero. -/
structure Arithmetic.ExactBelow (a : Arithmetic) (bound : Nat) : Prop where
  product : ∀ {x y}, x * y < bound → a.product x y = .ok (x * y)
  quotient : ∀ x {y}, 0 < y → a.quotient x y = .ok (x / y)

/-- It refuses all other products and quotients. -/
def Arithmetic.checked (bound : Nat) : Arithmetic where
  product x y := if x * y < bound then .ok (x * y) else .error .overflow
  quotient x y := if y = 0 then .error .underflow else .ok (x / y)

theorem Arithmetic.ExactBelow.checked (bound : Nat) : (Arithmetic.checked bound).ExactBelow bound where
  product fits := if_pos fits
  quotient _ _ pos := if_neg (Nat.pos_iff_ne_zero.1 pos)

/-- `Request.validate` with another arithmetic. -/
def Request.validateWith (a : Arithmetic) (r : Request) : Result Unit :=
  if r.tolerance.isZero then .error (.argument .toleranceZero)
  else if r.maxPasses = 0 then .error (.argument .passesZero)
  else if r.target < minTarget ∨ r.target ≤ r.tolerance then
    .error (.tooShort r.target (Max.max minTarget (r.tolerance + .ofNanos 1)))
  else if maxTarget < r.target then .error (.tooLong r.target maxTarget)
  else do
    let nanos ← a.product r.target.toNanos (r.maxPasses.toNat + 1)
    let total ← Result.ofTime (Time.ofNanos? nanos)
    if maxTotal < total then
      let share ← a.quotient maxTotal.toNanos (r.maxPasses.toNat + 1)
      let limit ← Result.ofTime (Time.ofNanos? share)
      .error (.tooLong r.target limit)

/-- `rescale` with another arithmetic. -/
def rescaleWith (a : Arithmetic) (iterations : UInt64) (target measured : Time) : Result UInt64 :=
  if measured.isZero then .error (.calibration .zeroElapsed)
  else do
    let product ← a.product iterations.toNat target.toNanos
    let quotient ← a.quotient product measured.toNanos
    match Word.ofNat? quotient with
    | some scaled => .ok scaled
    | none => .error (.tooLong target maxTarget)

/-- `passes` with another arithmetic. -/
def passesWith (a : Arithmetic) (r : Request) (doublings : Nat) (probed : Time) :
    Nat → UInt64 → Meter σ → Result UInt64 × Meter σ
  | 0, _, m => (.error (.calibration (.notConverged r.tolerance r.target r.maxPasses.toNat)), m)
  | left + 1, iterations, m =>
    if iterations = 0 then
      ((do
        let nanos ← a.quotient probed.toNanos (probeRounds doublings)
        let one ← Result.ofTime (Time.ofNanos? nanos)
        .error (.tooShort r.target one)), m)
    else
      match m.ask iterations with
      | (.error e, m) => (.error e, m)
      | (.ok elapsed, m) =>
        if elapsed.absDiff r.target ≤ r.tolerance then (.ok iterations, m)
        else
          match rescaleWith a iterations r.target elapsed with
          | .error e => (.error e, m)
          | .ok next => passesWith a r doublings probed left next m

/-- `search` with another arithmetic. -/
def searchWith (a : Arithmetic) (r : Request) (m : Meter σ) : Result UInt64 × Meter σ :=
  match r.validateWith a with
  | .error e => (.error e, m)
  | .ok () =>
    match probe r m 0 with
    | (.error e, m) => (.error e, m)
    | (.ok (doublings, probed), m) =>
      match rescaleWith a (UInt64.ofNat (probeRounds doublings)) r.target probed with
      | .error e => (.error e, m)
      | .ok first => passesWith a r doublings probed r.maxPasses.toNat first m

variable {a : Arithmetic}

theorem Request.validateWith_eq (exact : a.ExactBelow (2 ^ 100)) (r : Request) : r.validateWith a = r.validate := by
  unfold validateWith validate
  by_cases most : maxTarget < r.target
  · simp only [if_pos most]
  · have product := exact.product (Nat.lt_trans (total_lt most) (by decide))
    have quotient := exact.quotient maxTotal.toNanos (Nat.succ_pos r.maxPasses.toNat)
    simp only [if_neg most, product, quotient, Time.mul?_eq, toNat_passes_succ]
    rfl

theorem rescaleWith_eq (exact : a.ExactBelow (2 ^ 100)) (sound : r.Sound) (n : UInt64) (t : Time) :
    rescaleWith a n r.target t = rescale n r.target t := by
  unfold rescaleWith rescale
  by_cases zero : t.isZero = true
  · rw [if_pos zero, if_pos zero]
  · have fits := sound.product_lt n
    have wide : Word.mulWide? n.toNat r.target.toNanos = some (n.toNat * r.target.toNanos) :=
      Word.mulWide?_eq_some.2 ⟨rfl, Nat.lt_trans fits (by decide)⟩
    rw [if_neg zero, if_neg zero, exact.product fits, wide]
    dsimp only [bind, Except.bind]
    rewrite [exact.quotient _ (Time.not_isZero_iff_toNanos.1 zero)]
    rfl

theorem passesWith_eq (exact : a.ExactBelow (2 ^ 100)) (sound : r.Sound) (doublings : Nat) (probed : Time)
    (left : Nat) (n : UInt64) (m : Meter σ) :
    passesWith a r doublings probed left n m = passes r doublings probed left n m := by
  induction left generalizing n m with
  | zero => rfl
  | succ left ih =>
    unfold passesWith passes
    rw [exact.quotient _ (probeRounds_pos doublings)]
    simp only [rescaleWith_eq exact sound, ih]
    rfl

/-- **No product of a search reaches 2^100, and no divisor is zero**: it is the same with every arithmetic that is
right elsewhere. -/
theorem searchWith_eq (exact : a.ExactBelow (2 ^ 100)) (r : Request) (m : Meter σ) :
    searchWith a r m = search r m := by
  unfold searchWith search
  rw [Request.validateWith_eq exact]
  cases valid : r.validate with
  | error e => rfl
  | ok _ =>
    have sound := Request.sound_of_validate valid
    dsimp only
    cases probe r m 0 with
    | mk outcome m' =>
      cases outcome with
      | error e => rfl
      | ok judged =>
        obtain ⟨doublings, t⟩ := judged
        dsimp only
        rewrite [rescaleWith_eq exact sound]
        cases rescale (UInt64.ofNat (probeRounds doublings)) r.target t with
        | error e => rfl
        | ok first => exact passesWith_eq exact sound doublings t r.maxPasses.toNat first m'

theorem SearchRun.probe_le {probes passes : List Call} {outcome : Result UInt64}
    (run : SearchRun r probes passes outcome) : ∀ c ∈ probes, c.1.toNat ≤ 1000 * 2 ^ 31 := by
  intro c mem
  have count : c.1.toNat ∈ probes.map (·.1.toNat) := List.mem_map_of_mem mem
  rw [run.doubled, List.mem_map] at count
  obtain ⟨i, inside, count⟩ := count
  have few := run.few
  have early : i ≤ 31 := by
    rw [List.mem_range] at inside
    omega
  rw [← count]
  exact probeRounds_le early

/-- **The arithmetic of a search is safe** for every request and every meter: its sum is a word, no product reaches
2^100, no divisor is zero, no probe has more than 1000 * 2^31 rounds, and what it ends with is its own finding or a
failure of the meter. -/
theorem search_arithmetic_is_safe (r : Request) (measure : UInt64 → σ → Result Time × σ) (s : σ) :
    (r.maxPasses.toUInt64 + 1).toNat = r.maxPasses.toNat + 1 ∧
    (∀ a : Arithmetic, a.ExactBelow (2 ^ 100) →
      searchWith a r (.new measure s) = search r (.new measure s)) ∧
    (r.validate = .ok () → ∃ probes passes, (search r (.new measure s)).2.calls = probes ++ passes ∧
      SearchRun r probes passes (search r (.new measure s)).1 ∧
      (∀ c ∈ probes, c.1.toNat ≤ 1000 * 2 ^ 31) ∧
      ∀ c ∈ probes ++ passes, c.1.toNat * r.target.toNanos < 2 ^ 100) ∧
    ∀ e, (search r (.new measure s)).1 = .error e →
      r.Faults e ∨ ∃ n, (n, .error e) ∈ (search r (.new measure s)).2.calls := by
  refine ⟨r.toNat_passes_succ, fun a exact => searchWith_eq exact r _, ?_, fun e => search_faults r measure s⟩
  intro valid
  obtain ⟨-, runs, -⟩ := search_runs r measure s
  obtain ⟨probes, passes, -, calls, run⟩ := runs valid
  exact ⟨probes, passes, calls, run, run.probe_le, fun c _ => (Request.sound_of_validate valid).product_lt c.1⟩

/-- The first probe takes no time, and the second all the time that there is. The search ends with an error of its
own, which no checked product or quotient is. -/
theorem search_arithmetic_is_safe_extreme :
    let r : Request := { cpu := 0, target := .ofMillis 10, tolerance := .ofMicros 10, maxPasses := 64 }
    let measure (n : UInt64) (_ : Unit) : Result Time × Unit := (.ok (if n = 1000 then .zero else .max), ())
    searchWith (.checked (2 ^ 100)) r (.new measure ()) = search r (.new measure ()) ∧ r.validate = .ok () ∧
    (∀ c ∈ (search r (.new measure ())).2.calls, c.1.toNat * r.target.toNanos < 2 ^ 100) ∧
    ∃ one, (search r (.new measure ())).1 = .error (.tooShort r.target one) ∧
      (r.Faults (.tooShort r.target one) ∨
        ∃ n, (n, .error (.tooShort r.target one)) ∈ (search r (.new measure ())).2.calls) := by
  intro r measure
  have valid : r.validate = .ok () := by decide
  obtain ⟨m, first, kept⟩ : ∃ m, Meter.ask (.new measure ()) (UInt64.ofNat (probeRounds 0)) = (.ok .zero, m) ∧
      m.measure = measure := ⟨_, rfl, rfl⟩
  obtain ⟨m', second⟩ : ∃ m', m.ask (UInt64.ofNat (probeRounds 1)) = (.ok .max, m') := by
    rw [Meter.ask, kept]
    exact ⟨_, rfl⟩
  have found : probe r (.new measure ()) 0 = (.ok (1, .max), m') := by
    rw [probe, first]
    dsimp only
    rw [if_pos (by decide), dif_neg (by decide), probe, second]
    dsimp only
    rw [if_neg (by decide)]
  have none : rescale (UInt64.ofNat (probeRounds 1)) r.target .max = .ok 0 := rescale_eq_ok.2 (by decide)
  have ended : ∃ one, (search r (.new measure ())).1 = .error (.tooShort r.target one) := by
    rw [search, valid, found]
    dsimp only
    rw [none]
    exact ⟨_, rfl⟩
  obtain ⟨-, same, runs, faults⟩ := search_arithmetic_is_safe r measure ()
  obtain ⟨probes, passes, calls, -, -, small⟩ := runs valid
  obtain ⟨one, short⟩ := ended
  exact ⟨same _ (.checked _), valid, calls ▸ small, one, short, faults _ short⟩

end TaskTiming.Calibration
