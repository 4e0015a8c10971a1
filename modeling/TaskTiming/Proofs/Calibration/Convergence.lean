import Mathlib.Tactic.Linarith
import Mathlib.Tactic.Ring
import TaskTiming.Proofs.Calibration.SearchRun

/-!
# Convergence of the calibration search

A pass rescales its count as if rounds were all that takes time, and drops the fraction. Where there is a
fixed cost besides, counts above the target come down to it four times nearer with every pass, counts far
below it double, and counts near it halve what is missing, up to the cost of a round that a dropped
fraction is worth. So a search for an affine cost comes to its end (`search_converges`).
-/

namespace TaskTiming.Calibration
set_option autoImplicit false

/-! ## One pass -/

/-- So many rounds cost so much, with so much for a round and a fixed cost besides. -/
def cost (a f n : Nat) : Nat := a * n + f

/-- The next count if a count takes its cost. -/
def rescaled (a f target n : Nat) : Nat := n * target / cost a f n

variable {a f target n : Nat}

theorem cost_pos (round : 1 ≤ a) (pos : 1 ≤ n) : 0 < cost a f n := by
  have rounds := Nat.mul_le_mul round pos
  unfold cost
  omega

/-- The rounds of the next count cost less than the target by the fixed cost's share of it at least. -/
theorem rescaled_le (a f target n : Nat) :
    a * rescaled a f target n * cost a f n + f * target ≤ target * cost a f n := by
  have floor : rescaled a f target n * cost a f n ≤ n * target := Nat.div_mul_le_self _ _
  calc a * rescaled a f target n * cost a f n + f * target
    _ = a * (rescaled a f target n * cost a f n) + f * target := by ring
    _ ≤ a * (n * target) + f * target := by gcongr
    _ = target * cost a f n := by unfold cost; ring

/-- They cost less by no more than that share and a round. -/
theorem lt_rescaled (f target : Nat) (round : 1 ≤ a) (pos : 1 ≤ n) :
    target * cost a f n < a * rescaled a f target n * cost a f n + f * target + a * cost a f n := by
  have floor : n * target < rescaled a f target n * cost a f n + cost a f n :=
    Nat.lt_div_mul_add (cost_pos round pos)
  calc target * cost a f n
    _ = a * (n * target) + f * target := by unfold cost; ring
    _ < a * (rescaled a f target n * cost a f n + cost a f n) + f * target := by gcongr
    _ = a * rescaled a f target n * cost a f n + f * target + a * cost a f n := by ring

theorem cost_mul (c m : Nat) : cost a f c * m = a * c * m + f * m := by
  unfold cost
  ring

/-- A count that is not above the target is followed by one that is not either. -/
theorem cost_rescaled_le (round : 1 ≤ a) (pos : 1 ≤ n) (below : cost a f n ≤ target) :
    cost a f (rescaled a f target n) ≤ target := by
  have least := rescaled_le a f target n
  have share : f * cost a f n ≤ f * target := Nat.mul_le_mul_left f below
  have spent : 0 < cost a f n := cost_pos round pos
  refine Nat.le_of_mul_le_mul_right ?_ spent
  rw [cost_mul]
  omega

/-- A count above the target is followed by one that is less than a round below it. -/
theorem lt_cost_rescaled (round : 1 ≤ a) (pos : 1 ≤ n) (above : target ≤ cost a f n) :
    target < cost a f (rescaled a f target n) + a := by
  have most := lt_rescaled f target round pos
  have share : f * target ≤ f * cost a f n := Nat.mul_le_mul_left f above
  refine Nat.lt_of_mul_lt_mul_right (a := cost a f n) ?_
  rw [Nat.add_mul, cost_mul]
  omega

/-- A count above the target is followed by one that is above it by a quarter as much at most. -/
theorem cost_rescaled_above (round : 1 ≤ a) (pos : 1 ≤ n) (fixed : 4 * f ≤ target)
    (above : target ≤ cost a f n) : 4 * cost a f (rescaled a f target n) ≤ cost a f n + 3 * target := by
  have least := rescaled_le a f target n
  obtain ⟨more, far⟩ := Nat.exists_eq_add_of_le above
  have share : 4 * f * more ≤ cost a f n * more := Nat.mul_le_mul_right more (by omega)
  have spent : 0 < cost a f n := cost_pos round pos
  refine Nat.le_of_mul_le_mul_right ?_ spent
  calc 4 * cost a f (rescaled a f target n) * cost a f n
    _ = 4 * (a * rescaled a f target n * cost a f n) + 4 * (f * cost a f n) := by
      rw [Nat.mul_assoc, cost_mul]
      ring
    _ = 4 * (a * rescaled a f target n * cost a f n + f * target) + 4 * f * more := by
      rw [far]
      ring
    _ ≤ 4 * (target * cost a f n) + cost a f n * more := by gcongr
    _ = (cost a f n + 3 * target) * cost a f n := by
      rw [far]
      ring

/-- A count near below the target misses it by half as much with the next one, but for a round. -/
theorem lt_cost_rescaled_near (round : 1 ≤ a) (pos : 1 ≤ n) (below : cost a f n ≤ target)
    (near : f ≤ a * n) : target + cost a f n < 2 * cost a f (rescaled a f target n) + 2 * a := by
  have most := lt_rescaled f target round pos
  obtain ⟨missing, far⟩ := Nat.exists_eq_add_of_le below
  have share : 2 * f * missing ≤ cost a f n * missing := by
    apply Nat.mul_le_mul_right
    unfold cost
    omega
  refine Nat.lt_of_mul_lt_mul_right (a := cost a f n) ?_
  apply Nat.lt_of_add_lt_add_right (n := cost a f n * missing)
  calc (target + cost a f n) * cost a f n + cost a f n * missing
    _ = 2 * (target * cost a f n) := by
      rw [far]
      ring
    _ < 2 * (a * rescaled a f target n * cost a f n + f * target + a * cost a f n) := by gcongr
    _ = 2 * (a * rescaled a f target n * cost a f n + f * cost a f n) + 2 * a * cost a f n +
        2 * f * missing := by
      rw [far]
      ring
    _ ≤ 2 * (a * rescaled a f target n * cost a f n + f * cost a f n) + 2 * a * cost a f n +
        cost a f n * missing := by gcongr
    _ = (2 * cost a f (rescaled a f target n) + 2 * a) * cost a f n + cost a f n * missing := by
      rw [← cost_mul]
      ring

/-- A count far below the target is followed by one twice as large. -/
theorem two_mul_le_rescaled (round : 1 ≤ a) (pos : 1 ≤ n) (fixed : 4 * f ≤ target) (far : a * n ≤ f) :
    2 * n ≤ rescaled a f target n := by
  have spent : 0 < cost a f n := cost_pos round pos
  refine (Nat.le_div_iff_mul_le spent).2 ?_
  calc 2 * n * cost a f n
    _ = n * (2 * cost a f n) := by ring
    _ ≤ n * target := by
      apply Nat.mul_le_mul_left
      unfold cost
      omega

/-- The counts grow towards the target. -/
theorem le_rescaled (round : 1 ≤ a) (pos : 1 ≤ n) (below : cost a f n ≤ target) :
    n ≤ rescaled a f target n := by
  refine (Nat.le_div_iff_mul_le (cost_pos round pos)).2 ?_
  exact Nat.mul_le_mul_left n below

/-- There is a next count. -/
theorem rescaled_pos (round : 1 ≤ a) (pos : 1 ≤ n) (fits : a + f ≤ target) :
    1 ≤ rescaled a f target n := by
  refine (Nat.le_div_iff_mul_le (cost_pos round pos)).2 ?_
  calc 1 * cost a f n
    _ = a * n + 1 * f := by unfold cost; ring
    _ ≤ a * n + n * f := by gcongr
    _ = n * (a + f) := by ring
    _ ≤ n * target := Nat.mul_le_mul_left n fits

/-- A round takes a nanosecond at least. -/
theorem le_cost (round : 1 ≤ a) : n ≤ cost a f n := by
  calc n
    _ ≤ a * n := Nat.le_mul_of_pos_left n round
    _ ≤ cost a f n := Nat.le_add_right _ f

/-- No count is rescaled to more rounds than the target has nanoseconds. -/
theorem rescaled_le_target (round : 1 ≤ a) : rescaled a f target n ≤ target := by
  apply Nat.div_le_of_le_mul
  exact Nat.mul_le_mul_right target (le_cost round)

/-! ## How many passes it takes -/

/-- What is asked of an affine cost: a round and the fixed cost are small beside what they must not exceed. -/
structure Affine (a f : Nat) (r : Request) : Prop where
  round : 1 ≤ a
  fixed : 4 * f ≤ r.target.toNanos
  fine : 4 * a ≤ r.tolerance.toNanos
  coarse : r.tolerance.toNanos < r.target.toNanos
  most : r.target.toNanos ≤ 9230769230

/-- Within so many passes from a count on, one is near enough. -/
inductive Settles (a f : Nat) (r : Request) : Nat → Nat → Prop
  | now {left n : Nat} (near : ((cost a f n : Int) - r.target.toNanos).natAbs ≤ r.tolerance.toNanos) :
      Settles a f r (left + 1) n
  | later {left n : Nat} (later : Settles a f r left (rescaled a f r.target.toNanos n)) :
      Settles a f r (left + 1) n

variable {r : Request}

theorem Settles.mono {k l : Nat} (settles : Settles a f r k n) (le : k ≤ l) : Settles a f r l n := by
  induction settles generalizing l with
  | now near =>
    obtain ⟨l, rfl⟩ := Nat.exists_eq_succ_of_ne_zero (show l ≠ 0 by omega)
    exact .now near
  | later _ ih =>
    obtain ⟨l, rfl⟩ := Nat.exists_eq_succ_of_ne_zero (show l ≠ 0 by omega)
    exact .later (ih (by omega))

namespace Affine

theorem rescaled_pos (affine : Affine a f r) (pos : 1 ≤ n) : 1 ≤ rescaled a f r.target.toNanos n := by
  have fixed := affine.fixed
  have fine := affine.fine
  have coarse := affine.coarse
  exact Calibration.rescaled_pos affine.round pos (by omega)

/-- Above the target every pass quarters what is too much, until one is within a round below or near enough. -/
theorem settles_above (affine : Affine a f r) (k : Nat) (pos : 1 ≤ n)
    (above : r.target.toNanos < cost a f n + a)
    (near : cost a f n ≤ r.target.toNanos + 4 ^ k * r.tolerance.toNanos) : Settles a f r (k + 1) n := by
  have fine := affine.fine
  induction k generalizing n with
  | zero => exact .now (by omega)
  | succ k ih =>
    by_cases done : cost a f n ≤ r.target.toNanos + r.tolerance.toNanos
    · exact .now (by omega)
    · have quarter := cost_rescaled_above affine.round pos affine.fixed (by omega)
      rw [Nat.pow_succ, Nat.mul_right_comm] at near
      exact .later (ih (affine.rescaled_pos pos) (lt_cost_rescaled affine.round pos (by omega)) (by omega))

/-- Near below the target every pass halves what is missing, but for two rounds, which the tolerance allows. -/
theorem settles_near (affine : Affine a f r) (k : Nat) (pos : 1 ≤ n) (below : cost a f n ≤ r.target.toNanos)
    (most : f ≤ a * n) (near : r.target.toNanos ≤ cost a f n + 2 * a + 2 * 2 ^ k) :
    Settles a f r (k + 1) n := by
  have fine := affine.fine
  have round := affine.round
  induction k generalizing n with
  | zero => exact .now (by omega)
  | succ k ih =>
    have half := lt_cost_rescaled_near round pos below most
    have grows := Nat.mul_le_mul_left a (le_rescaled round pos below)
    exact .later (ih (affine.rescaled_pos pos) (cost_rescaled_le round pos below) (by omega) (by omega))

/-- Far below the target every pass doubles the count, until it is near. -/
theorem settles_far (affine : Affine a f r) (k : Nat) (pos : 1 ≤ n) (below : cost a f n ≤ r.target.toNanos)
    (far : f ≤ a * (n * 2 ^ k)) : Settles a f r (k + 34) n := by
  have most := affine.most
  -- The longest target that leaves room for 64 passes is below 2 * 2 ^ 33 nanoseconds.
  induction k generalizing n with
  | zero => exact affine.settles_near 33 pos below (by simpa using far) (by omega)
  | succ k ih =>
    by_cases near : f ≤ a * n
    · exact (affine.settles_near 33 pos below near (by omega)).mono (by omega)
    · have twice := two_mul_le_rescaled affine.round pos affine.fixed (by omega)
      refine .later (ih (affine.rescaled_pos pos) (cost_rescaled_le affine.round pos below) ?_)
      calc f
        _ ≤ a * (n * 2 ^ (k + 1)) := far
        _ = a * (2 * n * 2 ^ k) := by ring
        _ ≤ a * (rescaled a f r.target.toNanos n * 2 ^ k) := by gcongr

/-- The passes behind a probe that did not take too long. -/
theorem settles_first (affine : Affine a f r) (many : 1000 ≤ n)
    (near : cost a f n ≤ r.target.toNanos + 4 ^ 16 * r.tolerance.toNanos) :
    Settles a f r 64 (rescaled a f r.target.toNanos n) := by
  have round := affine.round
  have fixed := affine.fixed
  have most := affine.most
  have pos : 1 ≤ n := by omega
  by_cases below : cost a f n ≤ r.target.toNanos
  · -- From 1000 rounds on, 22 doublings outdo the fixed cost, which is a quarter of the longest target at most.
    have grows := le_rescaled round pos below
    refine (affine.settles_far 22 (affine.rescaled_pos pos) (cost_rescaled_le round pos below) ?_).mono (by decide)
    calc f
      _ ≤ 1 * (1000 * 2 ^ 22) := by omega
      _ ≤ a * (rescaled a f r.target.toNanos n * 2 ^ 22) := by gcongr; omega
  · have quarter := cost_rescaled_above round pos fixed (by omega)
    have close := lt_cost_rescaled (f := f) round pos (show r.target.toNanos ≤ cost a f n by omega)
    exact (affine.settles_above 16 (affine.rescaled_pos pos) close (by omega)).mono (by decide)

end Affine

/-! ## A whole search -/

/-- The answers to questions are the affine cost wherever that is a time. -/
def Exact (a f : Nat) (calls : List Call) : Prop :=
  ∀ c ∈ calls, ∀ t : Time, t.toNanos = cost a f c.1.toNat → c.2 = .ok t

theorem Exact.tail {c : Call} {rest : List Call} (exactly : Exact a f (c :: rest)) : Exact a f rest :=
  fun d mem => exactly d (List.mem_cons_of_mem c mem)

theorem scaled_eq {k : UInt64} {t : Time} (time : t.toNanos = cost a f k.toNat) :
    r.scaled k t = rescaled a f r.target.toNanos k.toNat := by
  rw [Request.scaled, time, rescaled]

/-- A count has its cost for an answer. -/
theorem Exact.answer {calls : List Call} {c : Call} (exactly : Exact a f calls) (mem : c ∈ calls)
    (fits : cost a f c.1.toNat ≤ Time.max.toNanos) : ∃ t, c.2 = .ok t ∧ t.toNanos = cost a f c.1.toNat := by
  obtain ⟨t, time⟩ := Time.exists_toNanos fits
  exact ⟨t, exactly c mem t time, time⟩

theorem Exact.time {calls : List Call} {n : UInt64} {t : Time} (exactly : Exact a f calls)
    (mem : (n, .ok t) ∈ calls) (fits : cost a f n.toNat ≤ Time.max.toNanos) : t.toNanos = cost a f n.toNat := by
  obtain ⟨t', answer, time⟩ := exactly.answer mem fits
  cases answer
  exact time

/-- So has a count that a search comes to. -/
theorem Affine.answer (affine : Affine a f r) {k : UInt64} {answer : Result Time} {rest : List Call}
    (exactly : Exact a f ((k, answer) :: rest)) (few : k.toNat ≤ probeRounds 31) :
    ∃ t, answer = .ok t ∧ t.toNanos = cost a f k.toNat := by
  have round := affine.fine
  have coarse := affine.coarse
  have fixed := affine.fixed
  have most := affine.most
  refine exactly.answer List.mem_cons_self ?_
  calc a * k.toNat + f
    _ ≤ 9230769230 * probeRounds 31 + 9230769230 := by gcongr <;> omega
    _ ≤ Time.max.toNanos := by decide

/-- A probe takes twice as long as the one before at most. -/
theorem cost_probeRounds_succ (a f p : Nat) : cost a f (probeRounds (p + 1)) ≤ 2 * cost a f (probeRounds p) := by
  unfold cost probeRounds
  rw [Nat.pow_succ]
  linarith

/-- The probes come to an end with one that does not take too long. -/
theorem Probing.judged_of_exact {p : Nat} {calls : List Call} {outcome : Result (Nat × Time)}
    (probing : Probing r p calls outcome) (affine : Affine a f r) (exactly : Exact a f calls) (inside : p ≤ 31)
    (near : cost a f (probeRounds p) ≤ r.target.toNanos + 4 ^ 16 * r.tolerance.toNanos) :
    ∃ q t, outcome = .ok (q, t) ∧ t.toNanos = cost a f (probeRounds q) ∧
      cost a f (probeRounds q) ≤ r.target.toNanos + 4 ^ 16 * r.tolerance.toNanos := by
  have few {q : Nat} (inside : q ≤ 31) : probeRounds q ≤ probeRounds 31 :=
    Nat.mul_le_mul_left 1000 (Nat.pow_le_pow_right (by decide) inside)
  induction probing with
  | failed count e =>
    obtain ⟨t, ok, -⟩ := affine.answer exactly (count ▸ few inside)
    cases ok
  | @judged p k t count long =>
    obtain ⟨t', ok, time⟩ := affine.answer exactly (count ▸ few inside)
    cases ok
    rw [count] at time
    exact ⟨p, t, rfl, time, near⟩
  | @tooFast k t count short =>
    obtain ⟨t', ok, time⟩ := affine.answer exactly (count ▸ few inside)
    cases ok
    have slow : probeRounds 31 ≤ cost a f k.toNat := count ▸ le_cost affine.round
    rw [Request.Short, time] at short
    have many : 200000 ≤ probeRounds 31 := by decide
    omega
  | @again p k t rest outcome count short left _ ih =>
    obtain ⟨t', ok, time⟩ := affine.answer exactly (count ▸ few inside)
    cases ok
    rw [Request.Short, time, count] at short
    refine ih exactly.tail left ?_
    have fine := affine.fine
    have round := affine.round
    have twice := cost_probeRounds_succ a f p
    omega

/-- Passes that settle return. -/
theorem Passing.returns_of_settles {left : Nat} {k : UInt64} {calls : List Call} {outcome : Result UInt64}
    (passing : Passing r left k calls outcome) (affine : Affine a f r) (exactly : Exact a f calls)
    (pos : 1 ≤ k.toNat) (few : k.toNat ≤ r.target.toNanos) (settles : Settles a f r left k.toNat) :
    ∃ n, outcome = .ok n ∧ 1 ≤ n.toNat ∧
      ((cost a f n.toNat : Int) - r.target.toNanos).natAbs ≤ r.tolerance.toNanos := by
  have most := affine.most
  have range : r.target.toNanos ≤ probeRounds 31 := Nat.le_trans most (by decide)
  induction passing with
  | spent => cases settles
  | nothing zero => omega
  | failed _ e =>
    obtain ⟨t, ok, -⟩ := affine.answer exactly (Nat.le_trans few range)
    cases ok
  | @hit left k t _ near =>
    obtain ⟨t', ok, time⟩ := affine.answer exactly (Nat.le_trans few range)
    cases ok
    rw [Request.Within, time] at near
    exact ⟨k, rfl, pos, near⟩
  | @stuck left k t _ _ off =>
    -- The cost is not zero, and the next count is below the target.
    obtain ⟨t', ok, time⟩ := affine.answer exactly (Nat.le_trans few range)
    cases ok
    have spent : 0 < cost a f k.toNat := cost_pos affine.round pos
    rcases off with still | large
    · omega
    · rw [scaled_eq time] at large
      have small : rescaled a f r.target.toNanos k.toNat ≤ r.target.toNanos := rescaled_le_target affine.round
      omega
  | @again left k next t rest outcome _ far _ count _ ih =>
    obtain ⟨t', ok, time⟩ := affine.answer exactly (Nat.le_trans few range)
    cases ok
    rw [scaled_eq time] at count
    rw [Request.Within, time] at far
    cases settles with
    | now near => exact (far near).elim
    | later later =>
      apply ih exactly.tail
      · rw [count]
        exact affine.rescaled_pos pos
      · rw [count]
        exact rescaled_le_target affine.round
      · rw [count]
        exact later

/-- The answers of a meter are what it measures. -/
theorem Meter.Asks.answer {σ : Type} {m m' : Meter σ} {calls : List Call} (run : m.Asks calls m') :
    ∀ c ∈ calls, ∃ s, c.2 = (m.measure c.1 s).1 := by
  induction run with
  | nil => exact nofun
  | cons run ih =>
    rw [List.forall_mem_cons]
    exact ⟨⟨_, rfl⟩, ih⟩

/-- What a meter that measures an affine cost answers. -/
theorem Meter.Asks.exactly {σ : Type} {m m' : Meter σ} {calls : List Call} (run : m.Asks calls m')
    (affine : ∀ i s t, t.toNanos = cost a f i.toNat → (m.measure i s).1 = .ok t) : Exact a f calls := by
  intro c mem t time
  obtain ⟨s, answer⟩ := run.answer c mem
  rw [answer]
  exact affine c.1 s t time

/-- **A search for an affine cost converges.** -/
theorem search_converges {σ : Type} (r : Request) (measure : UInt64 → σ → Result Time × σ) (s : σ)
    (a f : Nat) (valid : r.validate = .ok ()) (round : 1 ≤ a) (fixed : 4 * f ≤ r.target.toNanos)
    (fine : 4 * a ≤ r.tolerance.toNanos) (enough : 64 ≤ r.maxPasses.toNat)
    (exactly : ∀ i s t, t.toNanos = a * i.toNat + f → (measure i s).1 = .ok t) :
    ∃ n, (search r (.new measure s)).1 = .ok n ∧ 1 ≤ n.toNat ∧
      ((a * n.toNat + f : Int) - r.target.toNanos).natAbs ≤ r.tolerance.toNanos := by
  have sound := Request.sound_of_validate valid
  have affine : Affine a f r := {
    round := round, fixed := fixed, fine := fine, coarse := sound.tolerance_lt
    most := by
      have total := sound.total
      have passes : r.target.toNanos * 65 ≤ r.target.toNanos * (r.maxPasses.toNat + 1) := by gcongr; omega
      omega }
  obtain ⟨probes, passes, run, searching⟩ := search_searching valid (Meter.new measure s)
  have answers : Exact a f (probes ++ passes) := run.exactly exactly
  have start : cost a f (probeRounds 0) ≤ r.target.toNanos + 4 ^ 16 * r.tolerance.toNanos := by
    unfold cost probeRounds
    omega
  generalize (search r (.new measure s)).1 = outcome at searching ⊢
  cases searching with
  | probed probing =>
    rw [List.append_nil] at answers
    obtain ⟨p, t, ok, -⟩ := probing.judged_of_exact affine answers (by decide) start
    cases ok
  | @passed _ p n k t _ probing count first passing =>
    obtain ⟨p', t', ok, time, near⟩ :=
      probing.judged_of_exact affine (fun c mem => answers c (List.mem_append_left _ mem)) (by decide) start
    cases ok
    rw [← count] at time near
    rw [scaled_eq time] at first
    have many : 1000 ≤ k.toNat := by
      rw [count]
      exact Nat.le_mul_of_pos_right 1000 (Nat.two_pow_pos p)
    apply passing.returns_of_settles affine fun c mem => answers c (List.mem_append_right _ mem)
    · rw [first]
      exact affine.rescaled_pos (by omega)
    · rw [first]
      exact rescaled_le_target round
    · rw [first]
      exact (affine.settles_first many near).mono enough

/-- Three nanoseconds a round and twenty microseconds besides. -/
theorem search_converges_overhead :
    let r : Request := { cpu := 0, target := .ofMillis 500, tolerance := .ofMillis 1, maxPasses := 64 }
    let measure (i : UInt64) (_ : Unit) : Result Time × Unit :=
      (Result.ofTime (Time.ofNanos? (3 * i.toNat + 20000)), ())
    ∃ n, (search r (.new measure ())).1 = .ok n ∧ 1 ≤ n.toNat ∧
      ((3 * n.toNat + 20000 : Int) - r.target.toNanos).natAbs ≤ r.tolerance.toNanos := by
  intro r measure
  apply search_converges r measure () 3 20000
  · decide
  · decide
  · decide
  · decide
  · decide
  · intro i _ t time
    exact Result.ofTime_of_toNanos time

end TaskTiming.Calibration
