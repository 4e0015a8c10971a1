import Mathlib.Algebra.Order.BigOperators.Group.List
import TaskTiming.Proofs.Calibration.Contraction

/-!
# The time that a search spends

A request leaves room for all passes and one more at its target. What a search really spends is up to the meter:
the probes that were too short come on top, and so does all that single answers take beyond the target
(`SearchRun.spent_le`). Nothing bounds what is late, so that no request is safe from a meter that takes its time
(`le_spent_of_constant`). Where the cost is affine and the first probe is not beyond the target, no answer is
late, and the search keeps to the time that its request is granted for (`Searching.spent_le`).
-/

namespace TaskTiming.Calibration
set_option autoImplicit false

/-- The nanoseconds that an answer reports; a failure reports none. -/
def reported (c : Call) : Nat :=
  match c.2 with
  | .ok t => t.toNanos
  | .error _ => 0

/-- All the nanoseconds that the answers report. -/
def spent (calls : List Call) : Nat := (calls.map reported).sum

/-- What single answers report beyond the target. -/
def late (r : Request) (calls : List Call) : Nat := (calls.map fun c => reported c - r.target.toNanos).sum

@[simp] theorem reported_ok (n : UInt64) (t : Time) : reported (n, .ok t) = t.toNanos := rfl
@[simp] theorem spent_nil : spent [] = 0 := rfl

@[simp] theorem spent_cons (c : Call) (calls : List Call) : spent (c :: calls) = reported c + spent calls := by
  simp [spent]

@[simp] theorem spent_append (first second : List Call) : spent (first ++ second) = spent first + spent second := by
  simp [spent]

variable {r : Request}

@[simp] theorem late_cons (c : Call) (calls : List Call) :
    late r (c :: calls) = reported c - r.target.toNanos + late r calls := by
  simp [late]

@[simp] theorem late_append (first second : List Call) :
    late r (first ++ second) = late r first + late r second := by
  simp [late]

/-- Every answer takes the target at most, and what it is late. -/
theorem spent_le_late (r : Request) (calls : List Call) :
    spent calls ≤ calls.length * r.target.toNanos + late r calls := by
  induction calls with
  | nil => exact Nat.zero_le _
  | cons c rest ih =>
    rw [spent_cons, late_cons, List.length_cons, Nat.succ_mul]
    omega

/-- What is late is spent. -/
theorem late_le_spent (r : Request) (calls : List Call) : late r calls ≤ spent calls := by
  induction calls with
  | nil => exact Nat.le_refl 0
  | cons c rest ih =>
    rw [spent_cons, late_cons]
    omega

theorem reported_le_spent {c : Call} {calls : List Call} (mem : c ∈ calls) : reported c ≤ spent calls :=
  List.le_sum_of_mem (List.mem_map_of_mem mem)

theorem spent_le_mul {calls : List Call} {most : Nat} (bound : ∀ c ∈ calls, reported c ≤ most) :
    spent calls ≤ calls.length * most := by
  have each : ∀ n ∈ calls.map reported, n ≤ most := List.forall_mem_map.2 bound
  simpa [spent] using List.sum_le_card_nsmul _ _ each

/-! ## Any meter -/

/-- The probes before the last one are short. -/
theorem spent_le_of_doubles {calls : List Call} (some : calls ≠ []) (short : calls.IsChain (Doubles r)) :
    spent calls ≤ r.target.toNanos + (calls.length - 1) * min 200000 r.target.toNanos + late r calls := by
  induction calls with
  | nil => exact absurd rfl some
  | cons c rest ih =>
    cases rest with
    | nil =>
      have one := spent_le_late r [c]
      simp only [List.length_singleton] at one ⊢
      omega
    | cons d rest =>
      obtain ⟨⟨t, answer, early⟩, later⟩ := List.isChain_cons_cons.1 short
      have few := ih (List.cons_ne_nil d rest) later
      have time : reported c = t.toNanos := by rw [reported, answer]
      have many : (c :: d :: rest).length - 1 = (d :: rest).length - 1 + 1 := rfl
      unfold Request.Short at early
      rw [spent_cons, late_cons, many, Nat.succ_mul]
      omega

/-- **A search spends what it is granted for**, but for its short probes and for what answers are late. -/
theorem SearchRun.spent_le {probes passes : List Call} {outcome : Result UInt64}
    (run : SearchRun r probes passes outcome) :
    spent (probes ++ passes) ≤ r.target.toNanos * (r.maxPasses.toNat + 1) +
      (probes.length - 1) * min 200000 r.target.toNanos + late r (probes ++ passes) := by
  have first := spent_le_of_doubles run.started run.short
  have second := spent_le_late r passes
  have few : passes.length * r.target.toNanos ≤ r.maxPasses.toNat * r.target.toNanos :=
    Nat.mul_le_mul_right _ run.passes_le
  rw [spent_append, late_append, Nat.mul_succ, Nat.mul_comm r.target.toNanos]
  omega

/-- A search takes at least as long as a meter takes for every question. -/
theorem le_spent_of_constant (valid : r.validate = .ok ()) (time : Time) :
    time.toNanos ≤ spent (search r (.new (fun _ (_ : Unit) => (.ok time, ())) ())).2.calls := by
  obtain ⟨-, runs, -⟩ := search_runs r (fun _ (_ : Unit) => (.ok time, ())) ()
  obtain ⟨probes, passes, asks, calls, run⟩ := runs valid
  obtain ⟨c, mem⟩ := List.exists_mem_of_ne_nil probes run.started
  have mem : c ∈ probes ++ passes := List.mem_append_left passes mem
  obtain ⟨_, answer⟩ := asks.answer c mem
  have first : reported c = time.toNanos := by rw [reported, answer]; rfl
  rw [calls, ← first]
  exact reported_le_spent mem

/-! ## An affine cost -/

section

variable {a f : Nat}

/-- The count of a pass keeps below the target. -/
theorem Passing.cost_le {left : Nat} {n : UInt64} {calls : List Call} {outcome : Result UInt64}
    (passing : Passing r left n calls outcome) (round : 1 ≤ a) (exactly : Exact a f calls)
    (room : r.target.toNanos ≤ Time.max.toNanos) (below : cost a f n.toNat ≤ r.target.toNanos) :
    ∀ c ∈ calls, cost a f c.1.toNat ≤ r.target.toNanos := by
  induction passing with
  | spent => nofun
  | nothing => nofun
  | failed => exact List.forall_mem_singleton.2 below
  | hit => exact List.forall_mem_singleton.2 below
  | stuck => exact List.forall_mem_singleton.2 below
  | @again left n next t rest outcome pos _ _ count _ ih =>
    have time := exactly.time List.mem_cons_self (Nat.le_trans below room)
    rw [scaled_eq time] at count
    have later : cost a f next.toNat ≤ r.target.toNanos := count ▸ cost_rescaled_le round pos below
    exact List.forall_mem_cons.2 ⟨below, ih exactly.tail later⟩

/-- Probes behind a short one take twice as long as it at most. -/
theorem Probing.cost_le {p : Nat} {calls : List Call} {outcome : Result (Nat × Time)} {most : Nat}
    (probing : Probing r p calls outcome) (exactly : Exact a f calls) (room : most ≤ Time.max.toNanos)
    (long : 400000 ≤ most) (below : cost a f (probeRounds p) ≤ most) :
    ∀ c ∈ calls, cost a f c.1.toNat ≤ most := by
  induction probing with
  | failed count => exact List.forall_mem_singleton.2 (count ▸ below)
  | judged count => exact List.forall_mem_singleton.2 (count ▸ below)
  | tooFast count => exact List.forall_mem_singleton.2 (count ▸ below)
  | @again p n t rest outcome count short left _ ih =>
    have first : cost a f n.toNat ≤ most := count ▸ below
    have time := exactly.time List.mem_cons_self (Nat.le_trans first room)
    have twice := cost_probeRounds_succ a f p
    rw [Request.Short, time, count] at short
    exact List.forall_mem_cons.2 ⟨first, ih exactly.tail (by omega)⟩

theorem Exact.reported_le {calls : List Call} {most : Nat} (exactly : Exact a f calls)
    (room : most ≤ Time.max.toNanos) (bound : ∀ c ∈ calls, cost a f c.1.toNat ≤ most) :
    ∀ c ∈ calls, reported c ≤ most := by
  intro c mem
  obtain ⟨t, answer, time⟩ := exactly.answer mem (Nat.le_trans (bound c mem) room)
  have same : reported c = t.toNanos := by rw [reported, answer]
  rw [same, time]
  exact bound c mem

/-- All probes together keep to a target that is not too short for them. -/
theorem Probing.spent_le {probes : List Call} {outcome : Result (Nat × Time)}
    (probing : Probing r 0 probes outcome) (exactly : Exact a f probes) (room : r.target.toNanos ≤ Time.max.toNanos)
    (long : 13000000 ≤ r.target.toNanos) (start : cost a f (probeRounds 0) ≤ r.target.toNanos) :
    spent probes ≤ r.target.toNanos := by
  have bound := exactly.reported_le room (probing.cost_le exactly room (by omega) start)
  cases probing with
  | failed => exact Nat.zero_le _
  | judged => simpa using bound
  | @again _ n t rest outcome count short left later =>
    -- the first probe is below 0.2 ms, and the 31 others that there are at most are below 0.4 ms
    have few := (later.probed left).few
    have time := exactly.time List.mem_cons_self (Nat.le_trans (count ▸ start) room)
    have twice := cost_probeRounds_succ a f 0
    have early := short
    rw [Request.Short, time, count] at early
    have small : ∀ c ∈ rest, cost a f c.1.toNat ≤ 400000 :=
      later.cost_le exactly.tail (by decide) (Nat.le_refl _) (by omega)
    have rest_le := spent_le_mul (exactly.tail.reported_le (by decide) small)
    rw [Request.Short] at short
    rw [spent_cons, reported_ok]
    omega

/-- **A search for an affine cost keeps to the time that it is granted**, if the first probe is not beyond the target
and the target is not too short for the probes. -/
theorem Searching.spent_le {probes passes : List Call} {outcome : Result UInt64}
    (searching : Searching r probes passes outcome) (round : 1 ≤ a) (exactly : Exact a f (probes ++ passes))
    (room : r.target.toNanos ≤ Time.max.toNanos) (long : 13000000 ≤ r.target.toNanos)
    (start : cost a f (probeRounds 0) ≤ r.target.toNanos) :
    spent (probes ++ passes) ≤ r.target.toNanos * (r.maxPasses.toNat + 1) := by
  have probesExactly : Exact a f probes := fun c mem => exactly c (List.mem_append_left _ mem)
  have passesExactly : Exact a f passes := fun c mem => exactly c (List.mem_append_right _ mem)
  rw [spent_append, Nat.mul_succ, Nat.mul_comm r.target.toNanos]
  cases searching with
  | probed probing =>
    have first := probing.spent_le probesExactly room long start
    rw [spent_nil]
    omega
  | @passed _ p n k t _ probing count rescaled passing =>
    have first := probing.spent_le probesExactly room long start
    have below := probing.cost_le probesExactly room (by omega) start
    obtain ⟨-, -, k', last, same⟩ := (probing.probed (by decide)).found p t rfl
    obtain rfl : k' = k := UInt64.toNat_inj.1 (same.trans count.symm)
    have mem := List.mem_of_getLast? last
    have time := probesExactly.time mem (Nat.le_trans (below _ mem) room)
    have pos : 1 ≤ k'.toNat := count ▸ Nat.mul_pos (by decide) (Nat.two_pow_pos p)
    rw [scaled_eq time] at rescaled
    have later := passing.cost_le round passesExactly room (rescaled ▸ cost_rescaled_le round pos (below _ mem))
    have each := spent_le_mul (passesExactly.reported_le room later)
    have few := Nat.mul_le_mul_right r.target.toNanos passing.passed.few
    omega

end

/-! ## What a request is granted for -/

variable {σ : Type}

theorem Meter.ask_of_measure {m : Meter σ} {n : UInt64} {answer : Result Time} {s : σ}
    (measured : m.measure n m.state = (answer, s)) :
    m.ask n = (answer, { m with state := s, asked := (n, answer) :: m.asked }) := by
  rw [Meter.ask, measured]

/-- Behind a first probe that is not short there are the passes. -/
theorem search_of_judged {m m' : Meter σ} {t : Time} {n : UInt64} (valid : r.validate = .ok ())
    (asked : m.ask (UInt64.ofNat (probeRounds 0)) = (.ok t, m')) (long : ¬r.Short t)
    (first : rescale (UInt64.ofNat (probeRounds 0)) r.target t = .ok n) :
    search r m = passes r 0 t r.maxPasses.toNat n m' := by
  have judged : probe r m 0 = (.ok (0, t), m') := by
    rw [probe, asked]
    dsimp only
    rw [if_neg (mt short_iff.1 long)]
  rw [search, valid, judged]
  dsimp only
  rw [first]

/-- **A search keeps to its time, but for short probes and late answers**: the passes and one more at the target
are granted, and what exceeds them is the short probes and what single answers take beyond the target. For an
affine cost whose first probe is not late nothing exceeds them. What other meters spend has no bound. -/
theorem search_spends (r : Request) (measure : UInt64 → σ → Result Time × σ) (s : σ)
    (valid : r.validate = .ok ()) :
    r.target.toNanos * (r.maxPasses.toNat + 1) ≤ maxTotal.toNanos ∧
    (∃ probes passes, (search r (.new measure s)).2.calls = probes ++ passes ∧
      SearchRun r probes passes (search r (.new measure s)).1 ∧
      spent (probes ++ passes) ≤ r.target.toNanos * (r.maxPasses.toNat + 1) +
        (probes.length - 1) * min 200000 r.target.toNanos + late r (probes ++ passes) ∧
      late r (probes ++ passes) ≤ spent (probes ++ passes)) ∧
    (∀ a f, 1 ≤ a → 1000 * a + f ≤ r.target.toNanos → 13000000 ≤ r.target.toNanos →
      (∀ i s t, t.toNanos = a * i.toNat + f → (measure i s).1 = .ok t) →
      spent (search r (.new measure s)).2.calls ≤ maxTotal.toNanos) ∧
    ∀ time : Time, time.toNanos ≤ spent (search r (.new (fun _ (_ : Unit) => (.ok time, ())) ())).2.calls := by
  have sound := Request.sound_of_validate valid
  have granted : r.target.toNanos * (r.maxPasses.toNat + 1) ≤ maxTotal.toNanos := sound.total
  obtain ⟨probes, passes, asks, searching⟩ := search_searching valid (Meter.new measure s)
  have calls : (search r (.new measure s)).2.calls = probes ++ passes := asks.calls
  have run := searching.searchRun sound
  refine ⟨granted, ⟨probes, passes, calls, run, run.spent_le, late_le_spent r _⟩, ?_, le_spent_of_constant valid⟩
  intro a f round start long affine
  have room : r.target.toNanos ≤ Time.max.toNanos := Nat.le_trans sound.most (by decide)
  have first : cost a f (probeRounds 0) ≤ r.target.toNanos := by
    unfold cost probeRounds
    omega
  rw [calls]
  exact Nat.le_trans (searching.spent_le round (asks.exactly affine) room long first) granted

/-- Three nanoseconds a round and twenty microseconds besides, for half a second. -/
theorem search_spends_overhead :
    let r : Request := { cpu := 0, target := .ofMillis 500, tolerance := .ofMillis 1, maxPasses := 64 }
    let measure (i : UInt64) (_ : Unit) : Result Time × Unit :=
      (Result.ofTime (Time.ofNanos? (3 * i.toNat + 20000)), ())
    r.validate = .ok () ∧ spent (search r (.new measure ())).2.calls ≤ maxTotal.toNanos := by
  intro r measure
  have valid : r.validate = .ok () := by decide
  have affine : ∀ (i : UInt64) s t, t.toNanos = 3 * i.toNat + 20000 → (measure i s).1 = .ok t := by
    intro i _ t time
    exact Result.ofTime_of_toNanos time
  obtain ⟨-, -, keeps, -⟩ := search_spends r measure () valid
  exact ⟨valid, keeps 3 20000 (by decide) (by decide) (by decide) affine⟩

/-- With a meter that is four times too slow for every other question, nine passes of a minute take 21 minutes. -/
theorem search_overspends_noise :
    let r : Request := { cpu := 0, target := .ofSecs 60, tolerance := .ofMillis 1, maxPasses := 9 }
    let measure (n : UInt64) (k : Nat) : Result Time × Nat :=
      (Result.ofTime (Time.ofNanos? (200 * n.toNat * if k % 2 = 0 then 1 else 4)), k + 1)
    r.validate = .ok () ∧ maxTotal.toNanos < spent (search r (.new measure 0)).2.calls := by
  intro r measure
  have valid : r.validate = .ok () := by decide
  have answer : measure (UInt64.ofNat (probeRounds 0)) 0 = (.ok (.ofMicros 200), 1) := by decide
  have asked := Meter.ask_of_measure (m := .new measure 0) answer
  have long : ¬r.Short (.ofMicros 200) := by
    unfold Request.Short
    decide
  have first : rescale (UInt64.ofNat (probeRounds 0)) r.target (.ofMicros 200) = .ok 300000000 :=
    rescale_eq_ok.2 (by decide)
  refine ⟨valid, ?_⟩
  -- the probe is long enough, so that only the nine passes are left to run
  rw [search_of_judged valid asked long first]
  decide +kernel

end TaskTiming.Calibration
