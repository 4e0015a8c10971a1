import Mathlib.Algebra.Group.Nat.Defs
import Mathlib.Data.List.Chain
import TaskTiming.Calibration.Search

/-!
# Runs of a calibration search

What a search asks and how it ends, whatever the meter answers. Its questions are probes with doubled
counts and then passes with rescaled ones; `Probing` and `Passing` say step by step how the two loops go
on with an answer, and what holds of their questions as lists is read off these by induction
(`search_runs`).
-/

namespace TaskTiming.Calibration
set_option autoImplicit false

/-! ## Requests -/

namespace Request

/-- What a request that is not refused asks for. -/
structure Sound (r : Request) : Prop where
  tolerance_pos : 0 < r.tolerance.toNanos
  passes_pos : 0 < r.maxPasses.toNat
  tolerance_lt : r.tolerance.toNanos < r.target.toNanos
  least : 10000 ≤ r.target.toNanos
  most : r.target.toNanos ≤ 60000000000
  total : r.target.toNanos * (r.maxPasses.toNat + 1) ≤ 600000000000

/-- The passes and one more are counted in a word. -/
theorem toNat_passes_succ (r : Request) : (r.maxPasses.toUInt64 + 1).toNat = r.maxPasses.toNat + 1 := by
  have few := r.maxPasses.toNat_lt
  rw [UInt64.toNat_add, UInt32.toNat_toUInt64]
  simp only [UInt64.reduceToNat]
  exact Nat.mod_eq_of_lt (by omega)

theorem sound_of_validate {r : Request} (valid : r.validate = .ok ()) : r.Sound := by
  unfold validate at valid
  split at valid
  · cases valid
  rename_i tolerance
  split at valid
  · cases valid
  rename_i passes
  split at valid
  · cases valid
  rename_i least
  split at valid
  · cases valid
  rename_i most
  cases product : r.target.mul? (r.maxPasses.toUInt64 + 1) with
  | error e => rw [product] at valid; cases valid
  | ok total =>
    rw [product] at valid
    have inside : ¬maxTotal < total := by
      intro long
      simp only [Result.ofTime, bind, Except.bind, if_pos long] at valid
      split at valid <;> cases valid
    have sum : total.toNanos = r.target.toNanos * (r.maxPasses.toNat + 1) := by
      rwa [Time.mul?_eq, Time.ofNanos?_eq_ok, toNat_passes_succ] at product
    have count : r.maxPasses.toNat ≠ 0 := fun none => passes (UInt32.toNat_inj.1 none)
    rw [Time.isZero_iff_toNanos] at tolerance
    simp only [Time.lt_iff_toNanos, Time.le_iff_toNanos] at least most inside
    rw [sum] at inside
    exact {
      tolerance_pos := Nat.pos_of_ne_zero tolerance
      passes_pos := Nat.pos_of_ne_zero count
      tolerance_lt := by omega
      least := Nat.le_of_not_lt fun early => least (.inl early)
      most := Nat.le_of_not_lt most
      total := Nat.le_of_not_lt inside }

/-- Any count has room beside the target. -/
theorem Sound.product_lt {r : Request} (sound : r.Sound) (n : UInt64) : n.toNat * r.target.toNanos < 2 ^ 100 := by
  calc n.toNat * r.target.toNanos
    _ ≤ 2 ^ 64 * 60000000000 := Nat.mul_le_mul (Nat.le_of_lt n.toNat_lt) sound.most
    _ < 2 ^ 100 := by decide

/-- The number of rounds that a pass makes behind another one, or behind the last probe. -/
def scaled (r : Request) (iterations : UInt64) (measured : Time) : Nat :=
  iterations.toNat * r.target.toNanos / measured.toNanos

/-- A time is as near to the target as it has to be. -/
def Within (r : Request) (measured : Time) : Prop :=
  ((measured.toNanos : Int) - r.target.toNanos).natAbs ≤ r.tolerance.toNanos

/-- A probe is too short to be judged. -/
def Short (r : Request) (measured : Time) : Prop := measured.toNanos < min 200000 r.target.toNanos

end Request

theorem rescale_eq_ok_iff {r : Request} (sound : r.Sound) {iterations : UInt64} {measured : Time} {w : UInt64} :
    rescale iterations r.target measured = .ok w ↔
      0 < measured.toNanos ∧ w.toNat = r.scaled iterations measured := by
  have product : iterations.toNat * r.target.toNanos < 2 ^ 128 :=
    Nat.lt_trans (sound.product_lt iterations) (by decide)
  rw [rescale_eq_ok]
  constructor
  · rintro ⟨pos, -, scaled⟩
    exact ⟨pos, scaled⟩
  · rintro ⟨pos, scaled⟩
    exact ⟨pos, product, scaled⟩

/-- A count that cannot be rescaled took no time, or the next one is no word. -/
theorem rescale_eq_error {r : Request} (sound : r.Sound) {iterations : UInt64} {measured : Time} {e : Error}
    (fails : rescale iterations r.target measured = .error e) :
    measured.toNanos = 0 ∨ 2 ^ 64 ≤ r.scaled iterations measured := by
  by_contra fits
  have word : (UInt64.ofNat (r.scaled iterations measured)).toNat = r.scaled iterations measured :=
    UInt64.toNat_ofNat_of_lt' (by rw [UInt64.size]; omega)
  rw [(rescale_eq_ok_iff sound).2 ⟨by omega, word⟩] at fails
  cases fails

/-! ## Questions -/

/-- A question to a meter with its answer. -/
abbrev Call := UInt64 × Result Time

section

variable {σ : Type}

/-- The questions take a meter from one state to another. -/
inductive Meter.Asks : Meter σ → List Call → Meter σ → Prop
  | nil (m : Meter σ) : Asks m [] m
  | cons {m m' : Meter σ} {n : UInt64} {rest : List Call} (run : Asks (m.ask n).2 rest m') :
      Asks m ((n, (m.ask n).1) :: rest) m'

namespace Meter.Asks

variable {m m' m'' : Meter σ} {first second : List Call}

theorem append (before : m.Asks first m') (after : m'.Asks second m'') : m.Asks (first ++ second) m'' := by
  induction before with
  | nil => exact after
  | cons _ ih => exact .cons (ih after)

theorem calls (run : m.Asks first m') : m'.calls = m.calls ++ first := by
  induction run with
  | nil m => exact (List.append_nil _).symm
  | cons _ ih =>
    rw [ih]
    simp [Meter.calls, Meter.ask]

/-- One question. -/
theorem of_ask {n : UInt64} {answer : Result Time} (asked : m.ask n = (answer, m')) :
    m.Asks [(n, answer)] m' := by
  have run : m.Asks [(n, (m.ask n).1)] (m.ask n).2 := .cons (.nil _)
  rwa [asked] at run

end Meter.Asks

end

/-- The probes from a count of doublings on. -/
inductive Probing (r : Request) : Nat → List Call → Result (Nat × Time) → Prop
  | failed {p : Nat} {n : UInt64} (count : n.toNat = probeRounds p) (e : Error) :
      Probing r p [(n, .error e)] (.error e)
  | judged {p : Nat} {n : UInt64} {t : Time} (count : n.toNat = probeRounds p) (long : ¬r.Short t) :
      Probing r p [(n, .ok t)] (.ok (p, t))
  | tooFast {n : UInt64} {t : Time} (count : n.toNat = probeRounds 31) (short : r.Short t) :
      Probing r 31 [(n, .ok t)] (.error (.calibration (.tooFast (probeRounds 31) t)))
  | again {p : Nat} {n : UInt64} {t : Time} {rest : List Call} {outcome : Result (Nat × Time)}
      (count : n.toNat = probeRounds p) (short : r.Short t) (left : p < 31)
      (probing : Probing r (p + 1) rest outcome) : Probing r p ((n, .ok t) :: rest) outcome

theorem short_iff {r : Request} {t : Time} : t < min minProbe r.target ↔ r.Short t := by
  rw [Time.lt_iff_toNanos, Time.toNanos_min]
  rfl

theorem probeRounds_le {p : Nat} (inside : p ≤ 31) : probeRounds p ≤ 1000 * 2 ^ 31 :=
  Nat.mul_le_mul_left 1000 (Nat.pow_le_pow_right (by decide) inside)

theorem toNat_probeRounds {p : Nat} (inside : p ≤ 31) :
    (UInt64.ofNat (probeRounds p)).toNat = probeRounds p := by
  exact UInt64.toNat_ofNat_of_lt' (Nat.lt_of_le_of_lt (probeRounds_le inside) (by decide))

/-- What the probes of a search are. -/
theorem probe_probing {σ : Type} (r : Request) (m : Meter σ) (p : Nat) (inside : p ≤ 31) :
    ∃ calls, m.Asks calls (probe r m p).2 ∧ Probing r p calls (probe r m p).1 := by
  fun_induction probe r m p with
  | case1 m p e m' asked => exact ⟨_, .of_ask asked, .failed (toNat_probeRounds inside) e⟩
  | case2 m p elapsed m' asked short full =>
    rw [short_iff] at short
    obtain rfl : p = 31 := by
      by_contra early
      have few := Nat.pow_le_pow_right (show 0 < 2 by decide) (show p ≤ 30 by omega)
      unfold maxProbeRounds probeRounds at full
      omega
    exact ⟨_, .of_ask asked, .tooFast (toNat_probeRounds inside) short⟩
  | case3 m p elapsed m' asked short room ih =>
    rw [short_iff] at short
    have left := doublings_lt room
    obtain ⟨calls, run, probing⟩ := ih left
    exact ⟨_, (Meter.Asks.of_ask asked).append run, .again (toNat_probeRounds inside) short left probing⟩
  | case4 m p elapsed m' asked long =>
    rw [short_iff] at long
    exact ⟨_, .of_ask asked, .judged (toNat_probeRounds inside) long⟩

/-- The passes from a count of rounds on, so many at most. -/
inductive Passing (r : Request) : Nat → UInt64 → List Call → Result UInt64 → Prop
  | spent (n : UInt64) :
      Passing r 0 n [] (.error (.calibration (.notConverged r.tolerance r.target r.maxPasses.toNat)))
  | nothing {left : Nat} {n : UInt64} (zero : n.toNat = 0) (e : Error) : Passing r (left + 1) n [] (.error e)
  | failed {left : Nat} {n : UInt64} (pos : 1 ≤ n.toNat) (e : Error) :
      Passing r (left + 1) n [(n, .error e)] (.error e)
  | hit {left : Nat} {n : UInt64} {t : Time} (pos : 1 ≤ n.toNat) (near : r.Within t) :
      Passing r (left + 1) n [(n, .ok t)] (.ok n)
  | stuck {left : Nat} {n : UInt64} {t : Time} (pos : 1 ≤ n.toNat) (far : ¬r.Within t)
      (off : t.toNanos = 0 ∨ 2 ^ 64 ≤ r.scaled n t) (e : Error) :
      Passing r (left + 1) n [(n, .ok t)] (.error e)
  | again {left : Nat} {n next : UInt64} {t : Time} {rest : List Call} {outcome : Result UInt64}
      (pos : 1 ≤ n.toNat) (far : ¬r.Within t) (measured : 0 < t.toNanos) (count : next.toNat = r.scaled n t)
      (passing : Passing r left next rest outcome) : Passing r (left + 1) n ((n, .ok t) :: rest) outcome

theorem within_iff {r : Request} {t : Time} : t.absDiff r.target ≤ r.tolerance ↔ r.Within t := by
  rw [Time.le_iff_toNanos, Time.toNanos_absDiff]
  rfl

theorem one_le_rounds {n : UInt64} (some : n ≠ 0) : 1 ≤ n.toNat :=
  Nat.pos_of_ne_zero fun none => some (UInt64.toNat_inj.1 none)

/-- What the passes of a search are. -/
theorem passes_passing {σ : Type} {r : Request} (sound : r.Sound) (doublings : Nat) (probed : Time) (left : Nat)
    (n : UInt64) (m : Meter σ) :
    ∃ calls, m.Asks calls (passes r doublings probed left n m).2 ∧
      Passing r left n calls (passes r doublings probed left n m).1 := by
  fun_induction passes r doublings probed left n m with
  | case1 n m => exact ⟨[], .nil m, .spent n⟩
  | case2 left m =>
    refine ⟨[], .nil m, ?_⟩
    cases Result.ofTime (Time.ofNanos? (probed.toNanos / probeRounds doublings)) with
    | ok => exact .nothing rfl _
    | error => exact .nothing rfl _
  | case3 left n m some e m' asked => exact ⟨_, .of_ask asked, .failed (one_le_rounds some) e⟩
  | case4 left n m some t m' asked near =>
    exact ⟨_, .of_ask asked, .hit (one_le_rounds some) (within_iff.1 near)⟩
  | case5 left n m some t m' asked far e stuck =>
    rw [within_iff] at far
    exact ⟨_, .of_ask asked, .stuck (one_le_rounds some) far (rescale_eq_error sound stuck) e⟩
  | case6 left n m some t m' asked far next scaled ih =>
    rw [within_iff] at far
    obtain ⟨measured, count⟩ := (rescale_eq_ok_iff sound).1 scaled
    obtain ⟨calls, later, passing⟩ := ih
    have run := Meter.Asks.of_ask asked
    exact ⟨_, run.append later, .again (one_le_rounds some) far measured count passing⟩

/-- The probes and the passes of a search, and how it ends. -/
inductive Searching (r : Request) : List Call → List Call → Result UInt64 → Prop
  | probed {probes : List Call} {e : Error} (probing : Probing r 0 probes (.error e)) :
      Searching r probes [] (.error e)
  | passed {probes passes : List Call} {p : Nat} {n k : UInt64} {t : Time} {outcome : Result UInt64}
      (probing : Probing r 0 probes (.ok (p, t))) (count : k.toNat = probeRounds p)
      (first : n.toNat = r.scaled k t) (passing : Passing r r.maxPasses.toNat n passes outcome) :
      Searching r probes passes outcome

/-! ## What the questions are -/

variable {r : Request}

/-- A probe was too short, so that another one follows. -/
def Doubles (r : Request) (c _ : Call) : Prop := ∃ t, c.2 = .ok t ∧ r.Short t

/-- A pass missed the target, and another one follows with a rescaled count. -/
def Rescales (r : Request) (c d : Call) : Prop :=
  ∃ t, c.2 = .ok t ∧ ¬r.Within t ∧ 0 < t.toNanos ∧ d.1.toNat = r.scaled c.1 t

theorem Doubles.answered {c d : Call} (doubles : Doubles r c d) : ∃ t, c.2 = .ok t :=
  doubles.imp fun _ => And.left

theorem Rescales.answered {c d : Call} (rescales : Rescales r c d) : ∃ t, c.2 = .ok t :=
  rescales.imp fun _ => And.left

/-- What the probes from a count of doublings on are, as a list. -/
structure Probed (r : Request) (p : Nat) (calls : List Call) (outcome : Result (Nat × Time)) : Prop where
  started : calls ≠ []
  few : p + calls.length ≤ 32
  doubled : calls.map (·.1.toNat) = (List.range calls.length).map fun i => probeRounds (p + i)
  short : calls.IsChain (Doubles r)
  fails : ∀ n e, calls.getLast? = some (n, .error e) → outcome = .error e
  judged : ∀ n t, calls.getLast? = some (n, .ok t) → ¬r.Short t → ∃ q, outcome = .ok (q, t)
  tooFast : ∀ n t, calls.getLast? = some (n, .ok t) → r.Short t →
    p + calls.length = 32 ∧ outcome = .error (.calibration (.tooFast n.toNat t))
  found : ∀ q t, outcome = .ok (q, t) → ¬r.Short t ∧ q ≤ 31 ∧
    ∃ n, calls.getLast? = some (n, .ok t) ∧ n.toNat = probeRounds q

theorem Probing.probed {p : Nat} {calls : List Call} {outcome : Result (Nat × Time)}
    (probing : Probing r p calls outcome) (inside : p ≤ 31) : Probed r p calls outcome := by
  induction probing with
  | failed count e =>
    exact {
      started := List.cons_ne_nil _ _, few := Nat.succ_le_succ inside
      doubled := by simp [count], short := .singleton _
      fails := by rintro n e ⟨⟩; rfl
      judged := by rintro n t ⟨⟩
      tooFast := by rintro n t ⟨⟩
      found := by rintro q t ⟨⟩ }
  | judged count long =>
    exact {
      started := List.cons_ne_nil _ _, few := Nat.succ_le_succ inside
      doubled := by simp [count], short := .singleton _
      fails := by rintro n e ⟨⟩
      judged := by rintro n t ⟨⟩ _; exact ⟨_, rfl⟩
      tooFast := by rintro n t ⟨⟩ short; exact (long short).elim
      found := by rintro q t ⟨⟩; exact ⟨long, inside, _, rfl, count⟩ }
  | tooFast count short =>
    exact {
      started := List.cons_ne_nil _ _, few := by simp
      doubled := by simp [count], short := .singleton _
      fails := by rintro n e ⟨⟩
      judged := by rintro n t ⟨⟩ long; exact (long short).elim
      tooFast := by rintro n t ⟨⟩ _; exact ⟨rfl, by rw [count]⟩
      found := by rintro q t ⟨⟩ }
  | @again p n t rest outcome count short left _ ih =>
    have later := ih left
    have last : ((n, .ok t) :: rest).getLast? = rest.getLast? := List.getLast?_cons_of_ne_nil later.started
    exact {
      started := List.cons_ne_nil _ _
      few := by
        have few := later.few
        rw [List.length_cons]
        omega
      doubled := by
        rw [List.map_cons, later.doubled, List.length_cons, List.range_succ_eq_map, List.map_cons, List.map_map]
        congr 1
        apply List.map_congr_left
        intro i _
        rw [Function.comp_apply, Nat.succ_add_eq_add_succ]
      short := List.isChain_cons.2 ⟨fun _ _ => ⟨t, rfl, short⟩, later.short⟩
      fails := by rw [last]; exact later.fails
      judged := by rw [last]; exact later.judged
      tooFast := by
        rw [last, List.length_cons, ← Nat.succ_add_eq_add_succ]
        exact later.tooFast
      found := by rw [last]; exact later.found }

/-- A probe that is judged can be rescaled. -/
theorem scaled_of_judged (sound : r.Sound) {q : Nat} {k : UInt64} {t : Time} (inside : q ≤ 31)
    (count : k.toNat = probeRounds q) (long : ¬r.Short t) : 0 < t.toNanos ∧ r.scaled k t < 2 ^ 64 := by
  have least := sound.least
  have most := sound.most
  have few : k.toNat ≤ 1000 * 2 ^ 31 := count ▸ probeRounds_le inside
  unfold Request.Short at long
  have pos : 0 < t.toNanos := by omega
  refine ⟨pos, (Nat.div_lt_iff_lt_mul pos).2 ?_⟩
  by_cases near : r.target.toNanos ≤ t.toNanos
  · calc k.toNat * r.target.toNanos
      _ ≤ 1000 * 2 ^ 31 * t.toNanos := Nat.mul_le_mul few near
      _ < 2 ^ 64 * t.toNanos := Nat.mul_lt_mul_of_pos_right (by decide) pos
  · calc k.toNat * r.target.toNanos
      _ ≤ 1000 * 2 ^ 31 * 60000000000 := Nat.mul_le_mul few most
      _ < 2 ^ 64 * 200000 := by decide
      _ ≤ 2 ^ 64 * t.toNanos := Nat.mul_le_mul_left _ (by omega)

/-- What a search is whose request is not refused. -/
theorem search_searching {σ : Type} (valid : r.validate = .ok ()) (m : Meter σ) :
    ∃ probes passes, m.Asks (probes ++ passes) (search r m).2 ∧ Searching r probes passes (search r m).1 := by
  have sound := Request.sound_of_validate valid
  obtain ⟨probes, run, probing⟩ := probe_probing r m 0 (by decide)
  have probed := probing.probed (by decide)
  rw [search, valid]
  dsimp only
  cases found : probe r m 0 with
  | mk outcome m' =>
    rw [found] at run probing probed
    cases outcome with
    | error e => exact ⟨probes, [], by rwa [List.append_nil], .probed probing⟩
    | ok judged =>
      obtain ⟨p, t⟩ := judged
      obtain ⟨long, inside, -⟩ := probed.found p t rfl
      have count := toNat_probeRounds inside
      obtain ⟨measured, small⟩ := scaled_of_judged sound inside count long
      dsimp only
      cases scaled : rescale (UInt64.ofNat (probeRounds p)) r.target t with
      | error e =>
        rcases rescale_eq_error sound scaled with still | large
        · omega
        · omega
      | ok n =>
        obtain ⟨passes, later, passing⟩ := passes_passing sound p t r.maxPasses.toNat n m'
        have first := ((rescale_eq_ok_iff sound).1 scaled).2
        exact ⟨probes, passes, run.append later, .passed probing count first passing⟩

/-- What the passes from a count of rounds on are, as a list. -/
structure Passed (r : Request) (left : Nat) (n : UInt64) (calls : List Call) (outcome : Result UInt64) :
    Prop where
  few : calls.length ≤ left
  first : ∀ c, calls.head? = some c → c.1 = n
  none : calls = [] → left = 0 ∨ n.toNat = 0
  pos : ∀ c ∈ calls, 1 ≤ c.1.toNat
  next : calls.IsChain (Rescales r)
  fails : ∀ n e, calls.getLast? = some (n, .error e) → outcome = .error e
  returns : ∀ n, outcome = .ok n ↔ ∃ t, calls.getLast? = some (n, .ok t) ∧ r.Within t
  ended : ∀ n t, calls.getLast? = some (n, .ok t) → ¬r.Within t →
    calls.length = left ∨ r.scaled n t = 0 ∨ 2 ^ 64 ≤ r.scaled n t
  gaveUp : ∀ n t, calls.getLast? = some (n, .ok t) → ¬r.Within t → calls.length = left →
    0 < t.toNanos → r.scaled n t < 2 ^ 64 →
    outcome = .error (.calibration (.notConverged r.tolerance r.target r.maxPasses.toNat))

/-- No pass is made. -/
theorem Passed.of_nil {left : Nat} {n : UInt64} {e : Error} (none : left = 0 ∨ n.toNat = 0) :
    Passed r left n [] (.error e) where
  few := Nat.zero_le left
  first := by simp
  none _ := none
  pos := by simp
  next := .nil
  fails := by simp
  returns := by simp
  ended := by simp
  gaveUp := by simp

theorem Passing.passed {left : Nat} {n : UInt64} {calls : List Call} {outcome : Result UInt64}
    (passing : Passing r left n calls outcome) : Passed r left n calls outcome := by
  induction passing with
  | spent n => exact .of_nil (.inl rfl)
  | nothing zero e => exact .of_nil (.inr zero)
  | failed pos e =>
    exact {
      few := by simp, first := by rintro c ⟨⟩; rfl, none := nofun, pos := by simpa using pos
      next := .singleton _
      fails := by rintro n e ⟨⟩; rfl
      returns := by simp
      ended := by rintro n t ⟨⟩
      gaveUp := by rintro n t ⟨⟩ }
  | @hit left n t pos near =>
    exact {
      few := by simp, first := by rintro c ⟨⟩; rfl, none := nofun, pos := by simpa using pos
      next := .singleton _
      fails := by rintro n e ⟨⟩
      returns := by
        intro k
        constructor
        · rintro ⟨⟩
          exact ⟨t, rfl, near⟩
        · rintro ⟨t, ⟨⟩, _⟩
          rfl
      ended := by rintro n t ⟨⟩ far; exact (far near).elim
      gaveUp := by rintro n t ⟨⟩ far; exact (far near).elim }
  | stuck pos far off e =>
    exact {
      few := by simp, first := by rintro c ⟨⟩; rfl, none := nofun, pos := by simpa using pos
      next := .singleton _
      fails := by rintro n e ⟨⟩
      returns := by
        intro k
        constructor
        · rintro ⟨⟩
        · rintro ⟨t, ⟨⟩, near⟩
          exact (far near).elim
      ended := by
        rintro n t ⟨⟩ _
        rcases off with still | large
        · right
          left
          rw [Request.scaled, still, Nat.div_zero]
        · exact .inr (.inr large)
      gaveUp := by
        rintro n t ⟨⟩ _ _ measured small
        omega }
  | @again left n next t rest outcome pos far measured count passing later =>
    have few : ((n, Except.ok t) :: rest).length ≤ left + 1 := Nat.succ_le_succ later.few
    have counts : ∀ c ∈ (n, Except.ok t) :: rest, 1 ≤ c.1.toNat := List.forall_mem_cons.2 ⟨pos, later.pos⟩
    have chain : ((n, Except.ok t) :: rest).IsChain (Rescales r) :=
      List.isChain_cons.2
        ⟨fun d head => ⟨t, rfl, far, measured, by rw [later.first d head, count]⟩, later.next⟩
    cases rest with
    | nil =>
      exact {
        few := few, first := by rintro c ⟨⟩; rfl, none := nofun, pos := counts, next := chain
        fails := by rintro n e ⟨⟩
        returns := by
          intro k
          have none : outcome ≠ .ok k := by simp [later.returns]
          constructor
          · intro found
            exact (none found).elim
          · rintro ⟨t, ⟨⟩, near⟩
            exact (far near).elim
        ended := by
          rintro n t ⟨⟩ _
          rcases later.none rfl with rfl | zero
          · exact .inl rfl
          · exact .inr (.inl (count ▸ zero))
        gaveUp := by
          rintro n t ⟨⟩ _ full _ _
          obtain rfl : left = 0 := (Nat.succ.inj full).symm
          cases passing
          rfl }
    | cons c rest =>
      exact {
        few := few, first := by rintro c ⟨⟩; rfl, none := nofun, pos := counts, next := chain
        fails := later.fails, returns := later.returns
        ended := by
          intro k t last missed
          rcases later.ended k t last missed with full | off
          · exact .inl (congrArg (· + 1) full)
          · exact .inr off
        gaveUp := fun k t last missed full => later.gaveUp k t last missed (Nat.succ.inj full) }

/-- **The run of a search** whose request is not refused: its probes, its passes and how it ends. -/
structure SearchRun (r : Request) (probes passes : List Call) (outcome : Result UInt64) : Prop where
  /-- There are probes, and their counts double from 1000 on. -/
  started : probes ≠ []
  few : probes.length ≤ 32
  doubled : probes.map (·.1.toNat) = (List.range probes.length).map fun i => 1000 * 2 ^ i
  /-- All probes but the last are too short. -/
  short : probes.IsChain (Doubles r)
  /-- So is the last one only where no count is left. -/
  tooFast : ∀ n t, probes.getLast? = some (n, .ok t) → r.Short t →
    probes.length = 32 ∧ passes = [] ∧ outcome = .error (.calibration (.tooFast n.toNat t))
  passes_le : passes.length ≤ r.maxPasses.toNat
  pos : ∀ c ∈ passes, 1 ≤ c.1.toNat
  /-- The first pass has the rescaled count of the last probe. -/
  first : ∀ c, passes.head? = some c →
    ∃ n t, probes.getLast? = some (n, .ok t) ∧ ¬r.Short t ∧ c.1.toNat = r.scaled n t
  /-- All passes but the last miss the target, and each has the rescaled count of the one before. -/
  next : passes.IsChain (Rescales r)
  /-- Passes end early only at the target, with a failure, or where the next count is none. -/
  unpassed : ∀ n t, probes.getLast? = some (n, .ok t) → ¬r.Short t → passes = [] → r.scaled n t = 0
  ended : ∀ n t, passes.getLast? = some (n, .ok t) → ¬r.Within t →
    passes.length = r.maxPasses.toNat ∨ r.scaled n t = 0 ∨ 2 ^ 64 ≤ r.scaled n t
  gaveUp : ∀ n t, passes.getLast? = some (n, .ok t) → ¬r.Within t →
    passes.length = r.maxPasses.toNat → 0 < t.toNanos → r.scaled n t < 2 ^ 64 →
    outcome = .error (.calibration (.notConverged r.tolerance r.target r.maxPasses.toNat))
  /-- A count is returned where the last pass has it and is within the tolerance. -/
  returns : ∀ n, outcome = .ok n ↔ ∃ t, passes.getLast? = some (n, .ok t) ∧ 1 ≤ n.toNat ∧ r.Within t
  /-- A failure of the meter is the last answer, and is returned. -/
  fails : ∀ before n e after, probes ++ passes = before ++ (n, .error e) :: after →
    after = [] ∧ outcome = .error e

/-- Where all questions but the last are answered, a failure is the last answer. -/
theorem last_of_fails {calls before after : List Call} {n : UInt64} {e : Error}
    (answered : calls.IsChain fun c _ => ∃ t, c.2 = .ok t) (cut : calls = before ++ (n, .error e) :: after) :
    after = [] ∧ calls.getLast? = some (n, .error e) := by
  subst cut
  have chain := answered.right_of_append
  cases after with
  | nil => exact ⟨rfl, List.getLast?_concat⟩
  | cons d after =>
    obtain ⟨t, ok⟩ := (List.isChain_cons_cons.1 chain).1
    cases ok

/-- A search that ends with its probes. -/
theorem Probed.searchRun {probes : List Call} {e : Error} (probed : Probed r 0 probes (.error e)) :
    SearchRun r probes [] (.error e) := by
  have few := probed.few
  rw [Nat.zero_add] at few
  exact {
    started := probed.started, few := few
    doubled := by simpa [probeRounds] using probed.doubled
    short := probed.short
    tooFast := by
      intro n t last short
      obtain ⟨count, ends⟩ := probed.tooFast n t last short
      rw [Nat.zero_add] at count
      cases ends
      exact ⟨count, rfl, rfl⟩
    passes_le := Nat.zero_le _, pos := by simp, first := by simp, next := .nil
    unpassed := by
      intro n t last long _
      obtain ⟨q, ends⟩ := probed.judged n t last long
      cases ends
    ended := by simp, gaveUp := by simp, returns := by simp
    fails := by
      intro before n e' after cut
      rw [List.append_nil] at cut
      obtain ⟨none, last⟩ := last_of_fails (probed.short.imp fun _ _ => Doubles.answered) cut
      cases probed.fails n e' last
      exact ⟨none, rfl⟩ }

/-- A search that goes on to its passes. -/
theorem Probed.searchRun_append {probes passes : List Call} {p : Nat} {t : Time} {k n : UInt64}
    {outcome : Result UInt64} (probed : Probed r 0 probes (.ok (p, t))) (count : k.toNat = probeRounds p)
    (rescaled : n.toNat = r.scaled k t) (passed : Passed r r.maxPasses.toNat n passes outcome)
    (sound : r.Sound) : SearchRun r probes passes outcome := by
  obtain ⟨long, -, k', last, same⟩ := probed.found p t rfl
  obtain rfl : k' = k := UInt64.toNat_inj.1 (same.trans count.symm)
  have few := probed.few
  rw [Nat.zero_add] at few
  have passes_pos := sound.passes_pos
  have answered : (probes ++ passes).IsChain fun c _ => ∃ t, c.2 = .ok t := by
    refine List.isChain_append.2 ⟨?_, ?_, ?_⟩
    · exact probed.short.imp fun _ _ => Doubles.answered
    · exact passed.next.imp fun _ _ => Rescales.answered
    · intro c mem _ _
      rw [last] at mem
      cases mem
      exact ⟨t, rfl⟩
  exact {
    started := probed.started, few := few
    doubled := by simpa [probeRounds] using probed.doubled
    short := probed.short
    tooFast := by
      intro n' t' last' short
      rw [last] at last'
      cases last'
      exact (long short).elim
    passes_le := passed.few, pos := passed.pos
    first := by
      intro c head
      refine ⟨k', t, last, long, ?_⟩
      rw [passed.first c head, rescaled]
    next := passed.next
    unpassed := by
      intro n' t' last' _ none
      rw [last] at last'
      cases last'
      rcases passed.none none with never | zero
      · omega
      · rw [← rescaled, zero]
    ended := passed.ended, gaveUp := passed.gaveUp
    returns := by
      intro n'
      rw [passed.returns]
      constructor
      · rintro ⟨t', last', near⟩
        exact ⟨t', last', passed.pos _ (List.mem_of_getLast? last'), near⟩
      · rintro ⟨t', last', _, near⟩
        exact ⟨t', last', near⟩
    fails := by
      intro before n' e after cut
      obtain ⟨none, final⟩ := last_of_fails answered cut
      refine ⟨none, ?_⟩
      cases passes with
      | nil =>
        rw [List.append_nil, last] at final
        cases final
      | cons c rest =>
        rw [List.getLast?_append_of_ne_nil _ (List.cons_ne_nil c rest)] at final
        exact passed.fails n' e final }

theorem Searching.searchRun {probes passes : List Call} {outcome : Result UInt64}
    (searching : Searching r probes passes outcome) (sound : r.Sound) : SearchRun r probes passes outcome := by
  cases searching with
  | probed probing => exact (probing.probed (by decide)).searchRun
  | passed probing count first passing =>
    exact (probing.probed (by decide)).searchRun_append count first passing.passed sound

/-- **A search asks for doubled counts and then for rescaled ones**, whatever the meter answers. -/
theorem search_runs {σ : Type} (r : Request) (measure : UInt64 → σ → Result Time × σ) (s : σ) :
    (∀ e, r.validate = .error e →
      (search r (.new measure s)).1 = .error e ∧ (search r (.new measure s)).2.calls = []) ∧
    (r.validate = .ok () → ∃ probes passes,
      (Meter.new measure s).Asks (probes ++ passes) (search r (.new measure s)).2 ∧
      (search r (.new measure s)).2.calls = probes ++ passes ∧
      SearchRun r probes passes (search r (.new measure s)).1) ∧
    (search r (.new measure s)).2.calls.length ≤ 32 + r.maxPasses.toNat := by
  have refused : ∀ e, r.validate = .error e →
      search r (.new measure s) = (.error e, .new measure s) := by
    intro e invalid
    rw [search, invalid]
  have accepted : r.validate = .ok () → ∃ probes passes,
      (Meter.new measure s).Asks (probes ++ passes) (search r (.new measure s)).2 ∧
      (search r (.new measure s)).2.calls = probes ++ passes ∧
      SearchRun r probes passes (search r (.new measure s)).1 := by
    intro valid
    obtain ⟨probes, passes, run, searching⟩ := search_searching valid (Meter.new measure s)
    exact ⟨probes, passes, run, run.calls, searching.searchRun (Request.sound_of_validate valid)⟩
  refine ⟨?_, accepted, ?_⟩
  · intro e invalid
    rw [refused e invalid]
    exact ⟨rfl, rfl⟩
  · cases valid : r.validate with
    | error e =>
      rw [refused e valid]
      exact Nat.zero_le _
    | ok =>
      obtain ⟨probes, passes, -, calls, searched⟩ := accepted valid
      rw [calls, List.length_append]
      exact Nat.add_le_add searched.few searched.passes_le

end TaskTiming.Calibration
