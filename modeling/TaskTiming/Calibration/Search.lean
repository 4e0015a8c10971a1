import TaskTiming.Calibration.Request

/-!
# The calibration search

A number of rounds is found by measuring: first counts that double until one takes long enough to be
judged, then counts rescaled in proportion to what the last one took, until one is within the
tolerance. What a measurement answers is up to the meter, and every question to it is kept.
-/

namespace TaskTiming.Calibration
set_option autoImplicit false

-- The bounds are powers of the core library, also where others are in sight.
attribute [local instance (2000)] instPowNat

/-- Something that measures how long a number of rounds takes; it may change with every question. -/
structure Meter (σ : Type) where
  measure : UInt64 → σ → Result Time × σ
  state : σ
  /-- The questions so far with their answers, the last one first. -/
  asked : List (UInt64 × Result Time)

namespace Meter

variable {σ : Type}

def new (measure : UInt64 → σ → Result Time × σ) (state : σ) : Meter σ :=
  { measure, state, asked := [] }

def ask (m : Meter σ) (iterations : UInt64) : Result Time × Meter σ :=
  let (answer, state) := m.measure iterations m.state
  (answer, { m with state, asked := (iterations, answer) :: m.asked })

/-- The questions with their answers, in order. -/
def calls (m : Meter σ) : List (UInt64 × Result Time) := m.asked.reverse

end Meter

/-- The number of rounds that would take `target` if `iterations` rounds take `measured`, without its
fraction. -/
def rescale (iterations : UInt64) (target measured : Time) : Result UInt64 :=
  if measured.isZero then .error (.calibration .zeroElapsed)
  else
    match Word.mulWide? iterations.toNat target.toNanos with
    | none => .error (.aborted .wideProduct)
    | some product =>
      match Word.ofNat? (product / measured.toNanos) with
      | some scaled => .ok scaled
      | none => .error (.tooLong target maxTarget)

section rescale

variable {iterations : UInt64} {target measured : Time}

/-- A time of zero is refused before anything is divided by it. -/
theorem rescale_of_zero (zero : measured.toNanos = 0) :
    rescale iterations target measured = .error (.calibration .zeroElapsed) := by
  rw [rescale, if_pos (Time.isZero_iff_toNanos.2 zero)]

/-- A product that has no room brings the thread down. -/
theorem rescale_of_wide (pos : 0 < measured.toNanos) (wide : 2 ^ (128 : Nat) ≤ iterations.toNat * target.toNanos) :
    rescale iterations target measured = .error (.aborted .wideProduct) := by
  rw [rescale, if_neg (Time.not_isZero_iff_toNanos.2 pos), Word.mulWide?_eq_none.2 wide]

/-- A count that is no word is refused. -/
theorem rescale_of_many (pos : 0 < measured.toNanos) (fits : iterations.toNat * target.toNanos < 2 ^ (128 : Nat))
    (many : 2 ^ (64 : Nat) ≤ iterations.toNat * target.toNanos / measured.toNanos) :
    rescale iterations target measured = .error (.tooLong target maxTarget) := by
  rw [rescale, if_neg (Time.not_isZero_iff_toNanos.2 pos), Word.mulWide?_eq_some.2 ⟨rfl, fits⟩]
  dsimp only
  rw [Word.ofNat?_eq_none.2 many]

/-- All else is a count. -/
theorem rescale_of_few (pos : 0 < measured.toNanos) (fits : iterations.toNat * target.toNanos < 2 ^ (128 : Nat))
    (few : iterations.toNat * target.toNanos / measured.toNanos < 2 ^ (64 : Nat)) :
    rescale iterations target measured =
      .ok (UInt64.ofNat (iterations.toNat * target.toNanos / measured.toNanos)) := by
  rw [rescale, if_neg (Time.not_isZero_iff_toNanos.2 pos), Word.mulWide?_eq_some.2 ⟨rfl, fits⟩]
  dsimp only
  rw [Word.ofNat?_eq_some.2 (UInt64.toNat_ofNat_of_lt' few)]

/-- A count is rescaled by a measurement that is not zero, if the product and the new count have room. -/
theorem rescale_eq_ok {w : UInt64} : rescale iterations target measured = .ok w ↔
    0 < measured.toNanos ∧ iterations.toNat * target.toNanos < 2 ^ (128 : Nat) ∧
      w.toNat = iterations.toNat * target.toNanos / measured.toNanos := by
  constructor
  · intro scaled
    by_cases zero : measured.toNanos = 0
    · rw [rescale_of_zero zero] at scaled
      cases scaled
    have pos := Nat.pos_of_ne_zero zero
    by_cases wide : 2 ^ (128 : Nat) ≤ iterations.toNat * target.toNanos
    · rw [rescale_of_wide pos wide] at scaled
      cases scaled
    have fits := Nat.lt_of_not_le wide
    by_cases many : 2 ^ (64 : Nat) ≤ iterations.toNat * target.toNanos / measured.toNanos
    · rw [rescale_of_many pos fits many] at scaled
      cases scaled
    have few := Nat.lt_of_not_le many
    rw [rescale_of_few pos fits few] at scaled
    cases scaled
    exact ⟨pos, fits, UInt64.toNat_ofNat_of_lt' few⟩
  · rintro ⟨pos, fits, count⟩
    rw [rescale_of_few pos fits (count ▸ w.toNat_lt), ← count, UInt64.ofNat_toNat]

end rescale

/-- The shortest probe that is judged, unless the target is shorter. -/
def minProbe : Time := .ofMicros 200

/-- The rounds of the probe after some doublings. -/
def probeRounds (doublings : Nat) : Nat := 1000 * 2 ^ doublings

/-- A probe of so many rounds is not doubled any more. -/
def maxProbeRounds : Nat := 2 ^ (40 : Nat)

theorem doublings_lt {p : Nat} (h : ¬maxProbeRounds ≤ probeRounds p) : p < 31 := by
  rcases Nat.lt_or_ge p 31 with lt | ge
  · exact lt
  · have := Nat.pow_le_pow_right (show 0 < 2 by decide) ge
    simp only [maxProbeRounds, probeRounds] at h
    omega

variable {σ : Type}

/-- Probes with doubled counts until one takes long enough; the answer is its count of doublings and
its time. -/
def probe (r : Request) (m : Meter σ) (doublings : Nat) : Result (Nat × Time) × Meter σ :=
  match m.ask (UInt64.ofNat (probeRounds doublings)) with
  | (.error e, m) => (.error e, m)
  | (.ok elapsed, m) =>
    if elapsed < min minProbe r.target then
      if _h : maxProbeRounds ≤ probeRounds doublings then
        (.error (.calibration (.tooFast (probeRounds doublings) elapsed)), m)
      else probe r m (doublings + 1)
    else (.ok (doublings, elapsed), m)
termination_by 31 - doublings
decreasing_by have := doublings_lt _h; omega

/-- Passes with a rescaled count until one is within the tolerance. -/
def passes (r : Request) (doublings : Nat) (probed : Time) : Nat → UInt64 → Meter σ → Result UInt64 × Meter σ
  | 0, _, m => (.error (.calibration (.notConverged r.tolerance r.target r.maxPasses.toNat)), m)
  | left + 1, iterations, m =>
    if iterations = 0 then
      ((do
        let one ← Result.ofTime (Time.ofNanos? (probed.toNanos / probeRounds doublings))
        .error (.tooShort r.target one)), m)
    else
      match m.ask iterations with
      | (.error e, m) => (.error e, m)
      | (.ok elapsed, m) =>
        if elapsed.absDiff r.target ≤ r.tolerance then (.ok iterations, m)
        else
          match rescale iterations r.target elapsed with
          | .error e => (.error e, m)
          | .ok next => passes r doublings probed left next m

/-- Finds a number of rounds that takes the target to within the tolerance. -/
def search (r : Request) (m : Meter σ) : Result UInt64 × Meter σ :=
  match r.validate with
  | .error e => (.error e, m)
  | .ok () =>
    match probe r m 0 with
    | (.error e, m) => (.error e, m)
    | (.ok (doublings, probed), m) =>
      match rescale (UInt64.ofNat (probeRounds doublings)) r.target probed with
      | .error e => (.error e, m)
      | .ok first => passes r doublings probed r.maxPasses.toNat first m

end TaskTiming.Calibration
