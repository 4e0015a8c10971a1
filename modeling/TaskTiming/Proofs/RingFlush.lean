import TaskTiming.Proofs.RingContents
import TaskTiming.Proofs.Task.LoopRun

/-!
# Flushing a ring

A flush reads a ring from its oldest sample on, wherever that one lies, and offers all of them to a sink.
What the ring has kept is known from the samples that were offered to it (`Ring.Tally`), so a second ring
has been offered those, and what it keeps of them is what one ring with the fewer slots would have kept of
the whole stream, provided both drop samples at the same end (`OverrunPolicy.kept_kept`).
-/

namespace TaskTiming
set_option autoImplicit false

/-- Keeping some of what was kept is keeping as many as the smaller capacity lets through. -/
theorem OverrunPolicy.kept_kept (policy : OverrunPolicy) (c d : Nat) (offered : List Sample) :
    policy.kept d (policy.kept c offered) = policy.kept (min c d) offered := by
  cases policy with
  | overwrite =>
    have length : (offered.drop (offered.length - c)).length = min offered.length c :=
      OverrunPolicy.overwrite.length_kept c offered
    have dropped : offered.length - c + (min offered.length c - d) = offered.length - min c d := by omega
    simp only [kept]
    rw [length, List.drop_drop, dropped]
  | reject =>
    simp only [kept]
    rw [List.take_take, Nat.min_comm]

namespace Sink

theorem recordAll_list (out samples : List Sample) :
    (Sink.list out).recordAll samples = .list (out ++ samples) := by
  induction samples generalizing out with
  | nil => simp [recordAll]
  | cons s rest ih =>
    have next := ih (out ++ [s])
    rwa [List.append_assoc] at next

/-- The count of a flush goes up by one with each sample. -/
theorem foldl_record_counting (k : Sink) (flushed : Nat) (samples : List Sample) :
    samples.foldl (fun (k, flushed) s => (k.record s, flushed + 1)) (k, flushed) =
      (k.recordAll samples, flushed + samples.length) := by
  induction samples generalizing k flushed with
  | nil => simp [recordAll]
  | cons s rest ih =>
    rw [List.foldl_cons, ih, List.length_cons, Nat.add_right_comm, Nat.add_assoc]
    rfl

end Sink

namespace Ring

theorem flush_eq (r : Ring) (k : Sink) : r.flush k = (k.recordAll r.samples, r.samples.length) := by
  have counted := Sink.foldl_record_counting k 0 r.samples
  rwa [Nat.zero_add] at counted

theorem length_samples (r : Ring) : r.samples.length = r.length := by simp [samples]

section Tally

variable {r : Ring} {capacity : Nat} {policy : OverrunPolicy} {offered : List Sample}

theorem Tally.flush_list (h : r.Tally capacity policy offered) (out : List Sample) :
    r.flush (.list out) = (.list (out ++ policy.kept capacity offered), r.length) := by
  rw [flush_eq, Sink.recordAll_list, length_samples, h.samples]

theorem Tally.flush_ring (h : r.Tally capacity policy offered) (second : Ring) :
    r.flush (.ring second) = (.ring (second.recordAll (policy.kept capacity offered)), r.length) := by
  rw [flush_eq, Sink.recordAll_ring, length_samples, h.samples]

end Tally

/-- **One ring behind another one.** Rings of at least one slot each can be made, and whatever samples are
offered to the first one, it keeps some of them, and a flush into the second one leaves there what these
alone would have left, offered oldest first. The second ring has then counted as many samples as the first
one holds, which is the answer of the flush. If both have the same policy, it keeps what one ring with the
smaller of the two capacities keeps of all that was offered. The first ring can be flushed any number of
times, each time with the same samples. -/
theorem flush_composes {c₁ c₂ : Nat} (pos₁ : 0 < c₁) (pos₂ : 0 < c₂) (p₁ p₂ : OverrunPolicy) :
    ∃ first second narrow, Ring.new c₁ p₁ = .ok first ∧ Ring.new c₂ p₂ = .ok second ∧
      Ring.new (min c₁ c₂) p₁ = .ok narrow ∧
      ∀ offered : List Sample, ∃ filled relayed, filled = first.recordAll offered ∧
        filled.samples = p₁.kept c₁ offered ∧
        filled.flush (.ring second) = (.ring relayed, filled.length) ∧
        relayed = second.recordAll filled.samples ∧
        relayed.Tally c₂ p₂ filled.samples ∧
        relayed.total = filled.length ∧
        (p₁ = p₂ → relayed.samples = (narrow.recordAll offered).samples) ∧
        ∀ out, filled.flush (.list out) = (.list (out ++ filled.samples), filled.length) := by
  have pos : 0 < min c₁ c₂ := by omega
  refine ⟨_, _, _, new_eq_ok pos₁, new_eq_ok pos₂, new_eq_ok pos, ?_⟩
  intro offered
  have filled := tally_recordAll pos₁ p₁ offered
  have relayed := tally_recordAll pos₂ p₂ (p₁.kept c₁ offered)
  have narrow := tally_recordAll pos p₁ offered
  refine ⟨_, _, rfl, filled.samples, filled.flush_ring _, ?_, ?_, ?_, ?_, ?_⟩
  · rw [filled.samples]
  · rwa [filled.samples]
  · rw [relayed.total, filled.length, OverrunPolicy.length_kept]
  · rintro rfl
    rw [relayed.samples, narrow.samples, OverrunPolicy.kept_kept]
  · intro out
    rw [filled.flush_list, filled.samples]

/-- Three slots that overwrite, then two: of five samples the last three go over, and the last two stay. -/
theorem flush_composes_wrapped : 0 < 3 ∧ 0 < 2 ∧ ∃ first second, Ring.new 3 .overwrite = .ok first ∧
    Ring.new 2 .overwrite = .ok second ∧ ∀ a b c d e : Sample, ∃ relayed,
      (first.recordAll [a, b, c, d, e]).flush (.ring second) = (.ring relayed, 3) ∧
      relayed.samples = [d, e] ∧ relayed.total = 3 := by
  obtain ⟨first, second, narrow, made₁, made₂, _, all⟩ :=
    flush_composes (by decide : 0 < 3) (by decide : 0 < 2) .overwrite .overwrite
  refine ⟨by decide, by decide, first, second, made₁, made₂, ?_⟩
  intro a b c d e
  obtain ⟨filled, relayed, rfl, kept, flushed, _, tally, total, _, _⟩ := all [a, b, c, d, e]
  have three : (first.recordAll [a, b, c, d, e]).length = 3 := by
    rw [← length_samples, kept]
    rfl
  refine ⟨relayed, ?_, ?_, ?_⟩
  · rw [flushed, three]
  · rw [tally.samples, kept]
    rfl
  · rw [total, three]

end Ring

end TaskTiming
