import TaskTiming.Proofs.Log.ReadBack
import TaskTiming.Proofs.DiskFiles

/-!
# Logs hold what was accepted

A sample is refused for a second count that is no signed word. Refused on its own it leaves a log as it
was; in a ring it ends the appending, and those before it stay (`Writer.appendAll_of_refused`). So
whatever was refused on the way, a log is the bytes of its header with one record for each accepted sample
behind them, and it counts those records (`log_holds_accepted`). A header that is refused leaves no trace
on the disk.
-/

namespace TaskTiming.Log
set_option autoImplicit false

theorem encodeInstant_of_not_fits {t : Time} (h : ¬t.FitsNative) : encodeInstant t = .error .overflow := by
  have overflows : t.toNative = .error .overflow := if_neg h
  rw [encodeInstant, overflows]
  rfl

theorem encodeSample_of_not_fits {s : Sample} (h : ¬s.FitsNative) : encodeSample s = .error .overflow := by
  unfold encodeSample
  by_cases start : s.start.FitsNative
  · rw [encodeInstant_of_fits start, encodeInstant_of_not_fits fun finish => h ⟨start, finish⟩]
    rfl
  · rw [encodeInstant_of_not_fits start]
    rfl

/-- The samples up to the first that is refused. -/
def accepted (samples : List Sample) : List Sample := samples.takeWhile fun s => decide s.FitsNative

section Accepted

variable {samples older newer : List Sample} {s : Sample}

theorem accepted_of_refused (fits : ∀ t ∈ older, t.FitsNative) (refused : ¬s.FitsNative) :
    accepted (older ++ s :: newer) = older := by
  have all : ∀ t ∈ older, decide t.FitsNative = true := fun t mem => decide_eq_true (fits t mem)
  have stop : ¬decide s.FitsNative = true := fun kept => refused (of_decide_eq_true kept)
  rw [accepted, List.takeWhile_append_of_pos all, List.takeWhile_cons, if_neg stop, List.append_nil]

theorem accepted_of_fits (fits : ∀ s ∈ samples, s.FitsNative) : accepted samples = samples := by
  have all : ∀ s ∈ samples, decide s.FitsNative = true := fun s mem => decide_eq_true (fits s mem)
  rw [accepted, ← List.append_nil samples, List.takeWhile_append_of_pos all, List.takeWhile_nil]

theorem fits_of_mem_accepted (mem : s ∈ accepted samples) : s.FitsNative :=
  of_decide_eq_true (List.all_eq_true.1 List.all_takeWhile s mem)

/-- All samples are accepted, or there is a first one that is not. -/
theorem fits_or_refused (samples : List Sample) : (∀ s ∈ samples, s.FitsNative) ∨
    ∃ older s newer, samples = older ++ s :: newer ∧ (∀ t ∈ older, t.FitsNative) ∧ ¬s.FitsNative := by
  cases found : samples.find? fun s => !decide s.FitsNative with
  | none =>
    left
    intro s mem
    have kept := List.find?_eq_none.1 found s mem
    simpa using kept
  | some s =>
    right
    obtain ⟨refused, older, newer, rfl, kept⟩ := List.find?_eq_some_iff_append.1 found
    refine ⟨older, s, newer, rfl, ?_, by simpa using refused⟩
    intro t mem
    simpa using kept t mem

end Accepted

namespace Entry

/-- What a step adds to a log, in order. -/
def accepted (e : Entry) : List Sample := Log.accepted e.samples

/-- What a step answers: there must be such a ring, and each of its samples must have a record. -/
def outcome (e : Entry) : Result Unit :=
  if ¬e.HasSlot then .error (.argument .ringCapacityZero)
  else if ∀ s ∈ e.samples, s.FitsNative then .ok ()
  else .error .overflow

end Entry

namespace Writer

/-- A log with these bytes in front has a record for each sample, in order, and their number. -/
structure Holds (w : Writer) (header : List UInt8) (samples : List Sample) : Prop where
  bytes : ∃ rows, samples.mapM encodeSample = .ok rows ∧ (∀ row ∈ rows, row.length = 32) ∧
    w.bytes = header ++ rows.flatten
  count : w.samples = samples.length

/-- The log with more samples behind its last one. -/
def grown (w : Writer) (samples : List Sample) : Writer :=
  { bytes := w.bytes ++ records samples, samples := w.samples + samples.length }

theorem grown_nil (w : Writer) : w.grown [] = w := by
  simp only [grown, records, List.flatMap_nil, List.append_nil, List.length_nil, Nat.add_zero]

theorem grown_grown (w : Writer) (first second : List Sample) :
    (w.grown first).grown second = w.grown (first ++ second) := by
  simp only [grown, records_append, List.append_assoc, List.length_append, Nat.add_assoc]

theorem append_of_fits {s : Sample} (fits : s.FitsNative) (w : Writer) : w.append s = .ok (w.grown [s]) := by
  rw [append, encodeSample_of_fits fits]
  simp only [grown, records, List.flatMap_singleton, List.length_singleton]
  rfl

theorem append_of_refused {s : Sample} {e : Error} (refused : encodeSample s = .error e) (w : Writer) :
    w.append s = .error e := by
  rw [append, refused]
  rfl

/-- The first refused sample ends the appending; those before it stay, and none behind it comes in. -/
theorem appendAll_of_refused {older newer : List Sample} {s : Sample} {e : Error}
    (fits : ∀ t ∈ older, t.FitsNative) (refused : encodeSample s = .error e) (w : Writer) :
    w.appendAll (older ++ s :: newer) = (.error e, w.grown older) := by
  induction older generalizing w with
  | nil => rw [List.nil_append, appendAll, append_of_refused refused, grown_nil]
  | cons t older ih =>
    rw [List.cons_append, appendAll, append_of_fits (fits t List.mem_cons_self)]
    simp only
    rw [ih fun u mem => fits u (List.mem_cons_of_mem t mem), grown_grown, List.singleton_append]

theorem appendRing_of_refused {ring : Ring} {older newer : List Sample} {s : Sample} {e : Error}
    (split : ring.samples = older ++ s :: newer) (fits : ∀ t ∈ older, t.FitsNative)
    (refused : encodeSample s = .error e) (w : Writer) :
    w.appendRing ring = (.error e, w.grown older) := by
  rw [appendRing, split, appendAll_of_refused fits refused]
  rfl

/-- A step that is refused has added what stands before the refused sample. -/
theorem enter_of_refused {e : Entry} (slot : e.HasSlot) {older newer : List Sample} {s : Sample}
    (split : e.samples = older ++ s :: newer) (fits : ∀ t ∈ older, t.FitsNative) (refused : ¬s.FitsNative)
    (w : Writer) : w.enter e = (.error .overflow, w.grown older) := by
  have fault := encodeSample_of_not_fits refused
  cases e with
  | sample t =>
    obtain ⟨rfl, rfl, rfl⟩ : older = [] ∧ t = s ∧ newer = [] := by
      cases older <;> simp_all [Entry.samples]
    rw [enter, append_of_refused fault, grown_nil]
  | ring capacity policy offered =>
    have kept := (Ring.tally_recordAll slot policy offered).samples
    rw [enter, Ring.new_eq_ok slot]
    simp only [appendRing_of_refused (kept.trans split) fits fault]
    rfl

/-- A step whose samples all have records adds them all. -/
theorem enter_of_accepted {e : Entry} (slot : e.HasSlot) (fits : ∀ s ∈ e.samples, s.FitsNative)
    (w : Writer) : w.enter e = (.ok (), w.grown e.samples) := by
  cases e with
  | sample s => rw [enter, append_of_fits (fits s List.mem_cons_self)]; rfl
  | ring capacity policy offered =>
    have kept : ((Ring.blank capacity policy slot).recordAll offered).samples = policy.kept capacity offered :=
      (Ring.tally_recordAll slot policy offered).samples
    have native : ∀ s ∈ ((Ring.blank capacity policy slot).recordAll offered).samples, s.FitsNative := by
      rw [kept]
      exact fits
    rw [enter, Ring.new_eq_ok slot]
    simp only [appendRing_of_fits native, kept]
    rfl

/-- A ring without a slot is refused before the log is reached. -/
theorem enter_of_no_slot {e : Entry} (slot : ¬e.HasSlot) (w : Writer) :
    w.enter e = (.error (.argument .ringCapacityZero), w) ∧ e.samples = [] := by
  cases e with
  | sample s => exact (slot trivial).elim
  | ring capacity policy offered =>
    obtain rfl : capacity = 0 := Nat.eq_zero_of_not_pos slot
    constructor
    · rfl
    · apply List.eq_nil_of_length_eq_zero
      rw [Entry.samples, policy.length_kept, Nat.min_zero]

/-- **What a step does to a log**, whatever the log holds. -/
theorem enter_eq (w : Writer) (e : Entry) : w.enter e = (e.outcome, w.grown e.accepted) := by
  unfold Entry.outcome Entry.accepted
  by_cases slot : e.HasSlot
  · rw [if_neg (not_not_intro slot)]
    rcases fits_or_refused e.samples with fits | ⟨older, s, newer, split, fits, refused⟩
    · rw [if_pos fits, accepted_of_fits fits, enter_of_accepted slot fits]
    · have some : ¬∀ t ∈ e.samples, t.FitsNative := by
        intro all
        refine refused (all s ?_)
        rw [split]
        exact List.mem_append_right _ List.mem_cons_self
      rw [if_neg some, enter_of_refused slot split fits refused, split, accepted_of_refused fits refused]
  · obtain ⟨answer, none⟩ := enter_of_no_slot slot w
    rw [if_pos slot, answer, none]
    show _ = (_, w.grown [])
    rw [grown_nil]

theorem enterAll_eq (w : Writer) (entries : List Entry) :
    w.enterAll entries = (entries.map Entry.outcome, w.grown (entries.flatMap Entry.accepted)) := by
  induction entries generalizing w with
  | nil => rw [enterAll, List.flatMap_nil, grown_nil, List.map_nil]
  | cons e rest ih =>
    rw [enterAll, enter_eq]
    simp only [ih, grown_grown, List.flatMap_cons, List.map_cons]

theorem mapM_encodeSample {samples : List Sample} (fits : ∀ s ∈ samples, s.FitsNative) :
    samples.mapM encodeSample = .ok (samples.map recordBytes) := by
  induction samples with
  | nil => rfl
  | cons s rest ih =>
    rw [List.mapM_cons, encodeSample_of_fits (fits s List.mem_cons_self),
      ih fun t mem => fits t (List.mem_cons_of_mem s mem)]
    rfl

theorem holds_grown (header : List UInt8) {samples : List Sample} (fits : ∀ s ∈ samples, s.FitsNative) :
    (grown { bytes := header, samples := 0 } samples).Holds header samples where
  bytes := by
    refine ⟨_, mapM_encodeSample fits, ?_, ?_⟩
    · intro row mem
      obtain ⟨s, -, rfl⟩ := List.mem_map.1 mem
      exact length_recordBytes s
    · rw [grown, records, List.flatMap_def]
  count := Nat.zero_add _

/-- What steps make of a log with these header bytes, whatever was refused on the way. -/
structure KeepsAccepted (w : Writer) (header : List UInt8) (entries : List Entry) : Prop where
  answers : (w.enterAll entries).1 = entries.map Entry.outcome
  holds : (w.enterAll entries).2.Holds header (entries.flatMap Entry.accepted)
  /-- One more sample that is refused changes nothing. -/
  sample : ∀ s e, encodeSample s = .error e →
    (w.enterAll entries).2.enter (.sample s) = (.error e, (w.enterAll entries).2)
  /-- One more ring is taken whole, and its samples are counted. -/
  wholeRing : ∀ ring : Ring, (∀ s ∈ ring.samples, s.FitsNative) →
    ((w.enterAll entries).2.appendRing ring).1 = .ok ring.samples.length ∧
    ((w.enterAll entries).2.appendRing ring).2.Holds header (entries.flatMap Entry.accepted ++ ring.samples)
  /-- Or it is taken up to its first sample that is refused, whatever comes behind that one. -/
  cutRing : ∀ (ring : Ring) (older : List Sample) (s : Sample) (newer : List Sample) (e : Error),
    ring.samples = older ++ s :: newer → (∀ t ∈ older, t.FitsNative) → encodeSample s = .error e →
    ((w.enterAll entries).2.appendRing ring).1 = .error e ∧
    ((w.enterAll entries).2.appendRing ring).2.Holds header (entries.flatMap Entry.accepted ++ older)

theorem keepsAccepted (header : List UInt8) (entries : List Entry) :
    KeepsAccepted { bytes := header, samples := 0 } header entries := by
  have fits : ∀ s ∈ entries.flatMap Entry.accepted, s.FitsNative := by
    intro s mem
    obtain ⟨e, -, taken⟩ := List.mem_flatMap.1 mem
    exact fits_of_mem_accepted taken
  have more {samples : List Sample} (also : ∀ s ∈ samples, s.FitsNative) :
      ∀ s ∈ entries.flatMap Entry.accepted ++ samples, s.FitsNative := by
    intro s mem
    exact (List.mem_append.1 mem).elim (fits s) (also s)
  constructor <;> rw [enterAll_eq]
  · exact holds_grown header fits
  · intro s e refused
    rw [enter, append_of_refused refused]
  · intro ring all
    rw [appendRing_of_fits all]
    refine ⟨rfl, ?_⟩
    have held := holds_grown header (more all)
    rwa [← grown_grown] at held
  · intro ring older s newer e split front refused
    rw [appendRing_of_refused split front refused, grown_grown]
    exact ⟨rfl, holds_grown header (more front)⟩

theorem new_of_encoded {h : Header} {header : List UInt8} (encoded : h.encode = .ok header) :
    new h = .ok { bytes := header, samples := 0 } := by
  rw [new, encoded]
  rfl

/-- A header that is refused leaves the disk as it was. -/
theorem create_of_refused {h : Header} {e : Error} (refused : h.encode = .error e) (path : Path) (d : Disk) :
    create h path d = (.error e, d) := by
  rw [create, new, refused]
  rfl

/-- What the disk takes is saved. -/
theorem save_of_made {w : Writer} {path : Path} {d : Disk} (made : (d.createWith path w.bytes).1 = .ok ()) :
    w.save path d = (.ok (), (d.createWith path w.bytes).2) := by
  rw [save]
  simp only [made]
  rfl

/-- A log that could be made has just its header in its file. -/
theorem create_of_made {h : Header} {header : List UInt8} (encoded : h.encode = .ok header) {path : Path}
    {d : Disk} (made : (d.createWith path header).1 = .ok ()) :
    create h path d = (.ok { bytes := header, samples := 0 }, (d.createWith path header).2) ∧
    (d.createWith path header).2.read path = .ok (.ok header) := by
  have whole : d.createWith path header = (.ok (), (d.createWith path header).2) := Prod.ext made rfl
  refine ⟨?_, Disk.read_createWith whole⟩
  have saved := save_of_made (w := { bytes := header, samples := 0 }) made
  rw [create, new_of_encoded encoded]
  simp only [saved]
  rfl

end Writer

/-- **Logs hold what was accepted.** A refused header leaves the disk alone. An accepted one is what the
file begins with, and behind it stand the records of the samples accepted so far, after any steps
whatever. -/
theorem log_holds_accepted (h : Header) (path : Path) (d : Disk) :
    (∀ e, h.encode = .error e → Writer.create h path d = (.error e, d)) ∧
    ∀ header, h.encode = .ok header → (d.createWith path header).1 = .ok () →
      ∃ w d', Writer.create h path d = (.ok w, d') ∧ d'.read path = .ok (.ok header) ∧
        ∀ entries : List Entry, w.KeepsAccepted header entries := by
  constructor
  · intro e refused
    exact Writer.create_of_refused refused path d
  · intro header encoded made
    obtain ⟨created, holds⟩ := Writer.create_of_made encoded made
    exact ⟨_, _, created, holds, Writer.keepsAccepted header⟩

/-- A header for examples. -/
def tau : Header where
  name := "tau"
  release := .aperiodic
  statsDisabled := false
  wcet := .ofSecs 1
  period := .zero
  deadline := .ofSecs 2
  t0 := .ofSecs 7
  offset := .zero
  overheads := .none

theorem encode_tau : ∃ header, tau.encode = .ok header := by
  apply Header.encode_accepts
  · rw [Header.nameBytes, toList_eq_data]
    decide
  · decide

/-- A sample that is refused, and a ring whose second sample of three is. -/
theorem log_holds_accepted_cut :
    let late : Sample := ⟨.ofSecs 7, .ofSecs 9223372036854775808⟩
    let entries : List Entry := [.sample late,
      .ring 3 .overwrite [⟨.ofSecs 7, .ofSecs 8⟩, late, ⟨.ofSecs 8, .ofSecs 9⟩]]
    ∃ header w d', tau.encode = .ok header ∧ (Disk.empty.createWith ⟨"log"⟩ header).1 = .ok () ∧
      Writer.create tau ⟨"log"⟩ .empty = (.ok w, d') ∧
      (w.enterAll entries).1 = [.error .overflow, .error .overflow] ∧
      (w.enterAll entries).2.Holds header [⟨.ofSecs 7, .ofSecs 8⟩] := by
  intro late entries
  obtain ⟨header, encoded⟩ := encode_tau
  have room : (Disk.empty.createWith ⟨"log"⟩ header).1 = .ok () := Disk.createWith_of_unlimited rfl (fun _ => rfl) header
  obtain ⟨w, d', created, -, keeps⟩ := (log_holds_accepted tau ⟨"log"⟩ .empty).2 header encoded room
  have kept := keeps entries
  exact ⟨header, w, d', encoded, room, created, kept.answers, kept.holds⟩

end TaskTiming.Log
