import TaskTiming.Json.Record
import TaskTiming.Proofs.Json.Scanning
import TaskTiming.Proofs.Time.Grammar

/-!
# Decoding what is written

A decoder takes the tokens of a value off the front of a row (`Decoder.Takes`), an object member by member
(`Decoder.takes_members`), and a record out of the members that are written for its fields, in whatever
order and however many of those that may be left out (`Schema.reads_written`). What a decoder accepts, on the
other hand, it has put together by its own steps and by nothing else (`Decoder.Gives`).
-/

namespace TaskTiming.Json
set_option autoImplicit false

namespace Decoder

variable {α β σ : Type} {d : Decoder α} {f : α → Decoder β} {row row' : List Token} {a : α} {b : β}

/-- A decoder takes a row of tokens for a value, whatever follows the row. -/
def Takes (d : Decoder α) (row : List Token) (a : α) : Prop := ∀ rest, d (row ++ rest) = .ok (a, rest)

theorem takes_pure (a : α) : Takes (pure a) [] a := by
  intro rest
  rfl

theorem Takes.bind (first : d.Takes row a) (second : (f a).Takes row' b) : (d >>= f).Takes (row ++ row') b := by
  intro rest
  show (do let (a, rest) ← d (row ++ row' ++ rest); f a rest : Except Fault _) = _
  rw [List.append_assoc, first]
  exact second rest

/-- What comes behind may take nothing. -/
theorem Takes.bind_nil (first : d.Takes row a) (second : (f a).Takes [] b) : (d >>= f).Takes row b := by
  have both := first.bind second
  rw [List.append_nil] at both
  exact both

theorem Takes.map (g : α → β) (takes : d.Takes row a) : (g <$> d).Takes row (g a) := by
  intro rest
  show (do let (a, rest) ← d (row ++ rest); pure (g a, rest) : Except Fault _) = _
  rw [takes]
  rfl

/-- Without anything behind it, a row is the whole. -/
theorem Takes.all (takes : d.Takes row a) : d.all row = .ok a := by
  have whole := takes []
  rw [List.append_nil] at whole
  rw [Decoder.all, whole]

theorem takes_next (t : Token) : next.Takes [t] t := by
  intro rest
  rfl

theorem takes_expect (t : Token) : (expect t).Takes [t] () := by
  apply (takes_next t).bind
  rw [if_pos rfl]
  exact takes_pure ()

theorem takes_string (s : List Char) : string.Takes [.string (escape s)] (String.ofList s) := by
  apply (takes_next _).bind
  simp only [unescape_escape]
  exact takes_pure _

theorem takes_time (t : Time) : time.Takes (Json.ofTime t).tokens t := by
  apply (takes_string t.parts.flatten).bind
  rw [Time.flatten_parts]
  have read : Time.ofText? (String.ofList t.chars) = .ok t := Time.ofText?_text t
  simp only [read]
  exact takes_pure t

theorem takes_natBelow {bound n : Nat} (below : n < bound) : (natBelow bound).Takes (Json.ofNat n).tokens n := by
  apply (takes_next _).bind
  show Takes (if n < bound then pure n else malformed) [] n
  rw [if_pos below]
  exact takes_pure n

theorem takes_uint64 (w : UInt64) : uint64.Takes (Json.ofNat w.toNat).tokens w := by
  have takes : uint64.Takes (Json.ofNat w.toNat).tokens (UInt64.ofNat w.toNat) := (takes_natBelow w.toNat_lt).map _
  rw [UInt64.ofNat_toNat] at takes
  exact takes

/-- A decoder that looks at the next token first. -/
theorem Takes.peek {g : Option Token → Decoder β} {t : Token} (takes : (g (some t)).Takes (t :: row) b) :
    (Decoder.peek >>= g).Takes (t :: row) b := by
  intro rest
  exact takes rest

/-- A decoder reads a value back from the tokens that it is written as. -/
structure Reads (d : Decoder α) (j : Json) (a : α) : Prop where
  natural : j.Natural
  takes : d.Takes j.tokens a

theorem Reads.map (g : α → β) {j : Json} (reads : d.Reads j a) : (g <$> d).Reads j (g a) :=
  ⟨reads.natural, reads.takes.map g⟩

theorem reads_time (t : Time) : time.Reads (.ofTime t) t := ⟨.spelled _, takes_time t⟩

theorem reads_uint64 (w : UInt64) : uint64.Reads (.ofNat w.toNat) w := ⟨.number _, takes_uint64 w⟩

theorem reads_null (d : Decoder α) : (nullable d).Reads .null none where
  natural := .null
  takes := by
    intro rest
    rfl

/-- A value that does not start with `null` is read for itself. -/
theorem Reads.nullable {j : Json} (reads : d.Reads j a) {t : Token} (first : j.tokens = t :: row)
    (value : t ≠ .null) : (nullable d).Reads j (some a) where
  natural := reads.natural
  takes := by
    have takes := reads.takes
    rw [first] at takes ⊢
    apply Takes.peek
    split
    · rename_i null
      cases null
      exact absurd rfl value
    · exact takes.map some

/-! ## Objects -/

section Members

variable {step : σ → List Char → Decoder σ} {s s' : σ} {members : List (String × Json)}

/-- The members of an object, each taken by the same step. -/
inductive Handles (step : σ → List Char → Decoder σ) : σ → List (String × Json) → σ → Prop
  | nil (s : σ) : Handles step s [] s
  | cons {s s' s'' : σ} {key : String} {j : Json} {rest : List (String × Json)}
      (first : (step s (escape key.toList)).Takes j.tokens s') (later : Handles step s' rest s'') :
      Handles step s ((key, j) :: rest) s''

theorem takes_membersFrom (handles : Handles step s members s') (some : members ≠ []) {fuel : Nat}
    (enough : members.length ≤ fuel) :
    (membersFrom step fuel s).Takes (memberTokens members ++ [.closeObject]) s' := by
  induction handles generalizing fuel with
  | nil => exact absurd rfl some
  | @cons s s₁ s' key j rest first later ih =>
    obtain ⟨fuel, rfl⟩ : ∃ less, fuel = less + 1 := by
      simp only [List.length_cons] at enough
      exact ⟨fuel - 1, by omega⟩
    rw [List.length_cons, Nat.add_le_add_iff_right] at enough
    cases rest with
    | nil =>
      cases later
      have row : memberTokens [(key, j)] ++ [.closeObject] =
          [.string (escape key.toList)] ++ ([.colon] ++ (j.tokens ++ [.closeObject])) := by
        simp [memberTokens]
      rw [row]
      apply (takes_next _).bind
      apply (takes_expect _).bind
      apply first.bind
      exact (takes_next _).bind_nil (takes_pure _)
    | cons next rest =>
      have row : memberTokens ((key, j) :: next :: rest) ++ [.closeObject] =
          [.string (escape key.toList)] ++ ([.colon] ++ (j.tokens ++
            ([.comma] ++ (memberTokens (next :: rest) ++ [.closeObject])))) := by
        simp [memberTokens]
      rw [row]
      apply (takes_next _).bind
      apply (takes_expect _).bind
      apply first.bind
      apply (takes_next _).bind
      exact ih (by simp) enough

theorem length_le_memberTokens (members : List (String × Json)) :
    members.length ≤ (memberTokens members).length := by
  induction members with
  | nil => exact Nat.le_refl _
  | cons m rest ih =>
    obtain ⟨key, j⟩ := m
    cases rest with
    | nil => simp [memberTokens]
    | cons next rest =>
      simp only [memberTokens, List.length_cons, List.length_append] at ih ⊢
      omega

/-- The first token of a member is its key. -/
theorem memberTokens_cons (key : String) (j : Json) (rest : List (String × Json)) :
    ∃ row, memberTokens ((key, j) :: rest) = .string (escape key.toList) :: row := by
  cases rest with
  | nil => exact ⟨_, rfl⟩
  | cons next rest => exact ⟨_, rfl⟩

/-- **An object is taken member by member.** -/
theorem takes_members (handles : Handles step s members s') :
    (Decoder.members step s).Takes (Json.object members).tokens s' := by
  intro rest
  have row : (Json.object members).tokens = .openObject :: (memberTokens members ++ [.closeObject]) := by
    rw [tokens]
    rfl
  -- The tokens that are left bound the members, whatever follows the object.
  have enough : members.length ≤ ((Json.object members).tokens ++ rest).length := by
    have := length_le_memberTokens members
    simp only [row, List.length_append, List.length_cons]
    omega
  cases members with
  | nil =>
    cases handles
    rfl
  | cons m later =>
    obtain ⟨key, j⟩ := m
    have inside := takes_membersFrom handles (by simp) enough rest
    obtain ⟨behind, first⟩ := memberTokens_cons key j later
    rw [row, first] at inside ⊢
    exact inside

end Members

/-! ## What is accepted -/

/-- Whatever a decoder takes off any row has a property. -/
def Gives (d : Decoder α) (P : α → Prop) : Prop := ∀ row a rest, d row = .ok (a, rest) → P a

theorem gives_pure {P : α → Prop} (holds : P a) : Gives (pure a) P := by
  intro row b rest same
  cases same
  exact holds

theorem gives_fail {P : α → Prop} (fault : Fault) : Gives (fail fault) P := by
  intro row a rest same
  cases same

theorem Gives.bind {P : α → Prop} {Q : β → Prop} (first : d.Gives P) (second : ∀ a, P a → (f a).Gives Q) :
    (d >>= f).Gives Q := by
  intro row b rest done
  have both : (do let (a, rest) ← d row; f a rest : Except Fault _) = .ok (b, rest) := done
  cases taken : d row with
  | error fault => rw [taken] at both; cases both
  | ok taking =>
    obtain ⟨a, behind⟩ := taking
    rw [taken] at both
    exact second a (first _ _ _ taken) behind b rest both

/-- What is taken first may be anything. -/
theorem gives_bind {Q : β → Prop} (second : ∀ a, (f a).Gives Q) : (d >>= f).Gives Q := by
  have any : d.Gives fun _ => True := fun _ _ _ _ => trivial
  exact any.bind fun a _ => second a

theorem Gives.map {P : α → Prop} {Q : β → Prop} {g : α → β} (gives : d.Gives P) (carries : ∀ a, P a → Q (g a)) :
    (g <$> d).Gives Q := by
  rw [map_eq_pure_bind]
  exact gives.bind fun a holds => gives_pure (carries a holds)

section Accepted

variable {step : σ → List Char → Decoder σ} {P : σ → Prop}

theorem gives_membersFrom (keeps : ∀ s row, P s → (step s row).Gives P) (fuel : Nat) {s : σ} (start : P s) :
    (membersFrom step fuel s).Gives P := by
  induction fuel generalizing s with
  | zero => exact gives_fail _
  | succ fuel ih =>
    apply gives_bind
    intro t
    split
    · rename_i key
      apply gives_bind
      intro _
      refine Gives.bind (keeps s key start) ?_
      intro s' holds
      apply gives_bind
      intro t
      split
      · exact ih holds
      · exact gives_pure holds
      · exact gives_fail _
    · exact gives_fail _

/-- What the members of an object are put into keeps what each of them keeps. -/
theorem gives_members (keeps : ∀ s row, P s → (step s row).Gives P) {s : σ} (start : P s) :
    (members step s).Gives P := by
  intro row
  refine gives_bind (d := expect .openObject) ?_ row
  intro _
  apply gives_bind
  intro t
  split
  · exact gives_bind fun _ => gives_pure start
  · exact gives_membersFrom keeps _ start

end Accepted

end Decoder

/-! ## Records -/

namespace Schema

open Decoder

variable {α : Type} {schema : Schema α}

/-- What is written for a field, and what that changes of a record. -/
structure Entry (α : Type) where
  name : String
  content : Json
  put : α → α

/-- The field of an entry takes what is written for it. -/
def Writes (schema : Schema α) (e : Entry α) : Prop :=
  ∃ field, schema.find? e.name = some field ∧ field.read.Reads e.content e.put

/-- What a record does with each of its members. -/
def member (schema : Schema α) (draft : Draft α) (row : List Char) : Decoder (Draft α) := do
  match schema.find? (← key row) with
  | some field => take draft field
  | none => do
    Decoder.skip
    pure draft

theorem takes_key (name : String) : (key (escape name.toList)).Takes [] name := by
  rw [key, unescape_escape]
  show Takes (pure (String.ofList name.toList)) [] name
  rw [String.ofList_toList]
  exact takes_pure name

theorem take_of_fresh {draft : Draft α} {field : Field α} (fresh : field.name ∉ draft.seen) :
    take draft field =
      field.read >>= fun put => pure { record := put draft.record, seen := field.name :: draft.seen } := by
  have absent : ¬draft.seen.contains field.name = true := by simpa using fresh
  show (if draft.seen.contains field.name = true then _ else _) = _
  rw [if_neg absent]

/-- A field that is not there yet is put into the record. -/
theorem takes_member {e : Entry α} (writes : schema.Writes e) {draft : Draft α} (fresh : e.name ∉ draft.seen) :
    (schema.member draft (escape e.name.toList)).Takes e.content.tokens
      { record := e.put draft.record, seen := e.name :: draft.seen } := by
  obtain ⟨field, found, reads⟩ := writes
  have named : field.name = e.name := by simpa using List.find?_some found
  apply (takes_key e.name).bind
  rw [found]
  show (take draft field).Takes _ _
  rw [← named] at fresh ⊢
  rw [take_of_fresh fresh]
  exact reads.takes.bind_nil (takes_pure _)

/-- The members of a record as they are written. -/
def written (entries : List (Entry α)) : List (String × Json) := entries.map fun e => (e.name, e.content)

/-- A record with all entries put into it. -/
def filled (a : α) (entries : List (Entry α)) : α := entries.foldl (fun a e => e.put a) a

/-- A draft with all entries put into it. -/
def Draft.fill (draft : Draft α) (entries : List (Entry α)) : Draft α where
  record := filled draft.record entries
  seen := (entries.map Entry.name).reverse ++ draft.seen

theorem handles_entries {entries : List (Entry α)} (writes : ∀ e ∈ entries, schema.Writes e)
    (once : (entries.map Entry.name).Nodup) (draft : Draft α) (fresh : ∀ e ∈ entries, e.name ∉ draft.seen) :
    Handles schema.member draft (written entries) (draft.fill entries) := by
  induction entries generalizing draft with
  | nil => exact .nil draft
  | cons e entries ih =>
    simp only [List.map_cons, List.nodup_cons, List.mem_map, not_exists, not_and] at once
    have first := takes_member (writes e List.mem_cons_self) (fresh e List.mem_cons_self)
    refine .cons first ?_
    rw [Draft.fill, List.map_cons, List.reverse_cons, List.append_assoc]
    apply ih fun e' mem => writes e' (List.mem_cons_of_mem _ mem)
    · exact once.2
    · intro e' mem seen
      rcases List.mem_cons.1 seen with same | seen
      · exact once.1 e' mem same
      · exact fresh e' (List.mem_cons_of_mem _ mem) seen

/-- A record is complete once the fields that must be there are. -/
theorem finish_of_complete {draft : Draft α}
    (complete : ∀ field ∈ schema.fields, field.presence = .required → field.name ∈ draft.seen) :
    schema.finish draft = .ok draft.record := by
  have present : schema.fields.find? (fun field => field.presence = .required &&
      !draft.seen.contains field.name) = none := by
    rw [List.find?_eq_none]
    intro field mem missing
    simp only [Bool.and_eq_true, decide_eq_true_eq, Bool.not_eq_true', List.contains_eq_mem,
      decide_eq_false_iff_not] at missing
    exact missing.2 (complete field mem missing.1)
  rw [finish, present]

/-- **A record is read from the object that it is written as**, if no field is written twice and none that
must be there is left out. -/
theorem reads_written {entries : List (Entry α)} (writes : ∀ e ∈ entries, schema.Writes e) {names : List String}
    (named : entries.map Entry.name = names) (once : names.Nodup)
    (complete : ∀ field ∈ schema.fields, field.presence = .required → field.name ∈ names) :
    schema.read.Reads (Json.object (written entries)) (filled schema.blank entries) where
  natural := by
    apply Natural.object
    intro m mem
    obtain ⟨e, among, rfl⟩ := List.mem_map.1 mem
    obtain ⟨field, -, reads⟩ := writes e among
    exact reads.natural
  takes := by
    rw [← named] at once complete
    have members := takes_members (handles_entries writes once schema.start nofun)
    have row : (Json.object (written entries)).tokens =
        .openObject :: (memberTokens (written entries) ++ [.closeObject]) := by
      rw [tokens]
      rfl
    have finished : schema.finish (schema.start.fill entries) = .ok (filled schema.blank entries) := by
      apply finish_of_complete
      intro field mem required
      rw [Draft.fill, List.mem_append, List.mem_reverse]
      exact .inl (complete field mem required)
    rw [row] at members ⊢
    apply Takes.peek
    show schema.object.Takes _ _
    apply members.bind_nil
    rw [finished]
    exact takes_pure _

section Accepted

variable {P : α → Prop}

theorem gives_take {field : Field α} (keeps : field.read.Gives fun put => ∀ a, P a → P (put a))
    {draft : Draft α} (holds : P draft.record) : (take draft field).Gives fun draft => P draft.record := by
  by_cases seen : field.name ∈ draft.seen
  · have twice : draft.seen.contains field.name = true := by simpa using seen
    unfold take
    rw [if_pos twice]
    intro row draft rest done
    cases done
  · rw [take_of_fresh seen]
    refine keeps.bind ?_
    intro put carries
    exact gives_pure (carries _ holds)

/-- A member puts its value in or leaves the record as it is. -/
theorem gives_member (keeps : ∀ field ∈ schema.fields, field.read.Gives fun put => ∀ a, P a → P (put a))
    {draft : Draft α} (holds : P draft.record) (row : List Char) :
    (schema.member draft row).Gives fun draft => P draft.record := by
  apply gives_bind
  intro name
  split
  · rename_i field found
    exact gives_take (keeps field (List.mem_of_find?_eq_some found)) holds
  · apply gives_bind
    intro _
    exact gives_pure holds

theorem gives_itemsFrom {fields : List (Field α)}
    (keeps : ∀ field ∈ fields, field.read.Gives fun put => ∀ a, P a → P (put a)) {a : α} (holds : P a)
    (first : Bool) : (itemsFrom a first fields).Gives P := by
  induction fields generalizing a first with
  | nil =>
    apply gives_bind
    intro _
    exact gives_pure holds
  | cons field rest ih =>
    have later : ∀ field ∈ rest, field.read.Gives fun put => ∀ a, P a → P (put a) :=
      fun field mem => keeps field (List.mem_cons_of_mem _ mem)
    apply gives_bind
    intro t
    split
    · split
      · exact ih later holds first
      · exact gives_fail _
    · have put : (do let put ← field.read; itemsFrom (put a) false rest).Gives P := by
        refine (keeps field List.mem_cons_self).bind ?_
        intro put carries
        exact ih later (carries a holds) false
      cases first with
      | true => exact put
      | false => exact gives_bind fun _ => put

/-- A record is put together by its fields from the blank. -/
theorem gives_read (blank : P schema.blank)
    (keeps : ∀ field ∈ schema.fields, field.read.Gives fun put => ∀ a, P a → P (put a)) :
    schema.read.Gives P := by
  apply gives_bind
  intro t
  split
  · apply gives_bind
    intro _
    exact gives_itemsFrom keeps blank true
  · refine Gives.bind (gives_members (fun draft row holds => gives_member keeps holds row) blank) ?_
    intro draft holds
    split
    · rename_i finished
      rw [finish] at finished
      split at finished
      · cases finished
      · cases finished
        exact gives_pure holds
    · exact gives_fail _

end Accepted

end Schema

end TaskTiming.Json
