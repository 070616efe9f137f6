import DriverKit.Log
import Mathlib.Data.List.Forall2

/-!
# Outcomes of steps in sequence

What it takes for a sequence of steps to end well: every step before the last has a value, and the
next one goes on with it. The same is said of steps that go through a list, and of outcomes with a
log, whose log plays no part in it. What such a sequence warns of is what its steps warn of, one
after the other.
-/

namespace DriverKit

variable {α β ε : Type}

@[simp]
theorem ok_bind (value : α) (next : α → Except ε β) : (.ok value >>= next) = next value := rfl

@[simp]
theorem error_bind (failure : ε) (next : α → Except ε β) :
    (.error failure >>= next) = .error failure := rfl

theorem bind_eq_ok_iff {first : Except ε α} {next : α → Except ε β} {result : β} :
    (first >>= next) = .ok result ↔ ∃ value, first = .ok value ∧ next value = .ok result := by
  cases first with
  | error failure => simp [bind, Except.bind]
  | ok value => simp [bind, Except.bind]

theorem map_eq_ok_iff {first : Except ε α} {change : α → β} {result : β} :
    (change <$> first) = .ok result ↔ ∃ value, first = .ok value ∧ change value = result := by
  cases first with
  | error failure => simp [Functor.map, Except.map]
  | ok value => simp [Functor.map, Except.map]

theorem bind_eq_error_iff {first : Except ε α} {next : α → Except ε β} {failure : ε} :
    (first >>= next) = .error failure ↔
      first = .error failure ∨ ∃ value, first = .ok value ∧ next value = .error failure := by
  cases first with
  | error other => simp [bind, Except.bind]
  | ok value => simp [bind, Except.bind]

theorem map_eq_error_iff {first : Except ε α} {change : α → β} {failure : ε} :
    (change <$> first) = .error failure ↔ first = .error failure := by
  cases first with
  | error other => simp [Functor.map, Except.map]
  | ok value => simp [Functor.map, Except.map]

theorem mapError_eq_ok_iff {φ : Type} {outcome : Except ε α} {change : ε → φ} {result : α} :
    outcome.mapError change = .ok result ↔ outcome = .ok result := by
  cases outcome with
  | error failure => simp [Except.mapError]
  | ok value => simp [Except.mapError]

theorem mapError_eq_error_iff {φ : Type} {outcome : Except ε α} {change : ε → φ} {failure : φ} :
    outcome.mapError change = .error failure ↔
      ∃ cause, outcome = .error cause ∧ change cause = failure := by
  cases outcome with
  | error cause => simp [Except.mapError]
  | ok value => simp [Except.mapError]

theorem eq_ok_of_toOption {outcome : Except ε α} {value : α}
    (found : outcome.toOption = some value) : outcome = .ok value := by
  cases outcome with
  | error failure => cases found
  | ok other => exact congrArg Except.ok (Option.some.inj found)

theorem exists_ok_of_isSome {outcome : Except ε α} (isOk : outcome.toOption.isSome = true) :
    ∃ value, outcome = .ok value := by
  obtain ⟨value, found⟩ := Option.isSome_iff_exists.mp isOk
  exact ⟨value, eq_ok_of_toOption found⟩

/-- The failure of an outcome, if it is one. -/
def failure? : Except ε α → Option ε
  | .error failure => some failure
  | .ok _ => none

theorem eq_error_of_failure? {outcome : Except ε α} {failure : ε}
    (found : failure? outcome = some failure) : outcome = .error failure := by
  cases outcome with
  | error other => exact congrArg Except.error (Option.some.inj found)
  | ok value => cases found

theorem mapM_eq_ok_iff {step : α → Except ε β} :
    ∀ {items : List α} {results : List β},
      items.mapM step = .ok results ↔
        List.Forall₂ (fun item result => step item = .ok result) items results
  | [], results => by
      cases results with
      | nil => simp [pure, Except.pure]
      | cons result rest => simp [pure, Except.pure]
  | item :: rest, results => by
      rw [List.mapM_cons, bind_eq_ok_iff]
      constructor
      · rintro ⟨result, first, others⟩
        obtain ⟨tail, later, combined⟩ := bind_eq_ok_iff.mp others
        cases combined
        exact List.Forall₂.cons first (mapM_eq_ok_iff.mp later)
      · intro each
        cases each with
        | cons first later =>
            exact ⟨_, first, bind_eq_ok_iff.mpr ⟨_, mapM_eq_ok_iff.mpr later, rfl⟩⟩

theorem mapM_eq_some_iff {step : α → Option β} :
    ∀ {items : List α} {results : List β},
      items.mapM step = some results ↔
        List.Forall₂ (fun item result => step item = some result) items results
  | [], results => by
      cases results with
      | nil => simp [pure]
      | cons result rest => simp [pure]
  | item :: rest, results => by
      rw [List.mapM_cons]
      constructor
      · intro found
        obtain ⟨result, first, others⟩ := Option.bind_eq_some_iff.mp found
        obtain ⟨tail, later, combined⟩ := Option.bind_eq_some_iff.mp others
        cases combined
        exact List.Forall₂.cons first (mapM_eq_some_iff.mp later)
      · intro each
        cases each with
        | cons first later =>
            exact Option.bind_eq_some_iff.mpr
              ⟨_, first, Option.bind_eq_some_iff.mpr ⟨_, mapM_eq_some_iff.mpr later, rfl⟩⟩

theorem mapM_eq_some_map {step : α → Option β} {result : α → β} {items : List α}
    (each : ∀ item ∈ items, step item = some (result item)) :
    items.mapM step = some (items.map result) := by
  rw [mapM_eq_some_iff, List.forall₂_map_right_iff, List.forall₂_same]
  exact each

/-- What a step through a list gives for an item stands between what it gives before and after. -/
theorem exists_of_mapM_append_cons {step : α → Except ε β} {front back : List α} {item : α}
    {results : List β} (done : (front ++ item :: back).mapM step = .ok results) :
    ∃ frontResults result backResults, results = frontResults ++ result :: backResults ∧
      step item = .ok result ∧ back.mapM step = .ok backResults := by
  rw [List.mapM_append] at done
  obtain ⟨frontResults, _, afterFront⟩ := bind_eq_ok_iff.mp done
  obtain ⟨others, othersDone, joined⟩ := bind_eq_ok_iff.mp afterFront
  rw [List.mapM_cons] at othersDone
  obtain ⟨result, here, afterItem⟩ := bind_eq_ok_iff.mp othersDone
  obtain ⟨backResults, later, split⟩ := bind_eq_ok_iff.mp afterItem
  cases split
  cases joined
  exact ⟨frontResults, result, backResults, rfl, here, later⟩

/-- A fault of an item of a list, where the items before it have none. -/
def FirstFault (fault : α → ε → Prop) (items : List α) (failure : ε) : Prop :=
  ∃ front item back, items = front ++ item :: back ∧
    (∀ earlier ∈ front, ∀ other, ¬fault earlier other) ∧ fault item failure

theorem firstFault_cons_iff {fault : α → ε → Prop} {item : α} {rest : List α} {failure : ε} :
    FirstFault fault (item :: rest) failure ↔
      fault item failure ∨ (∀ other, ¬fault item other) ∧ FirstFault fault rest failure := by
  constructor
  · rintro ⟨front, found, back, split, before, isFault⟩
    cases front with
    | nil =>
        cases split
        exact Or.inl isFault
    | cons first others =>
        cases split
        exact Or.inr ⟨before item List.mem_cons_self, others, found, back, rfl,
          fun earlier member => before earlier (List.mem_cons_of_mem item member), isFault⟩
  · rintro (isFault | ⟨fine, front, found, back, rfl, before, isFault⟩)
    · exact ⟨[], item, rest, rfl, fun _ member => absurd member List.not_mem_nil, isFault⟩
    · exact ⟨item :: front, found, back, rfl, List.forall_mem_cons.mpr ⟨fine, before⟩, isFault⟩

/-- A step through a list fails with the first fault of its items, if the faults are those with
which the step fails. -/
theorem mapM_eq_error_iff {step : α → Except ε β} {fault : α → ε → Prop}
    (exact : ∀ item failure, step item = .error failure ↔ fault item failure) {failure : ε} :
    ∀ {items : List α}, items.mapM step = .error failure ↔ FirstFault fault items failure
  | [] => by simp [FirstFault, pure, Except.pure]
  | item :: rest => by
      rw [List.mapM_cons, bind_eq_error_iff, exact, firstFault_cons_iff]
      refine or_congr_right ?_
      rw [← mapM_eq_error_iff exact]
      have isOk : (∃ result, step item = .ok result) ↔ ∀ other, ¬fault item other := by
        simp only [← exact]
        cases step item with
        | error failure => simp
        | ok result => simp
      rw [← isOk, ← exists_and_right]
      refine exists_congr fun result => and_congr_right fun _ => ?_
      rw [bind_eq_error_iff]
      simp [pure, Except.pure]

theorem exists_mapM_eq_ok_iff {step : α → Except ε β} {items : List α} :
    (∃ results, items.mapM step = .ok results) ↔
      ∀ item ∈ items, ∃ result, step item = .ok result := by
  simp only [mapM_eq_ok_iff]
  induction items with
  | nil => simp
  | cons item rest inductionHypothesis =>
      rw [List.forall_mem_cons, ← inductionHypothesis]
      constructor
      · rintro ⟨_, _ | ⟨here, later⟩⟩
        exact ⟨⟨_, here⟩, _, later⟩
      · rintro ⟨⟨result, here⟩, results, later⟩
        exact ⟨result :: results, .cons here later⟩

/-- What related lists have in common, item by item. -/
theorem exists_of_forall₂ {relation : α → β → Prop} {items : List α} {results : List β}
    (each : List.Forall₂ relation items results) {result : β} (member : result ∈ results) :
    ∃ item ∈ items, relation item result := by
  induction each with
  | nil => cases member
  | @cons item first rest others related _ inductionHypothesis =>
      rcases List.mem_cons.mp member with same | later
      · exact ⟨item, List.mem_cons_self, same ▸ related⟩
      · obtain ⟨found, inRest, relatedLater⟩ := inductionHypothesis later
        exact ⟨found, List.mem_cons_of_mem item inRest, relatedLater⟩

/-! ## Kinds of failures -/

/-- An outcome fails in one way only: with a failure of a kind. -/
def FailsOnly (kind : ε → Prop) (outcome : Except ε α) : Prop :=
  ∀ failure, outcome = .error failure → kind failure

namespace FailsOnly

variable {kind : ε → Prop}

theorem ok (value : α) : FailsOnly kind (.ok value : Except ε α) := by
  intro failure failed
  cases failed

theorem error {failure : ε} (isKind : kind failure) :
    FailsOnly kind (.error failure : Except ε α) := by
  intro other failed
  cases failed
  exact isKind

theorem mono {other : ε → Prop} {outcome : Except ε α} (fails : FailsOnly kind outcome)
    (weaker : ∀ failure, kind failure → other failure) : FailsOnly other outcome :=
  fun failure failed => weaker failure (fails failure failed)

theorem bind {first : Except ε α} {next : α → Except ε β} (firstFails : FailsOnly kind first)
    (nextFails : ∀ value, FailsOnly kind (next value)) : FailsOnly kind (first >>= next) := by
  intro failure failed
  cases found : first with
  | error cause =>
      rw [found] at failed
      cases failed
      exact firstFails failure found
  | ok value =>
      rw [found] at failed
      exact nextFails value failure failed

theorem mapM {step : α → Except ε β} (stepFails : ∀ item, FailsOnly kind (step item)) :
    ∀ items : List α, FailsOnly kind (items.mapM step)
  | [] => FailsOnly.ok []
  | item :: rest => by
      rw [List.mapM_cons]
      exact (stepFails item).bind fun _ => (mapM stepFails rest).bind fun _ => FailsOnly.ok _

end FailsOnly

/-! ## Outcomes with a log -/

namespace Traced

@[simp]
theorem outcome_pure (value : α) : (pure value : Traced α).outcome = .ok value := rfl

@[simp]
theorem outcome_say (level : Log.Level) (topic : Log.Topic) (message : String) :
    (say level topic message).outcome = .ok () := rfl

@[simp]
theorem outcome_fail (failure : Failure) : (fail failure : Traced α).outcome = .error failure :=
  rfl

@[simp]
theorem outcome_silent (outcome : Except Failure α) : (silent outcome).outcome = outcome := rfl

@[simp]
theorem outcome_lift (outcome : Except Failure α) :
    (liftM outcome : Traced α).outcome = outcome := rfl

@[simp]
theorem outcome_liftHost (answer : Except HostFault α) :
    (liftM answer : Traced α).outcome = answer.mapError .host := rfl

@[simp]
theorem outcome_bind (first : Traced α) (next : α → Traced β) :
    (first >>= next).outcome = first.outcome >>= fun value => (next value).outcome := by
  cases first with
  | mk outcome log =>
      cases outcome with
      | error failure => rfl
      | ok value => rfl

@[simp]
theorem outcome_map (change : α → β) (first : Traced α) :
    (change <$> first).outcome = change <$> first.outcome := by
  cases first with
  | mk outcome log =>
      cases outcome with
      | error failure => rfl
      | ok value => rfl

theorem failsOnly_bind {kind : Failure → Prop} {first : Traced α} {next : α → Traced β}
    (firstFails : FailsOnly kind first.outcome)
    (nextFails : ∀ value, FailsOnly kind (next value).outcome) :
    FailsOnly kind (first >>= next).outcome := by
  rw [outcome_bind]
  exact firstFails.bind nextFails

theorem outcome_bind_eq_ok_iff {first : Traced α} {next : α → Traced β} {result : β} :
    (first >>= next).outcome = .ok result ↔
      ∃ value, first.outcome = .ok value ∧ (next value).outcome = .ok result := by
  rw [outcome_bind, bind_eq_ok_iff]

/-! ## Logs -/

instance : LawfulMonad Traced := by
  refine LawfulMonad.mk' Traced ?_ ?_ ?_
  · intro α traced
    obtain ⟨outcome, log⟩ := traced
    cases outcome with
    | error failure => rfl
    | ok value => exact congrArg (Traced.mk (.ok value)) (List.append_nil log)
  · exact fun _ _ => rfl
  · intro α β γ first next last
    obtain ⟨outcome, log⟩ := first
    cases outcome with
    | error failure => rfl
    | ok value =>
        cases later : (next value).outcome with
        | error failure => simp only [bind, Traced.andThen, later]
        | ok result => simp only [bind, Traced.andThen, later, List.append_assoc]

theorem bind_of_error {first : Traced α} {failure : Failure}
    (failed : first.outcome = .error failure) (next : α → Traced β) :
    first >>= next = ⟨.error failure, first.log⟩ := by
  obtain ⟨outcome, log⟩ := first
  simp only at failed
  subst failed
  rfl

/-- What follows an outcome depends on it through its value only. -/
theorem bind_congr_of_ok {first : Traced α} {value : α} (done : first.outcome = .ok value)
    {next other : α → Traced β} (same : next value = other value) :
    first >>= next = first >>= other := by
  obtain ⟨outcome, log⟩ := first
  simp only at done
  subst done
  simp only [bind, andThen, same]

theorem mem_log_bind {first : Traced α} {entry : Log.Entry} (said : entry ∈ first.log)
    (next : α → Traced β) : entry ∈ (first >>= next).log := by
  obtain ⟨outcome, log⟩ := first
  cases outcome with
  | error failure => exact said
  | ok value => exact List.mem_append_left _ said

theorem mem_log_bind_of_next {first : Traced α} {next : α → Traced β} {value : α}
    (done : first.outcome = .ok value) {entry : Log.Entry} (said : entry ∈ (next value).log) :
    entry ∈ (first >>= next).log := by
  obtain ⟨outcome, log⟩ := first
  simp only at done
  subst done
  exact List.mem_append_right log said

theorem forall_log_bind {property : Log.Entry → Prop} {first : Traced α} {next : α → Traced β}
    (firstSays : ∀ entry ∈ first.log, property entry)
    (nextSays : ∀ value, ∀ entry ∈ (next value).log, property entry) :
    ∀ entry ∈ (first >>= next).log, property entry := by
  obtain ⟨outcome, log⟩ := first
  cases outcome with
  | error failure => exact firstSays
  | ok value => exact List.forall_mem_append.mpr ⟨firstSays, nextSays value⟩

/-! ## Warnings -/

/-- What was said that is at least a warning. -/
def warnings (traced : Traced α) : List Log.Entry :=
  traced.log.filter Log.Entry.isWarning

@[simp]
theorem warnings_pure (value : α) : (pure value : Traced α).warnings = [] := rfl

@[simp]
theorem warnings_fail (failure : Failure) : (fail failure : Traced α).warnings = [] := rfl

@[simp]
theorem warnings_debug (topic : Log.Topic) (message : String) :
    (say .debug topic message).warnings = [] := rfl

@[simp]
theorem warnings_info (topic : Log.Topic) (message : String) :
    (say .info topic message).warnings = [] := rfl

@[simp]
theorem warnings_warning (topic : Log.Topic) (message : String) :
    (say .warning topic message).warnings = [⟨.warning, topic, message⟩] := rfl

theorem warnings_bind {first : Traced α} {next : α → Traced β} {value : α}
    (done : first.outcome = .ok value) :
    (first >>= next).warnings = first.warnings ++ (next value).warnings := by
  cases first with
  | mk outcome log =>
      simp only at done
      subst done
      exact List.filter_append log (next value).log

@[simp]
theorem warnings_map (change : α → β) (first : Traced α) :
    (change <$> first).warnings = first.warnings := by
  cases first with
  | mk outcome log =>
      cases outcome with
      | error failure => rfl
      | ok value => exact congrArg (List.filter _) (List.append_nil log)

/-- An outcome has a value, and nothing else was warned of on the way to it. -/
structure Yields (traced : Traced α) (value : α) (warned : List Log.Entry) : Prop where
  outcome : traced.outcome = .ok value
  warnings : traced.warnings = warned

theorem Yields.bind {first : Traced α} {next : α → Traced β} {value : α} {result : β}
    {earlier later : List Log.Entry} (begun : first.Yields value earlier)
    (goesOn : (next value).Yields result later) :
    (first >>= next).Yields result (earlier ++ later) := by
  constructor
  · rw [outcome_bind, begun.outcome]
    exact goesOn.outcome
  · rw [warnings_bind begun.outcome, begun.warnings, goesOn.warnings]

end Traced

end DriverKit
