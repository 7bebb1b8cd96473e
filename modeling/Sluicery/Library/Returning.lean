import Mathlib.Data.List.Basic

/-!
# Computations which return

A computation of `Except` returns if it does not raise.  A sequence of steps
returns if every step does, which is a condition on the items alone where no
step depends on the state.  Where a computation may fail, it can still be that
it fails in certain ways only.
-/

namespace Sluicery.Library

universe u

variable {Failure Value Result State Item : Type u}

/-- The computation does not raise. -/
def Returns (result : Except Failure Value) : Prop :=
  ∃ value, result = .ok value

@[simp]
theorem returns_ok (value : Value) :
    Returns (.ok value : Except Failure Value) :=
  ⟨value, rfl⟩

@[simp]
theorem not_returns_error (failure : Failure) :
    ¬ Returns (.error failure : Except Failure Value) := by
  rintro ⟨value, impossible⟩
  cases impossible

@[simp]
theorem returns_map {convert : Value → Result}
    {result : Except Failure Value} :
    Returns (result.map convert) ↔ Returns result := by
  cases result with
  | error failure => simp [Except.map]
  | ok value => simp [Except.map]

/-- The value which a mapped result comes from. -/
theorem ok_of_map_eq_ok {result : Except Failure Value}
    {convert : Value → Result} {found : Result}
    (mapped : result.map convert = .ok found) :
    ∃ value, result = .ok value ∧ convert value = found := by
  cases result with
  | error failure => cases mapped
  | ok value => exact ⟨value, rfl, Except.ok.inj mapped⟩

/-- A computation whose value is there has not raised. -/
theorem ok_of_toOption {result : Except Failure Value} {value : Value}
    (succeeds : result.toOption = some value) : result = .ok value := by
  cases result with
  | error failure => cases succeeds
  | ok other => rw [Option.some.inj succeeds]

/-- A sequence of two steps returns what the second one does. -/
theorem bind_eq_ok_iff (result : Except Failure Value)
    (next : Value → Except Failure Result) (found : Result) :
    result >>= next = .ok found ↔
      ∃ value, result = .ok value ∧ next value = .ok found := by
  cases result with
  | error failure => simp [bind, Except.bind]
  | ok value => simp [bind, Except.bind]

/-- A check in front of another step. -/
theorem check_bind_eq_ok_iff (check : Except Failure PUnit)
    (next : PUnit → Except Failure Result) (found : Result) :
    check >>= next = .ok found ↔ check = .ok ⟨⟩ ∧ next ⟨⟩ = .ok found := by
  rw [bind_eq_ok_iff]
  constructor
  · rintro ⟨_, passed, rest⟩
    exact ⟨passed, rest⟩
  · rintro ⟨passed, rest⟩
    exact ⟨⟨⟩, passed, rest⟩

/-- A step which fails if a condition holds. -/
theorem ite_error_bind_eq_ok_iff {condition : Prop} [Decidable condition]
    (failure : Failure) (next : Result → Except Failure Value)
    (rest : Except Failure Value) (found : Value) :
    (if condition then Except.error failure >>= next else rest) =
        .ok found ↔ ¬ condition ∧ rest = .ok found := by
  split
  · next holds =>
      exact iff_of_false (fun impossible => by cases impossible)
        (fun both => both.1 holds)
  · next fails => exact (and_iff_right fails).symm

/-- The branches of a choice go on with the same step. -/
theorem ite_bind_eq_ok_iff {condition : Prop} [Decidable condition]
    (yes no : Except Failure Value) (next : Value → Except Failure Result)
    (found : Result) :
    (if condition then yes >>= next else no >>= next) = .ok found ↔
      ∃ value, (if condition then yes else no) = .ok value ∧
        next value = .ok found := by
  split
  · exact bind_eq_ok_iff yes next found
  · exact bind_eq_ok_iff no next found

/-- A last step which fails if a condition holds. -/
theorem ite_error_eq_ok_iff {condition : Prop} [Decidable condition]
    (failure : Failure) (rest : Except Failure Value) (found : Value) :
    (if condition then Except.error failure else rest) = .ok found ↔
      ¬ condition ∧ rest = .ok found := by
  split
  · next holds =>
      exact iff_of_false (fun impossible => by cases impossible)
        (fun both => both.1 holds)
  · next fails => exact (and_iff_right fails).symm

/-- Two steps, of which the second does not look at the value. -/
theorem returns_bind {result : Except Failure Value}
    {next : Value → Except Failure Result} {rest : Prop}
    (others : ∀ value, Returns (next value) ↔ rest) :
    Returns (result >>= next) ↔ Returns result ∧ rest := by
  cases result with
  | error failure => simp [bind, Except.bind]
  | ok value => simp [bind, Except.bind, others value]

/-- A loop whose steps do not look at the state. -/
theorem returns_foldlM {step : State → Item → Except Failure State}
    {fits : Item → Prop}
    (steps : ∀ state item, Returns (step state item) ↔ fits item)
    (items : List Item) (state : State) :
    Returns (items.foldlM step state) ↔ ∀ item ∈ items, fits item := by
  induction items generalizing state with
  | nil =>
      rw [List.foldlM_nil]
      simp [pure, Except.pure]
  | cons item rest induction =>
      rw [List.foldlM_cons, returns_bind induction, steps,
        List.forall_mem_cons]

/-- A loop whose steps append to what there is. -/
theorem eq_append_of_foldlM
    {step : List Value → Item → Except Failure (List Value)}
    (gives : Item → List Value)
    (steps : ∀ before item after, step before item = .ok after →
      after = before ++ gives item)
    {items : List Item} {before after : List Value}
    (folded : items.foldlM step before = .ok after) :
    after = before ++ items.flatMap gives := by
  induction items generalizing before with
  | nil =>
      rw [List.foldlM_nil] at folded
      cases folded
      rw [List.flatMap_nil, List.append_nil]
  | cons item rest induction =>
      rw [List.foldlM_cons, bind_eq_ok_iff] at folded
      rcases folded with ⟨middle, first, later⟩
      rw [induction later, steps _ _ _ first, List.flatMap_cons,
        List.append_assoc]

/-- A function returns on every item, with these values. -/
theorem mapM_eq_ok_iff
    (f : Item → Except Failure Value) (items : List Item)
    (values : List Value) :
    items.mapM f = .ok values ↔ items.map f = values.map .ok := by
  induction items generalizing values with
  | nil =>
      cases values with
      | nil => exact iff_of_true rfl rfl
      | cons value values =>
          exact iff_of_false (fun impossible => nomatch impossible)
            (fun impossible => nomatch impossible)
  | cons item items induction =>
      rw [List.mapM_cons, bind_eq_ok_iff]
      simp only [bind_eq_ok_iff, induction, List.map_cons]
      constructor
      · rintro ⟨value, head, others, tail, same⟩
        cases same
        rw [head, tail]
        rfl
      · intro same
        cases values with
        | nil => cases same
        | cons value others =>
            rw [List.map_cons, List.cons.injEq] at same
            exact ⟨value, same.1, others, same.2, rfl⟩

/-! ## Failures of a kind -/

/-- The computation returns, or fails in an allowed way. -/
def FailsOnly (allowed : Failure → Prop) (result : Except Failure Value) :
    Prop :=
  ∀ failure, result = .error failure → allowed failure

variable {allowed : Failure → Prop}

@[simp]
theorem failsOnly_ok (value : Value) :
    FailsOnly allowed (.ok value : Except Failure Value) := by
  intro failure impossible
  cases impossible

@[simp]
theorem failsOnly_error (failure : Failure) :
    FailsOnly allowed (.error failure : Except Failure Value) ↔
      allowed failure := by
  constructor
  · intro fails
    exact fails failure rfl
  · rintro isAllowed _ ⟨⟩
    exact isAllowed

/-- The second step counts if the first one returns. -/
@[simp]
theorem failsOnly_bind (result : Except Failure Value)
    (next : Value → Except Failure Result) :
    FailsOnly allowed (result >>= next) ↔
      FailsOnly allowed result ∧
        ∀ value, result = .ok value → FailsOnly allowed (next value) := by
  cases result with
  | error failure => simp [bind, Except.bind]
  | ok value => simp [bind, Except.bind]

end Sluicery.Library
