import Mathlib

/-!
# Computations which change a state and may raise

A computation which raises leaves the state as it is at that point; this is
`EStateM` without backtracking.  `Ends` is its weakest precondition: one
predicate for the states in which it returns and one for those in which it
raises.  Its rules are equivalences, so a specification by `Ends` says
exactly when both predicates hold.
-/

namespace Sluicery.Library.Raising

universe u

variable {Failure State Value Result : Type u}

/-- How a computation ends from the given state. -/
def Ends (program : EStateM Failure State Value) (start : State)
    (returned : Value → State → Prop) (raised : Failure → State → Prop) :
    Prop :=
  match program start with
  | .ok value finish => returned value finish
  | .error failure finish => raised failure finish

variable {returned : Value → State → Prop}
  {raised : Failure → State → Prop} {start : State}

/-! ## Rules -/

@[simp]
theorem ends_pure (value : Value) :
    Ends (pure value) start returned raised ↔ returned value start :=
  Iff.rfl

@[simp]
theorem ends_throw (failure : Failure) :
    Ends (throw failure : EStateM Failure State Value) start returned raised ↔
      raised failure start :=
  Iff.rfl

@[simp]
theorem ends_bind
    (program : EStateM Failure State Result)
    (next : Result → EStateM Failure State Value) :
    Ends (program >>= next) start returned raised ↔
      Ends program start
        (fun result middle => Ends (next result) middle returned raised)
        raised := by
  simp only [Ends, bind, EStateM.bind]
  cases program start with
  | ok result middle => exact Iff.rfl
  | error failure middle => exact Iff.rfl

@[simp]
theorem ends_get {returned : State → State → Prop} :
    Ends (get : EStateM Failure State State) start returned raised ↔
      returned start start :=
  Iff.rfl

@[simp]
theorem ends_set {returned : PUnit → State → Prop} (next : State) :
    Ends (set next : EStateM Failure State PUnit) start returned raised ↔
      returned ⟨⟩ next :=
  Iff.rfl

@[simp]
theorem ends_modify
    {returned : PUnit → State → Prop} (change : State → State) :
    Ends (modify change : EStateM Failure State PUnit) start returned
        raised ↔
      returned ⟨⟩ (change start) :=
  Iff.rfl

@[simp]
theorem ends_tryCatch
    (program : EStateM Failure State Value)
    (handler : Failure → EStateM Failure State Value) :
    Ends (tryCatch program handler) start returned raised ↔
      Ends program start returned
        (fun failure middle =>
          Ends (handler failure) middle returned raised) := by
  simp only [Ends, tryCatch, tryCatchThe, MonadExceptOf.tryCatch,
    EStateM.tryCatch]
  cases program start with
  | ok result middle => exact Iff.rfl
  | error failure middle => exact Iff.rfl

@[simp]
theorem ends_ite
    (condition : Prop) [Decidable condition]
    (yes no : EStateM Failure State Value) :
    Ends (if condition then yes else no) start returned raised ↔
      if condition then Ends yes start returned raised
      else Ends no start returned raised := by
  split
  · exact Iff.rfl
  · exact Iff.rfl

/-- The branches of a choice go on with the same computation. -/
theorem ends_ite_bind
    (condition : Prop) [Decidable condition]
    (yes no : EStateM Failure State Result)
    (next : Result → EStateM Failure State Value) :
    Ends (if condition then yes >>= next else no >>= next) start returned
        raised ↔
      Ends (if condition then yes else no) start
        (fun result middle => Ends (next result) middle returned raised)
        raised := by
  split
  · exact ends_bind yes next
  · exact ends_bind no next

/-- Raise the failure if the flag is set. -/
def raiseIf (flag : Bool) (failure : Failure) :
    EStateM Failure State PUnit :=
  if flag then throw failure else pure ⟨⟩

@[simp]
theorem ends_raiseIf
    {returned : PUnit → State → Prop} (flag : Bool) (failure : Failure) :
    Ends (raiseIf flag failure) start returned raised ↔
      if flag then raised failure start else returned ⟨⟩ start := by
  rw [raiseIf, ends_ite, ends_throw, ends_pure]

/-- Weaker predicates hold, too. -/
theorem Ends.mono
    {program : EStateM Failure State Value}
    {returned' : Value → State → Prop} {raised' : Failure → State → Prop}
    (ends : Ends program start returned raised)
    (weakerReturned : ∀ value finish, returned value finish →
      returned' value finish)
    (weakerRaised : ∀ failure finish, raised failure finish →
      raised' failure finish) :
    Ends program start returned' raised' := by
  rw [Ends] at ends ⊢
  split at ends
  · exact weakerReturned _ _ ends
  · exact weakerRaised _ _ ends

/-- Two specifications of one computation. -/
theorem Ends.and
    {program : EStateM Failure State Value}
    {returned' : Value → State → Prop} {raised' : Failure → State → Prop}
    (first : Ends program start returned raised)
    (second : Ends program start returned' raised') :
    Ends program start
      (fun value finish => returned value finish ∧ returned' value finish)
      (fun failure finish => raised failure finish ∧
        raised' failure finish) := by
  rw [Ends] at first second ⊢
  cases found : program start with
  | ok value finish =>
      rw [found] at first second
      exact ⟨first, second⟩
  | error failure finish =>
      rw [found] at first second
      exact ⟨first, second⟩

/-- What a computation gives is what it has been run to. -/
theorem Ends.with_eq
    {program : EStateM Failure State Value}
    (ends : Ends program start returned raised) :
    Ends program start
      (fun value finish =>
        program start = .ok value finish ∧ returned value finish)
      raised := by
  rw [Ends] at ends ⊢
  cases found : program start with
  | ok value finish =>
      rw [found] at ends
      exact ⟨rfl, ends⟩
  | error failure finish =>
      rw [found] at ends
      exact ends

/-- A computation whose exceptions are raised as others. -/
@[simp]
theorem ends_adaptExcept
    {Other : Type u} (raise : Failure → Other)
    {program : EStateM Failure State Value}
    {returned : Value → State → Prop} {raised : Other → State → Prop} :
    Ends (EStateM.adaptExcept raise program) start returned raised ↔
      Ends program start returned fun failure => raised (raise failure) := by
  rw [Ends, Ends, EStateM.adaptExcept]
  cases program start with
  | ok value finish => exact Iff.rfl
  | error failure finish => exact Iff.rfl

/-- The state a computation leaves, whether it returns or raises. -/
def stateAfter (program : EStateM Failure State Value) (start : State) :
    State :=
  match program start with
  | .ok _ finish => finish
  | .error _ finish => finish

theorem Ends.stateAfter
    {program : EStateM Failure State Value} {holds : State → Prop}
    (ends : Ends program start (fun _ finish => holds finish)
      (fun _ finish => holds finish)) :
    holds (Raising.stateAfter program start) := by
  rw [Ends] at ends
  rw [Raising.stateAfter]
  cases found : program start with
  | ok value finish =>
      rw [found] at ends
      exact ends
  | error failure finish =>
      rw [found] at ends
      exact ends

/-- The state in which a computation ends, whether it returns or raises. -/
def Leads (program : EStateM Failure State Value) (start finish : State) :
    Prop :=
  Ends program start (fun _ other => other = finish)
    (fun _ other => other = finish)

theorem leads_stateAfter (program : EStateM Failure State Value)
    (start : State) : Leads program start (stateAfter program start) := by
  rw [Leads, Ends, stateAfter]
  cases program start with
  | ok value finish => rfl
  | error failure finish => rfl

/-! ## What a computation keeps -/

/-- What holds before a computation holds after it, however it ends. -/
def Keeps (holds : State → Prop) (program : EStateM Failure State Value) :
    Prop :=
  ∀ start, holds start →
    Ends program start (fun _ finish => holds finish)
      (fun _ finish => holds finish)

section Keeps

variable {holds : State → Prop}

/-- What a computation gives, besides what it keeps. -/
theorem Keeps.ends_eq
    {program : EStateM Failure State Value} (keeps : Keeps holds program)
    (isHeld : holds start) :
    Ends program start
      (fun value finish => program start = .ok value finish ∧ holds finish)
      (fun _ finish => holds finish) :=
  (keeps start isHeld).with_eq

/-- What is kept holds where the computation has ended. -/
theorem Keeps.of_leads
    {program : EStateM Failure State Value} {finish : State}
    (keeps : Keeps holds program) (isHeld : holds start)
    (ended : Leads program start finish) : holds finish := by
  have ends := keeps start isHeld
  rw [Leads] at ended
  rw [Ends] at ends ended
  cases found : program start with
  | ok value other =>
      rw [found] at ends ended
      exact ended ▸ ends
  | error failure other =>
      rw [found] at ends ended
      exact ended ▸ ends

/-- What is kept is kept by the same computation with other exceptions. -/
theorem Keeps.adaptExcept
    {Other : Type u} {program : EStateM Failure State Value}
    (keeps : Keeps holds program) (raise : Failure → Other) :
    Keeps holds (EStateM.adaptExcept raise program) := by
  intro start isHeld
  rw [ends_adaptExcept]
  exact keeps start isHeld

theorem keeps_pure (value : Value) :
    Keeps holds (pure value : EStateM Failure State Value) :=
  fun _ isHeld => isHeld

theorem keeps_throw (failure : Failure) :
    Keeps holds (throw failure : EStateM Failure State Value) :=
  fun _ isHeld => isHeld

theorem keeps_raiseIf (flag : Bool) (failure : Failure) :
    Keeps holds (raiseIf flag failure) := by
  intro start isHeld
  rw [ends_raiseIf]
  split
  · exact isHeld
  · exact isHeld

theorem Keeps.bind
    {program : EStateM Failure State Result}
    {next : Result → EStateM Failure State Value}
    (first : Keeps holds program) (second : ∀ result, Keeps holds (next result)) :
    Keeps holds (program >>= next) := by
  intro start isHeld
  rw [ends_bind]
  exact (first start isHeld).mono
    (fun result finish later => second result finish later)
    fun _ _ later => later

/-- What is kept, and what else is kept. -/
theorem Keeps.and
    {program : EStateM Failure State Value} {others : State → Prop}
    (first : Keeps holds program) (second : Keeps others program) :
    Keeps (fun state => holds state ∧ others state) program := by
  rintro start ⟨isHeld, isOther⟩
  exact (first start isHeld).and (second start isOther)

/-- The rest of a computation starts where the first part has kept it. -/
theorem Keeps.ends_bind
    {program : EStateM Failure State Result}
    {next : Result → EStateM Failure State Value}
    (first : Keeps holds program) (isHeld : holds start)
    (goesOn : ∀ result middle, holds middle →
      Ends (next result) middle returned raised)
    (fails : ∀ failure middle, holds middle → raised failure middle) :
    Ends (program >>= next) start returned raised := by
  rw [Raising.ends_bind]
  exact (first start isHeld).mono goesOn fails

theorem Keeps.tryCatch
    {program : EStateM Failure State Value}
    {handler : Failure → EStateM Failure State Value}
    (tried : Keeps holds program) (caught : ∀ failure, Keeps holds (handler failure)) :
    Keeps holds (tryCatch program handler) := by
  intro start isHeld
  rw [ends_tryCatch]
  exact (tried start isHeld).mono (fun _ _ later => later)
    fun failure finish later => caught failure finish later

theorem Keeps.ite
    {condition : Prop} [Decidable condition]
    {yes no : EStateM Failure State Value}
    (first : Keeps holds yes) (second : Keeps holds no) :
    Keeps holds (if condition then yes else no) := by
  split
  · exact first
  · exact second

end Keeps

end Sluicery.Library.Raising
