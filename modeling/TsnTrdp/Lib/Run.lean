import Mathlib.Logic.Function.Basic

/-! Runs of a deterministic step function, and properties that hold along them.
A run is a list of events; `Along` states a property of every step of a run, and
`Along.of_invariant` packages the induction that every run theorem uses.
-/

namespace TsnTrdp.Run

variable {σ ε ι : Type*}

/-- The state after `events`, taken in order from `state`. -/
def run (step : σ → ε → σ) (state : σ) (events : List ε) : σ :=
  events.foldl step state

/-- `P` holds of every step of the run: of the state before the step and its event. -/
def Along (step : σ → ε → σ) (P : σ → ε → Prop) : σ → List ε → Prop
  | _, [] => True
  | state, event :: rest => P state event ∧ Along step P (step state event) rest

@[simp] theorem run_nil (step : σ → ε → σ) (state : σ) : run step state [] = state := rfl

@[simp] theorem run_cons (step : σ → ε → σ) (state : σ) (event : ε) (rest : List ε)
    : run step state (event :: rest) = run step (step state event) rest := rfl

@[simp] theorem along_nil (step : σ → ε → σ) (P : σ → ε → Prop) (state : σ)
    : Along step P state [] := trivial

@[simp] theorem along_cons (step : σ → ε → σ) (P : σ → ε → Prop) (state : σ) (event : ε)
    (rest : List ε)
    : Along step P state (event :: rest)
      ↔ P state event ∧ Along step P (step state event) rest := Iff.rfl

/-- What holds of every step holds along every run. -/
theorem Along.all {step : σ → ε → σ} {P : σ → ε → Prop} (all : ∀ state event, P state event)
    (state : σ) (events : List ε)
    : Along step P state events := by
  induction events generalizing state with
  | nil => trivial
  | cons event rest ih => exact ⟨all state event, ih _⟩

/-- What the events of a run bring with them holds along it. -/
theorem Along.of_events {step : σ → ε → σ} {P : σ → ε → Prop} {events : List ε}
    (all : ∀ event ∈ events, ∀ state, P state event) (state : σ)
    : Along step P state events := by
  induction events generalizing state with
  | nil => trivial
  | cons event rest ih =>
      obtain ⟨first, later⟩ := List.forall_mem_cons.mp all
      exact ⟨first state, ih later _⟩

/-- What follows from a property at every step follows from it along a run. -/
theorem Along.imp {step : σ → ε → σ} {P Q : σ → ε → Prop}
    (every : ∀ state event, P state event → Q state event) {state : σ} {events : List ε}
    (along : Along step P state events)
    : Along step Q state events := by
  induction events generalizing state with
  | nil => trivial
  | cons event rest ih => exact ⟨every state event along.1, ih along.2⟩

/-- Two properties of every step are one. -/
theorem Along.and {step : σ → ε → σ} {P Q : σ → ε → Prop} {state : σ} {events : List ε}
    (first : Along step P state events) (second : Along step Q state events)
    : Along step (fun state event => P state event ∧ Q state event) state events := by
  induction events generalizing state with
  | nil => trivial
  | cons event rest ih => exact ⟨⟨first.1, second.1⟩, ih first.2 second.2⟩

/-- A run of two parts meets the condition in its first part, and in its second from the
state that the first reaches. Induction on the first part.
-/
theorem along_append {step : σ → ε → σ} {P : σ → ε → Prop} {state : σ} (events rest : List ε)
    : Along step P state (events ++ rest)
      ↔ Along step P state events ∧ Along step P (run step state events) rest := by
  induction events generalizing state with
  | nil => simp
  | cons event events ih => simp only [List.cons_append, along_cons, ih, and_assoc, run_cons]

instance Along.decidable (step : σ → ε → σ) (P : σ → ε → Prop)
    [∀ state event, Decidable (P state event)]
    : (state : σ) → (events : List ε) → Decidable (Along step P state events)
  | _, [] => .isTrue trivial
  | state, event :: rest =>
      have := Along.decidable step P (step state event) rest
      inferInstanceAs (Decidable (_ ∧ _))

/-- The run rule: where each step that meets its condition keeps the invariant and is
safe, every run whose steps all meet their conditions is safe. Witness: event induction.
-/
theorem Along.of_invariant {step : σ → ε → σ} {Inv : σ → Prop} {Cond Safe : σ → ε → Prop}
    (keeps : ∀ state event, Inv state → Cond state event → Inv (step state event))
    (safe : ∀ state event, Inv state → Cond state event → Safe state event)
    {state : σ} {events : List ε} (inv : Inv state) (conds : Along step Cond state events)
    : Along step Safe state events := by
  induction events generalizing state with
  | nil => trivial
  | cons event rest ih =>
      obtain ⟨now, later⟩ := conds
      exact ⟨safe state event inv now, ih (keeps state event inv now) later⟩

/-- Where the invariant makes safety and the condition of a step one, and the condition
keeps the invariant, a run is safe exactly if its steps meet the condition.
-/
theorem Along.iff_of_invariant {step : σ → ε → σ} {Inv : σ → Prop} {Cond Safe : σ → ε → Prop}
    (keeps : ∀ state event, Inv state → Cond state event → Inv (step state event))
    (same : ∀ state event, Inv state → (Safe state event ↔ Cond state event))
    {state : σ} (inv : Inv state) (events : List ε)
    : Along step Safe state events ↔ Along step Cond state events := by
  induction events generalizing state with
  | nil => exact Iff.rfl
  | cons event rest ih =>
      simp only [along_cons, same state event inv]
      exact and_congr_right fun cond => ih (keeps state event inv cond)

/-- The invariant itself holds in the final state of such a run, by event induction. -/
theorem Along.invariant {step : σ → ε → σ} {Inv : σ → Prop} {Cond : σ → ε → Prop}
    (keeps : ∀ state event, Inv state → Cond state event → Inv (step state event))
    {state : σ} {events : List ε} (inv : Inv state) (conds : Along step Cond state events)
    : Inv (run step state events) := by
  induction events generalizing state with
  | nil => exact inv
  | cons event rest ih => exact ih (keeps state event inv conds.1) conds.2

theorem run_append (step : σ → ε → σ) (state : σ) (events rest : List ε)
    : run step state (events ++ rest) = run step (run step state events) rest :=
  List.foldl_append

/-- A condition on the steps of a run is one on every step after every first part of it. -/
theorem along_iff_split {step : σ → ε → σ} {P : σ → ε → Prop} {state : σ} {events : List ε}
    : Along step P state events
      ↔ ∀ before event after, events = before ++ event :: after
        → P (run step state before) event := by
  constructor
  · rintro along before event after rfl
    exact ((along_append before _).mp along).2.1
  · intro all
    induction events generalizing state with
    | nil => trivial
    | cons event rest ih =>
        refine ⟨all [] event rest rfl, ih fun before next after same => ?_⟩
        exact all (event :: before) next after (congrArg (event :: ·) same)

/-- What is read of the state stays what it was through events that do not name it. By induction on
them.
-/
theorem read_run_of_others {α : Type*} {step : σ → ε → σ} (read : σ → α) {Names : ε → Prop}
    (keeps : ∀ state event, ¬ Names event → read (step state event) = read state)
    {state : σ} {events : List ε} (others : ∀ event ∈ events, ¬ Names event)
    : read (run step state events) = read state := by
  induction events generalizing state with
  | nil => rfl
  | cons event rest ih =>
      obtain ⟨first, later⟩ := List.forall_mem_cons.mp others
      rw [run_cons, ih later, keeps state event first]

/-- It is what the last event to name it has made it. -/
theorem read_run_of_last {α : Type*} {step : σ → ε → σ} (read : σ → α) {Names : ε → Prop}
    (keeps : ∀ state event, ¬ Names event → read (step state event) = read state)
    {state : σ} {before after : List ε} {event : ε} (last : ∀ later ∈ after, ¬ Names later)
    : read (run step state (before ++ event :: after))
      = read (step (run step state before) event) := by
  rw [run_append, run_cons, read_run_of_others read keeps last]

/-- `event` is the last of the run's events that have a property, and a property of the states has
held ever since, from before the event on.
-/
structure LastSince (step : σ → ε → σ) (Holds : σ → Prop) (Names : ε → Prop) (state : σ)
    (before : List ε) (event : ε) (after : List ε)
    : Prop where
  names : Names event
  last : ∀ later ∈ after, ¬ Names later
  start : Holds (run step state before)
  holds : ∀ later, later <+: after → Holds (run step state (before ++ event :: later))

/-- The run's last event that has a property is `event`, since a property of the states holds. -/
def IsLastSince (step : σ → ε → σ) (Holds : σ → Prop) (Names : ε → Prop) (state : σ)
    (events : List ε) (event : ε)
    : Prop :=
  ∃ before after, events = before ++ event :: after
    ∧ LastSince step Holds Names state before event after

variable {step : σ → ε → σ} {Holds : σ → Prop} {Names : ε → Prop} {state : σ} {events : List ε}
  {event last : ε}

theorem IsLastSince.holds (since : IsLastSince step Holds Names state events last)
    : Holds (run step state events) := by
  obtain ⟨before, after, rfl, since⟩ := since
  exact since.holds after List.prefix_rfl

theorem not_isLastSince_nil : ¬ IsLastSince step Holds Names state [] last := by
  rintro ⟨before, after, same, -⟩
  exact absurd same.symm (by simp)

/-- An event that has the property is the last. -/
theorem isLastSince_concat (names : Names event)
    : IsLastSince step Holds Names state (events ++ [event]) last
      ↔ last = event ∧ Holds (run step state events)
        ∧ Holds (run step state (events ++ [event])) := by
  constructor
  · rintro ⟨before, after, same, since⟩
    rcases after.eq_nil_or_concat with rfl | ⟨after, e, rfl⟩
    · obtain ⟨rfl, eq⟩ := List.append_inj' same rfl
      obtain rfl := List.head_eq_of_cons_eq eq
      exact ⟨rfl, since.start, since.holds [] List.prefix_rfl⟩
    · rw [List.concat_eq_append, ← List.cons_append, ← List.append_assoc] at same
      obtain ⟨-, eq⟩ := List.append_inj' same rfl
      obtain rfl := List.head_eq_of_cons_eq eq
      exact absurd names (since.last event (by simp))
  · rintro ⟨rfl, start, holds⟩
    refine ⟨events, [], rfl, names, fun _ member => absurd member List.not_mem_nil, start, ?_⟩
    intro later only
    rw [List.prefix_nil.mp only]
    exact holds

/-- Another event leaves the last what it was, as long as the states keep their property. -/
theorem isLastSince_concat_of_not (other : ¬ Names event)
    : IsLastSince step Holds Names state (events ++ [event]) last
      ↔ IsLastSince step Holds Names state events last
        ∧ Holds (run step state (events ++ [event])) := by
  constructor
  · intro since
    refine ⟨?_, since.holds⟩
    obtain ⟨before, after, same, since⟩ := since
    rcases after.eq_nil_or_concat with rfl | ⟨after, e, rfl⟩
    · obtain ⟨-, eq⟩ := List.append_inj' same rfl
      obtain rfl := List.head_eq_of_cons_eq eq
      exact absurd since.names other
    · rw [List.concat_eq_append] at same since
      rw [← List.cons_append, ← List.append_assoc] at same
      obtain ⟨rfl, -⟩ := List.append_inj' same rfl
      exact ⟨before, after, rfl, since.names,
        fun later member => since.last later (List.mem_append_left _ member), since.start,
        fun later start => since.holds later (start.trans (List.prefix_append _ _))⟩
  · rintro ⟨⟨before, after, rfl, since⟩, holds⟩
    refine ⟨before, after ++ [event], by simp, since.names, ?_, since.start, ?_⟩
    · intro later member
      rcases List.mem_append.mp member with earlier | new
      · exact since.last later earlier
      · exact List.mem_singleton.mp new ▸ other
    · intro later start
      rcases List.prefix_concat_iff.mp start with whole | part
      · rw [whole, ← List.cons_append, ← List.append_assoc]
        exact holds
      · exact since.holds later part

/-- A step that may fault, on states where `none` records an earlier fault. -/
def faulting (step : σ → ε → Option σ) : Option σ → ε → Option σ :=
  fun state event => state.bind (step · event)

/-- A property of the steps taken before any fault. -/
def BeforeFault (P : σ → ε → Prop) : Option σ → ε → Prop :=
  fun state event => ∀ current ∈ state, P current event

instance BeforeFault.decidable (P : σ → ε → Prop) [∀ state event, Decidable (P state event)]
    (state : Option σ) (event : ε)
    : Decidable (BeforeFault P state event) :=
  inferInstanceAs (Decidable (∀ current ∈ state, P current event))

theorem faulting_none (step : σ → ε → Option σ) (events : List ε)
    : run (faulting step) none events = none := by
  induction events with
  | nil => rfl
  | cons event rest ih => exact ih

/-- The first step of a run that does not fault. -/
theorem faulting_cons {step : σ → ε → Option σ} {state final : σ} {event : ε} {rest : List ε}
    (reached : run (faulting step) (some state) (event :: rest) = some final)
    : ∃ next, step state event = some next
        ∧ run (faulting step) (some next) rest = some final := by
  rw [run_cons] at reached
  cases stepped : step state event with
  | none =>
      rw [faulting, Option.bind_some, stepped, faulting_none] at reached
      cases reached
  | some next =>
      rw [faulting, Option.bind_some, stepped] at reached
      exact ⟨next, rfl, reached⟩

/-- An invariant of the steps that do not fault is one of the run's states before any fault. -/
theorem faulting_keeps {step : σ → ε → Option σ} {Inv : σ → Prop} {Cond : σ → ε → Prop}
    (keeps : ∀ state event next, Inv state → Cond state event → step state event = some next
      → Inv next)
    (current : Option σ) (event : ε) (invs : ∀ s ∈ current, Inv s)
    (cond : BeforeFault Cond current event)
    : ∀ s ∈ faulting step current event, Inv s := by
  intro next stepped
  obtain ⟨s, known, stepped⟩ := Option.bind_eq_some_iff.mp stepped
  exact keeps s event next (invs s known) (cond s known) stepped

/-- The run rule for steps that may fault: every step before a fault is safe. -/
theorem Along.of_faulting {step : σ → ε → Option σ} {Inv : σ → Prop} {Cond Safe : σ → ε → Prop}
    (keeps : ∀ state event next, Inv state → Cond state event → step state event = some next
      → Inv next)
    (safe : ∀ state event, Inv state → Cond state event → Safe state event)
    {state : σ} {events : List ε} (inv : Inv state)
    (conds : Along (faulting step) (BeforeFault Cond) (some state) events)
    : Along (faulting step) (BeforeFault Safe) (some state) events :=
  Along.of_invariant (faulting_keeps keeps)
    (fun _ event invs cond s known => safe s event (invs s known) (cond s known))
    (by rintro s ⟨⟩; exact inv) conds

/-- The invariant holds wherever a run gets without a fault. -/
theorem faulting_invariant {step : σ → ε → Option σ} {Inv : σ → Prop} {Cond : σ → ε → Prop}
    (keeps : ∀ state event next, Inv state → Cond state event → step state event = some next
      → Inv next)
    {state final : σ} {events : List ε} (inv : Inv state)
    (conds : Along (faulting step) (BeforeFault Cond) (some state) events)
    (reached : run (faulting step) (some state) events = some final)
    : Inv final := by
  have all := Along.invariant (faulting_keeps keeps) (by rintro s ⟨⟩; exact inv) conds
  exact all final reached

/-- The same for an invariant that every step keeps. -/
theorem faulting_reaches {step : σ → ε → Option σ} {Inv : σ → Prop}
    (keeps : ∀ state event next, Inv state → step state event = some next → Inv next)
    {state final : σ} {events : List ε} (inv : Inv state)
    (reached : run (faulting step) (some state) events = some final)
    : Inv final := by
  have free : Along (faulting step) (BeforeFault fun _ _ => True) (some state) events :=
    Along.all (fun _ _ _ _ => trivial) _ _
  exact faulting_invariant (fun state event next inv _ => keeps state event next inv) inv free
    reached

/-- Where the invariant makes safety and the condition of a step one, a run of steps that may fault
is safe exactly if its steps meet the condition.
-/
theorem faulting_iff {step : σ → ε → Option σ} {Inv : σ → Prop} {Cond Safe : σ → ε → Prop}
    (keeps : ∀ state event next, Inv state → Cond state event → step state event = some next
      → Inv next)
    (same : ∀ state event, Inv state → (Safe state event ↔ Cond state event))
    {state : σ} (inv : Inv state) (events : List ε)
    : Along (faulting step) (BeforeFault Safe) (some state) events
      ↔ Along (faulting step) (BeforeFault Cond) (some state) events := by
  have same' : ∀ (current : Option σ) event, (∀ s ∈ current, Inv s)
      → (BeforeFault Safe current event ↔ BeforeFault Cond current event) :=
    fun current event invs => forall₂_congr fun s known => same s event (invs s known)
  exact Along.iff_of_invariant (faulting_keeps keeps) same' (by rintro s ⟨⟩; exact inv) events

/-- The same in runs of which something more is given. -/
theorem faulting_iff_given {step : σ → ε → Option σ} {Inv : σ → Prop}
    {Given Cond Safe : σ → ε → Prop}
    (keeps : ∀ state event next, Inv state → Given state event → Cond state event
      → step state event = some next → Inv next)
    (same : ∀ state event, Inv state → Given state event → (Safe state event ↔ Cond state event))
    {state : σ} {events : List ε} (inv : Inv state)
    (given : Along (faulting step) (BeforeFault Given) (some state) events)
    : Along (faulting step) (BeforeFault Safe) (some state) events
      ↔ Along (faulting step) (BeforeFault Cond) (some state) events := by
  have both (P : σ → ε → Prop)
      : Along (faulting step) (BeforeFault P) (some state) events
        ↔ Along (faulting step) (BeforeFault fun s event => Given s event ∧ P s event)
          (some state) events := by
    constructor
    · intro along
      exact Along.imp (fun _ _ holds s known => ⟨holds.1 s known, holds.2 s known⟩)
        (given.and along)
    · exact Along.imp fun _ _ holds s known => (holds s known).2
  rw [both Safe, both Cond]
  apply faulting_iff ?_ ?_ inv events
  · exact fun s event next inv cond stepped => keeps s event next inv cond.1 cond.2 stepped
  · exact fun s event inv => and_congr_right fun given => same s event inv given

/-- A step that faults where it is not safe. -/
def guarded (step : σ → ε → σ) (Safe : σ → ε → Prop) [∀ state event, Decidable (Safe state event)]
    : σ → ε → Option σ :=
  fun state event => if Safe state event then some (step state event) else none

section Guarded

variable {step : σ → ε → σ} {Safe : σ → ε → Prop} [∀ state event, Decidable (Safe state event)]

/-- A guarded run gets to its end exactly if all its steps are safe, and ends like the plain one. -/
theorem run_guarded {state final : σ} {events : List ε}
    : run (faulting (guarded step Safe)) (some state) events = some final
      ↔ Along step Safe state events ∧ run step state events = final := by
  induction events generalizing state with
  | nil => simp
  | cons event rest ih =>
      rw [run_cons, faulting, Option.bind_some, guarded]
      by_cases safe : Safe state event
      · rw [if_pos safe, ih]
        simp [safe]
      · rw [if_neg safe, faulting_none]
        simp [safe]

/-- Where all steps are safe, a property of them holds along the guarded run if along the plain. -/
theorem along_guarded {P : σ → ε → Prop} {state : σ} {events : List ε}
    (safe : Along step Safe state events)
    : Along (faulting (guarded step Safe)) (BeforeFault P) (some state) events
      ↔ Along step P state events := by
  induction events generalizing state with
  | nil => exact Iff.rfl
  | cons event rest ih =>
      obtain ⟨now, later⟩ := safe
      rw [along_cons, along_cons, faulting, Option.bind_some, guarded, if_pos now, ih later]
      exact and_congr_left fun _ => ⟨fun all => all state rfl, by rintro holds _ ⟨⟩; exact holds⟩

/-- A guarded run whose steps are required to be safe is the plain one with that requirement. -/
theorem along_guarded_safe {P : σ → ε → Prop} {state : σ} {events : List ε}
    : Along (faulting (guarded step Safe)) (BeforeFault fun state event =>
          Safe state event ∧ P state event) (some state) events
      ↔ Along step Safe state events ∧ Along step P state events := by
  constructor
  · intro along
    have safe : Along step Safe state events := by
      induction events generalizing state with
      | nil => trivial
      | cons event rest ih =>
          obtain ⟨now, later⟩ := along
          have safe := (now state rfl).1
          rw [faulting, Option.bind_some, guarded, if_pos safe] at later
          exact ⟨safe, ih later⟩
    exact ⟨safe, ((along_guarded safe).mp along).imp fun _ _ both => both.2⟩
  · rintro ⟨safe, holds⟩
    exact (along_guarded safe).mpr (safe.and holds)

end Guarded

/-- One step of the component that the event names; the others keep their states. -/
def interleave [DecidableEq ι] (step : σ → ε → σ) : (ι → σ) → ι × ε → ι → σ :=
  fun states event => Function.update states event.1 (step (states event.1) event.2)

/-- A component-wise condition, required of the component that steps. -/
def Stepping (P : σ → ε → Prop) : (ι → σ) → ι × ε → Prop :=
  fun states event => P (states event.1) event.2

instance Stepping.decidable (P : σ → ε → Prop) [∀ state event, Decidable (P state event)]
    (states : ι → σ) (event : ι × ε)
    : Decidable (Stepping P states event) :=
  inferInstanceAs (Decidable (P _ _))

/-- An invariant of each component is one of the interleaving, since a step changes one
component and leaves the others as they were.
-/
theorem interleave_invariant [DecidableEq ι] {step : σ → ε → σ} {Inv : σ → Prop}
    {Cond : σ → ε → Prop}
    (keeps : ∀ state event, Inv state → Cond state event → Inv (step state event))
    (states : ι → σ) (event : ι × ε) (inv : ∀ i, Inv (states i))
    (cond : Stepping Cond states event)
    : ∀ i, Inv (interleave step states event i) := by
  intro i
  by_cases same : i = event.1
  · subst same
    simpa [interleave] using keeps _ _ (inv event.1) cond
  · simpa [interleave, same] using inv i

end TsnTrdp.Run
