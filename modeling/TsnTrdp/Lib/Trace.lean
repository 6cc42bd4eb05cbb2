import Mathlib.Data.BitVec
import TsnTrdp.Lib.Run

/-! What a register holds after a run: everything that the steps of the run have put into it. -/

namespace TsnTrdp.Run

variable {σ ε α β : Type*}

/-- A step of a run. -/
structure Step (σ ε : Type*) where
  before : σ
  event : ε
  after : σ

/-- The steps of a run. -/
def steps (step : σ → ε → σ) : σ → List ε → List (Step σ ε)
  | _, [] => []
  | state, event :: rest =>
      ⟨state, event, step state event⟩ :: steps step (step state event) rest

variable {step : σ → ε → σ} {Inv : σ → Prop} {Cond : σ → ε → Prop} {state : σ} {events : List ε}

/-- A register into which each step puts something holds, after a run, what it held and all that was
put into it. By induction on the events.
-/
theorem register_run (read : σ → α) (put : Step σ ε → β) (op : α → β → α)
    (keeps : ∀ state event, Inv state → Cond state event → Inv (step state event))
    (moves : ∀ state event, Inv state → Cond state event
      → read (step state event) = op (read state) (put ⟨state, event, step state event⟩))
    (inv : Inv state) (conds : Along step Cond state events)
    : read (run step state events) = ((steps step state events).map put).foldl op (read state) := by
  induction events generalizing state with
  | nil => rfl
  | cons event rest ih =>
      obtain ⟨cond, later⟩ := conds
      rw [run_cons, ih (keeps state event inv cond) later, moves state event inv cond]
      rfl

/-- A counter of `w` bits counts the steps of a kind, modulo `2 ^ w`. -/
theorem counter_run {w : Nat} (read : σ → BitVec w) (counts : Step σ ε → Bool)
    (keeps : ∀ state event, Inv state → Cond state event → Inv (step state event))
    (moves : ∀ state event, Inv state → Cond state event
      → read (step state event)
        = read state + BitVec.ofNat w (counts ⟨state, event, step state event⟩).toNat)
    (inv : Inv state) (conds : Along step Cond state events)
    : read (run step state events)
      = read state + BitVec.ofNat w ((steps step state events).countP counts) := by
  induction events generalizing state with
  | nil => simp [steps]
  | cons event rest ih =>
      obtain ⟨cond, later⟩ := conds
      rw [run_cons, ih (keeps state event inv cond) later, moves state event inv cond, steps,
        List.countP_cons, BitVec.add_assoc]
      congr 1
      cases counts ⟨state, event, step state event⟩ <;>
        simp [BitVec.ofNat_add, BitVec.add_comm]

end TsnTrdp.Run
