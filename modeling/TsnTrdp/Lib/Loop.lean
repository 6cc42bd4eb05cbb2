import Mathlib.Logic.Basic

/-! Loops that make a round before they test whether to make another, and that may go on for ever.
-/

namespace TsnTrdp.Loop

variable {σ : Type*} {body : σ → σ} {again : σ → Bool} {s final other : σ}

/-- `do body while (again)`, for `fuel` rounds at most. -/
def doWhile (body : σ → σ) (again : σ → Bool) : Nat → σ → Option σ
  | 0, _ => none
  | fuel + 1, s => if again (body s) then doWhile body again fuel (body s) else some (body s)

/-- The loop ends, in the state `final`. -/
def Ends (body : σ → σ) (again : σ → Bool) (s final : σ) : Prop :=
  ∃ fuel, doWhile body again fuel s = some final

theorem ends_of_stop (stops : again (body s) = false) : Ends body again s (body s) :=
  ⟨1, by rw [doWhile, stops]; rfl⟩

/-- A loop that makes another round ends where it ends from there. -/
theorem ends_iff_of_again (goes : again (body s) = true)
    : Ends body again s final ↔ Ends body again (body s) final := by
  constructor
  · rintro ⟨fuel, ends⟩
    cases fuel with
    | zero => cases ends
    | succ fuel =>
        rw [doWhile, if_pos goes] at ends
        exact ⟨fuel, ends⟩
  · rintro ⟨fuel, ends⟩
    exact ⟨fuel + 1, by rw [doWhile, if_pos goes, ends]⟩

/-- A loop that ends after its first round ends nowhere else. -/
theorem ends_iff_of_stop (stops : again (body s) = false)
    : Ends body again s final ↔ final = body s := by
  constructor
  · rintro ⟨fuel, ends⟩
    cases fuel with
    | zero => cases ends
    | succ fuel =>
        rw [doWhile, stops] at ends
        exact (Option.some.inj ends).symm
  · rintro rfl
    exact ends_of_stop stops

/-- A loop of which every round leads to another never ends, by induction on the fuel. -/
theorem not_ends_of_invariant {Inv : σ → Prop}
    (goes : ∀ s, Inv s → again (body s) = true ∧ Inv (body s)) (inv : Inv s)
    : ¬ Ends body again s final := by
  rintro ⟨fuel, ends⟩
  induction fuel generalizing s with
  | zero => cases ends
  | succ fuel ih =>
      obtain ⟨more, inv'⟩ := goes s inv
      rw [doWhile, if_pos more] at ends
      exact ih inv' ends

end TsnTrdp.Loop
