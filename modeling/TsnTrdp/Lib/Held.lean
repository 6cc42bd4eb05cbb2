import TsnTrdp.Lib.Run
import Mathlib.Data.Multiset.AddSub

/-! Resources that are taken and given back, any number of times each. Giving back what is not held
is a fault.
-/

namespace TsnTrdp.Held

open TsnTrdp Run

variable {ρ : Type*} [DecidableEq ρ]

inductive Use (ρ : Type*)
  | take (resource : ρ)
  | give (resource : ρ)
  deriving DecidableEq, Repr

def useStep (held : Multiset ρ) : Use ρ → Option (Multiset ρ)
  | .take resource => some (resource ::ₘ held)
  | .give resource => if resource ∈ held then some (held.erase resource) else none

/-- What is held after some uses, unless one of them was a fault. -/
def after (held : Multiset ρ) (uses : List (Use ρ)) : Option (Multiset ρ) :=
  run (faulting useStep) (some held) uses

/-- Taking adds to what is held, by induction on what is taken. -/
theorem after_takes (held : Multiset ρ) (taken : List ρ)
    : after held (taken.map .take) = some (held + (taken : Multiset ρ)) := by
  unfold after
  induction taken generalizing held with
  | nil => simp
  | cons resource rest ih =>
      rw [List.map_cons, run_cons]
      refine (ih (resource ::ₘ held)).trans ?_
      rw [Multiset.cons_add, ← Multiset.add_cons, Multiset.cons_coe]

/-- Giving back is no fault, and leaves `final`, exactly if `final` and what is given back are what
was held. By induction on what is given back.
-/
theorem after_gives {held final : Multiset ρ} {given : List ρ}
    : after held (given.map .give) = some final ↔ held = final + (given : Multiset ρ) := by
  unfold after
  induction given generalizing held with
  | nil => simp
  | cons resource rest ih =>
      rw [List.map_cons, run_cons, faulting, Option.bind_some, useStep, ← Multiset.cons_coe,
        Multiset.add_cons]
      by_cases member : resource ∈ held
      · rw [if_pos member, ih]
        constructor
        · intro same
          rw [← same, Multiset.cons_erase member]
        · intro same
          rw [same, Multiset.erase_cons_head]
      · rw [if_neg member]
        constructor
        · intro reached
          rw [faulting_none] at reached
          cases reached
        · intro same
          rw [same] at member
          exact absurd (Multiset.mem_cons_self resource _) member

/-- What is taken and then given back leaves what was held exactly if the same is given back as was
taken.
-/
theorem after_balanced (held : Multiset ρ) (taken given : List ρ)
    : after held (taken.map .take ++ given.map .give) = some held ↔ taken.Perm given := by
  have first := after_takes held taken
  unfold after at first
  rw [after, run_append, first]
  refine after_gives.trans ?_
  rw [Multiset.add_right_inj, Multiset.coe_eq_coe]

end TsnTrdp.Held
