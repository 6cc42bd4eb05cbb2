import Mathlib.Data.BitVec

/-! Loops `for (i = 0; i < bound; i++)` whose counter may be narrower than the bound that it is
compared with.
-/

namespace TsnTrdp.Counted

variable {σ : Type*}

/-- The loop, with a counter of `w` bits, gets to its test with this counter and this state. -/
inductive Tests (w bound : Nat) (body : σ → Nat → σ) (start : σ) : BitVec w → σ → Prop
  | first : Tests w bound body start 0 start
  | next {i : BitVec w} {state : σ} (tested : Tests w bound body start i state)
    (low : i.toNat < bound)
    : Tests w bound body start (i + 1) (body state i.toNat)

/-- The loop ends, in this state. -/
def Exits (w bound : Nat) (body : σ → Nat → σ) (start final : σ) : Prop :=
  ∃ i, Tests w bound body start i final ∧ bound ≤ i.toNat

/-- The loop makes a round with this value of the counter. -/
def Visits (w bound : Nat) (body : σ → Nat → σ) (start : σ) (n : Nat) : Prop :=
  ∃ i state, Tests w bound body start i state ∧ i.toNat < bound ∧ i.toNat = n

variable {w bound : Nat} {body : σ → Nat → σ} {start final : σ}

/-- Up to the bound, and as long as the counter can say so, the loop has made a round for every
number below the counter. By induction on the rounds.
-/
theorem tests_range {n : Nat} (within : n ≤ bound) (narrow : n < 2 ^ w)
    : Tests w bound body start (BitVec.ofNat w n) ((List.range n).foldl body start) := by
  induction n with
  | zero => exact .first
  | succ n ih =>
      have same : (BitVec.ofNat w n).toNat = n :=
        Nat.mod_eq_of_lt (Nat.lt_of_succ_lt narrow)
      have tested := ih (Nat.le_of_succ_le within) (Nat.lt_of_succ_lt narrow)
      have low : (BitVec.ofNat w n).toNat < bound := same.symm ▸ within
      have next := tested.next low
      rw [same] at next
      rw [List.range_succ, List.foldl_append, BitVec.ofNat_add]
      exact next

/-- Where the counter can say the bound, it is a number of rounds made. By induction on them. -/
theorem Tests.rounds {i : BitVec w} {state : σ} (tested : Tests w bound body start i state)
    (narrow : bound < 2 ^ w)
    : i.toNat ≤ bound ∧ state = (List.range i.toNat).foldl body start := by
  induction tested with
  | first => exact ⟨by simp, by simp⟩
  | @next i state _ low ih =>
      obtain ⟨-, rfl⟩ := ih
      have one : (1 : BitVec w).toNat = 1 := by
        cases w with
        | zero => omega
        | succ w => simp
      have next : (i + 1).toNat = i.toNat + 1 := by
        rw [BitVec.toNat_add, one, Nat.mod_eq_of_lt (by omega)]
      rw [next, List.range_succ, List.foldl_append]
      exact ⟨low, rfl⟩

/-- A loop whose counter can say its bound ends, and has made every round. -/
theorem exits_iff (narrow : bound < 2 ^ w)
    : Exits w bound body start final ↔ final = (List.range bound).foldl body start := by
  constructor
  · rintro ⟨i, tested, high⟩
    obtain ⟨within, rfl⟩ := tested.rounds narrow
    rw [Nat.le_antisymm within high]
  · rintro rfl
    refine ⟨_, tests_range (Nat.le_refl bound) narrow, ?_⟩
    exact (Nat.mod_eq_of_lt narrow).ge

/-- A loop whose counter cannot say its bound does not end. -/
theorem not_exits (wide : 2 ^ w ≤ bound) : ¬ Exits w bound body start final := by
  rintro ⟨i, -, high⟩
  exact absurd i.isLt (Nat.not_lt.mpr (wide.trans high))

/-- A loop ends exactly if its counter can say its bound. -/
theorem terminates_iff : (∃ final, Exits w bound body start final) ↔ bound < 2 ^ w := by
  constructor
  · rintro ⟨final, exits⟩
    by_contra wide
    exact not_exits (Nat.not_lt.mp wide) exits
  · intro narrow
    exact ⟨_, (exits_iff narrow).mpr rfl⟩

/-- The rounds that are made are those below the bound that the counter can name. -/
theorem visits_iff {n : Nat} : Visits w bound body start n ↔ n < bound ∧ n < 2 ^ w := by
  constructor
  · rintro ⟨i, state, -, low, rfl⟩
    exact ⟨low, i.isLt⟩
  · rintro ⟨low, narrow⟩
    have same : (BitVec.ofNat w n).toNat = n := Nat.mod_eq_of_lt narrow
    exact ⟨_, _, tests_range (Nat.le_of_lt low) narrow, same.symm ▸ low, same⟩

end TsnTrdp.Counted
