import Mathlib.Data.List.Induction
import Mathlib.Tactic.Linarith

/-! Paced occurrences: the `i`-th of them is not earlier than `i` periods after the first due
time, which bounds how many there are up to any time.
-/

namespace TsnTrdp.Pace

/-- Each time is at or after the due time of its place in the list. -/
def Paced (first period : Int) (times : List Int) : Prop :=
  ∀ (i : Nat) (time : Int), times[i]? = some time → first + i * period ≤ time

variable {first period : Int} {times : List Int}

theorem paced_nil : Paced first period [] := by
  intro i time found
  cases found

/-- One more occurrence, at or after the next due time. -/
theorem Paced.snoc (paced : Paced first period times) {time : Int}
    (late : first + times.length * period ≤ time)
    : Paced first period (times ++ [time]) := by
  intro i found present
  rcases Nat.lt_or_ge i times.length with before | behind
  · rw [List.getElem?_append_left before] at present
    exact paced i found present
  · rw [List.getElem?_append_right behind, List.getElem?_singleton] at present
    split at present
    · rename_i last
      obtain rfl := Option.some.inj present
      have place : i = times.length := by omega
      rwa [place]
    · cases present

theorem Paced.init {time : Int} (paced : Paced first period (times ++ [time]))
    : Paced first period times ∧ first + times.length * period ≤ time := by
  constructor
  · intro i found present
    have before : i < times.length := (List.getElem?_eq_some_iff.mp present).1
    exact paced i found (by rwa [List.getElem?_append_left before])
  · exact paced times.length time (by simp)

/-- No occurrence lies before the first due time, and each period holds at most one more.
Induction on the list from its end: a time that counts bounds the whole list.
-/
theorem Paced.count_le (positive : 0 < period) (paced : Paced first period times) (until' : Int)
    : (until' < first → times.countP (· ≤ until') = 0)
      ∧ (first ≤ until' → (times.countP (· ≤ until') : Int) ≤ 1 + (until' - first) / period) := by
  induction times using List.reverseRecOn with
  | nil =>
      refine ⟨fun _ => rfl, fun le => ?_⟩
      have nonneg : 0 ≤ (until' - first) / period := Int.ediv_nonneg (by omega) (by omega)
      simp only [List.countP_nil, Nat.cast_zero]
      omega
  | append_singleton times time ih =>
      obtain ⟨before, late⟩ := paced.init
      obtain ⟨none, bounded⟩ := ih before
      by_cases counts : time ≤ until'
      · have nonneg : 0 ≤ (times.length : Int) * period := by positivity
        refine ⟨fun early => by omega, fun _ => ?_⟩
        have place : (times.length : Int) ≤ (until' - first) / period :=
          (Int.le_ediv_iff_mul_le positive).mpr (by omega)
        have total : (times ++ [time]).countP (· ≤ until') ≤ times.length + 1 := by
          simpa using List.countP_le_length (p := (· ≤ until')) (l := times ++ [time])
        omega
      · have same : (times ++ [time]).countP (· ≤ until') = times.countP (· ≤ until') := by
          simp [List.countP_append, counts]
        rw [same]
        exact ⟨none, bounded⟩

end TsnTrdp.Pace
