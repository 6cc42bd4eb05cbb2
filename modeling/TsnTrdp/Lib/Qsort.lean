import Mathlib.Data.List.Rotate
import Mathlib.Data.List.Sort

/-! The C library's `qsort`, known only by its contract: it permutes its elements, and sorts
them where the comparator orders them consistently. `adversary` meets the contract and is
as unhelpful as it allows: it turns ties around and leaves inconsistent elements unsorted.
-/

namespace TsnTrdp.Qsort

variable {α : Type*} {cmp : α → α → Int} {l : List α} {a b : α}

/-- The comparator defines a total order on the elements. -/
structure Consistent (cmp : α → α → Int) (l : List α) : Prop where
  sign : ∀ a ∈ l, ∀ b ∈ l, 0 < cmp a b ↔ cmp b a < 0
  trans : ∀ a ∈ l, ∀ b ∈ l, ∀ c ∈ l, cmp a b ≤ 0 → cmp b c ≤ 0 → cmp a c ≤ 0

/-- The contract of `qsort`. -/
structure Correct (qsort : (α → α → Int) → List α → List α) : Prop where
  perm : ∀ cmp l, (qsort cmp l).Perm l
  sorted : ∀ cmp l, Consistent cmp l → (qsort cmp l).Pairwise fun a b => cmp a b ≤ 0

/-- The comparator on the elements of a list. -/
def leOn (cmp : α → α → Int) (l : List α) (a b : { x // x ∈ l }) : Bool :=
  decide (cmp a b ≤ 0)

/-- A stable sort of the elements taken from the back. -/
def reverseTies (cmp : α → α → Int) (l : List α) : List α :=
  (l.attach.reverse.mergeSort (leOn cmp l)).map Subtype.val

theorem reverseTies_perm : (reverseTies cmp l).Perm l := by
  have sorted := List.mergeSort_perm l.attach.reverse (leOn cmp l)
  have values := (sorted.trans (List.reverse_perm _)).map Subtype.val
  rwa [List.attach_map_subtype_val] at values

theorem Consistent.leOn_trans (consistent : Consistent cmp l) (a b c : { x // x ∈ l })
    (first : leOn cmp l a b = true) (second : leOn cmp l b c = true)
    : leOn cmp l a c = true :=
  decide_eq_true (consistent.trans a a.2 b b.2 c c.2 (of_decide_eq_true first)
    (of_decide_eq_true second))

theorem Consistent.leOn_total (consistent : Consistent cmp l) (a b : { x // x ∈ l })
    : (leOn cmp l a b || leOn cmp l b a) = true := by
  have sign := consistent.sign a a.2 b b.2
  simp only [leOn, Bool.or_eq_true, decide_eq_true_eq]
  omega

theorem Consistent.reverseTies_sorted (consistent : Consistent cmp l)
    : (reverseTies cmp l).Pairwise fun a b => cmp a b ≤ 0 := by
  have sorted := List.pairwise_mergeSort consistent.leOn_trans consistent.leOn_total
    l.attach.reverse
  exact List.pairwise_map.mpr (sorted.imp of_decide_eq_true)

/-- Elements that may stand the other way round are turned around. -/
theorem Consistent.reverseTies_turns (consistent : Consistent cmp l) (pair : [a, b].Sublist l)
    (may : cmp b a ≤ 0)
    : [b, a].Sublist (reverseTies cmp l) := by
  obtain ⟨positions, sub, values⟩ := List.sublist_map_iff.mp
    (l.attach_map_subtype_val.symm ▸ pair : [a, b].Sublist (l.attach.map Subtype.val))
  obtain ⟨x, y, rfl, rfl, rfl⟩ : ∃ x y, positions = [x, y] ∧ a = x.val ∧ b = y.val := by
    match positions, values with
    | [x, y], values =>
        obtain ⟨first, rest⟩ := List.cons.inj values
        exact ⟨x, y, rfl, first, (List.cons.inj rest).1⟩
  have turned := List.pair_sublist_mergeSort consistent.leOn_trans consistent.leOn_total
    (decide_eq_true may : leOn cmp l y x = true) (by simpa using sub.reverse)
  exact turned.map Subtype.val

open Classical in
/-- A correct `qsort` that turns ties around and rotates what it need not sort. -/
noncomputable def adversary (cmp : α → α → Int) (l : List α) : List α :=
  if Consistent cmp l then reverseTies cmp l else l.rotate 1

theorem adversary_correct : Correct (adversary (α := α)) where
  perm := by
    intro cmp l
    unfold adversary
    split
    · exact reverseTies_perm
    · exact List.rotate_perm l 1
  sorted := by
    intro cmp l consistent
    rw [adversary, if_pos consistent]
    exact consistent.reverseTies_sorted

end TsnTrdp.Qsort
