import Mathlib.Data.List.Perm.Basic
import Mathlib.Data.List.Range
import Mathlib.Tactic

/-! Rings of `n` slots addressed by free-running indices. Index `i` lives in slot `i % n`;
a window of at most `n` consecutive indices uses each slot at most once, which is the
whole reason a ring of cursors modulo `n` can stand for unbounded counters.
-/

namespace TsnTrdp.Ring

variable {β : Type*} {n lo hi i j : Nat}

/-- Within one window of `n` indices a slot determines its index. -/
theorem slot_inj (hi : lo ≤ i) (hi' : i < lo + n) (hj : lo ≤ j) (hj' : j < lo + n)
    (same : i % n = j % n)
    : i = j := by
  have low := Nat.sub_mod_eq_zero_of_mod_eq same
  have high := Nat.sub_mod_eq_zero_of_mod_eq same.symm
  rw [Nat.mod_eq_of_lt (by omega)] at low high
  omega

/-- The cursor distance modulo `n` is the number of indices between the cursors. -/
theorem used_eq (le : lo ≤ hi) (room : hi < lo + n)
    : (hi % n + n - lo % n) % n = hi - lo := by
  have pos : 0 < n := by omega
  have bound := Nat.mod_lt lo pos
  obtain ⟨gap, rfl⟩ := Nat.exists_eq_add_of_le le
  have small : gap < n := by omega
  rw [Nat.add_mod, Nat.mod_eq_of_lt small, Nat.add_sub_cancel_left]
  rcases Nat.lt_or_ge (lo % n + gap) n with stays | wraps
  · rw [Nat.mod_eq_of_lt stays, show lo % n + gap + n - lo % n = gap + n by omega,
      Nat.add_mod_right, Nat.mod_eq_of_lt small]
  · rw [Nat.mod_eq_sub_mod wraps, Nat.mod_eq_of_lt (by omega : lo % n + gap - n < n),
      show lo % n + gap - n + n - lo % n = gap by omega, Nat.mod_eq_of_lt small]

/-- Two cursors of a window that is not full meet exactly when no index lies between. -/
theorem cursors_eq_iff (le : lo ≤ hi) (room : hi < lo + n) : hi % n = lo % n ↔ hi = lo := by
  constructor
  · intro same
    exact slot_inj le room (Nat.le_refl lo) (by omega) same
  · rintro rfl
    rfl

/-- Advancing a cursor by `k` and reducing modulo `n` advances its index by `k`. -/
@[simp] theorem advance (index k : Nat) : (index % n + k) % n = (index + k) % n :=
  Nat.mod_add_mod index n k

/-- Every slot is reached within one round from any index. -/
theorem slot_reached (lo : Nat) {slot : Nat} (bound : slot < n)
    : (lo + (slot + n - lo % n) % n) % n = slot := by
  have low := Nat.mod_lt lo (by omega : 0 < n)
  rw [Nat.add_mod, Nat.mod_mod, ← Nat.add_mod, ← advance,
    show lo % n + (slot + n - lo % n) = slot + n by omega, Nat.add_mod_right,
    Nat.mod_eq_of_lt bound]

/-- A full window visits every slot once, in some rotation. -/
theorem window_perm (lo : Nat) (pos : 0 < n)
    : ((List.range' lo n).map (· % n)).Perm (List.range n) := by
  refine (List.perm_ext_iff_of_nodup ?_ List.nodup_range).mpr ?_
  · refine List.Nodup.map_on ?_ List.nodup_range'
    intro x hx y hy same
    simp only [List.mem_range'_1] at hx hy
    exact slot_inj hx.1 hx.2 hy.1 hy.2 same
  · intro slot
    simp only [List.mem_map, List.mem_range'_1, List.mem_range]
    constructor
    · rintro ⟨index, -, rfl⟩
      exact Nat.mod_lt _ pos
    · intro bound
      have := Nat.mod_lt (slot + n - lo % n) pos
      exact ⟨lo + (slot + n - lo % n) % n, by omega, slot_reached lo bound⟩

/-- Every index of the window `[lo, hi)` has its right contents in its slot. -/
def Holds (n : Nat) (mem : Nat → β) (right : Nat → β → Prop) (lo hi : Nat) : Prop :=
  ∀ i, lo ≤ i → i < hi → right i (mem (i % n))

variable {mem : Nat → β} {right right' : Nat → β → Prop}

/-- A smaller window asks less, also when the contents' meaning changes inside it. -/
theorem Holds.imp (holds : Holds n mem right lo hi) {lo' hi' : Nat} (low : lo ≤ lo')
    (high : hi' ≤ hi) (weaker : ∀ i x, lo' ≤ i → i < hi' → right i x → right' i x)
    : Holds n mem right' lo' hi' := by
  intro i hlo hhi
  exact weaker i _ hlo hhi (holds i (by omega) (by omega))

/-- Storing into the slot of index `j` changes that index alone, while the window fits. -/
theorem Holds.store (holds : Holds n mem right lo hi) (room : hi ≤ lo + n) {x : β}
    (hj : lo ≤ j) (hj' : j < lo + n) (new : right' j x)
    (others : ∀ i y, lo ≤ i → i < hi → i ≠ j → right i y → right' i y)
    : ∀ i, lo ≤ i → i < hi ∨ i = j
      → right' i (Function.update mem (j % n) x (i % n)) := by
  intro i hlo hhi
  by_cases same : i = j
  · subst same
    simpa using new
  · have below : i < hi := hhi.resolve_right same
    have apart : i % n ≠ j % n := by
      intro clash
      exact same (slot_inj hlo (by omega) hj hj' clash)
    rw [Function.update_of_ne apart]
    exact others i _ hlo below same (holds i hlo below)

/-- Storing the next index of a window that is not full extends the window. -/
theorem Holds.push (holds : Holds n mem right lo hi) (le : lo ≤ hi) (room : hi < lo + n)
    {x : β} (new : right hi x)
    : Holds n (Function.update mem (hi % n) x) right lo (hi + 1) := by
  intro i hlo hhi
  exact holds.store (by omega) le room new (fun _ _ _ _ _ h => h) i hlo (by omega)

/-- Storing at an index that the window has passed leaves the window as it is. -/
theorem Holds.behind (holds : Holds n mem right lo hi) {lo' : Nat} (low : lo ≤ lo')
    (passed : j < lo') (room : hi ≤ j + n) {x : β}
    : Holds n (Function.update mem (j % n) x) right lo' hi := by
  intro i hlo hhi
  have apart : i % n ≠ j % n := by
    intro clash
    have same := slot_inj (by omega : j ≤ i) (by omega) (Nat.le_refl j) (by omega) clash
    omega
  rw [Function.update_of_ne apart]
  exact holds i (Nat.le_trans low hlo) hhi

/-- The slot of an index that the window has passed is the next one to extend the window by. -/
theorem Holds.recycle (holds : Holds n mem right lo (j + n)) (passed : j < lo) (le : lo ≤ j + n)
    {x : β} (new : right (j + n) x)
    : Holds n (Function.update mem (j % n) x) right lo (j + 1 + n) := by
  have pushed := holds.push le (by omega) new
  rw [Nat.add_mod_right, Nat.add_right_comm] at pushed
  exact pushed

/-- Storing at an index inside a window that fits replaces that index's contents. -/
theorem Holds.set (holds : Holds n mem right lo hi) (room : hi ≤ lo + n) {x : β}
    (hj : lo ≤ j) (hj' : j < hi) (new : right' j x)
    (others : ∀ i y, lo ≤ i → i < hi → i ≠ j → right i y → right' i y)
    : Holds n (Function.update mem (j % n) x) right' lo hi := by
  intro i hlo hhi
  exact holds.store room hj (by omega) new others i hlo (Or.inl hhi)

/-- A window whose slots hold a list's entries reads as the list from there on. -/
theorem Holds.read {γ : Type*} {entries : List γ} {field : β → γ}
    (holds : Holds n mem (fun i x => entries[i]? = some (field x)) lo entries.length)
    : (List.range' lo (entries.length - lo)).map (fun i => field (mem (i % n)))
      = entries.drop lo := by
  apply List.ext_getElem
  · simp
  · intro k low high
    simp only [List.length_drop] at high
    have here : entries[lo + k]? = some (field (mem ((lo + k) % n))) :=
      holds (lo + k) (by omega) (by omega)
    rw [List.getElem?_eq_getElem (by omega)] at here
    simp only [List.getElem_map, List.getElem_range', List.getElem_drop, Nat.one_mul]
    exact (Option.some.inj here).symm

end TsnTrdp.Ring
