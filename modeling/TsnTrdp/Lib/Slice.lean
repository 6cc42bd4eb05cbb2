import Mathlib.Tactic

/-! Fields of a word as runs of bits: `extractLsb' s n` is the field of `n` bits from bit `s` on.
What clearing, storing and shifting do to a field, by where the other bits lie.
-/

namespace TsnTrdp.Slice

variable {w s n t k : Nat} {word value : BitVec w}

/-- The low `k` bits set. -/
def low (w k : Nat) : BitVec w := BitVec.ofNat w (2 ^ k - 1)

/-- Two runs of bits do not meet. -/
def Apart (s n t k : Nat) : Prop := s + n ≤ t ∨ t + k ≤ s

instance (s n t k : Nat) : Decidable (Apart s n t k) := inferInstanceAs (Decidable (_ ∨ _))

theorem getLsbD_low (i : Nat) : (low w k).getLsbD i = (decide (i < w) && decide (i < k)) := by
  simp [low, BitVec.getLsbD_ofNat, Nat.testBit_two_pow_sub_one]

/-- Clearing a run of bits, bit by bit. -/
theorem getLsbD_clear (i : Nat)
    : (word &&& ~~~(low w k <<< t)).getLsbD i
      = (word.getLsbD i && !(decide (t ≤ i) && decide (i < t + k))) := by
  rw [BitVec.getLsbD_and, BitVec.getLsbD_not, BitVec.getLsbD_shiftLeft, getLsbD_low]
  rcases Nat.lt_or_ge i w with inWord | outside
  · have shifted : (decide (i - t < w) && decide (i - t < k)) = decide (i - t < k) := by
      simp only [Bool.and_eq_right_iff_imp, decide_eq_true_eq]
      omega
    rw [shifted]
    by_cases above : t ≤ i
    · have run : i - t < k ↔ i < t + k := by omega
      simp [inWord, above, Nat.not_lt.mpr above, run]
    · simp [inWord, above, Nat.lt_of_not_le above]
  · rw [BitVec.getLsbD_of_ge word i outside, Bool.false_and, Bool.false_and]

/-- A field is stored where its bits were cleared. -/
theorem extract_put (fits : s + n ≤ w)
    : ((word &&& ~~~(low w n <<< s)) ||| (value <<< s)).extractLsb' s n = value.setWidth n := by
  apply BitVec.eq_of_getLsbD_eq
  intro i hi
  have inWord : s + i < w := by omega
  rw [BitVec.getLsbD_extractLsb', BitVec.getLsbD_or, getLsbD_clear, BitVec.getLsbD_shiftLeft,
    BitVec.getLsbD_setWidth]
  simp [hi, inWord]

/-- A masked value has the low bits of the value. -/
theorem setWidth_masked : (value &&& low w n).setWidth n = value.setWidth n := by
  apply BitVec.eq_of_getLsbD_eq
  intro i hi
  rw [BitVec.getLsbD_setWidth, BitVec.getLsbD_setWidth, BitVec.getLsbD_and, getLsbD_low]
  rcases Nat.lt_or_ge i w with inWord | outside
  · simp [hi, inWord]
  · simp [BitVec.getLsbD_of_ge value i outside]

/-- Setting bits outside a field keeps it. -/
theorem extract_or_of_zero (outside : value.extractLsb' s n = 0)
    : (word ||| value).extractLsb' s n = word.extractLsb' s n := by
  rw [BitVec.extractLsb'_or, outside]
  exact BitVec.or_zero

/-- Clearing bits outside a field keeps it. -/
theorem extract_and_not_of_zero (outside : value.extractLsb' s n = 0) (fits : s + n ≤ w)
    : (word &&& ~~~value).extractLsb' s n = word.extractLsb' s n := by
  apply BitVec.eq_of_getLsbD_eq
  intro i hi
  have clear : value.getLsbD (s + i) = false := by
    have bit := congrArg (fun bits : BitVec n => bits.getLsbD i) outside
    simpa [hi] using bit
  have inWord : s + i < w := by omega
  simp only [BitVec.getLsbD_extractLsb', BitVec.getLsbD_and, BitVec.getLsbD_not, clear]
  simp [inWord]

/-- A shifted value alone is its field. -/
theorem extract_shift (fits : s + n ≤ w) : (value <<< s).extractLsb' s n = value.setWidth n := by
  apply BitVec.eq_of_getLsbD_eq
  intro i hi
  have inWord : s + i < w := by omega
  rw [BitVec.getLsbD_extractLsb', BitVec.getLsbD_shiftLeft, BitVec.getLsbD_setWidth]
  simp [hi, inWord]

/-- Clearing other bits keeps a field. -/
theorem extract_clear (apart : Apart s n t k)
    : (word &&& ~~~(low w k <<< t)).extractLsb' s n = word.extractLsb' s n := by
  apply BitVec.eq_of_getLsbD_eq
  intro i hi
  rw [BitVec.getLsbD_extractLsb', BitVec.getLsbD_extractLsb', getLsbD_clear]
  have outside : (decide (t ≤ s + i) && decide (s + i < t + k)) = false := by
    unfold Apart at apart
    simp only [Bool.and_eq_false_iff, decide_eq_false_iff_not]
    omega
  rw [outside, Bool.not_false, Bool.and_true]

/-- A masked value lies in its own bits. -/
theorem extract_masked (apart : Apart s n t k)
    : ((value &&& low w k) <<< t).extractLsb' s n = 0 := by
  apply BitVec.eq_of_getLsbD_eq
  intro i hi
  rw [BitVec.getLsbD_extractLsb', BitVec.getLsbD_shiftLeft, BitVec.getLsbD_and, getLsbD_low]
  unfold Apart at apart
  rcases Nat.lt_or_ge (s + i) t with below | above
  · simp [below]
  · have outside : ¬ s + i - t < k := by omega
    simp [outside]

/-- One that is not shifted has none above. -/
theorem extract_masked_above (above : k ≤ s) : (value &&& low w k).extractLsb' s n = 0 := by
  have shifted : ((value &&& low w k) <<< 0).extractLsb' s n = 0 :=
    extract_masked (.inr (by omega))
  rwa [BitVec.shiftLeft_zero] at shifted

/-- A shifted value has no bits below. -/
theorem extract_shift_above (below : s + n ≤ t) : (value <<< t).extractLsb' s n = 0 := by
  apply BitVec.eq_of_getLsbD_eq
  intro i hi
  have under : s + i < t := by omega
  rw [BitVec.getLsbD_extractLsb', BitVec.getLsbD_shiftLeft]
  simp [under]

/-- A field that starts within a shifted value. -/
theorem extract_shift_within (fits : t + s + n ≤ w)
    : (value <<< t).extractLsb' (t + s) n = value.extractLsb' s n := by
  apply BitVec.eq_of_getLsbD_eq
  intro i hi
  have inWord : t + s + i < w := by omega
  have start : ¬ t + s + i < t := by omega
  have place : t + s + i - t = s + i := by omega
  rw [BitVec.getLsbD_extractLsb', BitVec.getLsbD_extractLsb', BitVec.getLsbD_shiftLeft, place]
  simp [inWord, start]

/-- A field of a value that has been widened. -/
theorem extract_widened {b : BitVec k} (fits : s + n ≤ w)
    : (b.setWidth w).extractLsb' s n = b.extractLsb' s n := by
  apply BitVec.eq_of_getLsbD_eq
  intro i hi
  have inWord : s + i < w := by omega
  rw [BitVec.getLsbD_extractLsb', BitVec.getLsbD_extractLsb', BitVec.getLsbD_setWidth]
  simp [inWord]

/-- A field as it is read: shifted down and masked. -/
theorem shift_masked : (word >>> s) &&& low w n = (word.extractLsb' s n).setWidth w := by
  apply BitVec.eq_of_getLsbD_eq
  intro i hi
  rw [BitVec.getLsbD_and, BitVec.getLsbD_ushiftRight, getLsbD_low, BitVec.getLsbD_setWidth,
    BitVec.getLsbD_extractLsb']
  simp [hi, Bool.and_comm]

/-- Masked in place and then shifted down, it is the same. -/
theorem masked_shift (fits : s + n ≤ w)
    : (word &&& (low w n <<< s)) >>> s = (word.extractLsb' s n).setWidth w := by
  apply BitVec.eq_of_getLsbD_eq
  intro i hi
  rw [BitVec.getLsbD_ushiftRight, BitVec.getLsbD_and, BitVec.getLsbD_shiftLeft, getLsbD_low,
    BitVec.getLsbD_setWidth, BitVec.getLsbD_extractLsb']
  by_cases inField : i < n
  · have inWord : s + i < w := by omega
    simp [inField, inWord, hi]
  · simp [inField]

/-- A value of few bits has none beyond them. -/
theorem extract_shift_setWidth {b : BitVec k} (apart : Apart s n t k)
    : ((b.setWidth w) <<< t).extractLsb' s n = 0 := by
  apply BitVec.eq_of_getLsbD_eq
  intro i hi
  rw [BitVec.getLsbD_extractLsb', BitVec.getLsbD_shiftLeft, BitVec.getLsbD_setWidth]
  unfold Apart at apart
  rcases Nat.lt_or_ge (s + i) t with below | above
  · simp [below]
  · have outside : b.getLsbD (s + i - t) = false := BitVec.getLsbD_of_ge _ _ (by omega)
    simp [outside]

/-- A value that is not shifted has no bits in a field above it. -/
theorem extract_setWidth {b : BitVec k} (above : k ≤ s)
    : (b.setWidth w).extractLsb' s n = 0 := by
  have shifted := extract_shift_setWidth (w := w) (n := n) (t := 0) (b := b)
    (.inr (by omega : 0 + k ≤ s))
  rwa [BitVec.shiftLeft_zero] at shifted

/-- A field of ones that is set. -/
theorem extract_or_self (fits : s + n ≤ w)
    : (word ||| (low w n <<< s)).extractLsb' s n = low n n := by
  apply BitVec.eq_of_getLsbD_eq
  intro i hi
  have inWord : s + i < w := by omega
  rw [BitVec.getLsbD_extractLsb', BitVec.getLsbD_or, BitVec.getLsbD_shiftLeft, getLsbD_low,
    getLsbD_low]
  have inRest : i < w := by omega
  simp [hi, inWord, inRest]

/-- A field that is cleared. -/
theorem extract_clear_self : (word &&& ~~~(low w n <<< s)).extractLsb' s n = 0 := by
  apply BitVec.eq_of_getLsbD_eq
  intro i hi
  rw [BitVec.getLsbD_extractLsb', getLsbD_clear]
  simp [hi]

/-- The lowest bits of a word. -/
theorem extract_low (fits : n ≤ w) : value.extractLsb' 0 n = value.setWidth n :=
  (BitVec.setWidth_eq_extractLsb' fits).symm

/-- The lower of two values in a word. -/
theorem extract_lower {high : BitVec w} (below : n ≤ t) (fits : n ≤ w)
    : ((high <<< t) ||| value).extractLsb' 0 n = value.setWidth n := by
  rw [BitVec.or_comm, extract_or_of_zero (extract_shift_above (by omega)), extract_low fits]

/-- The higher of two. -/
theorem extract_higher {high : BitVec w} {b : BitVec k} (above : k ≤ s) (fits : s + n ≤ w)
    : ((high <<< s) ||| b.setWidth w).extractLsb' s n = high.setWidth n := by
  rw [extract_or_of_zero (extract_setWidth above), extract_shift fits]

/-- The word with a field replaced. -/
def store (word value : BitVec w) (s n : Nat) : BitVec w :=
  (word &&& ~~~(low w n <<< s)) ||| ((value &&& low w n) <<< s)

theorem extract_store (fits : s + n ≤ w)
    : (store word value s n).extractLsb' s n = value.setWidth n := by
  rw [store, extract_put fits, setWidth_masked]

theorem extract_store_other (apart : Apart s n t k)
    : (store word value t k).extractLsb' s n = word.extractLsb' s n := by
  rw [store, extract_or_of_zero (extract_masked apart), extract_clear apart]

/-- A store to the lowest bits. -/
theorem store_zero : store word value 0 n = (word &&& ~~~low w n) ||| (value &&& low w n) := by
  rw [store, BitVec.shiftLeft_zero, BitVec.shiftLeft_zero]

/-- Clearing other bits than its own keeps a masked value. -/
theorem masked_and_not (apart : Apart s n t k)
    : ((value &&& low w k) <<< t) &&& ~~~(low w n <<< s) = (value &&& low w k) <<< t := by
  apply BitVec.eq_of_getLsbD_eq
  intro i hi
  rw [getLsbD_clear, Bool.and_eq_left_iff_imp, BitVec.getLsbD_shiftLeft, BitVec.getLsbD_and,
    getLsbD_low]
  intro bit
  simp only [Bool.and_eq_true, Bool.not_eq_true', decide_eq_true_eq, decide_eq_false_iff_not]
    at bit
  unfold Apart at apart
  simp only [Bool.not_eq_true', Bool.and_eq_false_iff, decide_eq_false_iff_not]
  omega

/-- Two stores, although both fields are cleared first. -/
theorem store_store {x y : BitVec w} (apart : Apart s n t k)
    : store (store word x t k) y s n
      = ((((word &&& ~~~(low w k <<< t)) &&& ~~~(low w n <<< s)) ||| ((x &&& low w k) <<< t))
        ||| ((y &&& low w n) <<< s)) := by
  rw [store, store, BitVec.and_or_distrib_right, masked_and_not apart]

/-- A value without bits beyond the lowest needs no mask. -/
theorem setWidth_and_low {b : BitVec n} : b.setWidth w &&& low w n = b.setWidth w := by
  apply BitVec.eq_of_getLsbD_eq
  intro i hi
  rw [BitVec.getLsbD_and, getLsbD_low, BitVec.getLsbD_setWidth]
  rcases Nat.lt_or_ge i n with inside | outside
  · simp [hi, inside]
  · simp [BitVec.getLsbD_of_ge b i outside]

/-- A field keeps its value in a wider word. -/
theorem setWidth_inj {x y : BitVec n} (fits : n ≤ w) : x.setWidth w = y.setWidth w ↔ x = y := by
  constructor
  · intro same
    have narrow := congrArg (fun bits : BitVec w => bits.setWidth n) same
    simpa only [BitVec.setWidth_setWidth_of_le _ fits, BitVec.setWidth_eq] using narrow
  · intro same
    rw [same]

/-- The test of one bit. -/
theorem and_bit_eq_zero {i : Nat} (bound : i < w)
    : word &&& ((1 : BitVec w) <<< i) = 0 ↔ word.getLsbD i = false := by
  have power : (1 : BitVec w) <<< i = BitVec.twoPow w i := (BitVec.twoPow_eq w i).symm
  rw [power, BitVec.and_twoPow]
  split
  · rename_i set
    have nonzero : BitVec.twoPow w i ≠ 0#w := by
      intro zero
      have bit := congrArg (fun bits : BitVec w => bits.getLsbD i) zero
      simp [bound] at bit
    simp [set, nonzero]
  · rename_i clear
    simp [Bool.eq_false_iff.mpr clear]

end TsnTrdp.Slice
