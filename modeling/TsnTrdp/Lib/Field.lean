import Mathlib.Tactic

/-! Masked fields of a machine word: what a read-modify-write of one field does to the
fields of other masks. All lemmas are bitwise, at any width.
-/

namespace TsnTrdp.Field

variable {w : Nat} {mask other word value : BitVec w}

/-- Two masks share no bit. -/
def Disjoint (mask other : BitVec w) : Prop := mask &&& other = 0#w

instance (mask other : BitVec w) : Decidable (Disjoint mask other) :=
  inferInstanceAs (Decidable (_ = _))

/-- Clearing one field keeps the fields of disjoint masks. -/
theorem clear_and (apart : Disjoint mask other)
    : (word &&& ~~~mask) &&& other = word &&& other := by
  ext i hi
  have bit := congrArg (fun bits : BitVec w => bits[i]) apart
  simp only [BitVec.getElem_and, BitVec.getElem_not, BitVec.getElem_zero] at bit ⊢
  revert bit
  cases mask[i] <;> cases other[i] <;> simp

/-- A cleared field reads as zero. -/
theorem clear_and_self : (word &&& ~~~mask) &&& mask = 0#w := by
  ext i hi
  simp only [BitVec.getElem_and, BitVec.getElem_not, BitVec.getElem_zero]
  cases mask[i] <;> simp

/-- Setting bits outside a field keeps the field. -/
theorem or_and (apart : Disjoint value mask) : (word ||| value) &&& mask = word &&& mask := by
  ext i hi
  have bit := congrArg (fun bits : BitVec w => bits[i]) apart
  simp only [BitVec.getElem_and, BitVec.getElem_or, BitVec.getElem_zero] at bit ⊢
  revert bit
  cases value[i] <;> cases mask[i] <;> simp

/-- A flag that has been set reads back as set. -/
theorem or_and_self : (word ||| mask) &&& mask = mask := by
  ext i hi
  simp only [BitVec.getElem_and, BitVec.getElem_or]
  cases mask[i] <;> simp

/-- Clearing bits that a word does not have keeps it. -/
theorem and_not (apart : Disjoint word mask) : word &&& ~~~mask = word := by
  ext i hi
  have bit := congrArg (fun bits : BitVec w => bits[i]) apart
  simp only [BitVec.getElem_and, BitVec.getElem_not, BitVec.getElem_zero] at bit ⊢
  revert bit
  cases word[i] <;> cases mask[i] <;> simp

/-- A value masked to one field has no bits in a disjoint one. -/
theorem masked_disjoint (apart : Disjoint mask other) : Disjoint (value &&& mask) other := by
  unfold Disjoint at apart ⊢
  rw [BitVec.and_assoc, apart, BitVec.and_zero]

/-- Clearing a field and storing a masked value makes the field read as that value. -/
theorem put_and_self : ((word &&& ~~~mask) ||| (value &&& mask)) &&& mask = value &&& mask := by
  ext i hi
  simp only [BitVec.getElem_and, BitVec.getElem_or, BitVec.getElem_not]
  cases mask[i] <;> simp

/-- Storing one field keeps the fields of disjoint masks. -/
theorem put_and (apart : Disjoint mask other)
    : ((word &&& ~~~mask) ||| (value &&& mask)) &&& other = word &&& other := by
  rw [or_and (masked_disjoint apart), clear_and apart]

/-- A word without bits outside a mask is its field. -/
theorem and_of_clear (clear : word &&& ~~~mask = 0#w) : word &&& mask = word := by
  ext i hi
  have bit := congrArg (fun bits : BitVec w => bits[i]) clear
  simp only [BitVec.getElem_and, BitVec.getElem_not, BitVec.getElem_zero] at bit ⊢
  revert bit
  cases word[i] <;> cases mask[i] <;> simp

/-- Two words that agree outside a mask are the same with its bits set. -/
theorem or_eq_or {x y : BitVec w} : x ||| mask = y ||| mask ↔ x &&& ~~~mask = y &&& ~~~mask := by
  have cleared : ∀ x : BitVec w, (x ||| mask) &&& ~~~mask = x &&& ~~~mask := fun x =>
    or_and (by unfold Disjoint; exact BitVec.and_not_self mask)
  have filled : ∀ x : BitVec w, (x &&& ~~~mask) ||| mask = x ||| mask := by
    intro x
    ext i hi
    simp only [BitVec.getElem_and, BitVec.getElem_or, BitVec.getElem_not]
    cases mask[i] <;> simp
  constructor
  · intro same
    rw [← cleared x, same, cleared]
  · intro same
    rw [← filled x, same, filled]

/-- Setting bits outside a field and clearing the field can be done in either order. -/
theorem or_and_not (apart : Disjoint value mask)
    : (word ||| value) &&& ~~~mask = (word &&& ~~~mask) ||| value := by
  ext i hi
  have bit := congrArg (fun bits : BitVec w => bits[i]) apart
  simp only [BitVec.getElem_and, BitVec.getElem_or, BitVec.getElem_not,
    BitVec.getElem_zero] at bit ⊢
  revert bit
  cases word[i] <;> cases value[i] <;> cases mask[i] <;> simp

/-- A word is what it is outside a mask and in it. -/
theorem not_and_or_and : (word &&& ~~~mask) ||| (word &&& mask) = word := by
  ext i hi
  simp only [BitVec.getElem_and, BitVec.getElem_or, BitVec.getElem_not]
  cases word[i] <;> cases mask[i] <;> simp

/-- Bits that are set where a field was cleared read back as far as the field goes. -/
theorem clear_or_and : ((word &&& ~~~mask) ||| value) &&& mask = value &&& mask := by
  ext i hi
  simp only [BitVec.getElem_and, BitVec.getElem_or, BitVec.getElem_not]
  cases word[i] <;> cases mask[i] <;> simp

/-- Setting bits changes nothing exactly if all of them are set already. -/
theorem or_eq_self_iff : word ||| value = word ↔ value &&& ~~~word = 0#w := by
  constructor
  · intro same
    rw [← same, BitVec.not_or, BitVec.and_comm (~~~word), ← BitVec.and_assoc, BitVec.and_not_self]
    exact BitVec.zero_and
  · intro clear
    ext i hi
    have bit := congrArg (fun bits : BitVec w => bits[i]) clear
    simp only [BitVec.getElem_or, BitVec.getElem_and, BitVec.getElem_not,
      BitVec.getElem_zero] at bit ⊢
    revert bit
    cases word[i] <;> cases value[i] <;> simp

/-- A word is three fields put into another word exactly if it has these fields, and the other bits
of that word.
-/
theorem eq_fields_iff {a b c x y z : BitVec w} (ab : Disjoint a b) (ac : Disjoint a c)
    (bc : Disjoint b c)
    : word = (value &&& ~~~(a ||| b ||| c)) ||| ((x &&& a) ||| (y &&& b) ||| (z &&& c))
      ↔ word &&& a = x &&& a ∧ word &&& b = y &&& b ∧ word &&& c = z &&& c
        ∧ word &&& ~~~(a ||| b ||| c) = value &&& ~~~(a ||| b ||| c) := by
  have bitwise : ∀ word value a b c x y z : Bool, (a && b) = false → (a && c) = false
      → (b && c) = false
      → (word = ((value && !(a || b || c)) || ((x && a) || (y && b) || (z && c)))
        ↔ (word && a) = (x && a) ∧ (word && b) = (y && b) ∧ (word && c) = (z && c)
          ∧ (word && !(a || b || c)) = (value && !(a || b || c))) := by
    decide
  unfold Disjoint at ab ac bc
  simp only [BitVec.eq_of_getElem_eq_iff, BitVec.getElem_or, BitVec.getElem_and,
    BitVec.getElem_not, BitVec.getElem_zero, ← forall_and] at ab ac bc ⊢
  exact forall_congr' fun i => forall_congr' fun within =>
    bitwise _ _ _ _ _ _ _ _ (ab i within) (ac i within) (bc i within)

/-- A field reads as a byte exactly if the byte was put at its place, as far as the field goes. -/
theorem read_eq_iff {n : Nat} (word : BitVec w) (byte field : BitVec n) {shift : Nat}
    (fits : shift + n ≤ w)
    : ((word >>> shift) &&& field.setWidth w).setWidth n = byte &&& field
      ↔ word &&& (field.setWidth w <<< shift)
        = (byte.setWidth w <<< shift) &&& (field.setWidth w <<< shift) := by
  constructor
  · intro read
    apply BitVec.eq_of_getLsbD_eq
    intro i within
    have bit := congrArg (fun bits : BitVec n => bits.getLsbD (i - shift)) read
    simp only [BitVec.getLsbD_and, BitVec.getLsbD_setWidth, BitVec.getLsbD_ushiftRight,
      BitVec.getLsbD_shiftLeft] at bit ⊢
    by_cases low : i < shift
    · simp [low]
    by_cases high : i - shift < n
    · rw [Nat.add_sub_cancel' (not_lt.mp low)] at bit
      have narrow : i - shift < w := by omega
      simpa [low, high, within, narrow] using bit
    · simp [BitVec.getLsbD_of_ge field (i - shift) (by omega)]
  · intro kept
    apply BitVec.eq_of_getLsbD_eq
    intro i within
    have bit := congrArg (fun bits : BitVec w => bits.getLsbD (shift + i)) kept
    have narrow : i < w := by omega
    have here : shift + i < w := by omega
    simpa [BitVec.getLsbD_and, BitVec.getLsbD_setWidth, BitVec.getLsbD_ushiftRight,
      BitVec.getLsbD_shiftLeft, within, narrow, here] using bit

/-- A value that fits a mask of low bits reads back whole. -/
theorem and_of_lt {k : Nat} (width : k ≤ w) (low : mask = BitVec.ofNat w (2 ^ k - 1))
    (fits : word.toNat < 2 ^ k)
    : word &&& mask = word := by
  have narrow : 2 ^ k - 1 < 2 ^ w :=
    Nat.lt_of_lt_of_le (Nat.sub_lt (Nat.two_pow_pos k) Nat.one_pos)
      (Nat.pow_le_pow_right Nat.two_pos width)
  apply BitVec.eq_of_toNat_eq
  rw [low, BitVec.toNat_and, BitVec.toNat_ofNat, Nat.mod_eq_of_lt narrow,
    Nat.and_two_pow_sub_one_eq_mod, Nat.mod_eq_of_lt fits]

end TsnTrdp.Field
