import Mathlib.Data.List.Basic

/-! Cyclic redundancy checks: a shift register that divides a sequence of bits by a polynomial, lowest
bit first, and the errors that its remainder tells.
-/

namespace TsnTrdp.Crc

variable {w : Nat}

/-- One shift: the bit that falls out is divided off. -/
def shift (poly r : BitVec w) : BitVec w := (r >>> 1) ^^^ (if r.getLsbD 0 then poly else 0#w)

/-- As many shifts as the number says. -/
def shifts (poly : BitVec w) : Nat → BitVec w → BitVec w
  | 0, r => r
  | n + 1, r => shifts poly n (shift poly r)

/-- The bits as a number, lowest first. -/
def word (bits : List Bool) : BitVec w := (BitVec.ofBoolListLE bits).setWidth w

/-- The bits go through the register, one for each shift. -/
def feed (poly : BitVec w) : BitVec w → List Bool → BitVec w
  | r, [] => r
  | r, bit :: bits => feed poly (shift poly (r ^^^ word [bit])) bits

variable {poly r s : BitVec w} {bit : Bool} {bits more error : List Bool} {i j k n : Nat}

@[simp] theorem getLsbD_word
    : (word bits : BitVec w).getLsbD i = (decide (i < w) && bits.getD i false) := by
  simp [word]

@[simp] theorem getElem_word (inside : i < w) : (word bits : BitVec w)[i] = bits.getD i false := by
  rw [← BitVec.getLsbD_eq_getElem, getLsbD_word, decide_eq_true inside, Bool.true_and]

theorem word_false : (word [false] : BitVec w) = 0#w := by
  refine BitVec.eq_of_getLsbD_eq fun i inside => ?_
  cases i <;> simp

/-- A shift is linear. -/
theorem shift_xor : shift poly (r ^^^ s) = shift poly r ^^^ shift poly s := by
  have parts (a b c d : BitVec w) : a ^^^ b ^^^ (c ^^^ d) = a ^^^ c ^^^ (b ^^^ d) := by
    ac_rfl
  simp only [shift, BitVec.getLsbD_xor, BitVec.ushiftRight_xor_distrib]
  rw [parts]
  cases r.getLsbD 0 <;> cases s.getLsbD 0 <;> simp

theorem shift_zero : shift poly 0#w = 0#w := by
  simp [shift]

theorem shifts_xor : shifts poly n (r ^^^ s) = shifts poly n r ^^^ shifts poly n s := by
  induction n generalizing r s with
  | zero => rfl
  | succ n ih => rw [shifts, shift_xor, ih, shifts, shifts]

theorem shifts_zero : shifts poly n 0#w = 0#w := by
  induction n with
  | zero => rfl
  | succ n ih => rw [shifts, shift_zero, ih]

theorem shifts_add : shifts poly (n + k) r = shifts poly k (shifts poly n r) := by
  induction n generalizing r with
  | zero => rw [Nat.zero_add, shifts]
  | succ n ih => rw [Nat.succ_add, shifts, ih, shifts]

theorem feed_append : feed poly r (bits ++ more) = feed poly (feed poly r bits) more := by
  induction bits generalizing r with
  | nil => rfl
  | cons bit bits ih => exact ih

/-- What differs in the bits differs in the remainder, whatever the bits are. -/
theorem feed_xor (same : bits.length = error.length)
    : feed poly (r ^^^ s) (List.zipWith xor bits error) = feed poly r bits ^^^ feed poly s error := by
  induction bits generalizing error r s with
  | nil =>
      cases error with
      | nil => rfl
      | cons bit rest => cases same
  | cons bit bits ih =>
      cases error with
      | nil => cases same
      | cons flip error =>
          have one : (word [xor bit flip] : BitVec w) = word [bit] ^^^ word [flip] := by
            refine BitVec.eq_of_getLsbD_eq fun i inside => ?_
            cases i with
            | zero => simp [inside]
            | succ i => simp
          have parts (a b c d : BitVec w) : a ^^^ b ^^^ (c ^^^ d) = a ^^^ c ^^^ (b ^^^ d) := by
            ac_rfl
          rw [List.zipWith_cons_cons, feed, one, parts, shift_xor, ih (Nat.succ.inj same), feed, feed]

/-- Zeros only shift. -/
theorem feed_zeros : feed poly r (List.replicate n false) = shifts poly n r := by
  induction n generalizing r with
  | zero => rfl
  | succ n ih =>
      rw [List.replicate_succ, feed, word_false, BitVec.xor_zero, ih, shifts]

/-- The register as it was, and what the bits leave in an empty one. -/
theorem feed_eq_xor : feed poly r bits = shifts poly bits.length r ^^^ feed poly 0#w bits := by
  have unchanged : List.zipWith xor (List.replicate bits.length false) bits = bits := by
    induction bits with
    | nil => rfl
    | cons bit bits ih => rw [List.length_cons, List.replicate_succ, List.zipWith_cons_cons, ih,
        Bool.false_xor]
  calc
    feed poly r bits
        = feed poly (r ^^^ 0#w) (List.zipWith xor (List.replicate bits.length false) bits) := by
          rw [unchanged, BitVec.xor_zero]
    _ = shifts poly bits.length r ^^^ feed poly 0#w bits := by
          rw [feed_xor List.length_replicate, feed_zeros]

-----------------------------------------------------------------------------------------
-- Words at a time
-----------------------------------------------------------------------------------------

/-- Low zeros fall out and nothing else happens. -/
theorem shifts_low (low : ∀ i < n, r.getLsbD i = false) : shifts poly n r = r >>> n := by
  induction n generalizing r with
  | zero => simp [shifts]
  | succ n ih =>
      have first : shift poly r = r >>> 1 := by
        simp [shift, low 0 (Nat.succ_pos n)]
      have rest : ∀ i < n, (r >>> 1).getLsbD i = false := by
        intro i inside
        simpa [Nat.add_comm] using low (i + 1) (Nat.succ_lt_succ inside)
      rw [shifts, first, ih rest, ← BitVec.shiftRight_add, Nat.add_comm]

/-- Bits that fit the register can be put there at once. -/
theorem feed_eq_shifts (fits : bits.length ≤ w)
    : feed poly r bits = shifts poly bits.length (r ^^^ word bits) := by
  induction bits generalizing r with
  | nil =>
      have nothing : (word [] : BitVec w) = 0#w := BitVec.eq_of_getLsbD_eq fun i inside => by simp
      rw [feed, nothing, BitVec.xor_zero]
      rfl
  | cons bit bits ih =>
      have less : bits.length < w := fits
      have split : (word (bit :: bits) : BitVec w) = word [bit] ^^^ (word bits <<< 1) := by
        refine BitVec.eq_of_getLsbD_eq fun i inside => ?_
        cases i with
        | zero => simp
        | succ i => simp [inside]
      have back : shift poly (word bits <<< 1) = word bits := by
        have lost : bits.getD (w - 1) false = false := by
          rw [List.getD_eq_getElem?_getD, List.getElem?_eq_none (by omega), Option.getD_none]
        have shifted : (word bits <<< 1 : BitVec w) >>> 1 = word bits := by
          refine BitVec.eq_of_getLsbD_eq fun i inside => ?_
          rcases Nat.lt_or_ge (1 + i) w with more | last
          · have more' : i + 1 < w := by omega
            simp [inside, more', Nat.add_comm 1 i]
          · obtain rfl : i = w - 1 := by omega
            rw [getLsbD_word, lost]
            simp [Nat.not_lt.mpr last]
        simp [shift, shifted]
      rw [feed, ih (Nat.le_of_lt less), List.length_cons, shifts, split, ← BitVec.xor_assoc]
      rw [shift_xor (s := word bits <<< 1), back]

-----------------------------------------------------------------------------------------
-- Errors
-----------------------------------------------------------------------------------------

/-- No register that is not empty becomes empty: a bit that falls out sets the highest one. -/
theorem shift_eq_zero (top : poly.getLsbD (w - 1) = true) (empty : shift poly r = 0#w) : r = 0#w := by
  have bits : ∀ i, (shift poly r).getLsbD i = false := by simp [empty]
  have low : r.getLsbD 0 = false := by
    have highest := bits (w - 1)
    rw [shift, BitVec.getLsbD_xor, BitVec.getLsbD_ushiftRight, BitVec.getLsbD_of_ge r _ (by omega)]
      at highest
    cases out : r.getLsbD 0 with
    | false => rfl
    | true => simp [out, top] at highest
  refine BitVec.eq_of_getLsbD_eq fun i inside => ?_
  cases i with
  | zero => simp [low]
  | succ i => simpa [shift, low, Nat.add_comm] using bits i

theorem shifts_eq_zero (top : poly.getLsbD (w - 1) = true) (empty : shifts poly n r = 0#w)
    : r = 0#w := by
  induction n generalizing r with
  | zero => exact empty
  | succ n ih => exact shift_eq_zero top (ih empty)

/-- Registers that differ stay so. -/
theorem shifts_injective (top : poly.getLsbD (w - 1) = true) (same : shifts poly n r = shifts poly n s)
    : r = s := by
  refine BitVec.xor_eq_zero_iff.mp (shifts_eq_zero (n := n) top ?_)
  rw [shifts_xor, same, BitVec.xor_self]

/-- A burst: all that is wrong is within so many bits in a row. -/
def Burst (k : Nat) (error : List Bool) : Prop :=
  ∃ i j wrong, error = List.replicate i false ++ wrong ++ List.replicate j false
    ∧ true ∈ wrong ∧ wrong.length ≤ k

/-- Every burst that is no longer than the register is detected. -/
theorem Burst.detected (burst : Burst w error) (top : poly.getLsbD (w - 1) = true)
    : feed poly 0#w error ≠ 0#w := by
  obtain ⟨i, j, wrong, rfl, some_wrong, fits⟩ := burst
  intro undetected
  rw [feed_append, feed_append, feed_zeros, feed_zeros, shifts_zero] at undetected
  have nothing := shifts_eq_zero top undetected
  rw [feed_eq_shifts fits, BitVec.zero_xor] at nothing
  have right : (word wrong : BitVec w) = 0#w := shifts_eq_zero top nothing
  obtain ⟨at', inside, flipped⟩ := List.getElem_of_mem some_wrong
  have bit : (word wrong : BitVec w).getLsbD at' = true := by
    simp [inside, flipped, Nat.lt_of_lt_of_le inside fits]
  rw [right] at bit
  simp at bit

/-- The shifts that are left for each of the bits that are wrong. -/
def flips : List Bool → List Nat
  | [] => []
  | bit :: bits => if bit then (bits.length + 1) :: flips bits else flips bits

theorem flips_length (bits : List Bool) : (flips bits).length = bits.count true := by
  induction bits with
  | nil => rfl
  | cons bit bits ih => cases bit <;> simp [flips, ih]

theorem flips_le (member : k ∈ flips bits) : 0 < k ∧ k ≤ bits.length := by
  induction bits with
  | nil => cases member
  | cons bit bits ih =>
      rw [List.length_cons]
      cases bit with
      | false =>
          obtain ⟨pos, le⟩ := ih member
          exact ⟨pos, Nat.le_succ_of_le le⟩
      | true =>
          rcases List.mem_cons.mp member with rfl | member
          · exact ⟨Nat.succ_pos _, Nat.le_refl _⟩
          · obtain ⟨pos, le⟩ := ih member
            exact ⟨pos, Nat.le_succ_of_le le⟩

/-- The first wrong bit is shifted most. -/
theorem flips_decreasing (bits : List Bool) : (flips bits).Pairwise (· > ·) := by
  induction bits with
  | nil => exact .nil
  | cons bit bits ih =>
      cases bit with
      | false => exact ih
      | true => exact .cons (fun k member => Nat.lt_succ_of_le (flips_le member).2) ih

/-- A single bit, before it is shifted. -/
def one : BitVec w := word [true]

theorem one_ne_zero (top : poly.getLsbD (w - 1) = true) : (one : BitVec w) ≠ 0#w := by
  intro zero
  have wide : 0 < w := by
    rcases Nat.eq_zero_or_pos w with rfl | wide
    · simp at top
    · exact wide
  have bit := congrArg (BitVec.getLsbD · 0) zero
  simp [one, wide] at bit

/-- The remainder is the sum of what each wrong bit leaves. -/
theorem feed_flips
    : feed poly 0#w bits = ((flips bits).map fun k => shifts poly k one).foldr (· ^^^ ·) 0#w := by
  induction bits with
  | nil => rfl
  | cons bit bits ih =>
      rw [feed, feed_eq_xor, ih, BitVec.zero_xor]
      cases bit with
      | false =>
          rw [word_false, shift_zero, shifts_zero, BitVec.zero_xor]
          rfl
      | true => rfl

/-- The registers that one shifts to. -/
def powers (poly : BitVec w) : Nat → BitVec w → List (BitVec w)
  | 0, _ => []
  | n + 1, r => r :: powers poly n (shift poly r)

/-- One bit does not shift to itself, and no two shifts of it differ in one bit alone, as far as so many
shifts go.
-/
def Separates (poly : BitVec w) (n : Nat) : Prop :=
  one ∉ powers poly n (shift poly one)
  ∧ (powers poly n (shift poly one)).Pairwise fun a b => a ^^^ b ≠ one

/-- A shift of numbers, as `shift` is of registers: this is what is computed. -/
def shiftNat (poly r : Nat) : Nat := Nat.xor (r / 2) (poly * (r % 2))

def powersNat (poly : Nat) : Nat → Nat → List Nat
  | 0, _ => []
  | n + 1, r => r :: powersNat poly n (shiftNat poly r)

def clashes (unit : Nat) : List Nat → Bool
  | [] => false
  | a :: rest => Nat.beq a unit || (rest.any fun b => Nat.beq (Nat.xor a b) unit) || clashes unit rest

theorem toNat_shift : (shift poly r).toNat = shiftNat poly.toNat r.toNat := by
  have low : r.getLsbD 0 = decide (r.toNat % 2 = 1) := by
    simp [BitVec.getLsbD, Nat.testBit_zero]
  rw [shift, shiftNat, BitVec.toNat_xor, BitVec.toNat_ushiftRight, Nat.shiftRight_eq_div_pow,
    Nat.pow_one, low]
  change _ = r.toNat / 2 ^^^ _
  rcases Nat.mod_two_eq_zero_or_one r.toNat with even | odd
  · simp [even]
  · simp [odd]

theorem map_powers : (powers poly n r).map BitVec.toNat = powersNat poly.toNat n r.toNat := by
  induction n generalizing r with
  | zero => rfl
  | succ n ih => rw [powers, List.map_cons, ih, toNat_shift, powersNat]

theorem clashes_eq_false {registers : List (BitVec w)} {unit : BitVec w}
    : clashes unit.toNat (registers.map BitVec.toNat) = false
      ↔ unit ∉ registers ∧ registers.Pairwise fun a b => a ^^^ b ≠ unit := by
  induction registers with
  | nil => simp [clashes]
  | cons a rest ih =>
      have first : Nat.beq a.toNat unit.toNat = false ↔ a ≠ unit := by
        rw [← Bool.not_eq_true, Nat.beq_eq, BitVec.toNat_inj]
      have differs (b : BitVec w) : Nat.beq (Nat.xor a.toNat b.toNat) unit.toNat ≠ true
          ↔ a ^^^ b ≠ unit := by
        have same : Nat.xor a.toNat b.toNat = unit.toNat ↔ a ^^^ b = unit := by
          rw [← BitVec.toNat_inj, BitVec.toNat_xor]
          rfl
        rw [ne_eq, Nat.beq_eq, same]
      simp only [List.map_cons, clashes, Bool.or_eq_false_iff, ih, List.any_map, List.any_eq_false,
        Function.comp_apply, first, differs, List.mem_cons, not_or, List.pairwise_cons]
      constructor
      · rintro ⟨⟨new, apart⟩, rest, pairs⟩
        exact ⟨⟨Ne.symm new, rest⟩, apart, pairs⟩
      · rintro ⟨⟨new, rest⟩, apart, pairs⟩
        exact ⟨⟨Ne.symm new, apart⟩, rest, pairs⟩

instance : Decidable (Separates poly n) :=
  decidable_of_iff
    (clashes (one : BitVec w).toNat
      (powersNat poly.toNat n (shift poly one).toNat) = false)
    (by rw [← map_powers]; exact clashes_eq_false)

theorem powers_length : (powers poly n r).length = n := by
  induction n generalizing r with
  | zero => rfl
  | succ n ih => rw [powers, List.length_cons, ih]

theorem powers_getElem (inside : k < (powers poly n r).length)
    : (powers poly n r)[k] = shifts poly k r := by
  induction n generalizing r k with
  | zero => cases inside
  | succ n ih =>
      cases k with
      | zero => rfl
      | succ k => exact ih (Nat.lt_of_succ_lt_succ inside)

/-- The shifts of one bit, by their number. -/
theorem exists_power (poly : BitVec w) (pos : 0 < k) (le : k ≤ n)
    : ∃ i, ∃ inside : i < (powers poly n (shift poly one)).length,
        i + 1 = k ∧ (powers poly n (shift poly one))[i] = shifts poly k one := by
  obtain ⟨i, rfl⟩ := Nat.exists_eq_succ_of_ne_zero (Nat.pos_iff_ne_zero.mp pos)
  exact ⟨i, by rw [powers_length]; exact le, rfl, powers_getElem _⟩

theorem Separates.two (separates : Separates poly n) (pos : 0 < k) (le : k ≤ n)
    : shifts poly k one ≠ one := by
  obtain ⟨i, inside, -, same⟩ := exists_power poly pos le
  intro returns
  have member := List.getElem_mem inside
  rw [same, returns] at member
  exact separates.1 member

theorem Separates.three (separates : Separates poly n) (pos : 0 < j) (less : j < k) (le : k ≤ n)
    : shifts poly j one ^^^ shifts poly k one ≠ one := by
  obtain ⟨early, inside, place, same⟩ := exists_power poly pos (by omega : j ≤ n)
  obtain ⟨late, inside', place', same'⟩ := exists_power poly (by omega : 0 < k) le
  have apart := List.pairwise_iff_getElem.mp separates.2 early late inside inside' (by omega)
  rwa [same, same'] at apart

/-- Up to three wrong bits are detected, where no two are further apart. -/
theorem Separates.detected (separates : Separates poly n) (top : poly.getLsbD (w - 1) = true)
    (near : error.length ≤ n + 1) (some_wrong : true ∈ error) (few : error.count true ≤ 3)
    : feed poly 0#w error ≠ 0#w := by
  have count : (flips error).length ≤ 3 := by rwa [flips_length]
  have within : ∀ k ∈ flips error, 0 < k ∧ k ≤ n + 1 := fun k member =>
    ⟨(flips_le member).1, Nat.le_trans (flips_le member).2 near⟩
  have decreasing := flips_decreasing error
  have some_flip : flips error ≠ [] := by
    intro none_wrong
    have zero := flips_length error
    rw [none_wrong, List.length_nil] at zero
    exact absurd (List.count_pos_iff.mpr some_wrong) (by omega)
  rw [feed_flips]
  intro undetected
  -- The shifts after the last wrong bit are common to all and can be left out.
  have after {k i : Nat} (later : i < k) : shifts poly k one = shifts poly i (shifts poly (k - i) one) := by
    rw [← shifts_add, Nat.sub_add_cancel (Nat.le_of_lt later)]
  match flips error, count, within, decreasing, some_flip, undetected with
  | [k], _, within, _, _, undetected =>
      rw [List.map_singleton, List.foldr_cons, List.foldr_nil, BitVec.xor_zero] at undetected
      exact one_ne_zero top (shifts_eq_zero top undetected)
  | [k, j], _, within, decreasing, _, undetected =>
      have later : j < k := by simpa using decreasing
      have bounds := within k List.mem_cons_self
      simp only [List.map_cons, List.map_nil, List.foldr_cons, List.foldr_nil, BitVec.xor_zero,
        after later] at undetected
      rw [← shifts_xor] at undetected
      have back := BitVec.xor_eq_zero_iff.mp (shifts_eq_zero top undetected)
      exact separates.two (by omega) (by have := within j (by simp); omega) back
  | [k, j, i], _, within, decreasing, _, undetected =>
      have order : (j < k ∧ i < k) ∧ i < j := by simpa using decreasing
      have bounds := within k List.mem_cons_self
      have last := within i (by simp)
      simp only [List.map_cons, List.map_nil, List.foldr_cons, List.foldr_nil, BitVec.xor_zero,
        after order.1.2, after order.2] at undetected
      rw [← shifts_xor, ← shifts_xor] at undetected
      have back := BitVec.xor_eq_zero_iff.mp (shifts_eq_zero top undetected)
      refine separates.three (j := j - i) (k := k - i) (by omega) (by omega) (by omega) ?_
      rw [back, ← BitVec.xor_assoc, BitVec.xor_self, BitVec.zero_xor]
-----------------------------------------------------------------------------------------
-- Bytes by a table
-----------------------------------------------------------------------------------------

/-- The bits of a byte, lowest first. -/
def bitsOf (byte : BitVec 8) : List Bool := (List.range 8).map byte.getLsbD

theorem bitsOf_length {byte : BitVec 8} : (bitsOf byte).length = 8 := by simp [bitsOf]

theorem word_bitsOf {byte : BitVec 8} : (word (bitsOf byte) : BitVec w) = byte.setWidth w := by
  refine BitVec.eq_of_getLsbD_eq fun i inside => ?_
  rcases Nat.lt_or_ge i 8 with low | high
  · simp [bitsOf, inside, low]
  · simp [bitsOf, inside, high]

/-- A byte by a table of what its low bits leave after eight shifts. -/
def tableByte (table : Nat → BitVec w) (r : BitVec w) (byte : BitVec 8) : BitVec w :=
  (r >>> 8) ^^^ table ((r ^^^ byte.setWidth w) &&& 0xff#w).toNat

theorem getLsbD_low : (0xff#w).getLsbD i = (decide (i < w) && decide (i < 8)) := by
  rw [BitVec.getLsbD_ofNat, show (0xff : Nat) = 2 ^ 8 - 1 from rfl, Nat.testBit_two_pow_sub_one]

/-- Eight shifts, of the low bits and of the others. -/
theorem shifts_eight (poly r : BitVec w)
    : shifts poly 8 r = (r >>> 8) ^^^ shifts poly 8 (r &&& 0xff#w) := by
  have split : r = (r &&& ~~~0xff#w) ^^^ (r &&& 0xff#w) := by
    refine BitVec.eq_of_getLsbD_eq fun i inside => ?_
    simp only [BitVec.getLsbD_xor, BitVec.getLsbD_and, BitVec.getLsbD_not]
    cases r.getLsbD i <;> cases (0xff#w).getLsbD i <;> simp [inside]
  have low : ∀ i < 8, (r &&& ~~~0xff#w).getLsbD i = false := by
    intro i inside
    simp [getLsbD_low, inside]
  have high : (r &&& ~~~0xff#w) >>> 8 = r >>> 8 := by
    refine BitVec.eq_of_getLsbD_eq fun i inside => ?_
    simp only [BitVec.getLsbD_ushiftRight, BitVec.getLsbD_and, BitVec.getLsbD_not, getLsbD_low]
    rcases Nat.lt_or_ge (8 + i) w with within | past
    · simp [within]
    · simp [BitVec.getLsbD_of_ge r _ past]
  calc
    shifts poly 8 r = shifts poly 8 ((r &&& ~~~0xff#w) ^^^ (r &&& 0xff#w)) := by rw [← split]
    _ = (r >>> 8) ^^^ shifts poly 8 (r &&& 0xff#w) := by rw [shifts_xor, shifts_low low, high]

/-- The table does what eight single shifts do. -/
theorem tableByte_eq {table : Nat → BitVec w} {byte : BitVec 8} (wide : 8 ≤ w)
    (right : ∀ i < 256, table i = shifts poly 8 (BitVec.ofNat w i))
    : tableByte table r byte = feed poly r (bitsOf byte) := by
  have index : ((r ^^^ byte.setWidth w) &&& 0xff#w).toNat < 256 := by
    rw [BitVec.toNat_and]
    exact Nat.lt_of_le_of_lt Nat.and_le_right
      (Nat.lt_of_le_of_lt (BitVec.toNat_ofNat _ _ ▸ Nat.mod_le _ _) (by decide))
  have gone : byte.setWidth w >>> 8 = 0#w := by
    refine BitVec.eq_of_getLsbD_eq fun i inside => ?_
    simp
  rw [feed_eq_shifts (by rw [bitsOf_length]; exact wide), bitsOf_length, word_bitsOf, shifts_eight,
    BitVec.ushiftRight_xor_distrib, gone, BitVec.xor_zero, tableByte, right _ index,
    BitVec.ofNat_toNat, BitVec.setWidth_eq]

/-- Bytes one after the other are fed by the table as their bits are, one at a time. -/
theorem foldl_tableByte {table : Nat → BitVec w} {bytes : List (BitVec 8)} (wide : 8 ≤ w)
    (right : ∀ i < 256, table i = shifts poly 8 (BitVec.ofNat w i))
    : bytes.foldl (tableByte table) r = feed poly r (bytes.flatMap bitsOf) := by
  induction bytes generalizing r with
  | nil => rfl
  | cons byte bytes ih =>
      rw [List.foldl_cons, ih, List.flatMap_cons, feed_append, tableByte_eq wide right]

/-- The bits of bytes that differ differ where the bytes do. -/
theorem flatMap_bitsOf_xor {bytes flipped : List (BitVec 8)} (same : bytes.length = flipped.length)
    : (List.zipWith (· ^^^ ·) bytes flipped).flatMap bitsOf
      = List.zipWith xor (bytes.flatMap bitsOf) (flipped.flatMap bitsOf) := by
  induction bytes generalizing flipped with
  | nil => rfl
  | cons byte bytes ih =>
      cases flipped with
      | nil => cases same
      | cons flip flipped =>
          have one : bitsOf (byte ^^^ flip) = List.zipWith xor (bitsOf byte) (bitsOf flip) := by
            simp [bitsOf, List.range_succ]
          rw [List.zipWith_cons_cons, List.flatMap_cons, ih (Nat.succ.inj same), List.flatMap_cons,
            List.flatMap_cons, List.zipWith_append (by simp [bitsOf]), one]

end TsnTrdp.Crc
