import TsnTrdp.Trdp.SendSchedule
import TsnTrdp.Trdp.Withdraw

/-! Traffic shaping. The cyclic publishers of a queue are put into slots of equal width, behind one
of their due times; a publisher stays where it is if its slot is more than half its interval away
from that time, wherever the publisher itself was due.
-/

namespace TsnTrdp.Trdp

open TsnTrdp.Queue TrdpTime

/-- How many cyclic publishers there are before place `k`. -/
def cyclicBefore (queue : List PdEle) (k : Nat) : Nat :=
  (queue.take k).countP fun ele => ele.interval.IsSet

/-- The width of the slots. -/
def slotWidth (queue : List PdEle) : TrdpTime := vosDivTime (pdSpread queue).1 (pdSpread queue).2.2

/-- There is something to distribute. -/
def Spreads (queue : List PdEle) : Prop :=
  1 < queue.length ∧ ¬ (vosCmpTime (pdSpread queue).1 .cleared = 0 ∨ (pdSpread queue).2.2 = 0)

/-- The distribution gives the publisher at place `k` a new time: twice its slot offset is no more
than its interval.
-/
structure Reschedules (queue : List PdEle) (k : Nat) (ele : PdEle) : Prop where
  spreads : Spreads queue
  found : queue[k]? = some ele
  cyclic : ele.interval.IsSet
  counted : cyclicBefore queue k < (pdSpread queue).2.2.toNat
  half
    : ¬ vosCmpTime
          (vosMulTime (vosMulTime (slotWidth queue) (BitVec.ofNat 32 (cyclicBefore queue k))) 2)
          ele.interval > 0

/-- The products of `vos_mulTime` fit 32 bits with a sign, and 64 bits all the more. -/
structure MulFits (time : TrdpTime) (mul : U32) : Prop where
  sec : 0 ≤ time.tvSec * mul.toNat ∧ time.tvSec * mul.toNat < 2 ^ 31
  usec : 0 ≤ time.tvUsec * mul.toNat ∧ time.tvUsec * mul.toNat < 2 ^ 31

/-- `vos_divTime` has something to divide by, and its product and sum fit. -/
structure DivFits (time : TrdpTime) (divisor : U32) : Prop where
  nonzero : divisor ≠ 0
  product : (BitVec.ofInt 32 time.tvSec % divisor).toNat * 1000000 < 2 ^ 32
  sum
    : time.tvUsec + ((BitVec.ofInt 32 time.tvSec % divisor).toNat * 1000000 : Nat) < 2 ^ 31

/-- Nothing that the distribution computes overflows. -/
structure ArithmeticFits (queue : List PdEle) : Prop where
  width : DivFits (pdSpread queue).1 (pdSpread queue).2.2
  offset : ∀ index < (pdSpread queue).2.2, MulFits (slotWidth queue) index
  twice
    : ∀ index < (pdSpread queue).2.2, MulFits (vosMulTime (slotWidth queue) index) 2

/-- What is asked of traffic shaping. -/
structure Distributes (queue queue' : List PdEle) : Prop where
  others : Retimed queue queue'
  pulls : ∀ (k : Nat) (ele : PdEle), queue[k]? = some ele → ¬ ele.interval.IsSet
    → queue'[k]? = some ele
  half
    : ∀ (k : Nat) (ele ele' : PdEle),
      queue[k]? = some ele
      → queue'[k]? = some ele'
      → ele.interval.IsSet
      → 2 * |ele'.timeToGo.usecs - ele.timeToGo.usecs| ≤ ele.interval.usecs
  normal : ∀ ele' ∈ queue', ele'.interval.Normal ∧ ele'.timeToGo.Normal
  ordered
    : ∀ (k l : Nat) (first second first' second' : PdEle),
      k < l
      → Reschedules queue k first
      → Reschedules queue l second
      → queue'[k]? = some first'
      → queue'[l]? = some second'
      → first'.timeToGo.usecs ≤ second'.timeToGo.usecs
  window
    : ∀ (k : Nat) (ele ele' : PdEle),
      Reschedules queue k ele
      → queue'[k]? = some ele'
      → (∃ due ∈ queue, due.interval.IsSet ∧ due.timeToGo.usecs ≤ ele'.timeToGo.usecs)
        ∧ ∀ due ∈ queue,
            due.interval.IsSet
            → ∀ shortest ∈ queue,
              shortest.interval.IsSet
              → ele'.timeToGo.usecs ≤ due.timeToGo.usecs + shortest.interval.usecs
  computes : Spreads queue → ArithmeticFits queue

/-- The smallest interval of the cyclic publishers, of 1000 s at most, in microseconds. -/
def smallestInterval (queue : List PdEle) : Int :=
  ((queue.filter fun ele => ele.interval.IsSet).map fun ele => ele.interval.usecs).foldl min
    1000000000

/-- How many cyclic publishers there are, as 32 bits count them. -/
def cyclicCount (queue : List PdEle) : Nat :=
  (queue.countP fun ele => ele.interval.IsSet) % 2 ^ 32

/-- The microseconds before the slot of the publisher at place `k`. -/
def slotOffset (queue : List PdEle) (k : Nat) : Int :=
  smallestInterval queue / cyclicCount queue * cyclicBefore queue k

/-- Of several publishers, that at place `k` is cyclic and has an interval of at least twice the
offset of its slot.
-/
structure LetThrough (queue : List PdEle) (k : Nat) (ele : PdEle) : Prop where
  several : 1 < queue.length
  found : queue[k]? = some ele
  cyclic : ele.interval.IsSet
  counted : cyclicBefore queue k < cyclicCount queue
  half : 2 * slotOffset queue k ≤ ele.interval.usecs

/-- The due times lie so close together that no publisher moves too far when it is put to its slot
behind the latest of them.
-/
def DueTogether (queue : List PdEle) : Prop :=
  ∀ k ele,
    LetThrough queue k ele
    → ∀ latest ∈ queue,
      latest.interval.IsSet
      → 2 * (latest.timeToGo.usecs + slotOffset queue k - ele.timeToGo.usecs)
          ≤ ele.interval.usecs
        ∧ ∀ due ∈ queue,
            due.interval.IsSet
            → ∀ shortest ∈ queue,
              shortest.interval.IsSet
              → latest.timeToGo.usecs + slotOffset queue k
                ≤ due.timeToGo.usecs + shortest.interval.usecs

variable {queue queue' : List PdEle} {ele ele' : PdEle} {time : TrdpTime} {mul divisor : U32}
  {k : Nat}

-----------------------------------------------------------------------------------------
-- Arithmetic of times
-----------------------------------------------------------------------------------------

@[simp] theorem usecs_vosMulTime (time : TrdpTime) (mul : U32)
    : (vosMulTime time mul).usecs = time.usecs * mul.toNat := by
  have product : time.usecs * mul.toNat
      = time.tvSec * mul.toNat * 1000000 + time.tvUsec * mul.toNat := by
    rw [usecs]
    ring
  rw [product]
  unfold vosMulTime usecs
  dsimp only
  generalize time.tvSec * (mul.toNat : Int) = sec
  generalize time.tvUsec * (mul.toNat : Int) = usec
  split
  · dsimp only
    omega
  · rfl

theorem normal_vosMulTime (normal : time.Normal) (mul : U32) : (vosMulTime time mul).Normal := by
  have sec : 0 ≤ time.tvSec * (mul.toNat : Int) :=
    Int.mul_nonneg normal.sec (Int.natCast_nonneg _)
  have usec : 0 ≤ time.tvUsec * (mul.toNat : Int) :=
    Int.mul_nonneg normal.usec (Int.natCast_nonneg _)
  unfold vosMulTime
  dsimp only
  generalize time.tvSec * (mul.toNat : Int) = sec' at sec ⊢
  generalize time.tvUsec * (mul.toNat : Int) = usec' at usec ⊢
  split
  · refine ⟨?_, ?_, ?_⟩ <;> dsimp only <;> omega
  · refine ⟨?_, ?_, ?_⟩ <;> dsimp only <;> omega

theorem usecs_nonneg (normal : time.Normal) : 0 ≤ time.usecs := by
  obtain ⟨sec, usec, -⟩ := normal
  unfold usecs
  omega

/-- A product of less than 2³¹ microseconds is computed without overflow. -/
theorem mulFits (normal : time.Normal) (small : time.usecs * mul.toNat < 2 ^ 31)
    : MulFits time mul := by
  obtain ⟨sec, usec, -⟩ := normal
  have factor : 0 ≤ (mul.toNat : Int) := Int.natCast_nonneg _
  have product : time.usecs * mul.toNat
      = time.tvSec * mul.toNat * 1000000 + time.tvUsec * mul.toNat := by
    rw [usecs]
    ring
  have sec' := Int.mul_nonneg sec factor
  have usec' := Int.mul_nonneg usec factor
  rw [product] at small
  exact ⟨⟨sec', by omega⟩, ⟨usec', by omega⟩⟩

/-- Of at most 1000 s, the remainder and its microseconds fit. -/
theorem divFits (normal : time.Normal) (short : time.usecs ≤ 1000000000) (nonzero : divisor ≠ 0)
    : DivFits time divisor := by
  obtain ⟨sec, usec, carry⟩ := normal
  have small : time.tvSec ≤ 1000 := by
    unfold usecs at short
    omega
  have remainder : (BitVec.ofInt 32 time.tvSec % divisor).toNat ≤ 1000 := by
    have whole : (BitVec.ofInt 32 time.tvSec).toNat ≤ 1000 := by
      rw [BitVec.toNat_ofInt]
      omega
    rw [BitVec.toNat_umod]
    exact (Nat.mod_le _ _).trans whole
  unfold usecs at short
  exact ⟨nonzero, by omega, by omega⟩

/-- A division of at most 1000 s is exact, but for less than a microsecond. -/
theorem vosDivTime_spec (normal : time.Normal) (short : time.usecs ≤ 1000000000)
    (nonzero : divisor ≠ 0)
    : (vosDivTime time divisor).Normal
      ∧ (vosDivTime time divisor).usecs = time.usecs / divisor.toNat := by
  have fits := divFits normal short nonzero
  obtain ⟨sec, usec, carry⟩ := normal
  have small : time.tvSec ≤ 1000 := by
    unfold usecs at short
    omega
  have remainder : ((BitVec.ofInt 32 time.tvSec % divisor).toNat : Int)
      = time.tvSec % divisor.toNat := by
    have whole : ((BitVec.ofInt 32 time.tvSec).toNat : Int) = time.tvSec := by
      rw [BitVec.toNat_ofInt]
      omega
    rw [BitVec.toNat_umod, Int.natCast_mod, whole]
  have product : (((BitVec.ofInt 32 time.tvSec % divisor) * 1000000 : U32).toNat : Int)
      = time.tvSec % divisor.toNat * 1000000 := by
    have million : (1000000 : U32).toNat = 1000000 := rfl
    rw [BitVec.toNat_mul, million, Nat.mod_eq_of_lt fits.product, Int.natCast_mul, remainder]
    rfl
  have positive : 0 < (divisor.toNat : Int) := by
    have some : divisor.toNat ≠ 0 := fun zero => nonzero (BitVec.eq_of_toNat_eq zero)
    omega
  have low := Int.emod_nonneg time.tvSec positive.ne'
  have high := Int.emod_lt_of_pos time.tvSec positive
  have split := Int.mul_ediv_add_emod time.tvSec divisor.toNat
  unfold vosDivTime
  rw [if_neg nonzero]
  dsimp only
  rw [product, Int.tdiv_eq_ediv_of_nonneg sec, Int.tdiv_eq_ediv_of_nonneg (by omega)]
  have whole : time.usecs
      = time.tvUsec + time.tvSec % divisor.toNat * 1000000
        + time.tvSec / divisor.toNat * 1000000 * divisor.toNat := by
    calc time.usecs
        = (divisor.toNat * (time.tvSec / divisor.toNat) + time.tvSec % divisor.toNat) * 1000000
          + time.tvUsec := by rw [split, usecs]
      _ = _ := by ring
  constructor
  · refine ⟨Int.ediv_nonneg sec positive.le, Int.ediv_nonneg (by omega) positive.le, ?_⟩
    exact Int.ediv_lt_of_lt_mul positive (by omega)
  · rw [whole, Int.add_mul_ediv_right _ _ positive.ne', usecs]
    exact Int.add_comm _ _

-----------------------------------------------------------------------------------------
-- The smallest interval, and the latest due time
-----------------------------------------------------------------------------------------

/-- What `trdp_pdDistribute` finds in the queue. -/
structure Spread (queue : List PdEle) : Prop where
  short : (pdSpread queue).1.usecs ≤ 1000000000
  normal : (pdSpread queue).1.Normal
  smallest
    : ∀ ele ∈ queue, ele.interval.IsSet → (pdSpread queue).1.usecs ≤ ele.interval.usecs
  attained
    : (pdSpread queue).1.usecs = 1000000000
      ∨ ∃ ele ∈ queue, ele.interval.IsSet ∧ ele.interval.usecs = (pdSpread queue).1.usecs
  count : (pdSpread queue).2.2.toNat = cyclicCount queue
  due : (pdSpread queue).2.1.Normal
  latest
    : ∀ ele ∈ queue, ele.interval.IsSet → ele.timeToGo.usecs ≤ (pdSpread queue).2.1.usecs
  taken
    : (∃ ele ∈ queue, ele.interval.IsSet)
      → ∃ ele ∈ queue, ele.interval.IsSet ∧ ele.timeToGo.usecs = (pdSpread queue).2.1.usecs

/-- The times are normalised. -/
def NormalTimes (queue : List PdEle) : Prop :=
  ∀ ele ∈ queue, ele.interval.Normal ∧ ele.timeToGo.Normal

instance (time : TrdpTime) : Decidable time.Normal :=
  decidable_of_iff (_ ∧ _ ∧ _)
    ⟨fun ⟨sec, usec, carry⟩ => ⟨sec, usec, carry⟩, fun ⟨sec, usec, carry⟩ => ⟨sec, usec, carry⟩⟩

instance (queue : List PdEle) : Decidable (NormalTimes queue) :=
  inferInstanceAs (Decidable (∀ ele ∈ queue, _ ∧ _))

/-- The sooner and the later of two times, as they are picked. -/
def sooner (t other : TrdpTime) : TrdpTime := if vosCmpTime t other > 0 then other else t

def later (t other : TrdpTime) : TrdpTime := if vosCmpTime t other < 0 then other else t

theorem foldl_sooner (start : TrdpTime) (times : List TrdpTime)
    : (times.foldl sooner start = start ∨ times.foldl sooner start ∈ times)
      ∧ ¬ (times.foldl sooner start).After start
      ∧ ∀ t ∈ times, ¬ (times.foldl sooner start).After t := by
  refine foldl_pick (R := fun a b : TrdpTime => ¬ a.After b) (fun _ => not_after_self) ?_ ?_ _ _
  · intro a b c
    simp only [after_lex]
    omega
  · intro a b
    simp only [sooner, vosCmpTime_pos_iff]
    by_cases after : a.After b
    · refine .inr ⟨if_pos after, ?_⟩
      rw [after_lex] at after ⊢
      omega
    · exact .inl ⟨if_neg after, after⟩

theorem foldl_later (start : TrdpTime) (times : List TrdpTime)
    : (times.foldl later start = start ∨ times.foldl later start ∈ times)
      ∧ ¬ start.After (times.foldl later start)
      ∧ ∀ t ∈ times, ¬ t.After (times.foldl later start) := by
  refine foldl_pick (R := fun a b : TrdpTime => ¬ b.After a) (fun _ => not_after_self) ?_ ?_ _ _
  · intro a b c
    simp only [after_lex]
    omega
  · intro a b
    simp only [later, vosCmpTime_neg_iff]
    by_cases after : b.After a
    · refine .inr ⟨if_pos after, ?_⟩
      rw [after_lex] at after ⊢
      omega
    · exact .inl ⟨if_neg after, after⟩

theorem spread (normal : NormalTimes queue) : Spread queue := by
  let cyclic := queue.filter fun ele => ele.interval.IsSet
  have found : pdSpread queue
      = ((cyclic.map PdEle.interval).foldl sooner ⟨1000, 0⟩,
        (cyclic.map PdEle.timeToGo).foldl later ⟨0, 0⟩, BitVec.ofNat 32 cyclic.length) := by
    rw [List.foldl_map, List.foldl_map]
    rfl
  have among : ∀ ele, ele ∈ cyclic ↔ ele ∈ queue ∧ ele.interval.IsSet := by
    intro ele
    simp [cyclic, List.mem_filter]
  have preset : TrdpTime.Normal ⟨1000, 0⟩ := ⟨by decide, by decide, by decide⟩
  have le_of_not {a b : TrdpTime} (aNormal : a.Normal) (bNormal : b.Normal) (not : ¬ a.After b)
      : a.usecs ≤ b.usecs := not_lt.mp (mt (after_iff aNormal bNormal).mpr not)
  obtain ⟨isSmallest, capped, smallest⟩ := foldl_sooner ⟨1000, 0⟩ (cyclic.map PdEle.interval)
  obtain ⟨isLatest, -, latest⟩ := foldl_later ⟨0, 0⟩ (cyclic.map PdEle.timeToGo)
  have intervalNormal : ((cyclic.map PdEle.interval).foldl sooner ⟨1000, 0⟩).Normal := by
    rcases isSmallest with same | member
    · rw [same]
      exact preset
    · obtain ⟨ele, isCyclic, same⟩ := List.mem_map.mp member
      exact same ▸ (normal ele ((among ele).mp isCyclic).1).1
  have dueNormal : ((cyclic.map PdEle.timeToGo).foldl later ⟨0, 0⟩).Normal := by
    rcases isLatest with same | member
    · rw [same]
      exact normal_cleared
    · obtain ⟨ele, isCyclic, same⟩ := List.mem_map.mp member
      exact same ▸ (normal ele ((among ele).mp isCyclic).1).2
  refine ⟨?_, ?_, ?_, ?_, ?_, ?_, ?_, ?_⟩ <;> rw [found]
  · exact le_of_not intervalNormal preset capped
  · exact intervalNormal
  · intro ele member isSet
    exact le_of_not intervalNormal (normal ele member).1
      (smallest _ (List.mem_map_of_mem ((among ele).mpr ⟨member, isSet⟩)))
  · rcases isSmallest with same | member
    · exact .inl (congrArg usecs same)
    · obtain ⟨ele, isCyclic, same⟩ := List.mem_map.mp member
      obtain ⟨member', isSet⟩ := (among ele).mp isCyclic
      exact .inr ⟨ele, member', isSet, congrArg usecs same⟩
  · dsimp only
    rw [BitVec.toNat_ofNat, ← List.countP_eq_length_filter]
    rfl
  · exact dueNormal
  · intro ele member isSet
    exact le_of_not (normal ele member).2 dueNormal
      (latest _ (List.mem_map_of_mem ((among ele).mpr ⟨member, isSet⟩)))
  · rintro ⟨ele, member, isSet⟩
    rcases isLatest with same | taken
    · -- all due times are zero, that of `ele` too
      refine ⟨ele, member, isSet, ?_⟩
      have before := le_of_not (normal ele member).2 dueNormal
        (latest _ (List.mem_map_of_mem ((among ele).mpr ⟨member, isSet⟩)))
      obtain ⟨sec, usec, -⟩ := (normal ele member).2
      rw [same] at before ⊢
      unfold usecs at before ⊢
      dsimp only at before ⊢
      omega
    · obtain ⟨other, isCyclic, same⟩ := List.mem_map.mp taken
      obtain ⟨member', isSet'⟩ := (among other).mp isCyclic
      exact ⟨other, member', isSet', congrArg usecs same⟩

/-- The smallest interval is the one that the code picks. -/
theorem smallestInterval_eq (normal : NormalTimes queue)
    : (pdSpread queue).1.usecs = smallestInterval queue := by
  have found := spread normal
  have picks : ∀ b c : Int, min b c = b ∧ b ≤ c ∨ min b c = c ∧ c ≤ b := by
    intro b c
    omega
  obtain ⟨isSmallest, capped, smallest⟩ :=
    foldl_pick (R := fun a b : Int => a ≤ b) le_refl (fun _ _ _ => le_trans) picks 1000000000
      ((queue.filter fun ele => ele.interval.IsSet).map fun ele => ele.interval.usecs)
  change smallestInterval queue = _ ∨ smallestInterval queue ∈ _ at isSmallest
  change smallestInterval queue ≤ _ at capped
  change ∀ b ∈ _, smallestInterval queue ≤ b at smallest
  apply le_antisymm
  · rcases isSmallest with same | member
    · rw [same]
      exact found.short
    · obtain ⟨ele, isCyclic, same⟩ := List.mem_map.mp member
      obtain ⟨among, isSet⟩ := List.mem_filter.mp isCyclic
      rw [← same]
      exact found.smallest ele among (of_decide_eq_true isSet)
  · rcases found.attained with same | ⟨ele, among, isSet, same⟩
    · rw [same]
      exact capped
    · rw [← same]
      exact smallest _ (List.mem_map_of_mem
        (List.mem_filter.mpr ⟨among, decide_eq_true isSet⟩))

-----------------------------------------------------------------------------------------
-- The slots
-----------------------------------------------------------------------------------------

theorem cyclicBefore_cons (ele : PdEle) (rest : List PdEle) (k : Nat)
    : cyclicBefore (ele :: rest) (k + 1)
      = cyclicBefore rest k + if ele.interval.IsSet then 1 else 0 := by
  simp [cyclicBefore, List.take_succ_cons, List.countP_cons]

/-- Slots are numbered in queue order. -/
theorem cyclicBefore_mono {l : Nat} (before : k ≤ l)
    : cyclicBefore queue k ≤ cyclicBefore queue l :=
  List.Sublist.countP_le (List.take_sublist_take_left before)

/-- What the loop does with the publisher in slot `index`. -/
def retimed (deltaTmax tNull : TrdpTime) (noOfPackets : U32) (index : Nat) (ele : PdEle) : PdEle :=
  if ele.interval.IsSet ∧ index < noOfPackets.toNat
      ∧ ¬ vosCmpTime (vosMulTime (vosMulTime deltaTmax (BitVec.ofNat 32 index)) 2)
          ele.interval > 0 then
    { ele with
      timeToGo := vosAddTime tNull (vosMulTime deltaTmax (BitVec.ofNat 32 index)) }
  else ele

/-- The loop treats each place by itself. Induction on the queue. -/
theorem pdRetime_getElem? (deltaTmax tNull : TrdpTime) (noOfPackets packetIndex : U32)
    (queue : List PdEle) (k : Nat)
    : (pdRetime deltaTmax tNull noOfPackets packetIndex queue)[k]?
      = queue[k]?.map
          (retimed deltaTmax tNull noOfPackets (packetIndex.toNat + cyclicBefore queue k)) := by
  induction queue generalizing packetIndex k with
  | nil => rfl
  | cons ele rest ih =>
      unfold pdRetime
      by_cases counted : packetIndex < noOfPackets
      · have below : packetIndex.toNat < noOfPackets.toNat := counted
        rw [if_pos counted]
        by_cases cyclic : ele.interval.IsSet
        · rw [if_pos cyclic]
          cases k with
          | zero =>
              have number : BitVec.ofNat 32 packetIndex.toNat = packetIndex := by simp
              have first : cyclicBefore (ele :: rest) 0 = 0 := rfl
              simp only [List.getElem?_cons_zero, Option.map_some, first, Nat.add_zero, retimed,
                number, cyclic, below, true_and, ite_not]
          | succ k =>
              have next : (packetIndex + 1).toNat = packetIndex.toNat + 1 := by
                have last := noOfPackets.isLt
                rw [BitVec.toNat_add, Nat.mod_eq_of_lt]
                · rfl
                · show packetIndex.toNat + 1 < 2 ^ 32
                  omega
              have index : packetIndex.toNat + cyclicBefore (ele :: rest) (k + 1)
                  = (packetIndex + 1).toNat + cyclicBefore rest k := by
                rw [cyclicBefore_cons, if_pos cyclic, next]
                omega
              rw [List.getElem?_cons_succ, List.getElem?_cons_succ, ih, index]
        · rw [if_neg cyclic]
          cases k with
          | zero =>
              have stays : ∀ index, retimed deltaTmax tNull noOfPackets index ele = ele :=
                fun _ => if_neg fun moves => cyclic moves.1
              simp only [List.getElem?_cons_zero, Option.map_some, stays]
          | succ k =>
              rw [List.getElem?_cons_succ, List.getElem?_cons_succ, ih, cyclicBefore_cons,
                if_neg cyclic, Nat.add_zero]
      · -- the loop has ended
        have last : noOfPackets.toNat ≤ packetIndex.toNat := not_lt.mp counted
        have stays : ∀ other,
            retimed deltaTmax tNull noOfPackets
              (packetIndex.toNat + cyclicBefore (ele :: rest) k) other = other := by
          intro other
          refine if_neg fun moves => ?_
          have := moves.2.1
          omega
        rw [if_neg counted]
        cases (ele :: rest)[k]? with
        | none => rfl
        | some other => exact congrArg some (stays other).symm

theorem distribute_getElem? (spreads : Spreads queue) (k : Nat)
    : (trdpPdDistribute queue).2[k]?
      = queue[k]?.map
          (retimed (slotWidth queue) (pdSpread queue).2.1 (pdSpread queue).2.2
            (cyclicBefore queue k)) := by
  obtain ⟨several, some⟩ := spreads
  unfold trdpPdDistribute
  split
  · simp at several
  · simp at several
  · dsimp only
    have first : (0 : U32).toNat + cyclicBefore queue k = cyclicBefore queue k := Nat.zero_add _
    rw [if_neg some, pdRetime_getElem?, first]
    rfl

theorem distribute_of_not_spreads (nothing : ¬ Spreads queue)
    : (trdpPdDistribute queue).2 = queue := by
  unfold trdpPdDistribute
  split
  · rfl
  · rfl
  · rename_i several single
    dsimp only
    refine congrArg Prod.snd (if_pos ?_)
    by_contra some
    refine nothing ⟨?_, some⟩
    match queue, several, single with
    | [], several, _ => exact absurd rfl several
    | [ele], _, single => exact absurd rfl (single ele)
    | _ :: _ :: _, _, _ => simp

/-- The time that a slot has. -/
def slotTime (queue : List PdEle) (k : Nat) : TrdpTime :=
  vosAddTime (pdSpread queue).2.1
    (vosMulTime (slotWidth queue) (BitVec.ofNat 32 (cyclicBefore queue k)))

/-- A publisher that is rescheduled gets the time of its slot, and nothing else. -/
theorem Reschedules.retimed (moves : Reschedules queue k ele)
    : (trdpPdDistribute queue).2[k]? = some { ele with timeToGo := slotTime queue k } := by
  rw [distribute_getElem? moves.spreads, moves.found, Option.map_some, Trdp.retimed,
    if_pos ⟨moves.cyclic, moves.counted, moves.half⟩]
  rfl

/-- The others stay as they are. -/
theorem stays_of_not_reschedules (found : queue[k]? = some ele) (stays : ¬ Reschedules queue k ele)
    : (trdpPdDistribute queue).2[k]? = some ele := by
  by_cases spreads : Spreads queue
  · rw [distribute_getElem? spreads, found, Option.map_some, Trdp.retimed]
    exact congrArg some
      (if_neg fun ⟨cyclic, counted, half⟩ => stays ⟨spreads, found, cyclic, counted, half⟩)
  · rw [distribute_of_not_spreads spreads, found]

/-- The width of the slots, and the offsets that it gives. -/
structure Slotted (queue : List PdEle) : Prop where
  normal : (slotWidth queue).Normal
  within
    : ∀ index ≤ (pdSpread queue).2.2.toNat,
        (slotWidth queue).usecs * index ≤ (pdSpread queue).1.usecs

theorem slotted (normal : NormalTimes queue) (spreads : Spreads queue) : Slotted queue := by
  have found := spread normal
  have nonzero : (pdSpread queue).2.2 ≠ 0 := fun zero => spreads.2 (.inr zero)
  obtain ⟨width, exact_⟩ := vosDivTime_spec found.normal found.short nonzero
  refine ⟨width, fun index below => ?_⟩
  have whole := Int.ediv_mul_le (pdSpread queue).1.usecs
    (fun zero => nonzero (BitVec.eq_of_toNat_eq (Int.natCast_eq_zero.mp zero))
      : ((pdSpread queue).2.2.toNat : Int) ≠ 0)
  calc (slotWidth queue).usecs * index
      ≤ (slotWidth queue).usecs * (pdSpread queue).2.2.toNat := by
        exact Int.mul_le_mul_of_nonneg_left (by exact_mod_cast below) (usecs_nonneg width)
    _ ≤ (pdSpread queue).1.usecs := by
        rw [slotWidth, exact_]
        exact whole

theorem Slotted.arithmeticFits (slots : Slotted queue) (normal : NormalTimes queue)
    (spreads : Spreads queue)
    : ArithmeticFits queue := by
  have found := spread normal
  have offset : ∀ index < (pdSpread queue).2.2,
      (slotWidth queue).usecs * index.toNat ≤ 1000000000 := by
    intro index below
    exact (slots.within index.toNat (Nat.le_of_lt below)).trans found.short
  refine ⟨divFits found.normal found.short fun zero => spreads.2 (.inr zero), ?_, ?_⟩
  · intro index below
    have := offset index below
    exact mulFits slots.normal (by omega)
  · intro index below
    have := offset index below
    have two : (2 : U32).toNat = 2 := rfl
    refine mulFits (normal_vosMulTime slots.normal index) ?_
    rw [usecs_vosMulTime, two]
    omega

/-- The number of a slot fits the packet index. -/
theorem index_toNat (counted : cyclicBefore queue k < (pdSpread queue).2.2.toNat)
    : (BitVec.ofNat 32 (cyclicBefore queue k)).toNat = cyclicBefore queue k := by
  have last := (pdSpread queue).2.2.isLt
  rw [BitVec.toNat_ofNat]
  omega

/-- The offset of a slot is a multiple of the width. -/
theorem slotOffset_eq (normal : NormalTimes queue) (spreads : Spreads queue) (k : Nat)
    : slotOffset queue k = (slotWidth queue).usecs * cyclicBefore queue k := by
  have found := spread normal
  have nonzero : (pdSpread queue).2.2 ≠ 0 := fun zero => spreads.2 (.inr zero)
  rw [slotOffset, slotWidth, (vosDivTime_spec found.normal found.short nonzero).2, found.count,
    smallestInterval_eq normal]

/-- The time of a slot, in microseconds. -/
theorem slotTime_spec (normal : NormalTimes queue) (moves : Reschedules queue k ele)
    : (slotTime queue k).Normal
      ∧ (slotTime queue k).usecs = (pdSpread queue).2.1.usecs + slotOffset queue k := by
  have slots := slotted normal moves.spreads
  refine ⟨normal_vosAddTime (spread normal).due (normal_vosMulTime slots.normal _), ?_⟩
  rw [slotTime, usecs_vosAddTime, usecs_vosMulTime, index_toNat moves.counted,
    slotOffset_eq normal moves.spreads]

/-- The loop's test, in microseconds. -/
theorem half_iff (normal : NormalTimes queue) (spreads : Spreads queue)
    (found : queue[k]? = some ele) (counted : cyclicBefore queue k < (pdSpread queue).2.2.toNat)
    : ¬ vosCmpTime
          (vosMulTime (vosMulTime (slotWidth queue) (BitVec.ofNat 32 (cyclicBefore queue k))) 2)
          ele.interval > 0
      ↔ 2 * slotOffset queue k ≤ ele.interval.usecs := by
  have slots := slotted normal spreads
  have period := (normal ele (List.mem_of_getElem? found)).1
  have two : (2 : U32).toNat = 2 := rfl
  rw [gt_iff_lt, not_lt,
    vosCmpTime_nonpos_iff (normal_vosMulTime (normal_vosMulTime slots.normal _) 2) period,
    usecs_vosMulTime, usecs_vosMulTime, index_toNat counted, two, slotOffset_eq normal spreads]
  omega

/-- There is something to distribute as soon as there is a cyclic publisher beside another. -/
theorem LetThrough.spreads (through : LetThrough queue k ele) (normal : NormalTimes queue)
    : Spreads queue := by
  have found := spread normal
  refine ⟨through.several, ?_⟩
  rintro (none | none)
  · have nothing := (vosCmpTime_nonpos_iff found.normal normal_cleared).mp none.le
    rcases found.attained with preset | ⟨shortest, member, isSet, same⟩
    · rw [preset] at nothing
      exact absurd nothing (by decide)
    · have some := (isSet_iff (normal shortest member).1).mp isSet
      rw [same] at some
      exact absurd nothing (not_le.mpr some)
  · have counted := through.counted
    rw [← found.count, none] at counted
    exact absurd counted (Nat.not_lt_zero _)

/-- The loop reschedules what the condition lets through. -/
theorem reschedules_iff (normal : NormalTimes queue)
    : Reschedules queue k ele ↔ LetThrough queue k ele := by
  have count := (spread normal).count
  constructor
  · intro moves
    exact ⟨moves.spreads.1, moves.found, moves.cyclic, count ▸ moves.counted,
      (half_iff normal moves.spreads moves.found moves.counted).mp moves.half⟩
  · intro through
    have spreads := through.spreads normal
    have counted : cyclicBefore queue k < (pdSpread queue).2.2.toNat := count.symm ▸ through.counted
    exact ⟨spreads, through.found, through.cyclic, counted,
      (half_iff normal spreads through.found counted).mpr through.half⟩

-----------------------------------------------------------------------------------------
-- The distribution
-----------------------------------------------------------------------------------------

/-- What is queued then was queued before, and is rescheduled or as it was. -/
theorem distributed_cases (at_ : (trdpPdDistribute queue).2[k]? = some ele')
    : ∃ ele, queue[k]? = some ele
        ∧ (Reschedules queue k ele ∧ ele' = { ele with timeToGo := slotTime queue k }
          ∨ ¬ Reschedules queue k ele ∧ ele' = ele) := by
  have some : k < queue.length := by
    have same := (trdpPdDistribute_retimed queue).length_eq
    have bound := (List.getElem?_eq_some_iff.mp at_).1
    omega
  have found := List.getElem?_eq_getElem some
  refine ⟨queue[k], found, ?_⟩
  by_cases moves : Reschedules queue k queue[k]
  · rw [moves.retimed] at at_
    exact .inl ⟨moves, (Option.some.inj at_).symm⟩
  · rw [stays_of_not_reschedules found moves] at at_
    exact .inr ⟨moves, (Option.some.inj at_).symm⟩

theorem normal_distributed (normal : NormalTimes queue)
    : NormalTimes (trdpPdDistribute queue).2 := by
  intro ele' member
  obtain ⟨k, at_⟩ := List.getElem?_of_mem member
  obtain ⟨ele, found, ⟨moves, rfl⟩ | ⟨-, same⟩⟩ := distributed_cases at_
  · exact ⟨(normal ele (List.mem_of_getElem? found)).1, (slotTime_spec normal moves).1⟩
  · exact same ▸ normal ele (List.mem_of_getElem? found)

/-- The offset of a slot is less than every interval. -/
theorem Reschedules.offset (moves : Reschedules queue k ele) (normal : NormalTimes queue)
    : 0 ≤ slotOffset queue k
      ∧ ∀ shortest ∈ queue,
          shortest.interval.IsSet → slotOffset queue k ≤ shortest.interval.usecs := by
  have slots := slotted normal moves.spreads
  rw [slotOffset_eq normal moves.spreads]
  refine ⟨Int.mul_nonneg (usecs_nonneg slots.normal) (Int.natCast_nonneg _), ?_⟩
  intro shortest member isShortest
  exact (slots.within _ moves.counted.le).trans
    ((spread normal).smallest shortest member isShortest)

theorem Reschedules.latest (moves : Reschedules queue k ele) (normal : NormalTimes queue)
    : ∃ latest ∈ queue,
        latest.interval.IsSet ∧ latest.timeToGo.usecs = (pdSpread queue).2.1.usecs :=
  (spread normal).taken ⟨ele, List.mem_of_getElem? moves.found, moves.cyclic⟩

/-- Slots have their times in queue order. -/
theorem slotTime_mono {l : Nat} {other : PdEle} (normal : NormalTimes queue)
    (moves : Reschedules queue k ele) (moves' : Reschedules queue l other) (before : k < l)
    : (slotTime queue k).usecs ≤ (slotTime queue l).usecs := by
  rw [(slotTime_spec normal moves).2, (slotTime_spec normal moves').2,
    slotOffset_eq normal moves.spreads, slotOffset_eq normal moves.spreads]
  have slots : (cyclicBefore queue k : Int) ≤ cyclicBefore queue l := by
    exact_mod_cast cyclicBefore_mono before.le
  have offsets := Int.mul_le_mul_of_nonneg_left slots
    (usecs_nonneg (slotted normal moves.spreads).normal)
  omega

/-- A publisher due close enough to the latest moves by at most half its interval. -/
theorem DueTogether.half (together : DueTogether queue) (normal : NormalTimes queue)
    (moves : Reschedules queue k ele)
    : 2 * |(slotTime queue k).usecs - ele.timeToGo.usecs| ≤ ele.interval.usecs := by
  obtain ⟨latest, member, isLatest, due⟩ := moves.latest normal
  obtain ⟨close, -⟩ := together k ele ((reschedules_iff normal).mp moves) latest member isLatest
  have own := (spread normal).latest ele (List.mem_of_getElem? moves.found) moves.cyclic
  have offset := (moves.offset normal).1
  rw [(slotTime_spec normal moves).2, abs_of_nonneg (by omega), ← due]
  exact close

/-- The slots are behind some due time, and not far behind any. -/
theorem DueTogether.window (together : DueTogether queue) (normal : NormalTimes queue)
    (moves : Reschedules queue k ele)
    : (∃ due ∈ queue, due.interval.IsSet ∧ due.timeToGo.usecs ≤ (slotTime queue k).usecs)
      ∧ ∀ due ∈ queue,
          due.interval.IsSet
          → ∀ shortest ∈ queue,
            shortest.interval.IsSet
            → (slotTime queue k).usecs ≤ due.timeToGo.usecs + shortest.interval.usecs := by
  obtain ⟨latest, member, isLatest, due⟩ := moves.latest normal
  have offset := (moves.offset normal).1
  rw [(slotTime_spec normal moves).2, ← due]
  have through := (reschedules_iff normal).mp moves
  exact ⟨⟨latest, member, isLatest, by omega⟩, (together k ele through latest member isLatest).2⟩

theorem DueTogether.distributes (together : DueTogether queue) (normal : NormalTimes queue)
    : Distributes queue (trdpPdDistribute queue).2 where
  others := trdpPdDistribute_retimed queue
  pulls k ele at_ pull := stays_of_not_reschedules at_ fun moves => pull moves.cyclic
  half k ele ele' at_ at' cyclic := by
    obtain ⟨ele₀, found, moved⟩ := distributed_cases at'
    obtain rfl := Option.some.inj (at_.symm.trans found)
    rcases moved with ⟨moves, rfl⟩ | ⟨-, same⟩
    · exact together.half normal moves
    · have period := usecs_nonneg (normal ele (List.mem_of_getElem? at_)).1
      simpa [same] using period
  normal := normal_distributed normal
  ordered k l first second first' second' before moves moves' at_ at' := by
    rw [moves.retimed] at at_
    rw [moves'.retimed] at at'
    obtain rfl := Option.some.inj at_
    obtain rfl := Option.some.inj at'
    exact slotTime_mono normal moves moves' before
  window k ele ele' moves at_ := by
    rw [moves.retimed] at at_
    obtain rfl := Option.some.inj at_
    exact together.window normal moves
  computes spreads := (slotted normal spreads).arithmeticFits normal spreads

/-- Publishers that are all due at one time are close enough together: the test of the slot's offset
is then one of the move.
-/
theorem dueTogether_of_same {due : Int} (normal : NormalTimes queue)
    (same : ∀ ele ∈ queue, ele.interval.IsSet → ele.timeToGo.usecs = due)
    : DueTogether queue := by
  intro k ele through latest member isLatest
  have offset := ((reschedules_iff normal).mpr through).offset normal
  have half := through.half
  rw [same latest member isLatest,
    same ele (List.mem_of_getElem? through.found) through.cyclic]
  refine ⟨by omega, fun other member' isOther shortest member'' isShortest => ?_⟩
  have within := offset.2 shortest member'' isShortest
  rw [same other member' isOther]
  omega

/-- Publishers are close enough together if what lies between their due times, and the offset of each
slot behind it, is within half of the shortest interval.
-/
theorem dueTogether_of_spread {width : Int}
    (near : ∀ first ∈ queue, first.interval.IsSet → ∀ second ∈ queue, second.interval.IsSet
      → second.timeToGo.usecs ≤ first.timeToGo.usecs + width)
    (room : ∀ k ele, LetThrough queue k ele → ∀ shortest ∈ queue, shortest.interval.IsSet
      → 2 * (width + slotOffset queue k) ≤ shortest.interval.usecs)
    (normal : NormalTimes queue)
    : DueTogether queue := by
  intro k ele through latest member isLatest
  have among := List.mem_of_getElem? through.found
  have offset := (((reschedules_iff normal).mpr through).offset normal).1
  have own := near ele among through.cyclic latest member isLatest
  have nonneg := near ele among through.cyclic ele among through.cyclic
  have half := room k ele through ele among through.cyclic
  refine ⟨by omega, fun due member' isDue shortest member'' isShortest => ?_⟩
  have apart := near due member' isDue latest member isLatest
  have short := room k ele through shortest member'' isShortest
  omega

/-- Traffic shaping keeps its promise exactly if the due times lie close enough together. -/
theorem distributes_iff (normal : NormalTimes queue)
    : Distributes queue (trdpPdDistribute queue).2 ↔ DueTogether queue := by
  refine ⟨fun shaped k ele through latest member cyclic => ?_, fun together =>
    together.distributes normal⟩
  have moves := (reschedules_iff normal).mpr through
  obtain ⟨-, time⟩ := slotTime_spec normal moves
  have before := (spread normal).latest latest member cyclic
  have half := shaped.half k ele _ moves.found moves.retimed moves.cyclic
  have window := (shaped.window k ele _ moves moves.retimed).2
  dsimp only at half window
  rw [time] at half window
  refine ⟨?_, fun due among isDue shortest among' isShortest => ?_⟩
  · have move := le_abs_self ((pdSpread queue).2.1.usecs
      + slotOffset queue k - ele.timeToGo.usecs)
    omega
  · have close := window due among isDue shortest among' isShortest
    omega

/-- Publishers of comId 1000 and another, every 100 ms, published at one time. -/
def shapedQueue (comId : U32) : List PdEle :=
  [newPublisher (publishEnv 1) (cyclicPublisher none) openedSession 0,
    newPublisher (publishEnv 2) { cyclicPublisher none with comId } openedSession 0]

theorem distributes_same_due
    : Reschedules (shapedQueue 4200) 1
        (newPublisher (publishEnv 2) { cyclicPublisher none with comId := 4200 } openedSession 0)
      ∧ Distributes (shapedQueue 4200) (trdpPdDistribute (shapedQueue 4200)).2 := by
  have normal : NormalTimes (shapedQueue 4200) := by decide +kernel
  have same : ∀ ele ∈ shapedQueue 4200, ele.interval.IsSet → ele.timeToGo.usecs = 8000000 := by
    decide +kernel
  refine ⟨?_, (distributes_iff normal).mpr (dueTogether_of_same normal same)⟩
  exact ⟨⟨by decide +kernel, by decide +kernel⟩, rfl, by decide +kernel, by decide +kernel,
    by decide +kernel⟩

/-- The first of two publishers that start 90 ms apart is put off by 90 ms of its 100. -/
theorem late_publisher_delays_early
    : ¬ Distributes (shapedQueue 1009) (trdpPdDistribute (shapedQueue 1009)).2 := by
  intro shaped
  have half := shaped.half 0 _ _ rfl rfl (by decide +kernel)
  exact absurd half (by decide +kernel)

end TsnTrdp.Trdp
