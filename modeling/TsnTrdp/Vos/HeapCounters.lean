import TsnTrdp.Vos.HeapInvariant

/-! The counters of the memory control are those of the blocks. -/

namespace TsnTrdp.Vos

open TsnTrdp.Memory TsnTrdp.Chains

/-- The bytes of the blocks, with their headers. -/
def extents (blocks : List Block) : Nat := (blocks.map Block.extent).sum

/-- How many of the blocks have the `i`th size. -/
def countOf (i : Nat) (blocks : List Block) : Nat := blocks.countP (·.cls = i)

/-- The counters agree with the blocks. -/
structure Counted (s : Process) (heap : Heap) : Prop where
  total : extents heap.blocks = s.gMem.allocSize.toNat
  freeSize : s.gMem.memCnt.freeSize.toNat + extents heap.live = s.gMem.memSize.toNat
  minFreeSize : s.gMem.memCnt.minFreeSize.toNat ≤ s.gMem.memCnt.freeSize.toNat
  allocCnt : s.gMem.memCnt.allocCnt.toNat = heap.live.length
  blockCnt
    : ∀ i < vosMemNBlockSizes, (s.gMem.memCnt.blockCnt i).toNat = countOf i heap.blocks

variable {n : Nat} {env : Env} {s taken : Process} {heap kept : Heap} {b : Block}
  {blocks other : List Block} {i : Nat}

@[simp] theorem extents_nil : extents [] = 0 := rfl

@[simp] theorem extents_cons : extents (b :: blocks) = b.extent + extents blocks := rfl

private theorem one : (1 : U32).toNat = 1 := rfl

/-- The bytes that the counters move by. -/
theorem Block.toNat_extent (bound : b.cls < vosMemNBlockSizes)
    : (blockSize b.cls + BitVec.ofNat 32 sizeofMemBlock).toNat = b.extent := by
  have small := (blockSize_bounds b.cls bound).2
  simp only [BitVec.toNat_add, BitVec.toNat_ofNat, Block.extent, Block.size]
  unfold sizeofMemBlock
  omega

theorem extents_perm (perm : blocks.Perm other) : extents blocks = extents other :=
  (perm.map Block.extent).sum_eq

theorem countOf_perm (perm : blocks.Perm other) : countOf i blocks = countOf i other :=
  perm.countP_eq _

theorem extents_live_le (heap : Heap) : extents heap.live ≤ extents heap.blocks := by
  simp [extents, Heap.blocks]

/-- A block has at least one byte for its header. -/
theorem length_le_extents (blocks : List Block) : blocks.length ≤ extents blocks := by
  induction blocks with
  | nil => exact le_rfl
  | cons b rest ih =>
      have header : 1 ≤ b.extent := by
        unfold Block.extent sizeofMemBlock
        omega
      rw [List.length_cons, extents_cons]
      omega

/-- A block that is taken was in a list, or is new; the area accounts for it either way. -/
theorem Taken.total (inv : Inv n s heap) (counted : Counted s heap) (less : b.cls < n)
    (taking : Taken s heap b taken kept)
    : extents (b :: kept.blocks) = taken.gMem.allocSize.toNat := by
  have all := inv.bound
  cases taking with
  | listed first =>
      rw [extents_perm (Heap.blocks_unlink first (by omega))]
      exact counted.total
  | carved empty room addr =>
      have size := inv.size b.cls (by omega)
      rw [if_pos less] at size
      have sum := inv.allocSize_add (i := b.cls) (by omega)
      have small := (blockSize_bounds b.cls (by omega)).2
      have fits := inv.memSize
      have below := inv.room
      have total := counted.total
      unfold MemControl.HasRoom at room
      rw [size, sum] at room
      rw [extents_cons, total]
      simp only [Process.carve, size, BitVec.toNat_add, BitVec.toNat_ofNat, Block.extent, Block.size]
      unfold sizeofMemBlock at *
      omega

/-- Every new block is counted under its size. -/
theorem Taken.blockCnt (inv : Inv n s heap) (counted : Counted s heap) (less : b.cls < n)
    (taking : Taken s heap b taken kept) (bound : i < vosMemNBlockSizes)
    : (taken.gMem.memCnt.blockCnt i).toNat = countOf i (b :: kept.blocks) := by
  have all := inv.bound
  have before := counted.blockCnt i bound
  cases taking with
  | listed first =>
      rw [countOf_perm (Heap.blocks_unlink first (by omega))]
      exact before
  | carved empty room addr =>
      have few : countOf i heap.blocks ≤ s.gMem.memSize.toNat := by
        have length : countOf i heap.blocks ≤ heap.blocks.length := List.countP_le_length
        have total := counted.total
        have extents := length_le_extents heap.blocks
        have room := inv.room
        omega
      have fits := inv.memSize
      by_cases same : b.cls = i
      · subst same
        have more : countOf b.cls (b :: heap.blocks) = countOf b.cls heap.blocks + 1 := by
          simp [countOf]
        rw [more]
        simp only [Process.carve, Function.update_self]
        rw [BitVec.toNat_add, before, one, Nat.mod_eq_of_lt]
        omega
      · have other : i ≠ b.cls := fun eq => same eq.symm
        simpa [Process.carve, countOf, List.countP_cons, other, same] using before

/-- The other counters change only afterwards. -/
theorem Taken.keeps (taking : Taken s heap b taken kept)
    : taken.gMem.memCnt.freeSize = s.gMem.memCnt.freeSize
      ∧ taken.gMem.memCnt.allocCnt = s.gMem.memCnt.allocCnt
      ∧ taken.gMem.memSize = s.gMem.memSize := by
  cases taking <;> exact ⟨rfl, rfl, rfl⟩

namespace Counted

/-- The counters of a block that is handed out. -/
theorem handOut_taken (counted : Counted s heap) (inv : Inv n s heap) (less : b.cls < n)
    (taking : Taken s heap b taken kept)
    : Counted (taken.handOut b.addr (blockSize b.cls)).2 (kept.add b) := by
  have all := inv.bound
  have total := taking.total inv counted less
  have blockCnt : ∀ i < vosMemNBlockSizes,
      (taken.gMem.memCnt.blockCnt i).toNat = countOf i (b :: kept.blocks) :=
    fun i bound => taking.blockCnt inv counted less bound
  have after := inv.handOut_taken less taking
  have room := after.room
  have fits := after.memSize
  have live : extents (b :: kept.live) ≤ extents (b :: kept.blocks) :=
    extents_live_le (kept.add b)
  have same : kept.live = heap.live := by cases taking <;> rfl
  have length := length_le_extents heap.live
  have freeSize := counted.freeSize
  have allocCnt := counted.allocCnt
  obtain ⟨freeSize_eq, allocCnt_eq, memSize_eq⟩ := taking.keeps
  change taken.gMem.allocSize.toNat ≤ taken.gMem.memSize.toNat at room
  change taken.gMem.memSize.toNat + 131072 < 2 ^ 32 at fits
  rw [memSize_eq] at room fits
  rw [same, extents_cons] at live
  exact {
    total := total
    freeSize := by
      change (taken.gMem.memCnt.freeSize - _).toNat + extents (b :: kept.live)
        = taken.gMem.memSize.toNat
      rw [freeSize_eq, memSize_eq, same, extents_cons, BitVec.toNat_sub, Block.toNat_extent (by omega)]
      omega
    minFreeSize := by
      simp only [Process.handOut]
      split
      · exact le_rfl
      · exact BitVec.not_lt.mp ‹_›
    allocCnt := by
      change (taken.gMem.memCnt.allocCnt + 1).toNat = (b :: kept.live).length
      rw [allocCnt_eq, same, List.length_cons, BitVec.toNat_add, allocCnt, one]
      omega
    blockCnt := blockCnt }

/-- The counters of a block that comes back. -/
theorem giveBack (counted : Counted s heap) (inv : Inv n s heap) (live : b ∈ heap.live)
    : Counted (s.giveBack b.cls b.addr) (heap.release b) := by
  have all := inv.bound
  have less := inv.cls b live
  have perm := Heap.blocks_release live (by omega)
  have split := List.perm_cons_erase live
  have sum := extents_perm split
  rw [extents_cons] at sum
  have length := split.length_eq
  rw [List.length_cons] at length
  have size := inv.sizeOf_live live
  have freeSize := counted.freeSize
  have minFreeSize := counted.minFreeSize
  have allocCnt := counted.allocCnt
  have fits := inv.memSize
  have more : (s.giveBack b.cls b.addr).gMem.memCnt.freeSize.toNat
      = s.gMem.memCnt.freeSize.toNat + b.extent := by
    simp only [Process.giveBack]
    rw [size, BitVec.toNat_add, Block.toNat_extent (by omega)]
    omega
  exact {
    total := (extents_perm perm).trans counted.total
    freeSize := by
      rw [more]
      change _ + extents (heap.live.erase b) = s.gMem.memSize.toNat
      omega
    minFreeSize := by
      rw [more]
      exact minFreeSize.trans (Nat.le_add_right _ _)
    allocCnt := by
      change (s.gMem.memCnt.allocCnt - 1).toNat = (heap.live.erase b).length
      rw [BitVec.toNat_sub, allocCnt, one]
      omega
    blockCnt := fun i bound => (counted.blockCnt i bound).trans (countOf_perm perm).symm }

end Counted

/-- The blocks are in the area, and counted. -/
structure Sound (n : Nat) (s : Process) (heap : Heap) : Prop extends Inv n s heap, Counted s heap

namespace Sound

theorem countAllocErr (sound : Sound n s heap) : Sound n s.countAllocErr heap := { sound with }

theorem countFreeErr (sound : Sound n s heap) : Sound n s.countFreeErr heap := { sound with }

theorem handOut_taken (sound : Sound n s heap) (less : b.cls < n)
    (taking : Taken s heap b taken kept)
    : Sound n (taken.handOut b.addr (blockSize b.cls)).2 (kept.add b) where
  toInv := sound.toInv.handOut_taken less taking
  toCounted := sound.toCounted.handOut_taken sound.toInv less taking

theorem giveBack (sound : Sound n s heap) (live : b ∈ heap.live)
    : Sound n (s.giveBack b.cls b.addr) (heap.release b) where
  toInv := sound.toInv.giveBack live
  toCounted := sound.toCounted.giveBack sound.toInv live

end Sound

end TsnTrdp.Vos
