import TsnTrdp.Lib.Trace
import TsnTrdp.Vos.MemorySafety

/-! What `vos_memCount` reports after any run, and which requests the memory can answer. -/

namespace TsnTrdp.Vos

open TsnTrdp.Memory TsnTrdp.Chains TsnTrdp.Run

/-- The request is answered with `NULL`. -/
def requestFails : Step (Process × Account) Use → Bool
  | ⟨before, .alloc env size, _⟩ => (vosMemAlloc env before.1 size).1 = 0
  | _ => false

/-- The call gives no block back: the mutex is not there, or nobody holds the block. -/
def freeFails : Step (Process × Account) Use → Bool
  | ⟨before, .free env p, _⟩ => env.lock = false || before.2.held.all (·.pointer ≠ p)
  | _ => false

/-- The free memory after a step. -/
def freeAfter (step : Step (Process × Account) Use) : Nat :=
  step.after.1.gMem.memCnt.freeSize.toNat

/-- The size in the header of a block that is held. -/
def headerSize (state : Process × Account) (block : Private) : U32 :=
  sizeOf state.1.mem (block.pointer - sizeofMemBlock)

/-- How many blocks of the `i`th size are held. -/
def heldOf (i : Nat) (state : Process × Account) : Nat :=
  state.2.held.countP fun block => headerSize state block = blockSize i

variable {s : Process} {heap heap' : Heap} {b c : Block} {account : Account} {block : Private}
  {env : Env} {state state' : Process × Account} {u : Use} {i : Nat}

-----------------------------------------------------------------------------------------
-- One step
-----------------------------------------------------------------------------------------

namespace Outcome

theorem memSize (outcome : Outcome heap s account u state' heap')
    : state'.1.gMem.memSize = s.gMem.memSize := by
  cases outcome with
  | refused why null => rfl
  | handed less fits taking pointer => exact taking.keeps.2.2
  | notFreed why => rfl
  | freed lock live => rfl
  | stored member below => rfl

/-- The least free memory so far. -/
theorem minFreeSize (outcome : Outcome heap s account u state' heap')
    (before : Agrees heap (s, account))
    : state'.1.gMem.memCnt.minFreeSize.toNat
      = min s.gMem.memCnt.minFreeSize.toNat state'.1.gMem.memCnt.freeSize.toNat := by
  have least := before.sound.minFreeSize
  have after := (outcome.agrees before).sound.minFreeSize
  cases outcome with
  | refused why null => exact (Nat.min_eq_left least).symm
  | @handed env size b taken kept less fits taking pointer =>
      have same : taken.gMem.memCnt.minFreeSize = s.gMem.memCnt.minFreeSize := by
        cases taking <;> rfl
      simp only [Process.handOut, same]
      split
      · exact (Nat.min_eq_right (le_of_lt ‹_›)).symm
      · exact (Nat.min_eq_left (not_lt.mp ‹_›)).symm
  | notFreed why => exact (Nat.min_eq_left least).symm
  | freed lock live => exact (Nat.min_eq_left after).symm
  | stored member below => exact (Nat.min_eq_left least).symm

/-- The errors of requests. -/
theorem allocErrCnt (outcome : Outcome heap s account u state' heap')
    : state'.1.gMem.memCnt.allocErrCnt
      = s.gMem.memCnt.allocErrCnt
        + BitVec.ofNat 32 (requestFails ⟨(s, account), u, state'⟩).toNat := by
  cases outcome with
  | refused why null => simp [requestFails, null, Process.countAllocErr]
  | @handed env size b taken kept less fits taking pointer =>
      have same : taken.gMem.memCnt.allocErrCnt = s.gMem.memCnt.allocErrCnt := by
        cases taking <;> rfl
      have real : b.data ≠ 0 := by
        unfold Block.data sizeofMemBlock
        omega
      simp [requestFails, pointer, real, Process.handOut, same]
  | notFreed why => simp [requestFails, Process.countFreeErr]
  | freed lock live => simp [requestFails, Process.giveBack]
  | stored member below => simp [requestFails]

/-- The errors of frees. -/
theorem freeErrCnt (outcome : Outcome heap s account u state' heap')
    (before : Agrees heap (s, account))
    : state'.1.gMem.memCnt.freeErrCnt
      = s.gMem.memCnt.freeErrCnt
        + BitVec.ofNat 32 (freeFails ⟨(s, account), u, state'⟩).toNat := by
  cases outcome with
  | refused why null => simp [freeFails, Process.countAllocErr]
  | @handed env size b taken kept less fits taking pointer =>
      have same : taken.gMem.memCnt.freeErrCnt = s.gMem.memCnt.freeErrCnt := by
        cases taking <;> rfl
      simp [freeFails, Process.handOut, same]
  | @notFreed env p why =>
      have fails : freeFails ⟨(s, account), .free env p, (s.countFreeErr, account)⟩ = true := by
        simpa [freeFails] using why
      rw [fails]
      rfl
  | @freed env b lock live =>
      obtain ⟨block, member, same⟩ := List.mem_map.mp
        (before.held.subset (List.mem_map_of_mem (f := Block.data) live))
      have frees : ∀ after, freeFails ⟨(s, account), .free env b.data, after⟩ = false := by
        intro after
        simp only [freeFails, lock, Bool.or_eq_false_iff, List.all_eq_false]
        exact ⟨rfl, block, member, by simpa using same⟩
      simp [frees, Process.giveBack]
  | stored member below => simp [freeFails]

end Outcome

/-- The blocks that are held, by the sizes in their headers. -/
theorem heldOf_eq (agrees : Agrees heap state) (bound : i < vosMemNBlockSizes)
    : heldOf i state = countOf i heap.live := by
  have by_pointer : heldOf i state = (state.2.held.map (·.pointer)).countP
      fun p => sizeOf state.1.mem (p - sizeofMemBlock) = blockSize i := by
    rw [List.countP_map]
    rfl
  rw [by_pointer, ← agrees.held.countP_eq, List.countP_map]
  refine List.countP_congr fun b live => ?_
  have less := agrees.sound.cls b live
  have header := agrees.sound.toInv.sizeOf_live live
  have addr : b.data - sizeofMemBlock = b.addr := Nat.add_sub_cancel _ _
  simp only [Function.comp_apply, addr, header, decide_eq_true_eq]
  refine ⟨fun same => ?_, fun same => same ▸ rfl⟩
  have sizes := congrArg BitVec.toNat same
  rcases lt_trichotomy b.cls i with below | eq | above
  · exact absurd sizes (blockSize_lt i bound _ below).ne
  · exact eq
  · exact absurd sizes (blockSize_lt _ less _ above).ne'

/-- The bytes of the blocks that are held, by the sizes in their headers. -/
theorem held_extents (agrees : Agrees heap state)
    : (state.2.held.map fun block => sizeofMemBlock + (headerSize state block).toNat).sum
      = extents heap.live := by
  have by_pointer : (state.2.held.map fun block => sizeofMemBlock + (headerSize state block).toNat)
      = (state.2.held.map (·.pointer)).map
        fun p => sizeofMemBlock + (sizeOf state.1.mem (p - sizeofMemBlock)).toNat := by
    rw [List.map_map]
    rfl
  rw [by_pointer, ← (agrees.held.map _).sum_eq, List.map_map, extents]
  refine congrArg List.sum (List.map_congr_left fun b live => ?_)
  have header := agrees.sound.toInv.sizeOf_live live
  have addr : b.data - sizeofMemBlock = b.addr := Nat.add_sub_cancel _ _
  rw [Function.comp_apply, addr, header]
  rfl

theorem countOf_live_le (heap : Heap) (i : Nat) : countOf i heap.live ≤ countOf i heap.blocks := by
  simp [countOf, Heap.blocks]

/-- Where the list of a size is empty, all blocks of the size are handed out. -/
theorem countOf_of_empty {n : Nat} (inv : Inv n s heap) (empty : heap.free i = [])
    : countOf i heap.blocks = countOf i heap.live := by
  have none_free : countOf i (entries vosMemNBlockSizes heap.free) = 0 := by
    refine List.countP_eq_zero.mpr fun b member => ?_
    obtain ⟨j, -, listed⟩ := mem_entries.mp member
    have cls := (inv.placed j b listed).1
    simp only [decide_eq_true_eq]
    rintro same
    rw [← cls, same, empty] at listed
    cases listed
  have split : countOf i heap.blocks
      = countOf i heap.live + countOf i (entries vosMemNBlockSizes heap.free) := List.countP_append
  rw [split, none_free, Nat.add_zero]

/-- Blocks of a size are made only where all that there are have been handed out. -/
theorem Outcome.blockCnt (outcome : Outcome heap s account u state' heap')
    (before : Agrees heap (s, account)) (bound : i < vosMemNBlockSizes)
    : (state'.1.gMem.memCnt.blockCnt i).toNat
      = max (s.gMem.memCnt.blockCnt i).toNat (heldOf i state') := by
  have after := outcome.agrees before
  rw [heldOf_eq after bound, after.sound.blockCnt i bound, before.sound.blockCnt i bound]
  have live := countOf_live_le heap' i
  have same : countOf i heap'.blocks = countOf i heap.blocks
      → countOf i heap'.blocks = max (countOf i heap.blocks) (countOf i heap'.live) := by
    intro eq
    omega
  cases outcome with
  | refused why null => exact same rfl
  | @handed env size b taken kept less fits taking pointer =>
      cases taking with
      | listed first => exact same (countOf_perm (Heap.blocks_unlink first less))
      | carved empty room addr =>
          by_cases here : b.cls = i
          · subst here
            have all := countOf_of_empty before.sound.toInv empty
            have blocks : countOf b.cls (heap.add b).blocks = countOf b.cls heap.blocks + 1 := by
              simp [countOf]
            have held : countOf b.cls (heap.add b).live = countOf b.cls heap.live + 1 := by
              simp [countOf, Heap.add]
            omega
          · exact same (by simp [countOf, here])
  | notFreed why => exact same rfl
  | freed lock member =>
      exact same (countOf_perm (Heap.blocks_release member (before.sound.cls _ member)))
  | stored member below => exact same rfl

-----------------------------------------------------------------------------------------
-- Runs
-----------------------------------------------------------------------------------------

variable {pMemoryArea : Nat} {size : U32} {fragMem : Option (Nat → U32)} {uses : List Use}

/-- What one use does, in a state that agrees with its account. -/
theorem use_step (state : Process × Account) (u : Use) (agrees : ∃ heap, Agrees heap state)
    (fits : UseFits state u)
    : ∃ heap heap', Agrees heap (state.1, state.2)
        ∧ Outcome heap state.1 state.2 u (use state u) heap' := by
  obtain ⟨heap, agrees⟩ := agrees
  obtain ⟨heap', outcome⟩ := use_outcome agrees fits
  exact ⟨heap, heap', agrees, outcome⟩

theorem memSize_run (agrees : ∃ heap, Agrees heap state) (good : Along use UseFits state uses)
    : (run use state uses).1.gMem.memSize = state.1.gMem.memSize := by
  refine (Along.invariant (fun later u
    (inv : (∃ heap, Agrees heap later) ∧ later.1.gMem.memSize = state.1.gMem.memSize) fits => ?_)
    ⟨agrees, rfl⟩ good).2
  obtain ⟨heap, heap', -, outcome⟩ := use_step later u inv.1 fits
  exact ⟨use_agrees later inv.1 fits, outcome.memSize.trans inv.2⟩

theorem minFreeSize_run (agrees : ∃ heap, Agrees heap state) (good : Along use UseFits state uses)
    : (run use state uses).1.gMem.memCnt.minFreeSize.toNat
      = ((steps use state uses).map freeAfter).foldl min state.1.gMem.memCnt.minFreeSize.toNat :=
  register_run (fun state => state.1.gMem.memCnt.minFreeSize.toNat) freeAfter min
    (fun state _ => use_agrees state)
    (fun state u agrees fits => by
      obtain ⟨heap, heap', before, outcome⟩ := use_step state u agrees fits
      exact outcome.minFreeSize before)
    agrees good

theorem allocErrCnt_run (agrees : ∃ heap, Agrees heap state) (good : Along use UseFits state uses)
    : (run use state uses).1.gMem.memCnt.allocErrCnt
      = state.1.gMem.memCnt.allocErrCnt
        + BitVec.ofNat 32 ((steps use state uses).countP requestFails) :=
  counter_run (fun state => state.1.gMem.memCnt.allocErrCnt) requestFails
    (fun state _ => use_agrees state)
    (fun state u agrees fits => by
      obtain ⟨heap, heap', -, outcome⟩ := use_step state u agrees fits
      exact outcome.allocErrCnt)
    agrees good

theorem freeErrCnt_run (agrees : ∃ heap, Agrees heap state) (good : Along use UseFits state uses)
    : (run use state uses).1.gMem.memCnt.freeErrCnt
      = state.1.gMem.memCnt.freeErrCnt
        + BitVec.ofNat 32 ((steps use state uses).countP freeFails) :=
  counter_run (fun state => state.1.gMem.memCnt.freeErrCnt) freeFails
    (fun state _ => use_agrees state)
    (fun state u agrees fits => by
      obtain ⟨heap, heap', before, outcome⟩ := use_step state u agrees fits
      exact outcome.freeErrCnt before)
    agrees good

theorem blockCnt_run (agrees : ∃ heap, Agrees heap state) (good : Along use UseFits state uses)
    (bound : i < vosMemNBlockSizes)
    : ((run use state uses).1.gMem.memCnt.blockCnt i).toNat
      = ((steps use state uses).map fun step => heldOf i step.after).foldl max
        (state.1.gMem.memCnt.blockCnt i).toNat :=
  register_run (fun state => (state.1.gMem.memCnt.blockCnt i).toNat)
    (fun step => heldOf i step.after) max (fun state _ => use_agrees state)
    (fun state u agrees fits => by
      obtain ⟨heap, heap', before, outcome⟩ := use_step state u agrees fits
      exact outcome.blockCnt before bound)
    agrees good

/-- `vos_memCount` is exact after every run: the blocks that are held, the memory that they and their
headers leave, the least that was left at any time, and the calls that failed (modulo `2 ^ 32`).
-/
theorem vosMemCount_exact (fits : InitFits env s.gMem pMemoryArea size fragMem)
    (good : Along use UseFits (initial env s pMemoryArea size fragMem) uses)
    : let start := initial env s pMemoryArea size fragMem
      let final := run use start uses
      let count := vosMemCount final.1
      count.allocatedMemory = size
      ∧ count.numAllocBlocks.toNat = final.2.held.length
      ∧ count.freeMemory.toNat
          + (final.2.held.map fun block => sizeofMemBlock + (headerSize final block).toNat).sum
        = size.toNat
      ∧ count.minFree.toNat
        = ((steps use start uses).map freeAfter).foldl min (vosMemCount start.1).minFree.toNat
      ∧ count.numAllocErr = BitVec.ofNat 32 ((steps use start uses).countP requestFails)
      ∧ count.numFreeErr = BitVec.ofNat 32 ((steps use start uses).countP freeFails) := by
  intro start final count
  have ready : Initialised (initial env s pMemoryArea size fragMem).1 size := (vosMemInit_sound fits).2
  have begin_agrees := init_agrees fits
  obtain ⟨heap, agrees⟩ := run_agrees fits good
  have memSize : final.1.gMem.memSize = size := (memSize_run begin_agrees good).trans ready.memSize
  refine ⟨memSize, ?_, ?_, minFreeSize_run begin_agrees good, ?_, ?_⟩
  · have length := agrees.held.length_eq
    simp only [List.length_map] at length
    exact agrees.sound.allocCnt.trans length
  · rw [held_extents agrees, ← memSize]
    exact agrees.sound.freeSize
  · refine (allocErrCnt_run begin_agrees good).trans ?_
    rw [ready.allocErrCnt]
    exact BitVec.zero_add _
  · refine (freeErrCnt_run begin_agrees good).trans ?_
    rw [ready.freeErrCnt]
    exact BitVec.zero_add _

theorem vosMemCount_exact_sixUses
    : let start := initial ⟨true, 0⟩ unused 4096 4096 twoSmall
      let final := run use start sixUses
      let count := vosMemCount final.1
      count.allocatedMemory = 4096
      ∧ count.numAllocBlocks.toNat = final.2.held.length
      ∧ count.freeMemory.toNat
          + (final.2.held.map fun block => sizeofMemBlock + (headerSize final block).toNat).sum
        = (4096 : U32).toNat
      ∧ count.minFree.toNat
        = ((steps use start sixUses).map freeAfter).foldl min (vosMemCount start.1).minFree.toNat
      ∧ count.numAllocErr = BitVec.ofNat 32 ((steps use start sixUses).countP requestFails)
      ∧ count.numFreeErr = BitVec.ofNat 32 ((steps use start sixUses).countP freeFails) :=
  vosMemCount_exact unused_fits sixUses_fit

/-- The area is divided no further than it has to be: after every run there are as many blocks of a
size as were held at once at some time, or as `vos_memInit` allocated ahead.
-/
theorem usedBlockSize_peak (fits : InitFits env s.gMem pMemoryArea size fragMem)
    (good : Along use UseFits (initial env s pMemoryArea size fragMem) uses)
    (bound : i < vosMemNBlockSizes)
    : let start := initial env s pMemoryArea size fragMem
      (((vosMemCount (run use start uses).1).usedBlockSize.getD i 0).toNat
        = ((steps use start uses).map fun step => heldOf i step.after).foldl max
          ((vosMemCount start.1).usedBlockSize.getD i 0).toNat) := by
  intro start
  have used : ∀ s : Process,
      (vosMemCount s).usedBlockSize.getD i 0 = s.gMem.memCnt.blockCnt i := by
    intro s
    simp [vosMemCount, List.getD_eq_getElem?_getD, bound]
  rw [used, used]
  exact blockCnt_run (init_agrees fits) good bound

theorem usedBlockSize_peak_sixUses
    : let start := initial ⟨true, 0⟩ unused 4096 4096 twoSmall
      (((vosMemCount (run use start sixUses).1).usedBlockSize.getD 0 0).toNat
        = ((steps use start sixUses).map fun step => heldOf 0 step.after).foldl max
          ((vosMemCount start.1).usedBlockSize.getD 0 0).toNat) :=
  usedBlockSize_peak unused_fits sixUses_fit (by decide)

/-- A request that fits a block size still does when it is rounded up. -/
theorem adjustSize_le_iff {n : U32} (small : n.toNat + 3 < 2 ^ 32) (bound : i < vosMemNBlockSizes)
    : (adjustSize n).toNat ≤ (blockSize i).toNat ↔ n.toNat ≤ (blockSize i).toNat := by
  have aligned : ∀ i < vosMemNBlockSizes, (blockSize i).toNat % 4 = 0 := by decide
  have whole := aligned i bound
  rw [adjustSize, BitVec.toNat_ofNat]
  omega

/-- The list of a size is empty exactly if all blocks of the size are handed out. -/
theorem free_eq_nil_iff {n : Nat} (inv : Inv n s heap) (bound : i < vosMemNBlockSizes)
    : heap.free i = [] ↔ countOf i heap.blocks = countOf i heap.live := by
  refine ⟨countOf_of_empty inv, fun same => ?_⟩
  have split : countOf i heap.blocks
      = countOf i heap.live + countOf i (entries vosMemNBlockSizes heap.free) := List.countP_append
  have none_free : countOf i (entries vosMemNBlockSizes heap.free) = 0 := by omega
  refine List.eq_nil_iff_forall_not_mem.mpr fun b listed => ?_
  have other := List.countP_eq_zero.mp none_free b (mem_entries.mpr ⟨i, bound, listed⟩)
  simp only [decide_eq_true_eq] at other
  exact other (inv.placed i b listed).1

/-- A request fails only where it has to: after every run `vos_memAlloc` returns `NULL` exactly if
nothing is asked for, the mutex is not there, or every block that is big enough is held and the area
has no room for another one.
-/
theorem vosMemAlloc_null_iff (fits : InitFits env s.gMem pMemoryArea size fragMem)
    (good : Along use UseFits (initial env s pMemoryArea size fragMem) uses) (now : Env) {n : U32}
    (small : n.toNat + 3 < 2 ^ 32)
    : let final := run use (initial env s pMemoryArea size fragMem) uses
      ((vosMemAlloc now final.1 n).1 = 0
        ↔ n = 0 ∨ now.lock = false
          ∨ ∀ i < vosMemNBlockSizes, n.toNat ≤ (blockSize i).toNat
            → heldOf i final = (final.1.gMem.memCnt.blockCnt i).toNat
              ∧ final.1.gMem.memSize.toNat
                ≤ final.1.gMem.allocSize.toNat + (blockSize i).toNat + sizeofMemBlock) := by
  intro final
  obtain ⟨heap, agrees⟩ := run_agrees fits good
  have inv := agrees.sound.toInv
  have all_held : ∀ i < vosMemNBlockSizes,
      heap.free i = [] ↔ heldOf i final = (final.1.gMem.memCnt.blockCnt i).toNat := by
    intro i bound
    rw [free_eq_nil_iff inv bound, heldOf_eq agrees bound, agrees.sound.blockCnt i bound, eq_comm]
  have no_room : ∀ i < vosMemNBlockSizes, ¬ final.1.gMem.HasRoom i
      ↔ final.1.gMem.memSize.toNat
        ≤ final.1.gMem.allocSize.toNat + (blockSize i).toNat + sizeofMemBlock := by
    intro i bound
    have size := inv.size i bound
    rw [if_pos bound] at size
    unfold MemControl.HasRoom
    rw [size, inv.allocSize_add bound, not_lt]
  rcases inv.vosMemAlloc_cases (by decide) now n with ⟨why, eq⟩
      | ⟨zero, lock, b, taken, kept, less, big, taking, eq⟩
  · refine iff_of_true (by rw [eq]) (why.imp_right (Or.imp_right fun exhausted i bound le => ?_))
    obtain ⟨empty, full⟩ := exhausted i bound ((adjustSize_le_iff small bound).mpr le)
    exact ⟨(all_held i bound).mp empty, (no_room i bound).mp full⟩
  · refine iff_of_false ?_ ?_
    · rw [eq]
      exact Nat.succ_ne_zero _
    · rintro (none_asked | unlocked | exhausted)
      · exact zero none_asked
      · rw [lock] at unlocked
        cases unlocked
      · obtain ⟨held, full⟩ := exhausted b.cls less ((adjustSize_le_iff small less).mp big)
        have empty := (all_held b.cls less).mpr held
        cases taking with
        | listed first =>
            rw [first] at empty
            cases empty
        | carved _ room addr => exact (no_room b.cls less).mpr full room

theorem vosMemAlloc_null_iff_sixUses
    : let final := run use (initial ⟨true, 0⟩ unused 4096 4096 twoSmall) sixUses
      ((vosMemAlloc ⟨true, 0⟩ final.1 4000).1 = 0
        ↔ (4000 : U32) = 0 ∨ (⟨true, 0⟩ : Env).lock = false
          ∨ ∀ i < vosMemNBlockSizes, (4000 : U32).toNat ≤ (blockSize i).toNat
            → heldOf i final = (final.1.gMem.memCnt.blockCnt i).toNat
              ∧ final.1.gMem.memSize.toNat
                ≤ final.1.gMem.allocSize.toNat + (blockSize i).toNat + sizeofMemBlock) :=
  vosMemAlloc_null_iff unused_fits sixUses_fit ⟨true, 0⟩ (by decide)

end TsnTrdp.Vos
